import SalesforceTikTok.Concurrency.Simulation

/-!
# Deduplication windows

A window lets a key pass once and then answers that it is a duplicate until its width has
gone by. An answer can be lost after it had its effect. The state is the time at which
each key passed last.
-/

namespace Storage.Window

open Concurrency

inductive Answer where
  | novel
  | duplicate
  /-- The key passed, and nobody was told. -/
  | lost
  deriving DecidableEq, Repr

structure Mark (κ : Type) where
  key : κ
  time : Int
  answer : Answer
  deriving DecidableEq, Repr

abbrev State (κ : Type) : Type := κ → Option Int

variable {κ : Type} {width : Int}

/-- The key has not passed within the width before `time`. -/
def Free (width : Int) (last : State κ) (key : κ) (time : Int) : Prop :=
  ∀ passed, last key = some passed → passed + width ≤ time

/-- The moves of a window of this width. Nothing passes one without width. -/
inductive Move [DecidableEq κ] (width : Int) (last : State κ) : Mark κ → State κ → Prop where
  | passes {key : κ} {time : Int} {answer : Answer} (wide : 0 < width)
      (free : Free width last key time) (passed : answer ≠ .duplicate) :
      Move width last ⟨key, time, answer⟩ (Function.update last key (some time))
  | stays {key : κ} {time : Int} (held : ¬ Free width last key time) :
      Move width last ⟨key, time, .duplicate⟩ last

structure Recorded (marks : List (Mark κ)) (last : State κ) : Prop where
  origin : ∀ key passed, last key = some passed →
    ∃ m ∈ marks, m.key = key ∧ m.time = passed ∧ m.answer ≠ .duplicate
  latest : ∀ m ∈ marks, m.answer ≠ .duplicate → ∃ passed, last m.key = some passed ∧ m.time ≤ passed

theorem Recorded.empty : Recorded [] (fun _ : κ => none) where
  origin _ _ found := by cases found
  latest _ mem := by cases mem

theorem Recorded.move [DecidableEq κ] {marks : List (Mark κ)} {last next : State κ}
    {m : Mark κ} (h : Recorded marks last) (moved : Move width last m next) :
    Recorded (marks ++ [m]) next := by
  cases moved with
  | stays held =>
      refine ⟨fun key passed found => ?_, fun m' mem passes => ?_⟩
      · obtain ⟨m', mem, same⟩ := h.origin key passed found
        exact ⟨m', List.mem_append_left _ mem, same⟩
      · obtain mem | rfl := by simpa using mem
        · exact h.latest m' mem passes
        · exact absurd rfl passes
  | @passes key time answer wide free passed =>
      refine ⟨fun key' passed' found => ?_, fun m' mem passes => ?_⟩
      · by_cases same : key' = key
        · subst same
          rw [Function.update_self] at found
          exact ⟨⟨key', time, answer⟩, by simp, rfl, Option.some.inj found, passed⟩
        · rw [Function.update_of_ne same] at found
          obtain ⟨m', mem, same⟩ := h.origin key' passed' found
          exact ⟨m', List.mem_append_left _ mem, same⟩
      · obtain mem | rfl := by simpa using mem
        · obtain ⟨before, found, order⟩ := h.latest m' mem passes
          by_cases same : m'.key = key
          · refine ⟨time, by rw [same, Function.update_self], ?_⟩
            rw [same] at found
            have apart := free before found
            omega
          · exact ⟨before, by rw [Function.update_of_ne same]; exact found, order⟩
        · exact ⟨time, Function.update_self .., Int.le_refl time⟩

/-- Each key passes once in a width, and what is told a duplicate has passed within it. -/
structure Windowed (width : Int) (marks : List (Mark κ)) : Prop where
  apart : ∀ before m after, marks = before ++ m :: after → m.answer ≠ .duplicate →
    ∀ m' ∈ before, m'.key = m.key → m'.answer ≠ .duplicate → m'.time + width ≤ m.time
  earlier : ∀ before m after, marks = before ++ m :: after → m.answer = .duplicate →
    ∃ m' ∈ before, m'.key = m.key ∧ m'.answer ≠ .duplicate ∧ m.time < m'.time + width

theorem windowed [DecidableEq κ] {marks : List (Mark κ)} {last : State κ}
    (path : Path (Move width) (fun _ => none) marks last) : Windowed width marks := by
  -- the state before a mark, with what the marks before it say about it
  have reached {before : List (Mark κ)} {m : Mark κ} {after : List (Mark κ)}
      (split : marks = before ++ m :: after) :
      ∃ last next, Recorded before last ∧ Move width last m next := by
    subst split
    obtain ⟨last, next, path, moved⟩ := path.split
    have recorded : Recorded ([] ++ before) last :=
      path.invariant (fun _ _ _ _ h moved => h.move moved) .empty
    exact ⟨last, next, by simpa using recorded, moved⟩
  refine ⟨fun before m after split passes m' mem same passes' => ?_,
    fun before m after split told => ?_⟩
  · obtain ⟨last, next, recorded, moved⟩ := reached split
    obtain ⟨passed, found, order⟩ := recorded.latest m' mem passes'
    cases moved with
    | stays => exact absurd rfl passes
    | passes _ free =>
        have apart := free passed (by rw [← found, same])
        dsimp only
        omega
  · obtain ⟨last, next, recorded, moved⟩ := reached split
    cases moved with
    | passes _ _ passed => exact absurd told passed
    | @stays key time held =>
        simp only [Free, not_forall] at held
        obtain ⟨passed, found, within⟩ := held
        obtain ⟨m', mem, same, rfl, passes⟩ := recorded.origin key passed found
        exact ⟨m', mem, same, passes, by dsimp only; omega⟩

end Storage.Window
