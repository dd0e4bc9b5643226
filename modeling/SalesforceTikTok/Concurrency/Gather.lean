import SalesforceTikTok.Concurrency.Contract

/-!
# Gathered results

`Promise.all(entries.map(task))`: one call for every entry, all of them started
before the first answer, each adding its result to a shared collection when it
ends. The collection is in order of completion; which results it holds is read
off the ended calls, whatever that order was.
-/

namespace Concurrency
namespace System

variable {C : Type} {R : C → Type} {ε α β W Ch V E X : Type}
variable {rt : Runtime C R ε W Ch V} {S : System rt α E X}

/-! ## The order of completion -/

variable (S) in
def outcome? (x : X) : Option (Except ε α) :=
  match S.view x with
  | .ended outcome => some outcome
  | .awaits _ _ => none

theorem outcome?_eq_some {x : X} {outcome : Except ε α} :
    S.outcome? x = some outcome ↔ S.view x = .ended outcome := by
  unfold outcome?
  cases S.view x with
  | ended outcome' => simp
  | awaits cmd resume => simp

def moved (c : Config C R ε W Ch E X) : Action E Ch V → Option Nat
  | .start _ => some c.procs.length
  | .resume pid _ => some pid
  | .env _ => none

variable (S) in
/-- The call that ends in the step to `d`, and how it ends. -/
def completion (c : Config C R ε W Ch E X) (a : Action E Ch V) (d : Config C R ε W Ch E X) :
    Option (Nat × Except ε α) :=
  (moved c a).bind fun pid => d.procs[pid]?.bind fun p =>
    (S.outcome? p.state).map fun outcome => (pid, outcome)

variable (S) in
def completions (c : Config C R ε W Ch E X) : List (Action E Ch V) → List (Nat × Except ε α)
  | [] => []
  | a :: rest =>
      match S.step c a with
      | some d => (S.completion c a d).toList ++ completions d rest
      | none => []

theorem completion_eq_some {c d : Config C R ε W Ch E X} {a : Action E Ch V} {pid : Nat}
    {outcome : Except ε α} : S.completion c a d = some (pid, outcome) ↔
      moved c a = some pid ∧ S.Ended d pid outcome := by
  unfold completion Ended
  simp only [Option.bind_eq_some_iff, Option.map_eq_some_iff, outcome?_eq_some, Prod.mk.injEq]
  constructor
  · rintro ⟨_, hm, p, hp, _, hv, rfl, rfl⟩
    exact ⟨hm, p, hp, hv⟩
  · rintro ⟨hm, p, hp, hv⟩
    exact ⟨pid, hm, p, hp, outcome, hv, rfl, rfl⟩

/-- A call stays where it is unless an action starts or answers it. -/
theorem step_unmoved {c d : Config C R ε W Ch E X} {a : Action E Ch V}
    (h : S.step c a = some d) {pid : Nat} (other : moved c a ≠ some pid) :
    d.procs[pid]? = c.procs[pid]? := by
  cases a with
  | start entry =>
      obtain ⟨x, w, _, rfl⟩ := step_start h
      have beyond : pid ≠ c.procs.length := fun same => other (by rw [moved, same])
      by_cases old : pid < c.procs.length
      · exact List.getElem?_append_left old
      · have before : c.procs[pid]? = none := List.getElem?_eq_none (by omega)
        rw [before]
        apply List.getElem?_eq_none
        simp only [List.length_append, List.length_singleton]
        omega
  | resume q choice =>
      obtain ⟨p, cmd, resume, reply, w, _, _, _, rfl⟩ := step_resume h
      exact List.getElem?_set_ne fun same => other (by rw [moved, same])
  | env event =>
      obtain ⟨w, _, rfl⟩ := step_env h
      rfl

/-- The call that an action starts or answers had not ended. -/
theorem moved_running {c d : Config C R ε W Ch E X} {a : Action E Ch V}
    (h : S.step c a = some d) {pid : Nat} (here : moved c a = some pid)
    (outcome : Except ε α) : ¬ S.Ended c pid outcome := by
  rintro ⟨p, hp, hv⟩
  cases a with
  | start entry =>
      cases here
      have bound := (List.getElem?_eq_some_iff.mp hp).choose
      omega
  | resume q choice =>
      cases here
      exact step_ended h hp outcome hv
  | env event => cases here

theorem Ended.step {c d : Config C R ε W Ch E X} {a : Action E Ch V}
    (h : S.step c a = some d) {pid : Nat} {outcome : Except ε α} (ended : S.Ended c pid outcome) :
    S.Ended d pid outcome := by
  have other : moved c a ≠ some pid := fun here => moved_running h here outcome ended
  obtain ⟨p, hp, hv⟩ := ended
  exact ⟨p, (step_unmoved h other).trans hp, hv⟩

theorem Ended.run {c d : Config C R ε W Ch E X} {actions : List (Action E Ch V)}
    (h : S.run c actions = some d) {pid : Nat} {outcome : Except ε α}
    (ended : S.Ended c pid outcome) : S.Ended d pid outcome :=
  run_invariant (fun c => S.Ended c pid outcome) (fun _ _ _ ended hs => ended.step hs) h ended

theorem completions_cons {c d : Config C R ε W Ch E X} {a : Action E Ch V}
    (h : S.step c a = some d) (rest : List (Action E Ch V)) :
    S.completions c (a :: rest) = (S.completion c a d).toList ++ S.completions d rest := by
  rw [completions, h]

/-- The calls that end along a run are those that have ended after it and had not before. -/
theorem mem_completions {c d : Config C R ε W Ch E X} {actions : List (Action E Ch V)}
    (h : S.run c actions = some d) {pid : Nat} {outcome : Except ε α} :
    (pid, outcome) ∈ S.completions c actions ↔
      S.Ended d pid outcome ∧ ∀ outcome', ¬ S.Ended c pid outcome' := by
  induction actions generalizing c with
  | nil =>
      cases h
      refine iff_of_false List.not_mem_nil ?_
      rintro ⟨ended, running⟩
      exact running outcome ended
  | cons a rest ih =>
      obtain ⟨e, he, hr⟩ := run_cons h
      rw [completions_cons he, List.mem_append, Option.mem_toList,
        completion_eq_some, ih hr]
      constructor
      · rintro (⟨here, ended⟩ | ⟨ended, running⟩)
        · exact ⟨ended.run hr, moved_running he here⟩
        · exact ⟨ended, fun outcome' earlier => running outcome' (earlier.step he)⟩
      · rintro ⟨ended, running⟩
        by_cases now : ∃ outcome', S.Ended e pid outcome'
        · obtain ⟨outcome', early⟩ := now
          -- the call ends in the first step, and so it is this step that moves it
          obtain ⟨p, hp, hv⟩ := early
          have same : S.Ended d pid outcome' := Ended.run hr ⟨p, hp, hv⟩
          obtain ⟨q, hq, hvq⟩ := ended
          have outcomes := (same.view_eq hq).symm.trans hvq
          cases outcomes
          by_cases here : moved c a = some pid
          · exact .inl ⟨here, p, hp, hv⟩
          · exact absurd ⟨p, (step_unmoved he here).symm.trans hp, hv⟩ (running outcome)
        · exact .inr ⟨ended, fun outcome' early => now ⟨outcome', early⟩⟩

theorem completions_nodup {c d : Config C R ε W Ch E X} {actions : List (Action E Ch V)}
    (h : S.run c actions = some d) : ((S.completions c actions).map Prod.fst).Nodup := by
  induction actions generalizing c with
  | nil => exact List.nodup_nil
  | cons a rest ih =>
      obtain ⟨e, he, hr⟩ := run_cons h
      rw [completions_cons he]
      cases now : S.completion c a e with
      | none => exact ih hr
      | some first =>
          obtain ⟨pid, outcome⟩ := first
          have ended := (completion_eq_some.mp now).2
          refine List.nodup_cons.mpr ⟨fun again => ?_, ih hr⟩
          obtain ⟨⟨_, outcome'⟩, later, rfl⟩ := List.mem_map.mp again
          exact ((mem_completions hr).mp later).2 outcome ended

/-! ## All started at once -/

variable (S) in
/-- The calls are started one for every entry, and answered until all have ended. -/
structure Gathers (w : W) (entries : List E) (schedule : List (Action E Ch V))
    (c : Config C R ε W Ch E X) : Prop where
  run : S.run (.initial w) (entries.map .start ++ schedule) = some c
  answers : ∀ a ∈ schedule, ∀ entry, a ≠ .start entry
  all : S.idle c = true

variable (S) in
def gathered (adds : α → Option β) (w : W) (entries : List E)
    (schedule : List (Action E Ch V)) : List β :=
  (S.completions (.initial w) (entries.map .start ++ schedule)).filterMap fun ended =>
    ended.2.toOption.bind adds

theorem step_entries {c d : Config C R ε W Ch E X} {a : Action E Ch V}
    (h : S.step c a = some d) (answer : ∀ entry, a ≠ .start entry) : d.entries = c.entries := by
  cases a with
  | start entry => exact absurd rfl (answer entry)
  | resume pid choice =>
      obtain ⟨p, cmd, resume, reply, w, hp, _, _, rfl⟩ := step_resume h
      exact entries_answered hp _
  | env event =>
      obtain ⟨w, _, rfl⟩ := step_env h
      rfl

theorem run_entries {c d : Config C R ε W Ch E X} {actions : List (Action E Ch V)}
    (h : S.run c actions = some d) (answers : ∀ a ∈ actions, ∀ entry, a ≠ .start entry) :
    d.entries = c.entries := by
  induction actions generalizing c with
  | nil => cases h; rfl
  | cons a rest ih =>
      obtain ⟨e, he, hr⟩ := run_cons h
      exact (ih hr fun b hb => answers b (List.mem_cons_of_mem a hb)).trans
        (step_entries he (answers a List.mem_cons_self))

theorem run_starts {c d : Config C R ε W Ch E X} {entries : List E}
    (h : S.run c (entries.map .start) = some d) : d.entries = c.entries ++ entries := by
  induction entries generalizing c with
  | nil => cases h; simp
  | cons entry rest ih =>
      obtain ⟨e, he, hr⟩ := run_cons h
      obtain ⟨x, w, _, rfl⟩ := step_start he
      rw [ih hr]
      simp [Config.entries]

namespace Gathers

variable {w : W} {entries : List E} {schedule : List (Action E Ch V)}
  {c : Config C R ε W Ch E X}

theorem split (h : S.Gathers w entries schedule c) :
    ∃ b, S.run (.initial w) (entries.map .start) = some b ∧ b.entries = entries ∧
      S.run b schedule = some c := by
  have whole := h.run
  rw [run_append] at whole
  obtain ⟨b, started, answered⟩ := Option.bind_eq_some_iff.mp whole
  exact ⟨b, started, by rw [run_starts started]; rfl, answered⟩

theorem entries_eq (h : S.Gathers w entries schedule c) : c.entries = entries := by
  obtain ⟨b, _, started, answered⟩ := h.split
  rw [run_entries answered h.answers, started]

theorem ended (h : S.Gathers w entries schedule c) {pid : Nat} {p : Proc E X}
    (hp : c.procs[pid]? = some p) : ∃ outcome, S.Ended c pid outcome := by
  cases hv : S.view p.state with
  | ended outcome => exact ⟨outcome, p, hp, hv⟩
  | awaits cmd resume => exact absurd ⟨p, cmd, resume, hp, hv⟩ (not_inFlight_of_idle h.all pid)

theorem mem_of_proc (h : S.Gathers w entries schedule c) {pid : Nat} {p : Proc E X}
    (hp : c.procs[pid]? = some p) : p.entry ∈ entries := by
  rw [← h.entries_eq]
  exact List.mem_map_of_mem (List.mem_of_getElem? hp)

theorem mem_gathered (h : S.Gathers w entries schedule c) {adds : α → Option β} {b : β} :
    b ∈ S.gathered adds w entries schedule ↔
      ∃ pid value, S.Ended c pid (.ok value) ∧ adds value = some b := by
  unfold gathered
  rw [List.mem_filterMap]
  have running (pid : Nat) (outcome : Except ε α) :
      ¬ S.Ended (.initial w : Config C R ε W Ch E X) pid outcome := by
    rintro ⟨p, hp, _⟩
    simp [Config.initial] at hp
  constructor
  · rintro ⟨⟨pid, outcome⟩, completed, added⟩
    cases outcome with
    | error error => cases added
    | ok value => exact ⟨pid, value, ((mem_completions h.run).mp completed).1, added⟩
  · rintro ⟨pid, value, ended, added⟩
    exact ⟨(pid, .ok value), (mem_completions h.run).mpr ⟨ended, running pid⟩, added⟩

/-- Distinct entries whose results name them are gathered without repetition. -/
theorem gathered_nodup (h : S.Gathers w entries schedule c) (distinct : entries.Nodup)
    {adds : α → Option β} (name : β → E)
    (named : ∀ {pid : Nat} {p : Proc E X} {value : α} {b : β}, c.procs[pid]? = some p →
      S.Ended c pid (.ok value) → adds value = some b → name b = p.entry) :
    (S.gathered adds w entries schedule).Nodup := by
  unfold gathered
  have once := completions_nodup h.run
  rw [List.Nodup, List.pairwise_map] at once
  refine (once.imp_of_mem ?_).filterMap _ (fun _ _ different => different)
  rintro ⟨pid, outcome⟩ ⟨pid', outcome'⟩ here here' different b added b' added' rfl
  apply different
  obtain ⟨p, hp, hv⟩ := ((mem_completions h.run).mp here).1
  obtain ⟨p', hp', hv'⟩ := ((mem_completions h.run).mp here').1
  cases outcome with
  | error e => cases added
  | ok value =>
      cases outcome' with
      | error e => cases added'
      | ok value' =>
          have first := named hp ⟨p, hp, hv⟩ added
          have second := named hp' ⟨p', hp', hv'⟩ added'
          rw [← h.entries_eq] at distinct
          exact entry_unique distinct hp hp' (first.symm.trans second)

end Gathers
end System
end Concurrency
