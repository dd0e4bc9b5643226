import Mathlib.Data.List.Nodup
import SalesforceTikTok.Concurrency.Contract

/-!
# Calls on separate parts of the world

Calls that each keep to a part of the world of their own do not disturb each
other. What such a call sees of a run is its experience: how its commands were
answered, and what it could observe of the world when they were. Carried out alone
with this experience, its program comes to where the call is (`run_alone`); so
neither the order in which the calls were answered nor what became of the others
makes a difference to it.
-/

namespace Concurrency

variable {C : Type} {R : C → Type} {ε α W Ch V E O X : Type}

/-! ## A program alone -/

namespace Prog

/-- The program with its commands answered in this order, each in the world as `place` makes
it for the observation at that time. -/
def alone (rt : Runtime C R ε W Ch V) (place : O → W → W) :
    List (Ch × O) → Prog C R ε α → W → Option (Prog C R ε α × W)
  | [], p, w => some (p, w)
  | (choice, seen) :: rest, await cmd resume, w =>
      match rt.exec cmd choice (place seen w) with
      | some (reply, v) => alone rt place rest (resume reply) v
      | none => none
  | _ :: _, done _, _ => none
  | _ :: _, fail _, _ => none

theorem alone_concat {rt : Runtime C R ε W Ch V} {place : O → W → W} {p : Prog C R ε α}
    {answers : List (Ch × O)} {w v u : W} {cmd : C} {resume : Except ε (R cmd) → Prog C R ε α}
    {choice : Ch} {seen : O} {reply : Except ε (R cmd)}
    (h : p.alone rt place answers w = some (.await cmd resume, v))
    (he : rt.exec cmd choice (place seen v) = some (reply, u)) :
    p.alone rt place (answers ++ [(choice, seen)]) w = some (resume reply, u) := by
  induction answers generalizing p w with
  | nil =>
      cases h
      rw [List.nil_append, alone, he]
      rfl
  | cons first rest ih =>
      obtain ⟨choice', seen'⟩ := first
      cases p with
      | done value => cases h
      | fail error => cases h
      | await cmd' resume' =>
          rw [alone] at h
          rw [List.cons_append, alone]
          split at h
          next reply' v' he' =>
            exact ih h
          next => cases h

end Prog

namespace System

variable {rt : Runtime C R ε W Ch V} {S : System rt α E X}

/-! ## What a call sees of a run -/

/-- The answer of this action to call `pid`, and what the world shows. -/
def noticed (observe : W → O) (pid : Nat) (c : Config C R ε W Ch E X) :
    Action E Ch V → Option (Ch × O)
  | .resume q choice => if q = pid then some (choice, observe c.world) else none
  | _ => none

variable (S) in
/-- How the commands of call `pid` are answered along a run, and what the world shows then. -/
def experience (observe : W → O) (pid : Nat) (c : Config C R ε W Ch E X) :
    List (Action E Ch V) → List (Ch × O)
  | [] => []
  | a :: rest =>
      match S.step c a with
      | some d => (noticed observe pid c a).toList ++ experience observe pid d rest
      | none => []

theorem experience_concat (observe : W → O) (pid : Nat) {c d d' : Config C R ε W Ch E X}
    {taken : List (Action E Ch V)} {a : Action E Ch V} (h : S.run c taken = some d)
    (hs : S.step d a = some d') : S.experience observe pid c (taken ++ [a]) =
      S.experience observe pid c taken ++ (noticed observe pid d a).toList := by
  induction taken generalizing c with
  | nil =>
      cases h
      simp [experience, hs]
  | cons first rest ih =>
      obtain ⟨e, he, hr⟩ := run_cons h
      simp only [List.cons_append, experience, he, ih hr, List.append_assoc]

end System

/-! ## Separate calls -/

/-- A command that concerns one entry leaves the others' parts of the world as they are, and
does in its own part what it would do in any world that is alike there. The worlds that can
come about are `sound`. -/
structure Separates (rt : Runtime C R ε W Ch V) (observe : W → O) (place : O → W → W)
    (sound : W → Prop) (can : (cmd : C) → Except ε (R cmd) → Prop) (concerns : E → C → Prop)
    (alike : E → W → W → Prop) : Prop where
  kept : ∀ {cmd choice w reply v}, sound w → rt.exec cmd choice w = some (reply, v) → sound v
  moved : ∀ {event w v}, sound w → rt.env event w = some v → sound v
  possible : ∀ {cmd choice w reply v}, sound w → rt.exec cmd choice w = some (reply, v) →
    can cmd reply
  own : ∀ {e cmd choice w u reply v}, alike e w u → concerns e cmd →
    rt.exec cmd choice w = some (reply, v) →
      ∃ u', rt.exec cmd choice (place (observe w) u) = some (reply, u') ∧ alike e v u'
  other : ∀ {e e' cmd choice w u reply v}, alike e w u → concerns e' cmd → e' ≠ e →
    rt.exec cmd choice w = some (reply, v) → alike e v u
  env : ∀ {e event w u v}, alike e w u → rt.env event w = some v → alike e v u

namespace System

variable {rt : Runtime C R ε W Ch V} {S : System rt α E (Prog C R ε α)}

variable (S) in
/-- Every call keeps to its part, and is where its program comes to alone. -/
structure Apart (observe : W → O) (place : O → W → W) (sound : W → Prop)
    (can : (cmd : C) → Except ε (R cmd) → Prop) (concerns : E → C → Prop)
    (alike : E → W → W → Prop) (program : E → Prog C R ε α) (w : W)
    (taken : List (Action E Ch V)) (d : Config C R ε W Ch E (Prog C R ε α)) : Prop where
  sound : sound d.world
  keeps : ∀ {pid : Nat} {p : Proc E (Prog C R ε α)}, d.procs[pid]? = some p → ∃ history,
    p.state.Meets can (fun _ cmd => concerns p.entry cmd) (fun _ _ => True) history
  fresh : ∀ pid, d.procs.length ≤ pid → S.experience observe pid (.initial w) taken = []
  untouched : ∀ {e u}, e ∉ d.entries → alike e w u → alike e d.world u
  comes : ∀ {pid : Nat} {p : Proc E (Prog C R ε α)}, d.procs[pid]? = some p →
    ∀ u, alike p.entry w u → ∃ u', (program p.entry).alone rt place
      (S.experience observe pid (.initial w) taken) u = some (p.state, u') ∧
        alike p.entry d.world u'

section

variable {observe : W → O} {place : O → W → W} {sound : W → Prop}
  {can : (cmd : C) → Except ε (R cmd) → Prop} {concerns : E → C → Prop}
  {alike : E → W → W → Prop} {program : E → Prog C R ε α} {w : W}
  {taken : List (Action E Ch V)} {d d' : Config C R ε W Ch E (Prog C R ε α)}

theorem Apart.start (h : S.Apart observe place sound can concerns alike program w taken d)
    (contract : ∀ e, (program e).Meets can (fun _ cmd => concerns e cmd) (fun _ _ => True) [])
    (launched : ∀ entry w x v, S.launch entry w = some (x, v) → x = program entry ∧ v = w)
    (hr : S.run (.initial w) taken = some d) {entry : E}
    (hs : S.step d (.start entry) = some d') (distinct : d'.entries.Nodup) :
    S.Apart observe place sound can concerns alike program w (taken ++ [.start entry]) d' := by
  have same (pid : Nat) : S.experience observe pid (.initial w) (taken ++ [.start entry]) =
      S.experience observe pid (.initial w) taken := by
    rw [experience_concat _ _ hr hs]
    exact List.append_nil _
  obtain ⟨x, v, hl, rfl⟩ := step_start hs
  obtain ⟨rfl, rfl⟩ := launched entry d.world x v hl
  have newcomer : entry ∉ d.entries := by
    rw [Config.entries, List.map_append] at distinct
    exact fun listed => (List.disjoint_of_nodup_append distinct) listed (List.mem_singleton_self _)
  constructor
  · exact h.sound
  · intro pid p hp
    obtain old | ⟨_, rfl⟩ := get_started hp
    · exact h.keeps old
    · exact ⟨[], contract entry⟩
  · intro pid beyond
    rw [same]
    apply h.fresh
    simp only [List.length_append, List.length_singleton] at beyond
    omega
  · intro e u absent
    apply h.untouched
    intro listed
    apply absent
    rw [Config.entries, List.map_append]
    exact List.mem_append_left _ listed
  · intro pid p hp u part
    rw [same]
    obtain old | ⟨rfl, rfl⟩ := get_started hp
    · exact h.comes old u part
    · rw [h.fresh _ (Nat.le_refl _)]
      exact ⟨u, rfl, h.untouched newcomer part⟩

theorem Apart.resume (h : S.Apart observe place sound can concerns alike program w taken d)
    (separates : Separates rt observe place sound can concerns alike) (view : S.view = Prog.view)
    (hr : S.run (.initial w) taken = some d) {q : Nat} {choice : Ch}
    (hs : S.step d (.resume q choice) = some d') (distinct : d.entries.Nodup) :
    S.Apart observe place sound can concerns alike program w (taken ++ [.resume q choice]) d' := by
  have longer (pid : Nat) := experience_concat observe pid hr hs
  obtain ⟨p, cmd, resume, reply, v, hq, hv, he, rfl⟩ := step_resume hs
  have bound : q < d.procs.length := (List.getElem?_eq_some_iff.mp hq).choose
  rw [view] at hv
  have here := Prog.eq_of_view_awaits hv
  obtain ⟨history, keeps⟩ := h.keeps hq
  rw [here] at keeps
  have others {pid : Nat} (different : pid ≠ q) :
      S.experience observe pid (.initial w) (taken ++ [.resume q choice]) =
        S.experience observe pid (.initial w) taken := by
    rw [longer, noticed, if_neg (Ne.symm different)]
    exact List.append_nil _
  constructor
  · exact separates.kept h.sound he
  · intro pid p' hp
    obtain ⟨_, rfl⟩ | ⟨_, old⟩ := get_answered hp
    · exact ⟨_, keeps.2 reply (separates.possible h.sound he)⟩
    · exact h.keeps old
  · intro pid beyond
    rw [List.length_set] at beyond
    rw [others (by omega)]
    exact h.fresh pid beyond
  · intro e u absent part
    rw [Config.entries, entries_answered hq] at absent
    refine separates.other (h.untouched absent part) keeps.1 ?_ he
    rintro rfl
    exact absent (List.mem_map_of_mem (List.mem_of_getElem? hq))
  · intro pid p' hp u here'
    obtain ⟨rfl, rfl⟩ | ⟨different, old⟩ := get_answered hp
    · obtain ⟨u', came, part⟩ := h.comes hq u here'
      obtain ⟨u'', answered, part'⟩ := separates.own part keeps.1 he
      rw [here] at came
      refine ⟨u'', ?_, part'⟩
      rw [longer, noticed, if_pos rfl]
      exact Prog.alone_concat came answered
    · obtain ⟨u', came, part⟩ := h.comes old u here'
      rw [others different]
      have ne : p.entry ≠ p'.entry := fun same => different (entry_unique distinct hq old same).symm
      exact ⟨u', came, separates.other part keeps.1 ne he⟩

theorem Apart.env (h : S.Apart observe place sound can concerns alike program w taken d)
    (separates : Separates rt observe place sound can concerns alike)
    (hr : S.run (.initial w) taken = some d) {event : V} (hs : S.step d (.env event) = some d') :
    S.Apart observe place sound can concerns alike program w (taken ++ [.env event]) d' := by
  have same (pid : Nat) : S.experience observe pid (.initial w) (taken ++ [.env event]) =
      S.experience observe pid (.initial w) taken := by
    rw [experience_concat _ _ hr hs]
    exact List.append_nil _
  obtain ⟨v, hv, rfl⟩ := step_env hs
  constructor
  · exact separates.moved h.sound hv
  · exact h.keeps
  · intro pid beyond
    rw [same]
    exact h.fresh pid beyond
  · exact fun absent part => separates.env (h.untouched absent part) hv
  · intro pid p hp u before
    obtain ⟨u', came, part⟩ := h.comes hp u before
    rw [same]
    exact ⟨u', came, separates.env part hv⟩

/-- Calls with different entries, each on its part of the world, are each where their program
comes to alone with their experience. -/
theorem run_alone (separates : Separates rt observe place sound can concerns alike)
    (contract : ∀ e, (program e).Meets can (fun _ cmd => concerns e cmd) (fun _ _ => True) [])
    (view : S.view = Prog.view)
    (launched : ∀ entry w x v, S.launch entry w = some (x, v) → x = program entry ∧ v = w)
    (start : sound w) {c : Config C R ε W Ch E (Prog C R ε α)} {actions : List (Action E Ch V)}
    (h : S.run (.initial w) actions = some c) (distinct : c.entries.Nodup) {pid : Nat}
    {p : Proc E (Prog C R ε α)} (hp : c.procs[pid]? = some p) {u : W} (part : alike p.entry w u) :
    ∃ u', (program p.entry).alone rt place (S.experience observe pid (.initial w) actions) u =
      some (p.state, u') := by
  have apart := run_induction (fun taken d => d.entries.Nodup →
    S.Apart observe place sound can concerns alike program w taken d) ?_ h ?_ distinct
  · obtain ⟨u', came, _⟩ := apart.comes hp u part
    exact ⟨u', came⟩
  · intro taken d a d' hr ih hs distinct
    cases a with
    | start entry =>
        refine (ih ?_).start contract launched hr hs distinct
        obtain ⟨x, v, _, rfl⟩ := step_start hs
        rw [Config.entries, List.map_append] at distinct
        exact distinct.of_append_left
    | resume q choice =>
        have before : d.entries.Nodup := by
          obtain ⟨p, cmd, resume, reply, v, hq, _, _, rfl⟩ := step_resume hs
          rwa [Config.entries, entries_answered hq] at distinct
        exact (ih before).resume separates view hr hs before
    | env event =>
        obtain ⟨v, _, rfl⟩ := step_env hs
        exact (ih distinct).env separates hr hs
  · intro _
    constructor
    · exact start
    · rintro pid p ⟨⟩
    · exact fun _ _ => rfl
    · exact fun _ part => part
    · rintro pid p ⟨⟩

end
end System
end Concurrency
