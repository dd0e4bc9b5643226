import Mathlib.Data.List.Forall2
import SalesforceTikTok.Concurrency.Invariant

/-!
# Refinement between systems over one runtime

A map of process states that commutes with what the processes show and with how
they are launched carries every run of one system to a run of the other, step by
step, with the same worlds, the same answers and the same trace. The maps used
here send an enumerated point of a protocol to the program that remains there.
-/

namespace Concurrency

variable {C : Type} {R : C → Type} {ε α W Ch V E X Y : Type}

def Config.map (f : X → Y) (c : Config C R ε W Ch E X) : Config C R ε W Ch E Y :=
  ⟨c.world, c.procs.map fun p => ⟨p.entry, f p.state⟩, c.trace⟩

@[simp] theorem Config.map_world (f : X → Y) (c : Config C R ε W Ch E X) :
    (c.map f).world = c.world := rfl

@[simp] theorem Config.map_trace (f : X → Y) (c : Config C R ε W Ch E X) :
    (c.map f).trace = c.trace := rfl

@[simp] theorem Config.map_own (f : X → Y) (c : Config C R ε W Ch E X) (pid : Nat) :
    (c.map f).own pid = c.own pid := rfl

theorem Config.map_get (f : X → Y) (c : Config C R ε W Ch E X) (pid : Nat) :
    (c.map f).procs[pid]? = (c.procs[pid]?).map fun p => ⟨p.entry, f p.state⟩ := by
  simp [Config.map]

variable {rt : Runtime C R ε W Ch V}

/-- `f` embeds the processes of `S` into those of `T`. -/
structure Refines (S : System rt α E X) (T : System rt α E Y) (f : X → Y) : Prop where
  view : ∀ x, T.view (f x) = (S.view x).map f
  launch : ∀ entry w, T.launch entry w = (S.launch entry w).map fun xw => (f xw.1, xw.2)

namespace Refines

variable {S : System rt α E X} {T : System rt α E Y} {f : X → Y}

theorem step (hf : Refines S T f) (c : Config C R ε W Ch E X) (a : Action E Ch V) :
    T.step (c.map f) a = (S.step c a).map (Config.map f) := by
  cases a with
  | start entry =>
      simp only [System.step, Config.map_world, hf.launch]
      cases S.launch entry c.world with
      | none => rfl
      | some xw => simp [Config.map]
  | resume pid choice =>
      simp only [System.step, Config.map_get, Config.map_world]
      cases c.procs[pid]? with
      | none => rfl
      | some p =>
          simp only [Option.map_some, hf.view]
          cases S.view p.state with
          | ended outcome => rfl
          | awaits cmd resume =>
              simp only [View.map]
              cases rt.exec cmd choice c.world with
              | none => rfl
              | some rw => simp [Config.map, List.map_set]
  | env event =>
      simp only [System.step, Config.map_world]
      cases rt.env event c.world with
      | none => rfl
      | some w => rfl

theorem run (hf : Refines S T f) (c : Config C R ε W Ch E X) (actions : List (Action E Ch V)) :
    T.run (c.map f) actions = (S.run c actions).map (Config.map f) := by
  induction actions generalizing c with
  | nil => rfl
  | cons a rest ih =>
      simp only [System.run, hf.step]
      cases S.step c a with
      | none => rfl
      | some d => exact ih d

/-- Every run of the target from an embedded configuration is an embedded run. -/
theorem lift (hf : Refines S T f) {c : Config C R ε W Ch E X} {actions : List (Action E Ch V)}
    {d : Config C R ε W Ch E Y} (h : T.run (c.map f) actions = some d) :
    ∃ c', S.run c actions = some c' ∧ d = c'.map f := by
  rw [hf.run] at h
  obtain ⟨c', hc, hd⟩ := Option.map_eq_some_iff.mp h
  exact ⟨c', hc, hd.symm⟩

/-- A condition on the steps of the target is one on the steps they embed. -/
theorem along (hf : Refines S T f)
    {P : Config C R ε W Ch E Y → Action E Ch V → Config C R ε W Ch E Y → Prop}
    {c : Config C R ε W Ch E X} {actions : List (Action E Ch V)} :
    T.Along P (c.map f) actions ↔ S.Along (fun b a d => P (b.map f) a (d.map f)) c actions := by
  induction actions generalizing c with
  | nil => exact Iff.rfl
  | cons a rest ih =>
      constructor
      · intro h d hd
        obtain ⟨here, later⟩ := h (d.map f) (by rw [hf.step, hd]; rfl)
        exact ⟨here, ih.mp later⟩
      · intro h e he
        rw [hf.step, Option.map_eq_some_iff] at he
        obtain ⟨d, hd, rfl⟩ := he
        obtain ⟨here, later⟩ := h d hd
        exact ⟨here, ih.mpr later⟩

theorem ended (hf : Refines S T f) {c : Config C R ε W Ch E X} {pid : Nat}
    {outcome : Except ε α} : T.Ended (c.map f) pid outcome ↔ S.Ended c pid outcome := by
  constructor
  · rintro ⟨p, hp, hv⟩
    rw [Config.map_get, Option.map_eq_some_iff] at hp
    obtain ⟨q, hq, rfl⟩ := hp
    refine ⟨q, hq, ?_⟩
    rw [hf.view] at hv
    cases hs : S.view q.state with
    | ended o =>
        rw [hs] at hv
        simp only [View.map, View.ended.injEq] at hv
        rw [hv]
    | awaits cmd resume => rw [hs] at hv; cases hv
  · rintro ⟨q, hq, hv⟩
    exact ⟨_, by rw [Config.map_get, hq]; rfl, by rw [hf.view, hv]; rfl⟩

theorem awaits (hf : Refines S T f) {c : Config C R ε W Ch E X} {pid : Nat} {cmd : C} :
    T.Awaits (c.map f) pid cmd ↔ S.Awaits c pid cmd := by
  constructor
  · rintro ⟨p, resume, hp, hv⟩
    rw [Config.map_get, Option.map_eq_some_iff] at hp
    obtain ⟨q, hq, rfl⟩ := hp
    rw [hf.view] at hv
    cases hs : S.view q.state with
    | ended o => rw [hs] at hv; cases hv
    | awaits cmd' resume =>
        rw [hs] at hv
        cases hv
        exact ⟨q, resume, hq, hs⟩
  · rintro ⟨q, resume, hq, hv⟩
    exact ⟨_, fun reply => f (resume reply), by rw [Config.map_get, hq]; rfl,
      by rw [hf.view, hv]; rfl⟩

theorem inFlight (hf : Refines S T f) {c : Config C R ε W Ch E X} {pid : Nat} :
    T.InFlight (c.map f) pid ↔ S.InFlight c pid := by
  constructor
  · rintro ⟨p, cmd, resume, hp, hv⟩
    rw [Config.map_get, Option.map_eq_some_iff] at hp
    obtain ⟨q, hq, rfl⟩ := hp
    rw [hf.view] at hv
    cases hs : S.view q.state with
    | ended o => rw [hs] at hv; cases hv
    | awaits cmd resume => exact ⟨q, cmd, resume, hq, hs⟩
  · rintro ⟨q, cmd, resume, hq, hv⟩
    exact ⟨_, cmd, fun reply => f (resume reply), by rw [Config.map_get, hq]; rfl,
      by rw [hf.view, hv]; rfl⟩

end Refines

/-! ## Calls that launch alike

Two runs whose calls launch alike pass the same worlds, answer the same commands
and leave the calls in the same states: what distinguishes the calls is lost at
their start.
-/

variable {S : System rt α E X}

variable (S) in
/-- The same action, up to a start of another call that launches alike. -/
inductive Action.Alike : Action E Ch V → Action E Ch V → Prop where
  | start {entry entry' : E} (launch : ∀ w, S.launch entry w = S.launch entry' w) :
      Alike (.start entry) (.start entry')
  | resume (pid : Nat) (choice : Ch) : Alike (.resume pid choice) (.resume pid choice)
  | env (event : V) : Alike (.env event) (.env event)

structure Config.Alike (c d : Config C R ε W Ch E X) : Prop where
  world : d.world = c.world
  states : d.procs.map Proc.state = c.procs.map Proc.state
  trace : d.trace = c.trace

theorem Config.Alike.refl (c : Config C R ε W Ch E X) : c.Alike c := ⟨rfl, rfl, rfl⟩

theorem Config.Alike.get {c d : Config C R ε W Ch E X} (alike : c.Alike d) {pid : Nat}
    {p : Proc E X} (hp : c.procs[pid]? = some p) :
    ∃ q, d.procs[pid]? = some q ∧ q.state = p.state := by
  have same := congrArg (·[pid]?) alike.states
  simp only [List.getElem?_map, hp, Option.map_some, Option.map_eq_some_iff] at same
  exact same

theorem System.step_alike {c d c' : Config C R ε W Ch E X} {a b : Action E Ch V}
    (h : S.step c a = some c') (configs : c.Alike d) (actions : Action.Alike S a b) :
    ∃ d', S.step d b = some d' ∧ c'.Alike d' := by
  cases actions with
  | @start entry entry' launch =>
      obtain ⟨x, w, hl, rfl⟩ := System.step_start h
      rw [← configs.world, launch] at hl
      refine ⟨{ d with world := w, procs := d.procs ++ [⟨entry', x⟩] }, by simp only [step, hl],
        rfl, ?_, configs.trace⟩
      simp [configs.states]
  | resume pid choice =>
      obtain ⟨p, cmd, resume, reply, w, hp, hv, he, rfl⟩ := System.step_resume h
      obtain ⟨q, hq, same⟩ := configs.get hp
      rw [← same] at hv
      rw [← configs.world] at he
      refine ⟨_, System.step_answer hq hv he, rfl, ?_, ?_⟩
      · simp [List.map_set, configs.states]
      · simp only [configs.trace]
  | env event =>
      obtain ⟨w, he, rfl⟩ := System.step_env h
      rw [← configs.world] at he
      exact ⟨{ d with world := w }, by simp only [step, he], rfl, configs.states, configs.trace⟩

theorem System.run_alike {c d c' : Config C R ε W Ch E X} {actions actions' : List (Action E Ch V)}
    (h : S.run c actions = some c') (configs : c.Alike d)
    (alike : List.Forall₂ (Action.Alike S) actions actions') :
    ∃ d', S.run d actions' = some d' ∧ c'.Alike d' := by
  induction alike generalizing c d with
  | nil =>
      cases h
      exact ⟨d, rfl, configs⟩
  | cons same _ ih =>
      obtain ⟨e, he, hr⟩ := System.run_cons h
      obtain ⟨e', he', configs'⟩ := System.step_alike he configs same
      obtain ⟨d', hd', last⟩ := ih hr configs'
      exact ⟨d', by simp only [System.run, he', hd'], last⟩

theorem Config.Alike.ended {c d : Config C R ε W Ch E X} (alike : c.Alike d) {pid : Nat}
    {outcome : Except ε α} (h : S.Ended c pid outcome) : S.Ended d pid outcome := by
  obtain ⟨p, hp, hv⟩ := h
  obtain ⟨q, hq, same⟩ := alike.get hp
  exact ⟨q, hq, by rw [same, hv]⟩

end Concurrency
