import SalesforceTikTok.Concurrency.Program

/-!
# Pools of interleaved processes

A runtime gives every command its effect on a shared world; the scheduler's
choice decides how the outside answers. A system adds the processes: how a call
is launched and what a process awaits next. One step starts a call, answers one
awaited command, or lets the environment move. A process runs from one awaited
command to the next without interruption, which is the run-to-completion rule
of a single-threaded event loop.

Calls are numbered by their position in the pool, in order of start, and never
leave it. The trace records every answered command in chronological order.
-/

namespace Concurrency

/-- Effects of the commands and of the environment; `none` is "not possible here". -/
structure Runtime (C : Type) (R : C → Type) (ε W Ch V : Type) where
  exec : (cmd : C) → Ch → W → Option (Except ε (R cmd) × W)
  env : V → W → Option W

/-- One answered command of call `pid`. -/
structure Record (C : Type) (R : C → Type) (ε Ch : Type) where
  pid : Nat
  cmd : C
  choice : Ch
  reply : Except ε (R cmd)

structure Proc (E X : Type) where
  entry : E
  state : X

structure Config (C : Type) (R : C → Type) (ε W Ch E X : Type) where
  world : W
  procs : List (Proc E X)
  trace : List (Record C R ε Ch)

inductive Action (E Ch V : Type) where
  | start (entry : E)
  | resume (pid : Nat) (choice : Ch)
  | env (event : V)

variable {C : Type} {R : C → Type} {ε α W Ch V E X Y : Type}

/-- Calls of kind `E` run as processes with states `X` over the runtime `rt`. -/
structure System (rt : Runtime C R ε W Ch V) (α E X : Type) where
  view : X → View C R ε α X
  launch : E → W → Option (X × W)

def Config.initial (world : W) : Config C R ε W Ch E X := ⟨world, [], []⟩

def Config.own (c : Config C R ε W Ch E X) (pid : Nat) : List (Record C R ε Ch) :=
  c.trace.filter fun record => record.pid = pid

def Config.entries (c : Config C R ε W Ch E X) : List E := c.procs.map Proc.entry

namespace System

variable {rt : Runtime C R ε W Ch V} (S : System rt α E X)

def step (c : Config C R ε W Ch E X) : Action E Ch V → Option (Config C R ε W Ch E X)
  | .start entry =>
      match S.launch entry c.world with
      | some (x, w) => some { c with world := w, procs := c.procs ++ [⟨entry, x⟩] }
      | none => none
  | .resume pid choice =>
      match c.procs[pid]? with
      | none => none
      | some p =>
          match S.view p.state with
          | .ended _ => none
          | .awaits cmd resume =>
              match rt.exec cmd choice c.world with
              | none => none
              | some (reply, w) =>
                  some ⟨w, c.procs.set pid ⟨p.entry, resume reply⟩,
                    c.trace ++ [⟨pid, cmd, choice, reply⟩]⟩
  | .env event =>
      match rt.env event c.world with
      | some w => some { c with world := w }
      | none => none

def run (c : Config C R ε W Ch E X) : List (Action E Ch V) → Option (Config C R ε W Ch E X)
  | [] => some c
  | a :: rest =>
      match S.step c a with
      | some c' => run c' rest
      | none => none

/-- Call `pid` has ended with this outcome. -/
def Ended (c : Config C R ε W Ch E X) (pid : Nat) (outcome : Except ε α) : Prop :=
  ∃ p, c.procs[pid]? = some p ∧ S.view p.state = .ended outcome

/-- Call `pid` was started and still awaits a command. -/
def InFlight (c : Config C R ε W Ch E X) (pid : Nat) : Prop :=
  ∃ p cmd resume, c.procs[pid]? = some p ∧ S.view p.state = .awaits cmd resume

/-- Call `pid` awaits this command. -/
def Awaits (c : Config C R ε W Ch E X) (pid : Nat) (cmd : C) : Prop :=
  ∃ p resume, c.procs[pid]? = some p ∧ S.view p.state = .awaits cmd resume

def idle (c : Config C R ε W Ch E X) : Bool :=
  c.procs.all fun p =>
    match S.view p.state with
    | .ended _ => true
    | .awaits _ _ => false

variable {S}

theorem Ended.view_eq {c : Config C R ε W Ch E X} {pid : Nat} {outcome : Except ε α}
    (h : S.Ended c pid outcome) {p : Proc E X} (hp : c.procs[pid]? = some p) :
    S.view p.state = .ended outcome := by
  obtain ⟨q, hq, hv⟩ := h
  obtain rfl : p = q := by simpa [hp] using hq
  exact hv

theorem not_inFlight_of_idle {c : Config C R ε W Ch E X} (h : S.idle c = true) (pid : Nat) :
    ¬ S.InFlight c pid := by
  rintro ⟨p, cmd, resume, hp, hv⟩
  have ended := List.all_eq_true.mp h p (List.mem_of_getElem? hp)
  rw [hv] at ended
  cases ended

/-! ## What one step does -/

theorem step_start {c c' : Config C R ε W Ch E X} {entry : E}
    (h : S.step c (.start entry) = some c') :
    ∃ x w, S.launch entry c.world = some (x, w) ∧
      c' = { c with world := w, procs := c.procs ++ [⟨entry, x⟩] } := by
  simp only [step] at h
  split at h
  next x w hl => exact ⟨x, w, hl, (Option.some.inj h).symm⟩
  next => cases h

theorem step_resume {c c' : Config C R ε W Ch E X} {pid : Nat} {choice : Ch}
    (h : S.step c (.resume pid choice) = some c') :
    ∃ p cmd resume reply w, c.procs[pid]? = some p ∧ S.view p.state = .awaits cmd resume ∧
      rt.exec cmd choice c.world = some (reply, w) ∧
      c' = ⟨w, c.procs.set pid ⟨p.entry, resume reply⟩, c.trace ++ [⟨pid, cmd, choice, reply⟩]⟩ := by
  simp only [step] at h
  split at h
  next => cases h
  next p hp =>
    split at h
    next => cases h
    next cmd resume hv =>
      split at h
      next => cases h
      next reply w he => exact ⟨p, cmd, resume, reply, w, hp, hv, he, (Option.some.inj h).symm⟩

/-- A call can be resumed when its command can be answered. -/
theorem step_answer {c : Config C R ε W Ch E X} {pid : Nat} {choice : Ch} {p : Proc E X} {cmd : C}
    {resume : Except ε (R cmd) → X} {reply : Except ε (R cmd)} {w : W}
    (hp : c.procs[pid]? = some p) (hv : S.view p.state = .awaits cmd resume)
    (he : rt.exec cmd choice c.world = some (reply, w)) :
    S.step c (.resume pid choice) =
      some ⟨w, c.procs.set pid ⟨p.entry, resume reply⟩,
        c.trace ++ [⟨pid, cmd, choice, reply⟩]⟩ := by
  simp only [step, hp, hv, he]

theorem step_ended {c c' : Config C R ε W Ch E X} {pid : Nat} {choice : Ch}
    (h : S.step c (.resume pid choice) = some c') {p : Proc E X} (hp : c.procs[pid]? = some p)
    (outcome : Except ε α) : S.view p.state ≠ .ended outcome := by
  obtain ⟨q, cmd, resume, reply, w, hq, hv, _⟩ := step_resume h
  obtain rfl : q = p := by simpa [hp] using hq.symm
  rw [hv]
  nofun

theorem step_env {c c' : Config C R ε W Ch E X} {event : V}
    (h : S.step c (.env event) = some c') :
    ∃ w, rt.env event c.world = some w ∧ c' = { c with world := w } := by
  simp only [step] at h
  split at h
  next w hw => exact ⟨w, hw, (Option.some.inj h).symm⟩
  next => cases h

/-! ## Runs -/

theorem run_cons {c c' : Config C R ε W Ch E X} {a : Action E Ch V} {rest : List (Action E Ch V)}
    (h : S.run c (a :: rest) = some c') :
    ∃ d, S.step c a = some d ∧ S.run d rest = some c' := by
  simp only [run] at h
  split at h
  next d hd => exact ⟨d, hd, h⟩
  next => cases h

theorem run_append (c : Config C R ε W Ch E X) (first second : List (Action E Ch V)) :
    S.run c (first ++ second) = (S.run c first).bind fun d => S.run d second := by
  induction first generalizing c with
  | nil => rfl
  | cons a rest ih =>
      simp only [List.cons_append, run]
      cases S.step c a with
      | none => rfl
      | some d => exact ih d

theorem reached_step {w : W} {c c' : Config C R ε W Ch E X}
    (h : ∃ taken, S.run (.initial w) taken = some c) {a : Action E Ch V}
    (hs : S.step c a = some c') : ∃ taken, S.run (.initial w) taken = some c' := by
  obtain ⟨taken, hr⟩ := h
  refine ⟨taken ++ [a], ?_⟩
  rw [run_append, hr]
  simp [run, hs]

variable (S) in
def result (c : Config C R ε W Ch E X) (actions : List (Action E Ch V))
    (possible : (S.run c actions).isSome = true) : Config C R ε W Ch E X :=
  (S.run c actions).get possible

theorem run_result {c : Config C R ε W Ch E X} {actions : List (Action E Ch V)}
    (possible : (S.run c actions).isSome = true) :
    S.run c actions = some (S.result c actions possible) :=
  (Option.some_get possible).symm

/-! ## The pool after a step -/

theorem get_started {procs : List (Proc E X)} {fresh p : Proc E X} {pid : Nat}
    (h : (procs ++ [fresh])[pid]? = some p) :
    procs[pid]? = some p ∨ pid = procs.length ∧ p = fresh := by
  by_cases old : pid < procs.length
  · exact .inl (by simpa [List.getElem?_append_left old] using h)
  · have bound := (List.getElem?_eq_some_iff.mp h).choose
    have here : pid = procs.length := by simp at bound; omega
    subst here
    exact .inr ⟨rfl, by simpa using h.symm⟩

theorem get_answered {procs : List (Proc E X)} {next p : Proc E X} {pid q : Nat}
    (h : (procs.set q next)[pid]? = some p) :
    pid = q ∧ p = next ∨ pid ≠ q ∧ procs[pid]? = some p := by
  by_cases same : pid = q
  · subst same
    have bound := (List.getElem?_eq_some_iff.mp h).choose
    rw [List.length_set] at bound
    rw [List.getElem?_set_self bound] at h
    exact .inl ⟨rfl, (Option.some.inj h).symm⟩
  · exact .inr ⟨same, by rwa [List.getElem?_set_ne (Ne.symm same)] at h⟩

/-- An answer takes its call out of a count and puts it in again as what it has become. -/
theorem countP_answered {procs : List (Proc E X)} {pid : Nat} {p : Proc E X}
    (hp : procs[pid]? = some p) (f : Proc E X → Bool) (next : Proc E X) :
    (procs.set pid next).countP f + (f p).toNat = procs.countP f + (f next).toNat := by
  obtain ⟨bound, rfl⟩ := List.getElem?_eq_some_iff.mp hp
  have counted := List.boole_getElem_le_countP (p := f) bound
  rw [List.countP_set bound]
  have out : (if f procs[pid] then 1 else 0) = (f procs[pid]).toNat := by cases f procs[pid] <;> rfl
  have back : (if f next then 1 else 0) = (f next).toNat := by cases f next <;> rfl
  omega

def total (f : Proc E X → Nat) : List (Proc E X) → Nat
  | [] => 0
  | p :: rest => f p + total f rest

theorem total_append (f : Proc E X → Nat) (first second : List (Proc E X)) :
    total f (first ++ second) = total f first + total f second := by
  induction first with
  | nil => exact (Nat.zero_add _).symm
  | cons p rest ih =>
      simp only [List.cons_append, total, ih]
      omega

/-- An answer takes its call out of a total and puts it in again as what it has become. -/
theorem total_answered {procs : List (Proc E X)} {pid : Nat} {p : Proc E X}
    (hp : procs[pid]? = some p) (f : Proc E X → Nat) (next : Proc E X) :
    total f (procs.set pid next) + f p = total f procs + f next := by
  induction procs generalizing pid with
  | nil => cases hp
  | cons first rest ih =>
      cases pid with
      | zero =>
          cases hp
          simp only [List.set_cons_zero, total]
          omega
      | succ pid =>
          have later := ih hp
          simp only [List.set_cons_succ, total]
          omega

theorem entries_answered {procs : List (Proc E X)} {pid : Nat} {p : Proc E X}
    (hp : procs[pid]? = some p) (x : X) :
    (procs.set pid ⟨p.entry, x⟩).map Proc.entry = procs.map Proc.entry := by
  rw [List.map_set]
  refine List.ext_getElem? fun i => ?_
  by_cases here : i = pid
  · subst here
    have bound := (List.getElem?_eq_some_iff.mp hp).choose
    rw [List.getElem?_set_self (by simpa using bound), List.getElem?_map, hp]
    rfl
  · rw [List.getElem?_set_ne (Ne.symm here)]

/-- Calls with distinct entries are known by their entries. -/
theorem entry_unique {c : Config C R ε W Ch E X} (distinct : c.entries.Nodup) {pid q : Nat}
    {p p' : Proc E X} (hp : c.procs[pid]? = some p) (hq : c.procs[q]? = some p')
    (same : p.entry = p'.entry) : pid = q := by
  have first : c.entries[pid]? = some p.entry := by simp [Config.entries, hp]
  have second : c.entries[q]? = some p.entry := by simp [Config.entries, hq, same]
  have bound := (List.getElem?_eq_some_iff.mp first).choose
  exact (List.getElem?_inj bound distinct).mp (first.trans second.symm)

/-! ## Growth of pool and trace -/

theorem step_trace {c c' : Config C R ε W Ch E X} {a : Action E Ch V}
    (h : S.step c a = some c') : c.trace <+: c'.trace := by
  cases a with
  | start entry =>
      obtain ⟨x, w, _, rfl⟩ := step_start h
      exact List.prefix_rfl
  | resume pid choice =>
      obtain ⟨p, cmd, resume, reply, w, _, _, _, rfl⟩ := step_resume h
      exact List.prefix_append _ _
  | env event =>
      obtain ⟨w, _, rfl⟩ := step_env h
      exact List.prefix_rfl

theorem run_trace {c c' : Config C R ε W Ch E X} {actions : List (Action E Ch V)}
    (h : S.run c actions = some c') : c.trace <+: c'.trace := by
  induction actions generalizing c with
  | nil => cases h; exact List.prefix_rfl
  | cons a rest ih =>
      obtain ⟨d, hd, hr⟩ := run_cons h
      exact (step_trace hd).trans (ih hr)

/-- A step keeps every call at its position, with its entry. -/
theorem step_entry {c c' : Config C R ε W Ch E X} {a : Action E Ch V}
    (h : S.step c a = some c') {pid : Nat} {p : Proc E X} (hp : c.procs[pid]? = some p) :
    ∃ p', c'.procs[pid]? = some p' ∧ p'.entry = p.entry := by
  have bound : pid < c.procs.length := (List.getElem?_eq_some_iff.mp hp).choose
  cases a with
  | start entry =>
      obtain ⟨x, w, _, rfl⟩ := step_start h
      exact ⟨p, by simpa [List.getElem?_append_left bound] using hp, rfl⟩
  | resume q choice =>
      obtain ⟨p0, cmd, resume, reply, w, hq, _, _, rfl⟩ := step_resume h
      by_cases same : q = pid
      · subst same
        obtain rfl : p0 = p := by simpa [hq] using hp
        exact ⟨_, List.getElem?_set_self bound, rfl⟩
      · exact ⟨p, by simpa [List.getElem?_set_ne same] using hp, rfl⟩
  | env event =>
      obtain ⟨w, _, rfl⟩ := step_env h
      exact ⟨p, hp, rfl⟩

theorem run_entry {c c' : Config C R ε W Ch E X} {actions : List (Action E Ch V)}
    (h : S.run c actions = some c') {pid : Nat} {p : Proc E X} (hp : c.procs[pid]? = some p) :
    ∃ p', c'.procs[pid]? = some p' ∧ p'.entry = p.entry := by
  induction actions generalizing c p with
  | nil => cases h; exact ⟨p, hp, rfl⟩
  | cons a rest ih =>
      obtain ⟨d, hd, hr⟩ := run_cons h
      obtain ⟨q, hq, same⟩ := step_entry hd hp
      obtain ⟨p', hp', same'⟩ := ih hr hq
      exact ⟨p', hp', same'.trans same⟩

end System
end Concurrency
