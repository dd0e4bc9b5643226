import SalesforceTikTok.Concurrency.Replay

/-!
# Components inside a system

The calls of a system may run calls of a component inside. The program of an inner call
is carried out command by command: most commands by one of the system's own, some by a
whole program that is none of the component's business. A run of the system then contains
a run of the component (`run_hosted`): an inner call starts where its program does, and is
answered where its command takes effect. What is proved of all runs of the component is
so proved of what the system does with it.
-/

namespace Concurrency

variable {C C' : Type} {R : C → Type} {R' : C' → Type} {ε α β γ W W' Ch Ch' V V' E E' : Type}

namespace Prog

/-! ## Outcomes as programs -/

def settled : Except ε α → Prog C R ε α
  | .ok value => done value
  | .error error => fail error

theorem view_settled (outcome : Except ε α) :
    (settled outcome : Prog C R ε α).view = .ended outcome := by
  cases outcome <;> rfl

theorem map_settled (f : α → β) (outcome : Except ε α) :
    (f <$> settled outcome : Prog C R ε β) = settled (outcome.map f) := by
  cases outcome <;> rfl

theorem attempt_settled_bind (outcome : Except ε α) (next : Except ε α → Prog C R ε β) :
    (settled outcome : Prog C R ε α).attempt >>= next = next outcome := by
  cases outcome <;> rfl

theorem handle_settled (handler : (cmd : C) → Prog C' R' ε (R cmd)) (outcome : Except ε α) :
    (settled outcome : Prog C R ε α).handle handler = settled outcome := by
  cases outcome <;> rfl

theorem takes_settled (outcome : Except ε α) :
    (settled outcome : Prog C R ε α).Takes outcome [] := by
  cases outcome <;> exact ⟨rfl, rfl⟩

theorem attempt_bind_settled (p : Prog C R ε α) : p.attempt >>= settled = p := by
  induction p with
  | done value => rfl
  | fail error => rfl
  | await cmd resume ih => exact congrArg (await cmd) (funext ih)

theorem map_id (p : Prog C R ε α) : id <$> p = p := by
  induction p with
  | done value => rfl
  | fail error => rfl
  | await cmd resume ih => exact congrArg (await cmd) (funext ih)

theorem attempt_bind_bind (p : Prog C R ε α) (next : Except ε α → Prog C R ε β)
    (last : β → Prog C R ε γ) :
    (p.attempt >>= next) >>= last = p.attempt >>= fun outcome => next outcome >>= last := by
  induction p with
  | done value => rfl
  | fail error => rfl
  | await cmd resume ih => exact congrArg (await cmd) (funext ih)

theorem attempt_bind_catch (p : Prog C R ε α) (next : Except ε α → Prog C R ε β)
    (handler : ε → Prog C R ε β) : tryCatch (p.attempt >>= next) handler =
      p.attempt >>= fun outcome => tryCatch (next outcome) handler := by
  induction p with
  | done value => rfl
  | fail error => rfl
  | await cmd resume ih => exact congrArg (await cmd) (funext ih)

theorem attempt_bind_attempt (p : Prog C R ε α) (next : Except ε α → Prog C R ε β)
    (last : Except ε β → Prog C R ε γ) : (p.attempt >>= next).attempt >>= last =
      p.attempt >>= fun outcome => (next outcome).attempt >>= last := by
  induction p with
  | done value => rfl
  | fail error => rfl
  | await cmd resume ih => exact congrArg (await cmd) (funext ih)

end Prog

/-! ## Calls that were started -/

theorem System.started_entry {X : Type} {rt : Runtime C R ε W Ch V} {S : System rt α E X} {w : W}
    {c : Config C R ε W Ch E X} {actions : List (Action E Ch V)}
    (h : S.run (.initial w) actions = some c) {entry : E} (mem : .start entry ∈ actions) :
    entry ∈ c.entries := by
  refine System.run_induction (fun taken d => ∀ entry, .start entry ∈ taken → entry ∈ d.entries)
    ?_ h (fun _ none => by cases none) entry mem
  intro taken d a d' _ before hs entry mem
  cases a with
  | start first =>
      obtain ⟨x, v, _, rfl⟩ := System.step_start hs
      rw [Config.entries, List.map_append]
      rcases List.mem_append.mp mem with old | new
      · exact List.mem_append_left _ (before entry old)
      · cases List.mem_singleton.mp new
        exact List.mem_append_right _ (List.mem_singleton_self _)
  | resume pid choice =>
      obtain ⟨p, cmd, resume, reply, v, hp, _, _, rfl⟩ := System.step_resume hs
      rcases List.mem_append.mp mem with old | new
      · have kept := before entry old
        rw [Config.entries] at kept ⊢
        rwa [System.entries_answered hp]
      · cases List.mem_singleton.mp new
  | env event =>
      obtain ⟨v, _, rfl⟩ := System.step_env hs
      rcases List.mem_append.mp mem with old | new
      · exact before entry old
      · cases List.mem_singleton.mp new

/-! ## Interfaces -/

/-- How a component sits in a system: by which programs its commands are carried out, and what
of the system's world and trace is the component's. -/
structure Interface (rt : Runtime C R ε W Ch V) (rt' : Runtime C' R' ε W' Ch' V') where
  handler : (cmd : C') → Prog C R ε (R' cmd)
  alike : W → W' → Prop
  /-- The commands of the system that are not the component's. -/
  foreign : C → Prop
  /-- The commands the component's calls may await. -/
  asks : C' → Prop
  /-- The commands of the component that a command of the system carries out. -/
  direct : C' → Bool
  part : Record C R ε Ch → Option (Record C' R' ε Ch')

namespace Interface

variable {rt : Runtime C R ε W Ch V} {rt' : Runtime C' R' ε W' Ch' V'} (I : Interface rt rt')

def Harmless (cmd : C') (outcome : Except ε (R' cmd)) : Prop :=
  I.direct cmd = false ∧ ∀ u, ∃ choice, rt'.exec cmd choice u = some (outcome, u)

/-- The command `c` of the system does what `cmd` does in the component. -/
def Does (cmd : C') (c : C) (resume : Except ε (R c) → Prog C R ε (R' cmd)) : Prop :=
  I.direct cmd = true ∧ ∀ {choice w u reply v}, I.alike w u → rt.exec c choice w = some (reply, v) →
    ∃ outcome choice' u', resume reply = .settled outcome ∧
      rt'.exec cmd choice' u = some (outcome, u') ∧ I.alike v u' ∧
      ∀ pid, I.part ⟨pid, c, choice, reply⟩ = some ⟨pid, cmd, choice', outcome⟩

/-- What may be left of the program that carries out a command. -/
inductive Carries (cmd : C') : Prog C R ε (R' cmd) → Prop where
  | settled {outcome} (harmless : I.Harmless cmd outcome) : Carries cmd (.settled outcome)
  | elsewhere {c resume} (foreign : I.foreign c) (later : ∀ reply, Carries cmd (resume reply)) :
      Carries cmd (.await c resume)
  | here {c resume} (does : I.Does cmd c resume) : Carries cmd (.await c resume)

/-- A program that is none of the component's business carries out a command that may be
answered by its outcome. -/
theorem carries_of_within {cmd : C'} {p : Prog C R ε (R' cmd)}
    (h : p.Within I.foreign (I.Harmless cmd)) : I.Carries cmd p := by
  induction p with
  | done value => exact Carries.settled h
  | fail error => exact Carries.settled h
  | await c resume ih => exact .elsewhere h.1 fun reply => ih reply (h.2 reply)

/-- After these answers, `rest` is what is left of the program that carries out the command. -/
def Led (cmd : C') (own : List (Answer C R ε)) (rest : Prog C R ε (R' cmd)) : Prop :=
  ∃ before segment, own = before ++ segment ∧ ∀ outcome answers, rest.Takes outcome answers →
    (I.handler cmd).Takes outcome (segment ++ answers)

/-- Among these answers are those by which the program of the command has come to its reply. -/
def Carried (own : List (Answer C R ε)) (cmd : C') (reply : Except ε (R' cmd)) : Prop :=
  ∃ before segment after, own = before ++ segment ++ after ∧ (I.handler cmd).Takes reply segment

section

variable {I} {cmd : C'} {own : List (Answer C R ε)}

theorem Led.start (own : List (Answer C R ε)) : I.Led cmd own (I.handler cmd) :=
  ⟨own, [], (List.append_nil own).symm, fun _ _ taken => taken⟩

theorem Led.answered {c : C} {rest : Except ε (R c) → Prog C R ε (R' cmd)}
    (h : I.Led cmd own (.await c rest)) (reply : Except ε (R c)) :
    I.Led cmd (own ++ [⟨c, reply⟩]) (rest reply) := by
  obtain ⟨before, segment, rfl, led⟩ := h
  refine ⟨before, segment ++ [⟨c, reply⟩], List.append_assoc .., fun outcome answers taken => ?_⟩
  rw [List.append_assoc]
  exact led outcome _ ⟨reply, answers, rfl, taken⟩

theorem Led.carried {outcome : Except ε (R' cmd)} (h : I.Led cmd own (.settled outcome)) :
    I.Carried own cmd outcome := by
  obtain ⟨before, segment, rfl, led⟩ := h
  refine ⟨before, segment, [], (List.append_nil _).symm, ?_⟩
  have taken := led outcome [] (Prog.takes_settled outcome)
  rwa [List.append_nil] at taken

theorem Carried.append {reply : Except ε (R' cmd)} (h : I.Carried own cmd reply)
    (more : List (Answer C R ε)) : I.Carried (own ++ more) cmd reply := by
  obtain ⟨before, segment, after, rfl, taken⟩ := h
  exact ⟨before, segment, after ++ more, by simp only [List.append_assoc], taken⟩

theorem Carried.taken {reply : Except ε (R' cmd)} (h : I.Carried own cmd reply) :
    ∃ answers, answers ⊆ own ∧ (I.handler cmd).Takes reply answers := by
  obtain ⟨before, segment, after, rfl, taken⟩ := h
  refine ⟨segment, fun answer mem => ?_, taken⟩
  exact List.mem_append_left _ (List.mem_append_right _ mem)

end

variable (T : System rt' β E' (Prog C' R' ε β)) (calls : E' → Prop)

/-- The program is made of calls of the component, one after the other, and of commands that are
none of its business. -/
inductive Hosts : Prog C R ε α → Prop where
  | settled (outcome : Except ε α) : Hosts (.settled outcome)
  | await {c resume} (foreign : I.foreign c) (later : ∀ reply, Hosts (resume reply)) :
      Hosts (.await c resume)
  | call {γ : Type} {entry : E'} {f : γ → β} {q : Prog C' R' ε γ}
      {next : Except ε γ → Prog C R ε α} (called : calls entry)
      (launched : ∀ u, T.launch entry u = some (f <$> q, u))
      (orderly : q.Within I.asks fun _ => True) (later : ∀ outcome, Hosts (next outcome)) :
      Hosts ((q.handle I.handler).attempt >>= next)

/-- After these answers, the program is in the middle of a call of the component, whose own state
is the second one. -/
inductive Inside (own : List (Answer C R ε)) : Prog C R ε α → Prog C' R' ε β → Prop where
  | carrying {γ : Type} {f : γ → β} {cmd : C'} {resume : Except ε (R' cmd) → Prog C' R' ε γ}
      {c : C} {rest : Except ε (R c) → Prog C R ε (R' cmd)} {next : Except ε γ → Prog C R ε α}
      (carries : I.Carries cmd (.await c rest)) (led : I.Led cmd own (.await c rest))
      (orderly : ∀ reply, (resume reply).Within I.asks fun _ => True)
      (later : ∀ outcome, Hosts I T calls (next outcome)) :
      Inside own (((Prog.await c rest).attempt >>= fun reply =>
        (resume reply).handle I.handler).attempt >>= next) (f <$> Prog.await cmd resume)

section

variable {I} {T} {calls}

/-! ## What hosts calls -/

theorem Hosts.pure (value : α) : I.Hosts T calls (pure value : Prog C R ε α) := .settled (.ok value)

theorem Hosts.fail (error : ε) : I.Hosts T calls (.fail error : Prog C R ε α) :=
  .settled (.error error)

theorem Hosts.foreign {c : C} (foreign : I.foreign c) :
    I.Hosts T calls (.call c : Prog C R ε (R c)) :=
  .await foreign fun
    | .ok value => .settled (.ok value)
    | .error error => .settled (.error error)

theorem Hosts.inner (entry : E') {f : γ → β} {q : Prog C' R' ε γ} (called : calls entry)
    (launched : ∀ u, T.launch entry u = some (f <$> q, u))
    (orderly : q.Within I.asks fun _ => True) : I.Hosts T calls (q.handle I.handler) := by
  have hosts : I.Hosts T calls ((q.handle I.handler).attempt >>= .settled) :=
    .call called launched orderly fun outcome => .settled outcome
  rwa [Prog.attempt_bind_settled] at hosts

theorem Hosts.attempt_bind {p : Prog C R ε α} {next : Except ε α → Prog C R ε γ}
    (h : I.Hosts T calls p) (later : ∀ outcome, I.Hosts T calls (next outcome)) :
    I.Hosts T calls (p.attempt >>= next) := by
  induction h with
  | settled outcome =>
      rw [Prog.attempt_settled_bind]
      exact later outcome
  | await foreign _ ih => exact .await foreign ih
  | call called launched orderly _ ih =>
      rw [Prog.attempt_bind_attempt]
      exact .call called launched orderly ih

theorem Hosts.bind {p : Prog C R ε α} {next : α → Prog C R ε γ} (h : I.Hosts T calls p)
    (later : ∀ value, I.Hosts T calls (next value)) : I.Hosts T calls (p >>= next) := by
  induction h with
  | settled outcome =>
      cases outcome with
      | ok value => exact later value
      | error error => exact .fail error
  | await foreign _ ih => exact .await foreign ih
  | call called launched orderly _ ih =>
      rw [Prog.attempt_bind_bind]
      exact .call called launched orderly ih

theorem Hosts.catch {p : Prog C R ε α} {handler : ε → Prog C R ε α} (h : I.Hosts T calls p)
    (later : ∀ error, I.Hosts T calls (handler error)) :
    I.Hosts T calls (tryCatch p handler) := by
  induction h with
  | settled outcome =>
      cases outcome with
      | ok value => exact .pure value
      | error error => exact later error
  | await foreign _ ih => exact .await foreign ih
  | call called launched orderly _ ih =>
      rw [Prog.attempt_bind_catch]
      exact .call called launched orderly ih

/-- Another component's program hosts what its commands host. -/
theorem Hosts.handle {D : Type} {Q : D → Type} {p : Prog D Q ε α}
    {handler : (cmd : D) → Prog C R ε (Q cmd)} {P : D → Prop}
    (h : p.Within P fun _ => True) (each : ∀ cmd, P cmd → I.Hosts T calls (handler cmd)) :
    I.Hosts T calls (p.handle handler) := by
  induction p with
  | done value => exact .pure value
  | fail error => exact .fail error
  | await cmd resume ih => exact (each cmd h.1).attempt_bind fun reply => ih reply (h.2 reply)

theorem Hosts.of_within {p : Prog C R ε α} (h : p.Within I.foreign fun _ => True) :
    I.Hosts T calls p := by
  induction p with
  | done value => exact .pure value
  | fail error => exact .fail error
  | await c resume ih => exact .await h.1 fun reply => ih reply (h.2 reply)

end

/-! ## The component's part of a configuration -/

inductive Outside : Prog C R ε α → Prop where
  | settled (outcome : Except ε α) : Outside (.settled outcome)
  | await {c resume} (foreign : I.foreign c) (later : ∀ reply, Hosts I T calls (resume reply)) :
      Outside (.await c resume)

variable {I} {T} {calls} in
theorem Carries.awaited {cmd : C'} {c : C} {rest : Except ε (R c) → Prog C R ε (R' cmd)}
    (h : I.Carries cmd (.await c rest)) :
    (I.foreign c ∧ ∀ reply, I.Carries cmd (rest reply)) ∨ I.Does cmd c rest := by
  generalize shown : Prog.await c rest = x at h
  cases h with
  | @settled outcome _ => cases outcome <;> cases shown
  | elsewhere foreign later =>
      cases shown
      exact .inl ⟨foreign, later⟩
  | here does =>
      cases shown
      exact .inr does

variable {I} {T} {calls} in
theorem Outside.awaited {c : C} {resume : Except ε (R c) → Prog C R ε α}
    (h : I.Outside T calls (.await c resume)) :
    I.foreign c ∧ ∀ reply, I.Hosts T calls (resume reply) := by
  generalize shown : Prog.await c resume = x at h
  cases h with
  | settled outcome => cases outcome <;> cases shown
  | await foreign later =>
      cases shown
      exact ⟨foreign, later⟩

variable {I} {T} {calls} in
theorem Inside.carried {own : List (Answer C R ε)} {x : Prog C R ε α} {y : Prog C' R' ε β}
    (h : I.Inside T calls own x y) :
    ∃ (γ : Type) (f : γ → β) (cmd : C') (resume : Except ε (R' cmd) → Prog C' R' ε γ) (c : C)
      (rest : Except ε (R c) → Prog C R ε (R' cmd)) (next : Except ε γ → Prog C R ε α),
      x = .await c (fun reply => ((rest reply).attempt >>= fun reply =>
        (resume reply).handle I.handler).attempt >>= next) ∧ y = f <$> Prog.await cmd resume ∧
        I.Carries cmd (.await c rest) ∧ I.Led cmd own (.await c rest) ∧
        (∀ reply, (resume reply).Within I.asks fun _ => True) ∧
        ∀ outcome, I.Hosts T calls (next outcome) := by
  cases h with
  | carrying carries led orderly later =>
      exact ⟨_, _, _, _, _, _, _, rfl, rfl, carries, led, orderly, later⟩

/-- How far the calls of the component are that call `pid` has made: they have ended, all but
the one the call is inside of. -/
inductive Standing (own : List (Answer C R ε)) (pid : Nat) (x : Prog C R ε α)
    (d : Config C' R' ε W' Ch' E' (Prog C' R' ε β)) (owners : List Nat) : Prop where
  | outside (outside : I.Outside T calls x)
      (ended : ∀ i, owners[i]? = some pid → ∃ outcome, T.Ended d i outcome)
  | inside {i : Nat} {q : Proc E' (Prog C' R' ε β)} (mine : owners[i]? = some pid)
      (here : d.procs[i]? = some q) (inside : I.Inside T calls own x q.state)
      (ended : ∀ j, j ≠ i → owners[j]? = some pid → ∃ outcome, T.Ended d j outcome)

end Interface

def Record.under (owners : List Nat) (r : Record C R ε Ch) : Record C R ε Ch :=
  { r with pid := owners.getD r.pid 0 }

namespace Interface

variable {rt : Runtime C R ε W Ch V} {rt' : Runtime C' R' ε W' Ch' V'} (I : Interface rt rt')
  (T : System rt' β E' (Prog C' R' ε β)) (fits : E → E' → Prop)

/-- `d` is a configuration of the component, reached from `u`, that does what the calls of the
system do inside; of call `pid` nothing is said. -/
structure Mirror (u : W') (procs : List (Proc E (Prog C R ε α))) (own : Nat → List (Answer C R ε))
    (pid : Nat) (w : W) (notes : List (Record C' R' ε Ch'))
    (d : Config C' R' ε W' Ch' E' (Prog C' R' ε β)) (owners : List Nat) : Prop where
  reached : ∃ taken, T.run (.initial u) taken = some d
  world : I.alike w d.world
  count : owners.length = d.procs.length
  fit : ∀ {i o : Nat} {q : Proc E' (Prog C' R' ε β)}, owners[i]? = some o →
    d.procs[i]? = some q → ∃ p : Proc E (Prog C R ε α), procs[o]? = some p ∧ fits p.entry q.entry
  notes : notes = (d.trace.filter fun r => I.direct r.cmd).map (Record.under owners)
  carried : ∀ r ∈ d.trace, I.Carried (own (owners.getD r.pid 0)) r.cmd r.reply
  others : ∀ {o : Nat} {p : Proc E (Prog C R ε α)}, o ≠ pid → procs[o]? = some p →
    I.Standing T (fits p.entry) (own o) o p.state d owners

section

variable {I} {T} {fits} {u : W'} {procs : List (Proc E (Prog C R ε α))}
  {own : Nat → List (Answer C R ε)} {pid : Nat} {w : W}
  {notes : List (Record C' R' ε Ch')} {d : Config C' R' ε W' Ch' E' (Prog C' R' ε β)}
  {owners : List Nat}

theorem ended_answered {i j : Nat} (ne : j ≠ i) {outcome : Except ε β} (h : T.Ended d j outcome)
    (v : W') (q : Proc E' (Prog C' R' ε β)) (trace : List (Record C' R' ε Ch')) :
    T.Ended ⟨v, d.procs.set i q, trace⟩ j outcome := by
  obtain ⟨p, hp, ended⟩ := h
  exact ⟨p, by rwa [List.getElem?_set_ne (Ne.symm ne)], ended⟩

theorem Standing.answered {calls : E' → Prop} {before : List (Answer C R ε)} {o : Nat}
    {x : Prog C R ε α} (h : I.Standing T calls before o x d owners) {i : Nat}
    (mine : owners[i]? = some pid) (ne : o ≠ pid)
    (v : W') (q : Proc E' (Prog C' R' ε β)) (trace : List (Record C' R' ε Ch')) :
    I.Standing T calls before o x ⟨v, d.procs.set i q, trace⟩ owners := by
  have apart : ∀ j, owners[j]? = some o → j ≠ i := by
    rintro j theirs rfl
    rw [theirs] at mine
    exact ne (Option.some.inj mine)
  cases h with
  | outside outside ended =>
      refine .outside outside fun j theirs => ?_
      obtain ⟨outcome, last⟩ := ended j theirs
      exact ⟨outcome, ended_answered (apart j theirs) last v q trace⟩
  | @inside k _ theirs here inside ended =>
      refine .inside theirs ?_ inside fun j other theirs' => ?_
      · rwa [List.getElem?_set_ne (apart k theirs).symm]
      · obtain ⟨outcome, last⟩ := ended j other theirs'
        exact ⟨outcome, ended_answered (apart j theirs') last v q trace⟩

theorem get_of_append_ne {owners : List Nat} {pid o i : Nat} (ne : o ≠ pid)
    (h : (owners ++ [pid])[i]? = some o) : owners[i]? = some o := by
  by_cases old : i < owners.length
  · rwa [List.getElem?_append_left old] at h
  · rw [List.getElem?_append_right (by omega)] at h
    have first := List.mem_of_getElem? h
    exact (ne (List.mem_singleton.mp first)).elim

theorem get_append_of_get {owners : List Nat} {i o : Nat} (h : owners[i]? = some o)
    (more : List Nat) : (owners ++ more)[i]? = some o := by
  rwa [List.getElem?_append_left (List.getElem?_eq_some_iff.mp h).choose]

theorem ended_started {j : Nat} {outcome : Except ε β} (h : T.Ended d j outcome) (v : W')
    (q : Proc E' (Prog C' R' ε β)) :
    T.Ended { d with world := v, procs := d.procs ++ [q] } j outcome := by
  obtain ⟨p, hp, ended⟩ := h
  refine ⟨p, ?_, ended⟩
  rwa [List.getElem?_append_left (List.getElem?_eq_some_iff.mp hp).choose]

theorem Standing.started {calls : E' → Prop} {before : List (Answer C R ε)} {o : Nat}
    {x : Prog C R ε α} (h : I.Standing T calls before o x d owners) (ne : o ≠ pid) (v : W')
    (q : Proc E' (Prog C' R' ε β)) : I.Standing T calls before o x
      { d with world := v, procs := d.procs ++ [q] } (owners ++ [pid]) := by
  cases h with
  | outside outside ended =>
      refine .outside outside fun j theirs => ?_
      obtain ⟨outcome, last⟩ := ended j (get_of_append_ne ne theirs)
      exact ⟨outcome, ended_started last v q⟩
  | inside theirs here inside ended =>
      refine .inside (get_append_of_get theirs [pid]) ?_ inside fun j other theirs' => ?_
      · rwa [List.getElem?_append_left (List.getElem?_eq_some_iff.mp here).choose]
      · obtain ⟨outcome, last⟩ := ended j other (get_of_append_ne ne theirs')
        exact ⟨outcome, ended_started last v q⟩

/-! ## Steps of the component -/

theorem Mirror.answered (h : I.Mirror T fits u procs own pid w notes d owners)
    (view : T.view = Prog.view) {i : Nat} (mine : owners[i]? = some pid) {entry : E'} {cmd : C'}
    {resume : Except ε (R' cmd) → Prog C' R' ε β}
    (here : d.procs[i]? = some ⟨entry, .await cmd resume⟩)
    {choice : Ch'} {outcome : Except ε (R' cmd)} {v : W'}
    (he : rt'.exec cmd choice d.world = some (outcome, v)) {w' : W} (world : I.alike w' v)
    (carried : I.Carried (own pid) cmd outcome) :
    I.Mirror T fits u procs own pid w'
      (notes ++ if I.direct cmd then [⟨pid, cmd, choice, outcome⟩] else [])
      ⟨v, d.procs.set i ⟨entry, resume outcome⟩, d.trace ++ [⟨i, cmd, choice, outcome⟩]⟩
      owners where
  reached := by
    refine System.reached_step h.reached (a := .resume i choice) ?_
    exact System.step_answer here (by rw [view]; rfl) he
  world := world
  count := h.count.trans (List.length_set ..).symm
  fit := by
    intro j o q theirs there
    obtain ⟨rfl, rfl⟩ | ⟨_, old⟩ := System.get_answered there
    · -- the call has moved on, its entry is the same
      obtain ⟨p, hp, fit⟩ := h.fit theirs here
      exact ⟨p, hp, fit⟩
    · exact h.fit theirs old
  notes := by
    have number : owners[i]?.getD 0 = pid := by rw [mine, Option.getD_some]
    rw [List.filter_append, List.map_append, h.notes]
    congr 1
    cases direct : I.direct cmd <;> simp [direct, Record.under, number]
  carried := by
    have number : owners.getD i 0 = pid := by simp [mine]
    refine List.forall_mem_append.mpr ⟨h.carried, List.forall_mem_singleton.mpr ?_⟩
    rwa [number]
  others ne hp := (h.others ne hp).answered mine ne _ _ _

theorem Mirror.owner_append (h : I.Mirror T fits u procs own pid w notes d owners)
    {r : Record C' R' ε Ch'} (mem : r ∈ d.trace) (more : List Nat) :
    (owners ++ more).getD r.pid 0 = owners.getD r.pid 0 := by
  obtain ⟨taken, run⟩ := h.reached
  have known : r.pid < owners.length := by
    rw [h.count]
    exact System.run_pid_bound run r mem
  simp [List.getD_eq_getElem?_getD, List.getElem?_append_left known]

theorem Mirror.started (h : I.Mirror T fits u procs own pid w notes d owners) {entry : E'}
    {y : Prog C' R' ε β} {v : W'} (launched : T.launch entry d.world = some (y, v)) {w' : W}
    (world : I.alike w' v) {p : Proc E (Prog C R ε α)} (owner : procs[pid]? = some p)
    (fit : fits p.entry entry) :
    I.Mirror T fits u procs own pid w' notes
      { d with world := v, procs := d.procs ++ [⟨entry, y⟩] } (owners ++ [pid]) where
  reached := by
    refine System.reached_step h.reached (a := .start entry) ?_
    simp only [System.step, launched]
  world := world
  count := by simp [h.count]
  fit := by
    intro j o q theirs there
    obtain old | ⟨rfl, rfl⟩ := System.get_started there
    · have bound := (List.getElem?_eq_some_iff.mp old).choose
      rw [List.getElem?_append_left (by rw [h.count]; exact bound)] at theirs
      exact h.fit theirs old
    · rw [← h.count, List.getElem?_append_right (Nat.le_refl _), Nat.sub_self] at theirs
      cases theirs
      exact ⟨p, owner, fit⟩
  notes := by
    rw [h.notes]
    refine List.map_congr_left fun r mem => ?_
    rw [Record.under, Record.under, h.owner_append (List.mem_filter.mp mem).1]
  carried r mem := by
    rw [h.owner_append mem]
    exact h.carried r mem
  others ne hp := (h.others ne hp).started ne _ _

/-! ## From one awaited command to the next -/

variable (I T fits u procs own pid w notes) in
/-- The component follows call `pid` to this state. -/
def Follows (calls : E' → Prop) (x : Prog C R ε α) : Prop :=
  ∃ d owners, I.Mirror T fits u procs own pid w notes d owners ∧
    I.Standing T calls (own pid) pid x d owners

/-- All inner calls of `pid` but this one have ended. -/
def OthersEnded (T : System rt' β E' (Prog C' R' ε β)) (pid i : Nat)
    (d : Config C' R' ε W' Ch' E' (Prog C' R' ε β)) (owners : List Nat) : Prop :=
  ∀ j, j ≠ i → owners[j]? = some pid → ∃ outcome, T.Ended d j outcome

/-- An inner call in this state is followed, whatever became of the component before. -/
def Continues (I : Interface rt rt') (T : System rt' β E' (Prog C' R' ε β)) (fits : E → E' → Prop)
    (u : W') (procs : List (Proc E (Prog C R ε α))) (own : Nat → List (Answer C R ε)) (pid : Nat)
    (w : W) (notes : List (Record C' R' ε Ch')) (calls : E' → Prop) (y : Prog C' R' ε β)
    (x : Prog C R ε α) : Prop :=
  ∀ d owners i entry, I.Mirror T fits u procs own pid w notes d owners → owners[i]? = some pid →
    d.procs[i]? = some ⟨entry, y⟩ → OthersEnded T pid i d owners →
      Follows I T fits u procs own pid w notes calls x

variable {calls : E' → Prop}

/-- The inner call awaits a command that is being carried out. -/
theorem continues_carried (view : T.view = Prog.view) {f : γ → β} {cmd : C'}
    {resume : Except ε (R' cmd) → Prog C' R' ε γ} {rest : Prog C R ε (R' cmd)}
    {next : Except ε γ → Prog C R ε α} (carries : I.Carries cmd rest)
    (led : I.Led cmd (own pid) rest)
    (orderly : ∀ reply, (resume reply).Within I.asks fun _ => True)
    (later : ∀ outcome, I.Hosts T calls (next outcome))
    (ih : ∀ reply, Continues I T fits u procs own pid w notes calls (f <$> resume reply)
      (((resume reply).handle I.handler).attempt >>= next)) :
    Continues I T fits u procs own pid w notes calls (f <$> Prog.await cmd resume)
      ((rest.attempt >>= fun reply => (resume reply).handle I.handler).attempt >>= next) := by
  intro d owners i entry mirror mine here others
  cases carries with
  | @settled outcome harmless =>
      -- the command is answered at once, and nothing else happens
      obtain ⟨choice, he⟩ := harmless.2 d.world
      have after := mirror.answered view mine here he mirror.world led.carried
      rw [harmless.1, if_neg Bool.false_ne_true, List.append_nil] at after
      rw [Prog.attempt_settled_bind]
      have bound := (List.getElem?_eq_some_iff.mp here).choose
      refine ih outcome _ owners i entry after mine (List.getElem?_set_self bound) ?_
      intro j other theirs
      obtain ⟨outcome', ended⟩ := others j other theirs
      exact ⟨outcome', ended_answered other ended _ _ _⟩
  | elsewhere foreign more =>
      have inside := Inside.carrying (f := f) (.elsewhere foreign more) led orderly later
      exact ⟨d, owners, mirror, .inside mine here inside others⟩
  | here does =>
      have inside := Inside.carrying (f := f) (.here does) led orderly later
      exact ⟨d, owners, mirror, .inside mine here inside others⟩

/-- An inner call goes on to its next command, or ends and the call of the system goes on. -/
theorem continues_handled (view : T.view = Prog.view)
    (carries : ∀ {cmd}, I.asks cmd → I.Carries cmd (I.handler cmd)) {f : γ → β}
    {next : Except ε γ → Prog C R ε α} (later : ∀ outcome, I.Hosts T calls (next outcome))
    (after : ∀ outcome d owners, I.Mirror T fits u procs own pid w notes d owners →
      (∀ i, owners[i]? = some pid → ∃ outcome, T.Ended d i outcome) →
        Follows I T fits u procs own pid w notes calls (next outcome))
    {q : Prog C' R' ε γ} (orderly : q.Within I.asks fun _ => True) :
    Continues I T fits u procs own pid w notes calls (f <$> q)
      ((q.handle I.handler).attempt >>= next) := by
  have last : ∀ outcome : Except ε γ, Continues I T fits u procs own pid w notes calls
      (f <$> Prog.settled outcome)
      (((Prog.settled outcome).handle I.handler).attempt >>= next) := by
    intro outcome d owners i entry mirror mine here others
    rw [Prog.handle_settled, Prog.attempt_settled_bind]
    refine after outcome d owners mirror fun j theirs => ?_
    by_cases same : j = i
    · subst same
      refine ⟨outcome.map f, _, here, ?_⟩
      rw [view, Prog.map_settled, Prog.view_settled]
    · exact others j same theirs
  induction q with
  | done value => exact last (.ok value)
  | fail error => exact last (.error error)
  | await cmd resume ih =>
      exact continues_carried view (carries orderly.1) (.start _) orderly.2 later
        fun reply => ih reply (orderly.2 reply)

theorem follows_called (view : T.view = Prog.view)
    (carries : ∀ {cmd}, I.asks cmd → I.Carries cmd (I.handler cmd)) {p : Proc E (Prog C R ε α)}
    (owner : procs[pid]? = some p) {w' : W}
    (mirror : I.Mirror T fits u procs own pid w' notes d owners)
    (ended : ∀ i, owners[i]? = some pid → ∃ outcome, T.Ended d i outcome) {entry : E'} {f : γ → β}
    {q : Prog C' R' ε γ} {next : Except ε γ → Prog C R ε α} {v : W'}
    (launched : T.launch entry d.world = some (f <$> q, v)) (world : I.alike w v)
    (called : fits p.entry entry) (orderly : q.Within I.asks fun _ => True)
    (later : ∀ outcome, I.Hosts T (fits p.entry) (next outcome))
    (after : ∀ outcome d owners, I.Mirror T fits u procs own pid w notes d owners →
      (∀ i, owners[i]? = some pid → ∃ outcome, T.Ended d i outcome) →
        Follows I T fits u procs own pid w notes (fits p.entry) (next outcome)) :
    Follows I T fits u procs own pid w notes (fits p.entry)
      ((q.handle I.handler).attempt >>= next) := by
  have started := mirror.started launched world owner called
  have newest : (owners ++ [pid])[d.procs.length]? = some pid := by
    rw [← mirror.count]
    simp
  have fresh : (d.procs ++ [⟨entry, f <$> q⟩])[d.procs.length]? = some ⟨entry, f <$> q⟩ := by simp
  refine continues_handled view carries later after orderly _ _ _ entry started newest fresh ?_
  intro j other theirs
  have bound := (List.getElem?_eq_some_iff.mp theirs).choose
  have count := mirror.count
  simp only [List.length_append, List.length_singleton] at bound
  rw [List.getElem?_append_left (by omega)] at theirs
  obtain ⟨outcome, last⟩ := ended j theirs
  exact ⟨outcome, ended_started last _ _⟩

/-- A call of the system without inner calls under way goes on to its next command. -/
theorem follows_hosts (view : T.view = Prog.view)
    (carries : ∀ {cmd}, I.asks cmd → I.Carries cmd (I.handler cmd)) {p : Proc E (Prog C R ε α)}
    (owner : procs[pid]? = some p) {x : Prog C R ε α} (h : I.Hosts T (fits p.entry) x) :
    ∀ d owners, I.Mirror T fits u procs own pid w notes d owners →
      (∀ i, owners[i]? = some pid → ∃ outcome, T.Ended d i outcome) →
        Follows I T fits u procs own pid w notes (fits p.entry) x := by
  induction h with
  | settled outcome =>
      exact fun d owners mirror ended => ⟨d, owners, mirror, .outside (.settled outcome) ended⟩
  | await foreign later =>
      exact fun d owners mirror ended => ⟨d, owners, mirror, .outside (.await foreign later) ended⟩
  | call called launched orderly later ih =>
      intro d owners mirror ended
      exact follows_called view carries owner mirror ended (launched d.world) mirror.world called
        orderly later ih

end

/-! ## Runs -/

/-- The calls of `S` are made of calls of the component `T`, of the kinds that fit. -/
structure Embeds (I : Interface rt rt') (S : System rt α E (Prog C R ε α))
    (T : System rt' β E' (Prog C' R' ε β)) (fits : E → E' → Prop) : Prop where
  view : S.view = Prog.view
  view' : T.view = Prog.view
  carries : ∀ {cmd}, I.asks cmd → I.Carries cmd (I.handler cmd)
  foreign : ∀ {c choice w u reply v}, I.foreign c → I.alike w u →
    rt.exec c choice w = some (reply, v) → I.alike v u
  unnoted : ∀ {pid c choice reply}, I.foreign c → I.part ⟨pid, c, choice, reply⟩ = none
  launched : ∀ {entry w u x v}, I.alike w u → S.launch entry w = some (x, v) →
    (I.alike v u ∧ I.Hosts T (fits entry) x) ∨
      ∃ (γ : Type) (f : γ → β) (q : Prog C' R' ε γ) (next : Except ε γ → Prog C R ε α)
        (entry' : E') (u' : W'), fits entry entry' ∧ T.launch entry' u = some (f <$> q, u') ∧
          I.alike v u' ∧ q.Within I.asks (fun _ => True) ∧
          (∀ outcome, I.Hosts T (fits entry) (next outcome)) ∧
            x = (q.handle I.handler).attempt >>= next
  moved : ∀ {event w u v}, I.alike w u → rt.env event w = some v →
    I.alike v u ∨ ∃ event' u', rt'.env event' u = some u' ∧ I.alike v u'

/-- `d` is a configuration of the component, reached from `u`, that does what the calls of the
system do inside; `owners` tells in which call of the system each of its calls was made. -/
structure Part (I : Interface rt rt') (T : System rt' β E' (Prog C' R' ε β))
    (fits : E → E' → Prop) (u : W') (c : Config C R ε W Ch E (Prog C R ε α))
    (d : Config C' R' ε W' Ch' E' (Prog C' R' ε β)) (owners : List Nat) : Prop where
  reached : ∃ taken, T.run (.initial u) taken = some d
  world : I.alike c.world d.world
  count : owners.length = d.procs.length
  fit : ∀ {i o : Nat} {q : Proc E' (Prog C' R' ε β)}, owners[i]? = some o →
    d.procs[i]? = some q → ∃ p : Proc E (Prog C R ε α), c.procs[o]? = some p ∧ fits p.entry q.entry
  notes : c.trace.filterMap I.part =
    (d.trace.filter fun r => I.direct r.cmd).map (Record.under owners)
  carried : ∀ r ∈ d.trace,
    I.Carried ((c.own (owners.getD r.pid 0)).map Record.answer) r.cmd r.reply
  standing : ∀ {o : Nat} {p : Proc E (Prog C R ε α)}, c.procs[o]? = some p →
    I.Standing T (fits p.entry) ((c.own o).map Record.answer) o p.state d owners

section

variable {I} {T} {fits} {S : System rt α E (Prog C R ε α)} {u : W'}
  {c c' : Config C R ε W Ch E (Prog C R ε α)}
  {d : Config C' R' ε W' Ch' E' (Prog C' R' ε β)} {owners : List Nat}

/-- The part, with call `pid` left open: it may have been answered since. -/
theorem Part.mirror (h : Part I T fits u c d owners) {pid : Nat}
    {procs : List (Proc E (Prog C R ε α))} {own : Nat → List (Answer C R ε)}
    (same : ∀ {o : Nat} {p : Proc E (Prog C R ε α)}, o ≠ pid → procs[o]? = some p →
      c.procs[o]? = some p)
    (kept : ∀ {o : Nat} {p : Proc E (Prog C R ε α)}, c.procs[o]? = some p →
      ∃ p' : Proc E (Prog C R ε α), procs[o]? = some p' ∧ p'.entry = p.entry)
    (others : ∀ {o : Nat}, o ≠ pid → own o = (c.own o).map Record.answer)
    (longer : ∃ more, own pid = (c.own pid).map Record.answer ++ more) :
    I.Mirror T fits u procs own pid c.world (c.trace.filterMap I.part) d owners where
  reached := h.reached
  world := h.world
  count := h.count
  fit theirs there := by
    obtain ⟨p, hp, fit⟩ := h.fit theirs there
    obtain ⟨p', hp', entry⟩ := kept hp
    exact ⟨p', hp', by rwa [entry]⟩
  notes := h.notes
  carried r mem := by
    have carried := h.carried r mem
    by_cases mine : owners.getD r.pid 0 = pid
    · obtain ⟨more, longer⟩ := longer
      rw [mine] at carried ⊢
      rw [longer]
      exact carried.append more
    · rwa [others mine]
  others ne hp := by
    rw [others ne]
    exact h.standing (same ne hp)

/-- Every call of the component was made in a call of the system that makes such calls. -/
theorem Part.owned (h : Part I T fits u c d owners) {i : Nat} {q : Proc E' (Prog C' R' ε β)}
    (here : d.procs[i]? = some q) : ∃ o, ∃ p : Proc E (Prog C R ε α), owners[i]? = some o ∧
      c.procs[o]? = some p ∧ fits p.entry q.entry := by
  have bound : i < owners.length := by
    rw [h.count]
    exact (List.getElem?_eq_some_iff.mp here).choose
  have mine := List.getElem?_eq_getElem bound
  obtain ⟨p, hp, fit⟩ := h.fit mine here
  exact ⟨_, p, mine, hp, fit⟩

/-- Only calls that were started own calls of the component. -/
theorem Part.owner_lt (h : Part I T fits u c d owners) {i o : Nat} (owned : owners[i]? = some o) :
    o < c.procs.length := by
  have bound := (List.getElem?_eq_some_iff.mp owned).choose
  rw [h.count] at bound
  obtain ⟨p, hp, _⟩ := h.fit owned (List.getElem?_eq_getElem bound)
  exact (List.getElem?_eq_some_iff.mp hp).choose

theorem Part.of_follows {pid : Nat} {p : Proc E (Prog C R ε α)} (hp : c.procs[pid]? = some p)
    (h : Follows I T fits u c.procs (fun o => (c.own o).map Record.answer) pid c.world
      (c.trace.filterMap I.part) (fits p.entry) p.state) :
    ∃ d owners, Part I T fits u c d owners := by
  obtain ⟨d, owners, mirror, here⟩ := h
  refine ⟨d, owners, mirror.reached, mirror.world, mirror.count, mirror.fit, mirror.notes,
    mirror.carried, ?_⟩
  intro o q hq
  by_cases same : o = pid
  · subst same
    obtain rfl : p = q := by simpa [hp] using hq
    exact here
  · exact mirror.others same hq

theorem Mirror.moved {procs : List (Proc E (Prog C R ε α))} {own : Nat → List (Answer C R ε)}
    {pid : Nat} {w v : W} {notes : List (Record C' R' ε Ch')}
    (h : I.Mirror T fits u procs own pid w notes d owners)
    (world : I.alike v d.world) : I.Mirror T fits u procs own pid v notes d owners :=
  { h with world := world }

theorem Embeds.start (embeds : Embeds I S T fits) (h : Part I T fits u c d owners) {entry : E}
    (hs : S.step c (.start entry) = some c') : ∃ d' owners', Part I T fits u c' d' owners' := by
  obtain ⟨x, v, hl, rfl⟩ := System.step_start hs
  have here : (c.procs ++ [⟨entry, x⟩])[c.procs.length]? = some ⟨entry, x⟩ := by simp
  have mirror : I.Mirror T fits u (c.procs ++ [⟨entry, x⟩]) (fun o => (c.own o).map Record.answer)
      c.procs.length c.world (c.trace.filterMap I.part) d owners := by
    refine h.mirror ?_ ?_ (fun _ => rfl) ⟨[], (List.append_nil _).symm⟩
    · exact fun ne hp => (System.get_started hp).resolve_right fun new => ne new.1
    · intro o p hp
      refine ⟨p, ?_, rfl⟩
      rwa [List.getElem?_append_left (List.getElem?_eq_some_iff.mp hp).choose]
  have ended : ∀ i : Nat, owners[i]? = some c.procs.length → ∃ outcome, T.Ended d i outcome :=
    fun i owned => absurd (h.owner_lt owned) (Nat.lt_irrefl _)
  refine Part.of_follows here ?_
  rcases embeds.launched h.world hl with ⟨world, hosts⟩ | ⟨γ, f, q, next, entry', u', called, hl',
    world, orderly, later, rfl⟩
  · exact follows_hosts embeds.view' embeds.carries here hosts d owners (mirror.moved world) ended
  · exact follows_called embeds.view' embeds.carries here mirror ended hl' world called orderly
      later fun outcome => follows_hosts embeds.view' embeds.carries here (later outcome)

theorem Embeds.answered (embeds : Embeds I S T fits) (h : Part I T fits u c d owners) {pid : Nat}
    {p : Proc E (Prog C R ε α)} (hp : c.procs[pid]? = some p) {cmd : C}
    {resume : Except ε (R cmd) → Prog C R ε α} (shown : p.state = .await cmd resume) {choice : Ch}
    {reply : Except ε (R cmd)} {v : W} (he : rt.exec cmd choice c.world = some (reply, v))
    {procs : List (Proc E (Prog C R ε α))} {own : Nat → List (Answer C R ε)}
    (here : procs[pid]? = some ⟨p.entry, resume reply⟩)
    (mirror : I.Mirror T fits u procs own pid c.world (c.trace.filterMap I.part) d owners)
    (longer : own pid = (c.own pid).map Record.answer ++ [⟨cmd, reply⟩]) :
    Follows I T fits u procs own pid v
      (c.trace.filterMap I.part ++ [(⟨pid, cmd, choice, reply⟩ : Record C R ε Ch)].filterMap I.part)
      (fits p.entry) (resume reply) := by
  have silent (foreign : I.foreign cmd) :
      [(⟨pid, cmd, choice, reply⟩ : Record C R ε Ch)].filterMap I.part = [] := by
    rw [List.filterMap_cons_none (embeds.unnoted foreign), List.filterMap_nil]
  have standing := h.standing hp
  rw [shown] at standing
  cases standing with
  | outside outside ended =>
      obtain ⟨foreign, later⟩ := outside.awaited
      rw [silent foreign, List.append_nil]
      have world := embeds.foreign foreign h.world he
      exact follows_hosts embeds.view' embeds.carries here (later reply) d owners
        (mirror.moved world) ended
  | @inside i q mine there inside ended =>
      obtain ⟨entry, y⟩ := q
      obtain ⟨γ, f, cmd', resume', c', rest, next, same, rfl, carries, led, orderly, later⟩ :=
        inside.carried
      cases same
      have led := led.answered reply
      rw [← longer] at led
      have goes : ∀ {w notes} (outcome : Except ε (R' cmd')), Continues I T fits u procs own pid w
          notes (fits p.entry) (f <$> resume' outcome)
          (((resume' outcome).handle I.handler).attempt >>= next) := fun outcome =>
        continues_handled embeds.view' embeds.carries later
          (fun outcome => follows_hosts embeds.view' embeds.carries here (later outcome))
          (orderly outcome)
      rcases carries.awaited with ⟨foreign, more⟩ | ⟨direct, does⟩
      · rw [silent foreign, List.append_nil]
        have world := embeds.foreign foreign h.world he
        exact continues_carried embeds.view' (more reply) led orderly later goes d owners i entry
          (mirror.moved world) mine there ended
      · obtain ⟨outcome, choice', u', same, he', world, noted⟩ := does h.world he
        rw [same] at led
        have answered := mirror.answered embeds.view' mine there he' world led.carried
        rw [if_pos direct] at answered
        rw [List.filterMap_cons_some (noted pid), List.filterMap_nil]
        dsimp only
        rw [same, Prog.attempt_settled_bind]
        have within := (List.getElem?_eq_some_iff.mp there).choose
        refine goes outcome _ owners i entry answered mine (List.getElem?_set_self within) ?_
        intro j other theirs
        obtain ⟨outcome', last⟩ := ended j other theirs
        exact ⟨outcome', ended_answered other last _ _ _⟩

theorem Embeds.resume (embeds : Embeds I S T fits) (h : Part I T fits u c d owners) {pid : Nat}
    {choice : Ch} (hs : S.step c (.resume pid choice) = some c') :
    ∃ d' owners', Part I T fits u c' d' owners' := by
  obtain ⟨p, cmd, resume, reply, v, hp, hv, he, rfl⟩ := System.step_resume hs
  have shown : p.state = .await cmd resume := by
    rw [embeds.view] at hv
    exact Prog.eq_of_view_awaits hv
  have bound := (List.getElem?_eq_some_iff.mp hp).choose
  have here : (c.procs.set pid ⟨p.entry, resume reply⟩)[pid]? = some ⟨p.entry, resume reply⟩ :=
    List.getElem?_set_self bound
  refine Part.of_follows here ?_
  have longer := congrArg (List.map Record.answer) (System.own_append_self c pid cmd choice reply v
    (c.procs.set pid ⟨p.entry, resume reply⟩))
  rw [List.map_append] at longer
  show Follows I T fits u _ _ pid v ((c.trace ++ [_]).filterMap I.part) (fits p.entry)
    (resume reply)
  rw [List.filterMap_append]
  refine embeds.answered h hp shown he here (h.mirror ?_ ?_ ?_ ⟨_, longer⟩) longer
  · exact fun ne hq => ((System.get_answered hq).resolve_left fun own => ne own.1).2
  · intro o q hq
    by_cases same : o = pid
    · subst same
      obtain rfl : p = q := by simpa [hp] using hq
      exact ⟨_, here, rfl⟩
    · exact ⟨q, by rwa [List.getElem?_set_ne (Ne.symm same)], rfl⟩
  · intro o other
    exact congrArg (List.map Record.answer) (System.own_append_of_ne c (Ne.symm other) cmd choice
      reply v _)

theorem Embeds.env (embeds : Embeds I S T fits) (h : Part I T fits u c d owners) {event : V}
    (hs : S.step c (.env event) = some c') : ∃ d' owners', Part I T fits u c' d' owners' := by
  obtain ⟨v, hv, rfl⟩ := System.step_env hs
  rcases embeds.moved h.world hv with world | ⟨event', u', moved, world⟩
  · exact ⟨d, owners, { h with world := world }⟩
  · have moves : T.step d (.env event') = some { d with world := u' } := by
      simp only [System.step, moved]
    have reached := System.reached_step h.reached moves
    refine ⟨_, owners, reached, world, h.count, h.fit, h.notes, h.carried, fun hp => ?_⟩
    cases h.standing hp with
    | outside outside ended => exact .outside outside ended
    | inside mine there inside ended => exact .inside mine there inside ended

theorem run_hosted (embeds : Embeds I S T fits) {w : W} (start : I.alike w u)
    {actions : List (Action E Ch V)} (h : S.run (.initial w) actions = some c) :
    ∃ d owners, Part I T fits u c d owners := by
  refine System.run_invariant (fun c => ∃ d owners, Part I T fits u c d owners) ?_ h ?_
  · rintro c a c' ⟨d, owners, part⟩ hs
    cases a with
    | start entry => exact embeds.start part hs
    | resume pid choice => exact embeds.resume part hs
    | env event => exact embeds.env part hs
  · refine ⟨.initial u, [], ⟨[], rfl⟩, start, rfl, ?_, rfl, ?_, ?_⟩
    · intro i o q none
      cases none
    · intro r none
      cases none
    · intro o p none
      cases none

/-- What a call of the system awaits and is not foreign carries out what a call of the component
awaits inside. -/
theorem Part.awaited (view : S.view = Prog.view) (view' : T.view = Prog.view)
    (h : Part I T fits u c d owners) {pid : Nat} {cmd : C} (awaits : S.Awaits c pid cmd)
    (own : ¬ I.foreign cmd) :
    ∃ i cmd' resume, owners[i]? = some pid ∧ T.Awaits d i cmd' ∧ I.Does cmd' cmd resume := by
  obtain ⟨p, resume, hp, hv⟩ := awaits
  rw [view] at hv
  have state := Prog.eq_of_view_awaits hv
  cases h.standing hp with
  | outside outside _ =>
      rw [state] at outside
      exact (own outside.awaited.1).elim
  | @inside i q mine here inside _ =>
      obtain ⟨_, f, cmd', resume', _, rest, _, shown, inner, carries, _⟩ := inside.carried
      rw [state] at shown
      cases shown
      rcases carries.awaited with ⟨foreign, _⟩ | does
      · exact (own foreign).elim
      · refine ⟨i, cmd', rest, mine, ⟨q, fun reply => f <$> resume' reply, here, ?_⟩, does⟩
        rw [view', inner]
        rfl

end
end Interface
end Concurrency
