import SalesforceTikTok.Concurrency.Handler
import SalesforceTikTok.Concurrency.Invariant

/-!
# Contracts of programs

What a program may ask and how it may end, whatever it is answered. `Within`
looks at one command at a time; `Meets` also at what was answered before, in the
manner of a weakest precondition over the history of the call. The contract of
the launched programs holds of every call of every run (`run_contract`), and a
call that is answered comes to its end (`run_settles`, `no_endless_call`).
-/

namespace Concurrency

structure Answer (C : Type) (R : C → Type) (ε : Type) where
  cmd : C
  reply : Except ε (R cmd)

variable {C C' : Type} {R : C → Type} {R' : C' → Type} {ε α β W Ch V E X : Type}

def Record.answer (r : Record C R ε Ch) : Answer C R ε := ⟨r.cmd, r.reply⟩

namespace Prog

/-! ## Commands one at a time -/

/-- Every command the program can await satisfies `P`, every outcome `Q`. -/
def Within (P : C → Prop) (Q : Except ε α → Prop) : Prog C R ε α → Prop
  | done value => Q (.ok value)
  | fail error => Q (.error error)
  | await cmd resume => P cmd ∧ ∀ reply, (resume reply).Within P Q

section

variable {P : C → Prop}

@[simp] theorem within_call {cmd : C} {Q : Except ε (R cmd) → Prop} :
    (call cmd : Prog C R ε (R cmd)).Within P Q ↔ P cmd ∧ ∀ reply, Q reply := by
  constructor
  · rintro ⟨asked, ends⟩
    refine ⟨asked, fun reply => ?_⟩
    cases reply with
    | ok value => exact ends (.ok value)
    | error error => exact ends (.error error)
  · rintro ⟨asked, ends⟩
    refine ⟨asked, fun reply => ?_⟩
    cases reply with
    | ok value => exact ends (.ok value)
    | error error => exact ends (.error error)

theorem within_any (p : Prog C R ε α) : p.Within (fun _ => True) fun _ => True := by
  induction p with
  | done value => trivial
  | fail error => trivial
  | await cmd resume ih => exact ⟨trivial, ih⟩

theorem Within.imp {P' : C → Prop} {Q Q' : Except ε α → Prop} {p : Prog C R ε α}
    (h : p.Within P Q) (weakerP : ∀ cmd, P cmd → P' cmd)
    (weakerQ : ∀ outcome, Q outcome → Q' outcome) : p.Within P' Q' := by
  induction p with
  | done value => exact weakerQ _ h
  | fail error => exact weakerQ _ h
  | await cmd resume ih => exact ⟨weakerP cmd h.1, fun reply => ih reply (h.2 reply)⟩

@[simp] theorem within_bind {Q : Except ε β → Prop} {p : Prog C R ε α}
    {next : α → Prog C R ε β} :
    (p >>= next).Within P Q ↔ p.Within P fun
      | .ok value => (next value).Within P Q
      | .error error => Q (.error error) := by
  induction p with
  | done value => exact Iff.rfl
  | fail error => exact Iff.rfl
  | await cmd resume ih => exact and_congr_right fun _ => forall_congr' ih

@[simp] theorem within_catch {Q : Except ε α → Prop} {p : Prog C R ε α}
    {handler : ε → Prog C R ε α} :
    (tryCatch p handler).Within P Q ↔ p.Within P fun
      | .ok value => Q (.ok value)
      | .error error => (handler error).Within P Q := by
  induction p with
  | done value => exact Iff.rfl
  | fail error => exact Iff.rfl
  | await cmd resume ih => exact and_congr_right fun _ => forall_congr' ih

theorem within_pure (value : α) : (pure value : Prog C R ε α).Within P fun _ => True := trivial

theorem Within.call {cmd : C} (asked : P cmd) :
    (Prog.call cmd : Prog C R ε (R cmd)).Within P fun _ => True :=
  within_call.mpr ⟨asked, fun _ => trivial⟩

theorem Within.bind {p : Prog C R ε α} {next : α → Prog C R ε β} (h : p.Within P fun _ => True)
    (rest : ∀ value, (next value).Within P fun _ => True) : (p >>= next).Within P fun _ => True :=
  within_bind.mpr (h.imp (fun _ asked => asked) fun
    | .ok value, _ => rest value
    | .error _, _ => trivial)

theorem Within.catch {p : Prog C R ε α} {handler : ε → Prog C R ε α} {Q : Except ε α → Prop}
    (h : p.Within P fun _ => True) (value : ∀ value, Q (.ok value))
    (rest : ∀ error, (handler error).Within P Q) : (tryCatch p handler).Within P Q :=
  within_catch.mpr (h.imp (fun _ asked => asked) fun
    | .ok _, _ => value _
    | .error error, _ => rest error)

/-- Carrying out the commands turns what is asked into what carrying it out asks. -/
theorem Within.handle {P' : C' → Prop} {Q : Except ε α → Prop} {p : Prog C R ε α}
    {handler : (cmd : C) → Prog C' R' ε (R cmd)} (h : p.Within P Q)
    (carried : ∀ cmd, P cmd → (handler cmd).Within P' fun _ => True) :
    (p.handle handler).Within P' Q := by
  induction p with
  | done value => exact h
  | fail error => exact h
  | await cmd resume ih =>
      rw [handle_await, within_bind]
      have rest : ∀ reply, ((resume reply).handle handler).Within P' Q :=
        fun reply => ih reply (h.2 reply)
      have here := carried cmd h.1
      generalize handler cmd = program at here
      induction program with
      | done value => exact rest (.ok value)
      | fail error => exact rest (.error error)
      | await cmd' resume' ih' => exact ⟨here.1, fun reply => ih' reply (here.2 reply)⟩

end

/-! ## Commands with their history -/

section

variable (can : (cmd : C) → Except ε (R cmd) → Prop) (asks : List (Answer C R ε) → C → Prop)

/-- Started after `history` and answered as `can` allows, the program awaits only what
`asks` allows at that point, and ends as `ends` says. -/
def Meets (ends : List (Answer C R ε) → Except ε α → Prop) :
    Prog C R ε α → List (Answer C R ε) → Prop
  | done value, history => ends history (.ok value)
  | fail error, history => ends history (.error error)
  | await cmd resume, history =>
      asks history cmd ∧
        ∀ reply, can cmd reply → (resume reply).Meets ends (history ++ [⟨cmd, reply⟩])

variable {can asks}

theorem Meets.awaited {ends : List (Answer C R ε) → Except ε α → Prop} {p : Prog C R ε α}
    {history : List (Answer C R ε)} (h : p.Meets can asks ends history) {cmd : C}
    {resume : Except ε (R cmd) → Prog C R ε α} (shown : p.view = .awaits cmd resume) :
    asks history cmd := by
  rw [eq_of_view_awaits shown] at h
  exact h.1

theorem Meets.ended {ends : List (Answer C R ε) → Except ε α → Prop} {p : Prog C R ε α}
    {history : List (Answer C R ε)} (h : p.Meets can asks ends history) {outcome : Except ε α}
    (shown : p.view = .ended outcome) : ends history outcome := by
  cases outcome with
  | ok value =>
      rw [eq_of_view_ok shown] at h
      exact h
  | error error =>
      rw [eq_of_view_error shown] at h
      exact h

theorem Meets.mono {asks' : List (Answer C R ε) → C → Prop}
    {ends ends' : List (Answer C R ε) → Except ε α → Prop} {p : Prog C R ε α}
    {history : List (Answer C R ε)} (h : p.Meets can asks ends history)
    (asked : ∀ history cmd, asks history cmd → asks' history cmd)
    (ended : ∀ history outcome, ends history outcome → ends' history outcome) :
    p.Meets can asks' ends' history := by
  induction p generalizing history with
  | done value => exact ended _ _ h
  | fail error => exact ended _ _ h
  | await cmd resume ih =>
      exact ⟨asked _ _ h.1, fun reply possible => ih reply (h.2 reply possible)⟩

theorem Meets.imp {ends ends' : List (Answer C R ε) → Except ε α → Prop} {p : Prog C R ε α}
    {history : List (Answer C R ε)} (h : p.Meets can asks ends history)
    (weaker : ∀ history outcome, ends history outcome → ends' history outcome) :
    p.Meets can asks ends' history :=
  h.mono (fun _ _ asked => asked) weaker

theorem meets_bind {ends : List (Answer C R ε) → Except ε β → Prop} {p : Prog C R ε α}
    {next : α → Prog C R ε β} {history : List (Answer C R ε)} :
    (p >>= next).Meets can asks ends history ↔ p.Meets can asks (fun history outcome =>
      match outcome with
      | .ok value => (next value).Meets can asks ends history
      | .error error => ends history (.error error)) history := by
  induction p generalizing history with
  | done value => exact Iff.rfl
  | fail error => exact Iff.rfl
  | await cmd resume ih =>
      exact and_congr_right fun _ => forall_congr' fun reply => imp_congr_right fun _ => ih reply

theorem meets_catch {ends : List (Answer C R ε) → Except ε α → Prop} {p : Prog C R ε α}
    {handler : ε → Prog C R ε α} {history : List (Answer C R ε)} :
    (tryCatch p handler).Meets can asks ends history ↔ p.Meets can asks (fun history outcome =>
      match outcome with
      | .ok value => ends history (.ok value)
      | .error error => (handler error).Meets can asks ends history) history := by
  induction p generalizing history with
  | done value => exact Iff.rfl
  | fail error => exact Iff.rfl
  | await cmd resume ih =>
      exact and_congr_right fun _ => forall_congr' fun reply => imp_congr_right fun _ => ih reply

theorem Meets.and {ends ends' : List (Answer C R ε) → Except ε α → Prop} {p : Prog C R ε α}
    {history : List (Answer C R ε)} (h : p.Meets can asks ends history)
    (h' : p.Meets can asks ends' history) :
    p.Meets can asks (fun final outcome => ends final outcome ∧ ends' final outcome) history := by
  induction p generalizing history with
  | done value => exact ⟨h, h'⟩
  | fail error => exact ⟨h, h'⟩
  | await cmd resume ih =>
      exact ⟨h.1, fun reply possible => ih reply (h.2 reply possible) (h'.2 reply possible)⟩

theorem Meets.bind {mid : List (Answer C R ε) → Except ε α → Prop}
    {ends : List (Answer C R ε) → Except ε β → Prop} {p : Prog C R ε α}
    {next : α → Prog C R ε β} {history : List (Answer C R ε)}
    (h : p.Meets can asks mid history)
    (ok : ∀ final value, mid final (.ok value) → (next value).Meets can asks ends final)
    (error : ∀ final e, mid final (.error e) → ends final (.error e)) :
    (p >>= next).Meets can asks ends history := by
  refine meets_bind.mpr (h.imp fun final outcome ended => ?_)
  cases outcome with
  | ok value => exact ok final value ended
  | error e => exact error final e ended

theorem Meets.catch {mid ends : List (Answer C R ε) → Except ε α → Prop} {p : Prog C R ε α}
    {handler : ε → Prog C R ε α} {history : List (Answer C R ε)}
    (h : p.Meets can asks mid history)
    (ok : ∀ final value, mid final (.ok value) → ends final (.ok value))
    (error : ∀ final e, mid final (.error e) → (handler e).Meets can asks ends final) :
    (tryCatch p handler).Meets can asks ends history := by
  refine meets_catch.mpr (h.imp fun final outcome ended => ?_)
  cases outcome with
  | ok value => exact ok final value ended
  | error e => exact error final e ended

theorem Meets.caught {ends : List (Answer C R ε) → Except ε α → Prop} {p : Prog C R ε α}
    {handler : ε → Prog C R ε α} {history : List (Answer C R ε)}
    (h : p.Meets can asks (fun _ _ => True) history)
    (ok : ∀ final value, ends final (.ok value))
    (error : ∀ final e, (handler e).Meets can asks ends final) :
    (tryCatch p handler).Meets can asks ends history :=
  h.catch (fun final value _ => ok final value) fun final e _ => error final e

theorem Meets.call_bind {ends : List (Answer C R ε) → Except ε β → Prop} {cmd : C}
    {next : R cmd → Prog C R ε β} {history : List (Answer C R ε)} (asked : asks history cmd)
    (ok : ∀ value, can cmd (.ok value) →
      (next value).Meets can asks ends (history ++ [⟨cmd, .ok value⟩]))
    (error : ∀ e, can cmd (.error e) → ends (history ++ [⟨cmd, .error e⟩]) (.error e)) :
    (Prog.call cmd >>= next).Meets can asks ends history := by
  refine ⟨asked, fun reply possible => ?_⟩
  cases reply with
  | ok value => exact ok value possible
  | error e => exact error e possible

/-- What follows the attempt of a part may use how the part ended. -/
theorem meets_attempt {ends : List (Answer C R ε) → Except ε β → Prop} {p : Prog C R ε α}
    {next : Except ε α → Prog C R ε β} {history : List (Answer C R ε)} :
    (p.attempt >>= next).Meets can asks ends history ↔
      p.Meets can asks (fun final outcome => (next outcome).Meets can asks ends final) history := by
  induction p generalizing history with
  | done value => exact Iff.rfl
  | fail error => exact Iff.rfl
  | await cmd resume ih =>
      exact and_congr_right fun _ => forall_congr' fun reply => imp_congr_right fun _ => ih reply

/-- A program carried out by a handler keeps its contract, if every part that carries out a
command keeps the two histories related. -/
theorem Meets.handle {can' : (cmd : C') → Except ε (R' cmd) → Prop}
    {asks' : List (Answer C' R' ε) → C' → Prop}
    {related : List (Answer C' R' ε) → List (Answer C R ε) → Prop}
    {handler : (cmd : C) → Prog C' R' ε (R cmd)}
    {ends : List (Answer C R ε) → Except ε α → Prop} {p : Prog C R ε α}
    (carried : ∀ outer inner cmd, related outer inner → asks inner cmd →
      (handler cmd).Meets can' asks' (fun final outcome =>
        can cmd outcome ∧ related final (inner ++ [⟨cmd, outcome⟩])) outer)
    {outer : List (Answer C' R' ε)} {inner : List (Answer C R ε)}
    (h : p.Meets can asks ends inner) (start : related outer inner) :
    (p.handle handler).Meets can' asks' (fun final outcome =>
      ∃ inner, related final inner ∧ ends inner outcome) outer := by
  induction p generalizing outer inner with
  | done value => exact ⟨inner, start, h⟩
  | fail error => exact ⟨inner, start, h⟩
  | await cmd resume ih =>
      rw [handle_await, meets_attempt]
      refine (carried outer inner cmd start h.1).imp fun final outcome ended => ?_
      exact ih outcome (h.2 outcome ended.1) ended.2

/-- A part whose commands are always in order only lengthens the history, by these. -/
theorem Within.meets {P : C → Prop} {Q : Except ε α → Prop}
    {ends : List (Answer C R ε) → Except ε α → Prop} {p : Prog C R ε α}
    {history : List (Answer C R ε)} (h : p.Within P Q)
    (asked : ∀ more cmd, (∀ a ∈ more, P a.cmd) → P cmd → asks (history ++ more) cmd)
    (ended : ∀ more outcome, (∀ a ∈ more, P a.cmd) → Q outcome → ends (history ++ more) outcome) :
    p.Meets can asks ends history := by
  induction p generalizing history with
  | done value =>
      have last := ended [] _ (by simp) h
      rwa [List.append_nil] at last
  | fail error =>
      have last := ended [] _ (by simp) h
      rwa [List.append_nil] at last
  | await cmd resume ih =>
      refine ⟨by simpa using asked [] cmd (by simp) h.1, fun reply _ => ?_⟩
      have first {more : List (Answer C R ε)} (later : ∀ a ∈ more, P a.cmd) :
          ∀ a ∈ (⟨cmd, reply⟩ : Answer C R ε) :: more, P a.cmd := by
        intro a ha
        rcases List.mem_cons.mp ha with rfl | ha
        · exact h.1
        · exact later a ha
      apply ih reply (h.2 reply)
      · intro more cmd' later asked'
        simpa using asked (⟨cmd, reply⟩ :: more) cmd' (first later) asked'
      · intro more outcome later ended'
        simpa using ended (⟨cmd, reply⟩ :: more) outcome (first later) ended'

/-! ## Contracts that hold wherever the program starts -/

variable (can asks) in
/-- After whatever history it is started, the program awaits only what is in order. -/
def Throughout (p : Prog C R ε α) : Prop :=
  ∀ history, p.Meets can asks (fun _ _ => True) history

theorem throughout_pure (value : α) : (pure value : Prog C R ε α).Throughout can asks :=
  fun _ => trivial

theorem throughout_fail (error : ε) : (fail error : Prog C R ε α).Throughout can asks :=
  fun _ => trivial

theorem Throughout.call {cmd : C} (asked : ∀ history, asks history cmd) :
    (Prog.call cmd : Prog C R ε (R cmd)).Throughout can asks :=
  fun history => ⟨asked history, fun reply _ => by cases reply <;> trivial⟩

theorem Throughout.bind {p : Prog C R ε α} {next : α → Prog C R ε β} (h : p.Throughout can asks)
    (rest : ∀ value, (next value).Throughout can asks) : (p >>= next).Throughout can asks := by
  intro history
  refine meets_bind.mpr ((h history).imp fun final outcome _ => ?_)
  cases outcome with
  | ok value => exact rest value final
  | error error => trivial

theorem Throughout.catch {p : Prog C R ε α} {handler : ε → Prog C R ε α}
    (h : p.Throughout can asks) (rest : ∀ error, (handler error).Throughout can asks) :
    (tryCatch p handler).Throughout can asks := by
  intro history
  refine meets_catch.mpr ((h history).imp fun final outcome _ => ?_)
  cases outcome with
  | ok value => trivial
  | error error => exact rest error final

theorem Throughout.attempt {p : Prog C R ε α} {next : Except ε α → Prog C R ε β}
    (h : p.Throughout can asks) (rest : ∀ outcome, (next outcome).Throughout can asks) :
    (p.attempt >>= next).Throughout can asks :=
  fun history => meets_attempt.mpr ((h history).imp fun final outcome _ => rest outcome final)

/-- Whatever is asked of a handler, its programs keep their own contract. -/
theorem Throughout.handle {can' : (cmd : C') → Except ε (R' cmd) → Prop}
    {asks' : List (Answer C' R' ε) → C' → Prop} {handler : (cmd : C) → Prog C' R' ε (R cmd)}
    (carried : ∀ cmd, (handler cmd).Throughout can' asks') (p : Prog C R ε α) :
    (p.handle handler).Throughout can' asks' := by
  induction p with
  | done value => exact throughout_pure value
  | fail error => exact throughout_fail error
  | await cmd resume ih => exact .attempt (carried cmd) ih

/-- Commands that are always in order are in order wherever the program starts. -/
theorem Within.throughout {P : C → Prop} {Q : Except ε α → Prop} {p : Prog C R ε α}
    (h : p.Within P Q) : p.Throughout can fun _ cmd => P cmd :=
  fun _ => h.meets (fun _ _ _ asked => asked) fun _ _ _ _ => trivial

/-- What is asked of a handler may be used for its programs, if these end as it can be
answered. -/
theorem Throughout.handled {P : C → Prop} {can' : (cmd : C') → Except ε (R' cmd) → Prop}
    {asks' : List (Answer C' R' ε) → C' → Prop} {handler : (cmd : C) → Prog C' R' ε (R cmd)}
    {p : Prog C R ε α} (h : p.Throughout can fun _ cmd => P cmd)
    (carried : ∀ cmd, P cmd → ∀ history,
      (handler cmd).Meets can' asks' (fun _ outcome => can cmd outcome) history) :
    (p.handle handler).Throughout can' asks' := by
  intro history
  let related : List (Answer C' R' ε) → List (Answer C R ε) → Prop := fun _ _ => True
  have kept : ∀ outer inner cmd, related outer inner → P cmd → (handler cmd).Meets can' asks'
      (fun final outcome => can cmd outcome ∧ related final (inner ++ [⟨cmd, outcome⟩])) outer :=
    fun outer _ cmd _ asked => (carried cmd asked outer).imp fun _ _ ended => ⟨ended, trivial⟩
  exact (Meets.handle kept (h []) trivial).imp fun _ _ _ => trivial

end

end Prog

/-! ## Contracts over runs -/

namespace System

variable {rt : Runtime C R ε W Ch V} {S : System rt α E (Prog C R ε α)}

/-- Every call keeps the contract it was launched with: what remains of it meets the
contract after the commands answered so far, and each of these was asked in order. -/
theorem run_contract {can : (cmd : C) → Except ε (R cmd) → Prop}
    {asks : E → List (Answer C R ε) → C → Prop}
    {ends : E → List (Answer C R ε) → Except ε α → Prop} (view : S.view = Prog.view)
    (possible : ∀ cmd choice w reply v, rt.exec cmd choice w = some (reply, v) → can cmd reply)
    (launched : ∀ entry w x v, S.launch entry w = some (x, v) →
      x.Meets can (asks entry) (ends entry) [])
    {w : W} {c : Config C R ε W Ch E (Prog C R ε α)} {actions : List (Action E Ch V)}
    (h : S.run (.initial w) actions = some c) {pid : Nat} {p : Proc E (Prog C R ε α)}
    (hp : c.procs[pid]? = some p) :
    p.state.Meets can (asks p.entry) (ends p.entry) ((c.own pid).map Record.answer) ∧
      ∀ first r rest, c.own pid = first ++ r :: rest →
        asks p.entry (first.map Record.answer) r.cmd := by
  refine run_own (fun _ => True) (fun entry x history =>
    x.Meets can (asks entry) (ends entry) (history.map Record.answer) ∧
      ∀ first r rest, history = first ++ r :: rest → asks entry (first.map Record.answer) r.cmd)
    ?_ ?_ h (fun _ _ => trivial) hp
  · intro entry w x v hl
    refine ⟨launched entry w x v hl, fun first r rest split => ?_⟩
    simp at split
  · intro entry x history cmd resume pid choice reply w v own hv he _
    obtain ⟨meets, order⟩ := own
    rw [view] at hv
    obtain rfl := Prog.eq_of_view_awaits hv
    constructor
    · rw [List.map_append]
      exact meets.2 reply (possible cmd choice w reply v he)
    · intro first r rest split
      rcases List.eq_nil_or_concat rest with rfl | ⟨rest, last, rfl⟩
      · obtain ⟨rfl, rfl⟩ : history = first ∧ ⟨pid, cmd, choice, reply⟩ = r := by
          simpa using split
        exact meets.1
      · have same : history ++ [⟨pid, cmd, choice, reply⟩] = (first ++ r :: rest) ++ [last] := by
          rw [split]
          simp
        exact order first r rest (List.append_inj_left' same rfl)

/-! ## Calls that come to an end -/

/-- A call all of whose commands can be answered can be brought to its end. -/
theorem run_settles {can : (cmd : C) → Except ε (R cmd) → Prop}
    {asks : List (Answer C R ε) → C → Prop} {ends : List (Answer C R ε) → Except ε α → Prop}
    (view : S.view = Prog.view)
    (possible : ∀ cmd choice w reply v, rt.exec cmd choice w = some (reply, v) → can cmd reply)
    (answerable : ∀ history cmd, asks history cmd → ∀ w, ∃ choice reply v,
      rt.exec cmd choice w = some (reply, v))
    {program : Prog C R ε α} {history : List (Answer C R ε)}
    (meets : program.Meets can asks ends history) {c : Config C R ε W Ch E (Prog C R ε α)}
    {pid : Nat} {entry : E} (hp : c.procs[pid]? = some ⟨entry, program⟩) :
    ∃ (choices : List Ch) (d : Config C R ε W Ch E (Prog C R ε α)) (outcome : Except ε α),
      S.run c (choices.map fun choice => .resume pid choice) = some d ∧
      S.Ended d pid outcome := by
  induction program generalizing history c with
  | done value => exact ⟨[], c, .ok value, rfl, _, hp, by rw [view]; rfl⟩
  | fail error => exact ⟨[], c, .error error, rfl, _, hp, by rw [view]; rfl⟩
  | await cmd resume ih =>
      obtain ⟨choice, reply, v, he⟩ := answerable history cmd meets.1 c.world
      have bound : pid < c.procs.length := (List.getElem?_eq_some_iff.mp hp).choose
      have answered : S.step c (.resume pid choice) = some ⟨v, c.procs.set pid
          ⟨entry, resume reply⟩, c.trace ++ [⟨pid, cmd, choice, reply⟩]⟩ :=
        step_answer hp (by rw [view]; rfl) he
      obtain ⟨choices, d, outcome, run, ended⟩ := ih reply
        (meets.2 reply (possible cmd choice _ reply v he))
        (c := ⟨v, c.procs.set pid ⟨entry, resume reply⟩, c.trace ++ [⟨pid, cmd, choice, reply⟩]⟩)
        (List.getElem?_set_self bound)
      exact ⟨choice :: choices, d, outcome, by simpa only [List.map_cons, System.run, answered],
        ended⟩

/-- What is not an answer to a call leaves that call where it is. -/
theorem step_other {c d : Config C R ε W Ch E X} {S : System rt α E X} {a : Action E Ch V}
    (h : S.step c a = some d) {pid : Nat} (other : ∀ choice, a ≠ .resume pid choice)
    {p : Proc E X} (hp : c.procs[pid]? = some p) : d.procs[pid]? = some p := by
  have bound : pid < c.procs.length := (List.getElem?_eq_some_iff.mp hp).choose
  cases a with
  | start entry =>
      obtain ⟨x, w, _, rfl⟩ := step_start h
      rwa [List.getElem?_append_left bound]
  | resume q choice =>
      obtain ⟨p', cmd, resume, reply, w, _, _, _, rfl⟩ := step_resume h
      have ne : q ≠ pid := fun same => other choice (by rw [same])
      rwa [List.getElem?_set_ne ne]
  | env event =>
      obtain ⟨w, _, rfl⟩ := step_env h
      exact hp

theorem first_answer {S : System rt α E X} {configs : Nat → Config C R ε W Ch E X}
    {actions : Nat → Action E Ch V}
    (steps : ∀ n, S.step (configs n) (actions n) = some (configs (n + 1))) {pid : Nat}
    {p : Proc E X} (hp : (configs 0).procs[pid]? = some p)
    (resumed : ∃ n choice, actions n = .resume pid choice) :
    ∃ n choice, actions n = .resume pid choice ∧ (configs n).procs[pid]? = some p := by
  let First := ∃ n choice, actions n = .resume pid choice ∧ (configs n).procs[pid]? = some p
  have upTo : ∀ n, First ∨ (configs n).procs[pid]? = some p := by
    intro n
    induction n with
    | zero => exact .inr hp
    | succ n ih =>
        rcases ih with first | here
        · exact .inl first
        · by_cases now : ∃ choice, actions n = .resume pid choice
          · obtain ⟨choice, same⟩ := now
            exact .inl ⟨n, choice, same, here⟩
          · exact .inr (step_other (steps n) (fun choice same => now ⟨choice, same⟩) here)
  obtain ⟨n, choice, same⟩ := resumed
  rcases upTo n with first | here
  · exact first
  · exact ⟨n, choice, same, here⟩

theorem never_resumed {S : System rt α E X} {configs : Nat → Config C R ε W Ch E X}
    {actions : Nat → Action E Ch V}
    (steps : ∀ n, S.step (configs n) (actions n) = some (configs (n + 1))) {pid : Nat}
    {p : Proc E X} (hp : (configs 0).procs[pid]? = some p) {outcome : Except ε α}
    (ended : S.view p.state = .ended outcome) (m : Nat) (choice : Ch) :
    actions m ≠ .resume pid choice := by
  intro same
  obtain ⟨n, choice', resumed, here⟩ := first_answer steps hp ⟨m, choice, same⟩
  have hs := steps n
  rw [resumed] at hs
  exact step_ended hs here outcome ended

variable (S) in
/-- The call comes to its end: it can be brought there, and no schedule answers it for ever. -/
def Settles (c : Config C R ε W Ch E (Prog C R ε α)) (pid : Nat) : Prop :=
  (∃ (choices : List Ch) (d : Config C R ε W Ch E (Prog C R ε α)) (outcome : Except ε α),
    S.run c (choices.map fun choice => .resume pid choice) = some d ∧ S.Ended d pid outcome) ∧
  ∀ (configs : Nat → Config C R ε W Ch E (Prog C R ε α)) (actions : Nat → Action E Ch V),
    configs 0 = c → (∀ n, S.step (configs n) (actions n) = some (configs (n + 1))) →
      ∃ n, ∀ m, n ≤ m → ∀ choice, actions m ≠ .resume pid choice

/-- No schedule answers one call for ever: each answer leaves a part of its program. -/
theorem no_endless_call (view : S.view = Prog.view)
    {configs : Nat → Config C R ε W Ch E (Prog C R ε α)} {actions : Nat → Action E Ch V}
    (steps : ∀ n, S.step (configs n) (actions n) = some (configs (n + 1))) {pid : Nat} {entry : E}
    {program : Prog C R ε α} (hp : (configs 0).procs[pid]? = some ⟨entry, program⟩) :
    ∃ n, ∀ m, n ≤ m → ∀ choice, actions m ≠ .resume pid choice := by
  induction program generalizing configs actions with
  | done value => exact ⟨0, fun m _ => never_resumed steps hp (by rw [view]; rfl) m⟩
  | fail error => exact ⟨0, fun m _ => never_resumed steps hp (by rw [view]; rfl) m⟩
  | await cmd resume ih =>
      by_cases answered : ∃ n choice, actions n = .resume pid choice
      · obtain ⟨n, choice, resumed, here⟩ := first_answer steps hp answered
        have hs := steps n
        rw [resumed] at hs
        obtain ⟨p, cmd', resume', reply, w, hp', hv, _, after⟩ := step_resume hs
        obtain rfl : p = ⟨entry, .await cmd resume⟩ := by simpa [here] using hp'.symm
        rw [view] at hv
        cases hv
        have bound : pid < (configs n).procs.length := (List.getElem?_eq_some_iff.mp here).choose
        have next : (configs (n + 1 + 0)).procs[pid]? = some ⟨entry, resume reply⟩ := by
          rw [Nat.add_zero, after]
          exact List.getElem?_set_self bound
        obtain ⟨k, rest⟩ := @ih reply (fun m => configs (n + 1 + m))
          (fun m => actions (n + 1 + m)) (fun m => steps (n + 1 + m)) next
        refine ⟨n + 1 + k, fun m later => ?_⟩
        obtain ⟨i, rfl⟩ : ∃ i, m = n + 1 + i := ⟨m - (n + 1), by omega⟩
        exact rest i (by omega)
      · exact ⟨0, fun m _ choice same => answered ⟨m, choice, same⟩⟩

theorem Settles.of_meets {can : (cmd : C) → Except ε (R cmd) → Prop}
    {asks : List (Answer C R ε) → C → Prop} {ends : List (Answer C R ε) → Except ε α → Prop}
    (view : S.view = Prog.view)
    (possible : ∀ cmd choice w reply v, rt.exec cmd choice w = some (reply, v) → can cmd reply)
    (answerable : ∀ history cmd, asks history cmd → ∀ w, ∃ choice reply v,
      rt.exec cmd choice w = some (reply, v))
    {c : Config C R ε W Ch E (Prog C R ε α)} {pid : Nat} {p : Proc E (Prog C R ε α)}
    (hp : c.procs[pid]? = some p) {history : List (Answer C R ε)}
    (meets : p.state.Meets can asks ends history) : S.Settles c pid := by
  refine ⟨run_settles view possible answerable meets hp, ?_⟩
  rintro configs actions rfl steps
  exact no_endless_call view steps hp

end System
end Concurrency
