import SalesforceTikTok.Process.Startup

/-!
# What a step of the process does

Every answer, launch and event of the process, said once. Which call asked an answered command,
and when, comes from the contracts.
-/

namespace SalesforceTikTok

open Concurrency

variable {port : Binary64}

/-! ## One answer -/

inductive ProcessEffect (w : ProcessWorld) :
    (cmd : ProcessCmd) → Except JsError cmd.Reply → ProcessWorld → Prop where
  | fetched (reply) : ProcessEffect w .fetchToken reply w
  | read (reply) : ProcessEffect w .errorText reply w
  | parsed (reply) : ProcessEffect w .tokenJson reply w
  | subscribed (reply) (now : Bool) : ProcessEffect w .subscribe reply { w with subscribed := now }
  | cancelled (reply) (now : Bool) : ProcessEffect w .cancel reply { w with subscribed := now }
  | timerSet (milliseconds : Nat) :
      ProcessEffect w (.setTimer milliseconds) (.ok (w.clock + milliseconds)) w
  | timed (due : Nat) (late : due ≤ w.clock) : ProcessEffect w (.timer due) (.ok ()) w
  | listening : ProcessEffect w .listen (.ok ()) { w with accepting := true }
  | portRefused (error : JsError) : ProcessEffect w .listen (.error error) w
  | handling : ProcessEffect w .handlers (.ok ()) { w with handling := true }
  | serverClosed (rejecting : w.accepting = false) (drained : w.connections = 0) :
      ProcessEffect w .serverClosed (.ok w.rounds.length)
        { w with rounds := w.rounds ++ [⟨[], []⟩] }
  | allSettled (round : Nat) (all : w.allSettled round = true) :
      ProcessEffect w (.allSettled round) (.ok ()) w
  | closed (r : Resource) (idle : r = .worker → w.jobs = 0) :
      ProcessEffect w (.close r) (.ok ()) (w.close r)
  | closeFailed (r : Resource) (error : JsError) {v : ProcessWorld} (effect : v = w ∨ v = w.close r) :
      ProcessEffect w (.close r) (.error error) v
  | settled (round : Nat) (task : CleanUp) (outcome : Except JsError Unit) :
      ProcessEffect w (.settle round task outcome) (.ok ()) (w.settle round task outcome)
  | exited (code : Nat) (message : String) :
      ProcessEffect w (.exit code message) (.ok ()) (w.exit code message)

theorem processExec_effect {cmd : ProcessCmd} {choice : ProcessChoice} {w v : ProcessWorld}
    {reply : Except JsError cmd.Reply} (he : processExec port cmd choice w = some (reply, v)) :
    w.exited = none ∧ ProcessEffect w cmd reply v := by
  unfold processExec at he
  split at he
  next => cases he
  next alive =>
    refine ⟨by simpa using alive, ?_⟩
    cases cmd with
    | fetchToken => cases choice <;> cases he <;> exact .fetched _
    | errorText => cases choice <;> cases he <;> exact .read _
    | tokenJson => cases choice <;> cases he <;> exact .parsed _
    | subscribe => cases choice <;> cases he <;> exact .subscribed _ _
    | cancel => cases choice <;> cases he <;> exact .cancelled _ _
    | setTimer milliseconds => cases choice <;> cases he; exact .timerSet milliseconds
    | timer due =>
        cases choice with
        | ok =>
            simp only [carryOut] at he
            split at he <;> cases he
            next late => exact .timed due late
        | token | text | fail | failAfter => cases he
    | listen =>
        cases choice with
        | ok =>
            simp only [carryOut] at he
            split at he <;> cases he
            exact .listening
        | fail error =>
            simp only [carryOut] at he
            split at he <;> cases he
            exact .portRefused error
        | token | text | failAfter => cases he
    | handlers => cases choice <;> cases he; exact .handling
    | serverClosed =>
        cases choice with
        | ok =>
            simp only [carryOut] at he
            split at he <;> cases he
            next quiet => exact .serverClosed quiet.1 quiet.2
        | token | text | fail | failAfter => cases he
    | allSettled round =>
        cases choice with
        | ok =>
            simp only [carryOut] at he
            split at he <;> cases he
            next all => exact .allSettled round all
        | token | text | fail | failAfter => cases he
    | close r =>
        cases choice with
        | ok =>
            simp only [carryOut] at he
            split at he <;> cases he
            next busy =>
              exact .closed r fun same => Nat.eq_zero_of_not_pos fun held => busy ⟨same, held⟩
        | fail error => cases he; exact .closeFailed r error (.inl rfl)
        | failAfter error => cases he; exact .closeFailed r error (.inr rfl)
        | token | text => cases he
    | settle round task outcome => cases choice <;> cases he; exact .settled round task outcome
    | exit code message => cases choice <;> cases he; exact .exited code message

theorem launch_cases {call : ProcessCall} {w v : ProcessWorld} {x : ProcessProg Unit}
    (hl : call.launch w = some (x, v)) : w.exited = none ∧
      (call = .bootstrap ∧ w.resources .pg = .absent ∧ v = w.opened ∨
        (∃ signal, call = .shutdown signal ∧ w.handling = true ∧ v = { w with
          accepting := false, timers := w.timers ++ [w.clock + Process.shutdownTimeout] }) ∨
        ∃ round task r, call = .cleanUp round task ∧ w.rounds[round]? = some r ∧
          v = { w with rounds := w.rounds.set round { r with started := task :: r.started } }) := by
  unfold ProcessCall.launch at hl
  split at hl
  next => cases hl
  next alive =>
    refine ⟨by simpa using alive, ?_⟩
    cases call with
    | bootstrap =>
        simp only at hl
        split at hl <;> cases hl
        next absent => exact .inl ⟨rfl, absent, rfl⟩
    | shutdown signal =>
        simp only at hl
        split at hl <;> cases hl
        next handling => exact .inr (.inl ⟨signal, rfl, handling, rfl⟩)
    | cleanUp round task =>
        simp only at hl
        split at hl
        next r found =>
          split at hl <;> cases hl
          exact .inr (.inr ⟨round, task, r, rfl, found, rfl⟩)
        next => cases hl

theorem processEnv_spec {event : ProcessEvent} {w v : ProcessWorld}
    (he : processEnv event w = some v) : w.exited = none ∧ happen event w = some v := by
  unfold processEnv at he
  split at he
  next => cases he
  next alive => exact ⟨by simpa using alive, he⟩

/-- The call of an answered command asked it when it was in order. -/
theorem asked_of_mem {w : ProcessWorld} {c : ProcessConfig} {actions : List ProcessAction}
    (h : (processSystem port).run (.initial w) actions = some c) {r : ProcessRecord} (mem : r ∈ c.trace) :
    ∃ call first rest, c.entries[r.pid]? = some call ∧ c.own r.pid = first ++ r :: rest ∧
      call.Asks port (first.map Record.answer) r.cmd := by
  have bound := System.run_pid_bound h r mem
  have hp := List.getElem?_eq_getElem bound
  obtain ⟨first, rest, split⟩ := List.append_of_mem (System.mem_own.mpr ⟨mem, rfl⟩)
  exact ⟨_, first, rest, by simp [Config.entries, hp], split,
    (process_contract h hp).2 first r rest split⟩

theorem bootstrap_of_asks {call : ProcessCall} {history : List ProcessAnswer} {cmd : ProcessCmd}
    (asks : call.Asks port history cmd) (early : cmd = .listen ∨ cmd = .handlers) :
    call = .bootstrap := by
  cases call with
  | bootstrap => rfl
  | shutdown | cleanUp => obtain rfl | rfl := early <;> exact asks.elim

end SalesforceTikTok
