import SalesforceTikTok.Process.Closing

/-!
# How the process ends

Every exit code of the process has its cause: the clean one comes after the server has closed
and every clean-up has settled, the others after thirty failed attempts to connect, when the
server could not listen, thirty seconds after a signal, or at an error that nobody caught.
-/

namespace SalesforceTikTok

open Concurrency

variable {port : Binary64}

/-! ## Timers -/

def ProcessConfig.answers (c : ProcessConfig) (pid : Nat) : List ProcessAnswer :=
  (c.own pid).map Record.answer

/-- Time has passed for every timer that was waited for, and will pass for one that is set. -/
structure Timely (clock : Nat) (c : ProcessConfig) : Prop where
  late : ∀ pid, clock + Process.delayMs * (c.answers pid).countP ProcessAnswer.waited ≤ c.world.clock
  ahead : ∀ pid earlier due,
    c.answers pid = earlier ++ [⟨.setTimer Process.delayMs, .ok due⟩] →
      clock + Process.delayMs * ((c.answers pid).countP ProcessAnswer.waited + 1) ≤ due

theorem ProcessEffect.clock_eq {w v : ProcessWorld} {cmd : ProcessCmd}
    {reply : Except JsError cmd.Reply} (effect : ProcessEffect w cmd reply v) : v.clock = w.clock := by
  cases effect with
  | closeFailed r error effect => obtain rfl | rfl := effect <;> rfl
  | _ => rfl

private theorem happen_clock {event : ProcessEvent} {w v : ProcessWorld}
    (he : happen event w = some v) : w.clock ≤ v.clock := by
  cases event with
  | tick elapsed => cases he; exact Nat.le_add_right _ _
  | uncaughtException | unhandledRejection => cases he; exact Nat.le_refl _
  | connect | hangUp | takeJob | finishJob | needQueue | forced | kill =>
      simp only [happen] at he
      split at he <;> cases he <;> exact Nat.le_refl _

private theorem launch_clock {call : ProcessCall} {w v : ProcessWorld} {x : ProcessProg Unit}
    (hl : call.launch w = some (x, v)) : v.clock = w.clock := by
  obtain ⟨_, ⟨rfl, _, rfl⟩ | ⟨_, rfl, _, rfl⟩ | ⟨_, _, _, rfl, _, rfl⟩⟩ := launch_cases hl <;> rfl

theorem Timely.answered {clock : Nat} {w v : ProcessWorld} {call : ProcessCall} {cmd : ProcessCmd}
    {reply : Except JsError cmd.Reply} {history next : List ProcessAnswer}
    (late : clock + Process.delayMs * history.countP ProcessAnswer.waited ≤ w.clock)
    (ahead : ∀ earlier due, history = earlier ++ [⟨.setTimer Process.delayMs, .ok due⟩] →
      clock + Process.delayMs * (history.countP ProcessAnswer.waited + 1) ≤ due)
    (asks : call.Asks port history cmd) (effect : ProcessEffect w cmd reply v)
    (grown : next = history ++ [⟨cmd, reply⟩]) :
    clock + Process.delayMs * next.countP ProcessAnswer.waited ≤ w.clock ∧
      ∀ earlier due, next = earlier ++ [⟨.setTimer Process.delayMs, .ok due⟩] →
        clock + Process.delayMs * (next.countP ProcessAnswer.waited + 1) ≤ due := by
  subst grown
  have last {a b : ProcessAnswer} {earlier : List ProcessAnswer}
      (same : history ++ [a] = earlier ++ [b]) : a = b := by
    simpa using (List.append_inj' same rfl).2
  cases effect with
  | timed due due_ =>
      cases call with
      | bootstrap =>
          obtain ⟨earlier, rfl⟩ := asks
          have one := Nat.le_trans (ahead earlier due rfl) due_
          exact ⟨by simpa [ProcessAnswer.waited] using one, fun _ _ same => by cases last same⟩
      | shutdown | cleanUp => exact asks.elim
  | timerSet milliseconds =>
      refine ⟨by simpa [ProcessAnswer.waited] using late, fun earlier due same => ?_⟩
      cases last same
      rw [Nat.mul_succ]
      have unwaited : ProcessAnswer.waited
          ⟨.setTimer Process.delayMs, .ok (w.clock + Process.delayMs)⟩ = false := rfl
      simp only [List.countP_append, List.countP_singleton, unwaited]
      simp only [Bool.false_eq_true, if_false, Nat.add_zero]
      omega
  | fetched | read | parsed | subscribed | cancelled | listening | portRefused | handling
  | serverClosed | allSettled | closed | closeFailed | settled | exited =>
      exact ⟨by simpa [ProcessAnswer.waited] using late, fun _ _ same => by cases last same⟩

theorem Timely.run {clock : Nat} {c : ProcessConfig} {actions : List ProcessAction}
    (h : (processSystem port).run (.initial (.loaded clock)) actions = some c) : Timely clock c := by
  refine System.run_induction (fun _ c => Timely clock c)
    (fun taken d a d' reached timely hs => ?_) h ⟨fun pid => ?_, fun pid earlier due h => ?_⟩
  · cases a with
    | start call =>
        obtain ⟨x, v, hl, rfl⟩ := System.step_start hs
        exact ⟨fun pid => (launch_clock hl).symm ▸ timely.late pid, timely.ahead⟩
    | env event =>
        obtain ⟨v, he, rfl⟩ := System.step_env hs
        exact ⟨fun pid => Nat.le_trans (timely.late pid) (happen_clock (processEnv_spec he).2),
          timely.ahead⟩
    | resume q choice =>
        obtain ⟨p, cmd, resume, reply, v, hp, hv, he, rfl⟩ := System.step_resume hs
        have asks := (process_contract reached hp).1.awaited hv
        have effect := (processExec_effect he).2
        have here := Timely.answered (timely.late q) (timely.ahead q) asks effect rfl
        constructor
        · intro pid
          show _ ≤ v.clock
          rw [effect.clock_eq, ProcessConfig.answers]
          by_cases same : pid = q
          · subst same
            rw [System.own_append_self, List.map_append]
            exact here.1
          · rw [System.own_append_of_ne d (Ne.symm same)]
            exact timely.late pid
        · intro pid earlier due
          rw [ProcessConfig.answers]
          by_cases same : pid = q
          · subst same
            rw [System.own_append_self, List.map_append]
            exact here.2 earlier due
          · rw [System.own_append_of_ne d (Ne.symm same)]
            exact timely.ahead pid earlier due
  · simp [ProcessConfig.answers, Config.own, Config.initial, ProcessWorld.loaded]
  · simp [ProcessConfig.answers, Config.own, Config.initial] at h

/-! ## Causes -/

def forcedExit : Exit := ⟨some 1, "Forced exit after 30s shutdown timeout"⟩

inductive Explained (port : Binary64) (clock : Nat) (actions : List ProcessAction)
    (c : ProcessConfig) : Exit → Prop where
  /-- After a signal every connection ended and every clean-up settled; one that succeeded has
  closed what it had to, with no job left in the hands of the worker. The queue is excepted:
  when there was none to close, one may have been opened since. -/
  | graceful (pid : Nat) (signal : String) (signalled : c.entries[pid]? = some (.shutdown signal))
      (rejecting : c.world.accepting = false) (drained : c.world.connections = 0) (round : Nat)
      (settled : ∀ task, ∃ outcome, c.world.Settled round task outcome)
      (closed : ∀ task, c.world.Settled round task (.ok ()) → ∀ r ∈ task.resources, r ≠ .queue →
        c.world.resources r = .closed ∧ (r = .worker → c.world.jobs = 0)) :
      Explained port clock actions c ⟨some 0, "Graceful shutdown complete"⟩
  /-- Thirty attempts to connect failed, five seconds apart. -/
  | bootstrapFailed (pid : Nat) (history : List ProcessAnswer) (own : history <+: c.answers pid)
      (gaveUp : GaveUp history Process.maxRetries)
      (late : clock + 29 * Process.delayMs ≤ c.world.clock) :
      Explained port clock actions c ⟨some 1, "Bootstrap failed"⟩
  /-- The listener subscribed, and then the server could not listen on the port. -/
  | portRefused (pid : Nat) (history : List ProcessAnswer) (own : history <+: c.answers pid)
      (refused : PortRefused port history) :
      Explained port clock actions c ⟨some 1, "Bootstrap failed"⟩
  /-- A signal came at least thirty seconds ago. -/
  | forced (first rest : List ProcessAction) (signal : String)
      (signalled : actions = first ++ .start (.shutdown signal) :: rest) (d : ProcessConfig)
      (reached : (processSystem port).run (.initial (.loaded clock)) first = some d)
      (late : d.world.clock + Process.shutdownTimeout ≤ c.world.clock) :
      Explained port clock actions c forcedExit
  | uncaught (message : String)
      (known : message ∈ ["Uncaught exception", "Unhandled promise rejection", ""]) :
      Explained port clock actions c ⟨some 1, message⟩
  | killed (unhandled : c.world.handling = false) : Explained port clock actions c ⟨none, ""⟩

/-- What ended the process: a call that asked for it, a timer, an error or a signal. -/
inductive EndedBy (c : ProcessConfig) : Exit → Prop where
  | asked (r : ProcessRecord) (mem : r ∈ c.trace) (code : Nat) (message : String)
      (cmd : r.cmd = .exit code message) : EndedBy c ⟨some code, message⟩
  | forced (due : Nat) (mem : due ∈ c.world.timers) (late : due ≤ c.world.clock) :
      EndedBy c forcedExit
  | uncaught (message : String)
      (known : message ∈ ["Uncaught exception", "Unhandled promise rejection", ""]) :
      EndedBy c ⟨some 1, message⟩
  | killed (unhandled : c.world.handling = false) : EndedBy c ⟨none, ""⟩

theorem ProcessEffect.exited_cases {w v : ProcessWorld} {cmd : ProcessCmd}
    {reply : Except JsError cmd.Reply} (effect : ProcessEffect w cmd reply v) :
    v.exited = w.exited ∨ ∃ code message, cmd = .exit code message ∧
      v.exited = some ⟨some code, message⟩ := by
  cases effect with
  | closeFailed r error effect => obtain rfl | rfl := effect <;> exact .inl rfl
  | exited code message => exact .inr ⟨code, message, rfl, rfl⟩
  | _ => exact .inl rfl

theorem EndedBy.run {w : ProcessWorld} {c : ProcessConfig} {actions : List ProcessAction}
    (alive : w.exited = none) (h : (processSystem port).run (.initial w) actions = some c) {e : Exit}
    (he : c.world.exited = some e) : EndedBy c e := by
  revert e he
  refine System.run_invariant (fun c => ∀ {e : Exit}, c.world.exited = some e → EndedBy c e)
    (fun c a c' _ hs e ended => ?_) h fun ended => absurd (alive.symm.trans ended) nofun
  cases a with
  | start call =>
      obtain ⟨x, v, hl, rfl⟩ := System.step_start hs
      obtain ⟨running, ⟨rfl, _, rfl⟩ | ⟨_, rfl, _, rfl⟩ | ⟨_, _, _, rfl, _, rfl⟩⟩ := launch_cases hl
      · exact absurd (running.symm.trans ended) nofun
      · exact absurd (running.symm.trans ended) nofun
      · exact absurd (running.symm.trans ended) nofun
  | resume q choice =>
      obtain ⟨p, cmd, resume, reply, v, hp, hv, he, rfl⟩ := System.step_resume hs
      obtain ⟨running, effect⟩ := processExec_effect he
      obtain same | ⟨code, message, rfl, exits⟩ := effect.exited_cases
      · exact absurd ((same.trans running).symm.trans ended) nofun
      · obtain rfl := Option.some.inj (exits.symm.trans ended)
        exact .asked _ List.mem_concat_self code message rfl
  | env event =>
      obtain ⟨v, he, rfl⟩ := System.step_env hs
      obtain ⟨running, happens⟩ := processEnv_spec he
      cases event with
      | tick => cases happens; exact absurd (running.symm.trans ended) nofun
      | connect | hangUp | takeJob | finishJob | needQueue =>
          simp only [happen] at happens
          split at happens <;> cases happens <;> exact absurd (running.symm.trans ended) nofun
      | forced =>
          simp only [happen] at happens
          split at happens <;> cases happens
          next some =>
            obtain ⟨due, mem, late⟩ := List.any_eq_true.mp some
            cases ended
            exact .forced due mem (of_decide_eq_true late)
      | uncaughtException | unhandledRejection =>
          cases happens
          cases ended
          refine .uncaught _ ?_
          split <;> simp
      | kill =>
          simp only [happen] at happens
          split at happens <;> cases happens
          next unhandled =>
            cases ended
            exact .killed (by simpa [ProcessWorld.exit] using unhandled)

theorem ProcessEffect.timers_eq {w v : ProcessWorld} {cmd : ProcessCmd}
    {reply : Except JsError cmd.Reply} (effect : ProcessEffect w cmd reply v) :
    v.timers = w.timers := by
  cases effect with
  | closeFailed r error effect => obtain rfl | rfl := effect <;> rfl
  | _ => rfl

private theorem timer_signalled {clock : Nat} {c : ProcessConfig} {actions : List ProcessAction}
    (h : (processSystem port).run (.initial (.loaded clock)) actions = some c) :
    ∀ due ∈ c.world.timers, ∃ first rest signal d,
      actions = first ++ .start (.shutdown signal) :: rest ∧
        (processSystem port).run (.initial (.loaded clock)) first = some d ∧
          due = d.world.clock + Process.shutdownTimeout := by
  refine System.run_induction (fun actions c => ∀ due ∈ c.world.timers, ∃ first rest signal d,
    actions = first ++ .start (.shutdown signal) :: rest ∧
      (processSystem port).run (.initial (.loaded clock)) first = some d ∧
        due = d.world.clock + Process.shutdownTimeout)
    (fun taken d a d' reached set hs due mem => ?_) h fun due mem => by cases mem
  have before (mem : due ∈ d.world.timers) : ∃ first rest signal e,
      taken ++ [a] = first ++ .start (.shutdown signal) :: rest ∧
        (processSystem port).run (.initial (.loaded clock)) first = some e ∧
          due = e.world.clock + Process.shutdownTimeout := by
    obtain ⟨first, rest, signal, e, rfl, found⟩ := set due mem
    exact ⟨first, rest ++ [a], signal, e, by simp, found⟩
  cases a with
  | start call =>
      obtain ⟨x, v, hl, rfl⟩ := System.step_start hs
      obtain ⟨_, ⟨rfl, _, rfl⟩ | ⟨signal, rfl, _, rfl⟩ | ⟨_, _, _, rfl, _, rfl⟩⟩ := launch_cases hl
      · exact before mem
      · obtain mem | mem := List.mem_append.mp mem
        · exact before mem
        · exact ⟨taken, [], signal, d, rfl, reached, List.mem_singleton.mp mem⟩
      · exact before mem
  | resume q choice =>
      obtain ⟨p, cmd, resume, reply, v, hp, hv, he, rfl⟩ := System.step_resume hs
      exact before ((processExec_effect he).2.timers_eq ▸ mem)
  | env event =>
      obtain ⟨v, he, rfl⟩ := System.step_env hs
      refine before ?_
      have happens := (processEnv_spec he).2
      cases event with
      | tick | uncaughtException | unhandledRejection => cases happens; exact mem
      | connect | hangUp | takeJob | finishJob | needQueue | forced | kill =>
          simp only [happen] at happens
          split at happens <;> cases happens <;> exact mem

section

variable {clock : Nat} {c : ProcessConfig} {actions : List ProcessAction}

private theorem answers_split {pid : Nat} {first rest : List ProcessRecord} {r : ProcessRecord}
    (split : c.own pid = first ++ r :: rest) :
    c.answers pid = first.map Record.answer ++ (r :: rest).map Record.answer := by
  rw [ProcessConfig.answers, split, List.map_append]

private theorem subscribed_of_listen
    (h : (processSystem port).run (.initial (.loaded clock)) actions = some c)
    {r : ProcessRecord} (mem : r ∈ c.trace) (listened : r.cmd = .listen) :
    Subscribed (c.answers r.pid) := by
  obtain ⟨call, first, rest, _, split, asks⟩ := asked_of_mem h mem
  obtain rfl := bootstrap_of_asks asks (.inl listened)
  rw [listened] at asks
  rw [answers_split split]
  exact List.mem_append_left _ asks.1

/-- A `bootstrap` that asks for the exit has given up connecting, or was refused its port. -/
private theorem explained_of_bootstrap
    (h : (processSystem port).run (.initial (.loaded clock)) actions = some c) {pid : Nat}
    {first rest : List ProcessRecord} {r : ProcessRecord} {code : Nat} {message : String}
    (split : c.own pid = first ++ r :: rest)
    (asks : BootstrapAsks port (first.map Record.answer) (.exit code message)) :
    Explained port clock actions c ⟨some code, message⟩ := by
  have own := answers_split split
  obtain ⟨rfl, rfl, gaveUp | refused⟩ := asks
  · refine .bootstrapFailed pid (first.map Record.answer) ⟨_, own.symm⟩ gaveUp ?_
    have late := (Timely.run h).late pid
    rw [own, List.countP_append] at late
    have waited := gaveUp.waited
    simp only [Process.maxRetries, Process.delayMs] at late waited ⊢
    omega
  · exact .portRefused pid (first.map Record.answer) ⟨_, own.symm⟩ refused

/-- A clean-up that succeeded has closed its resources. -/
private theorem closed_of_settled
    (h : (processSystem port).run (.initial (.loaded clock)) actions = some c) {round : Nat}
    {task : CleanUp} (succeeded : c.world.Settled round task (.ok ())) {res : Resource}
    (known : res ∈ task.resources) (other : res ≠ .queue) :
    c.world.resources res = .closed ∧ (res = .worker → c.world.jobs = 0) := by
  have closing := Closing.run h
  obtain ⟨report, mem, settle⟩ := closing.reported round task (.ok ()) succeeded
  obtain ⟨call, first, rest, _, split, asks⟩ := asked_of_mem h mem
  rw [settle] at asks
  cases call with
  | bootstrap | shutdown => exact asks.elim
  | cleanUp round' task' =>
      obtain ⟨rfl, rfl, all⟩ := asks
      obtain ⟨r, mem, answer⟩ := List.mem_map.mp (all rfl res known)
      have there : r ∈ c.own report.pid := split ▸ List.mem_append_left _ mem
      exact closing.shut r (System.mem_own.mp there).1 res answer other

private theorem explained_of_shutdown
    (h : (processSystem port).run (.initial (.loaded clock)) actions = some c) {pid : Nat}
    {signal : String} (entry : c.entries[pid]? = some (.shutdown signal))
    {first rest : List ProcessRecord} {r : ProcessRecord} {code : Nat} {message : String}
    (split : c.own pid = first ++ r :: rest)
    (asks : ShutdownAsks (first.map Record.answer) (.exit code message)) :
    Explained port clock actions c ⟨some code, message⟩ := by
  have opening := Opening.run h
  obtain ⟨rfl, rfl, round, waited⟩ := asks
  obtain ⟨r', own, answer⟩ := List.mem_map.mp waited
  have mem : r' ∈ c.own pid := split ▸ List.mem_append_left _ own
  have settled := (Closing.run h).all r' (System.mem_own.mp mem).1 round answer
  have drained := opening.drained fun none => by
    obtain ⟨outcome, rounds, found, _⟩ := settled .pg
    rw [none] at found
    cases found
  exact .graceful pid signal entry (opening.stopping pid signal entry).2 drained.2.2 round settled
    fun task succeeded res known other => closed_of_settled h succeeded known other

end

/-- HTTP connections are taken in only after the CDC listener has subscribed, and every end of
the process is explained. -/
theorem process_explained {clock : Nat} {c : ProcessConfig} {actions : List ProcessAction}
    (h : (processSystem port).run (.initial (.loaded clock)) actions = some c) :
    (c.world.accepting = true ∨ c.world.connections ≠ 0 → ∃ pid, Subscribed (c.answers pid)) ∧
      ∀ e, c.world.exited = some e → Explained port clock actions c e := by
  refine ⟨fun open_ => ?_, fun e ended => ?_⟩
  · obtain ⟨r, mem, listened⟩ := (Opening.run h).listened open_
    exact ⟨r.pid, subscribed_of_listen h mem listened⟩
  · cases EndedBy.run rfl h ended with
    | forced due mem late =>
        obtain ⟨first, rest, signal, d, signalled, reached, rfl⟩ := timer_signalled h due mem
        exact .forced first rest signal signalled d reached late
    | uncaught message known => exact .uncaught message known
    | killed unhandled => exact .killed unhandled
    | asked r mem code message asked =>
        obtain ⟨call, first, rest, entry, split, asks⟩ := asked_of_mem h mem
        rw [asked] at asks
        cases call with
        | cleanUp => exact asks.elim
        | bootstrap => exact explained_of_bootstrap h split asks
        | shutdown signal => exact explained_of_shutdown h entry split asks

/-- A server that comes up, takes a connection in, and is stopped by a signal; Redis refuses its
`quit`. -/
def gracefulRun : List ProcessAction :=
  [.start .bootstrap, .resume 0 (.token true), .resume 0 .ok, .resume 0 .ok, .resume 0 .ok,
    .resume 0 .ok, .env .connect, .env .takeJob, .start (.shutdown "SIGTERM"), .env .hangUp,
    .resume 1 .ok, .start (.cleanUp 0 .listener), .start (.cleanUp 0 .queue),
    .start (.cleanUp 0 .refresher), .start (.cleanUp 0 .eventLog),
    .start (.cleanUp 0 .deduplicator), .start (.cleanUp 0 .pg), .start (.cleanUp 0 .redis),
    .resume 2 .ok, .resume 2 .ok, .env .finishJob, .resume 3 .ok, .resume 3 .ok, .resume 3 .ok,
    .resume 3 .ok, .resume 4 .ok, .resume 5 .ok, .resume 5 .ok, .resume 6 .ok, .resume 6 .ok,
    .resume 7 .ok, .resume 7 .ok, .resume 8 (.fail { message := "Connection is closed." }),
    .resume 8 .ok, .resume 1 .ok, .resume 1 .ok]

private theorem gracefulRun_possible :
    ((processSystem 3000).run (.initial (.loaded 0)) gracefulRun).isSome = true := by
  decide +kernel

theorem process_explained_graceful : ∃ c,
    (processSystem 3000).run (.initial (.loaded 0)) gracefulRun = some c ∧
      Explained 3000 0 gracefulRun c ⟨some 0, "Graceful shutdown complete"⟩ := by
  let c := (processSystem 3000).result (.initial (.loaded 0)) gracefulRun gracefulRun_possible
  have ended : c.world.exited = some ⟨some 0, "Graceful shutdown complete"⟩ := by decide +kernel
  exact ⟨c, System.run_result _, (process_explained (System.run_result _)).2 _ ended⟩

end SalesforceTikTok
