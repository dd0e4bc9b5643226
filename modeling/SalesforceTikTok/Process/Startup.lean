import SalesforceTikTok.Process.Bootstrap

/-!
# What the calls of the process ask

`bootstrap` listens only when the CDC listener has subscribed, and gives up only after thirty
attempts with a timer between any two, or when it cannot listen on its port. A clean exit waits
for the server and for the clean-ups.
-/

namespace SalesforceTikTok

open Concurrency

/-! ## Attempts and timers -/

def ProcessAnswer.failed : ProcessAnswer → Bool
  | ⟨.errorText, _⟩ => true
  | ⟨.fetchToken, .error _⟩ | ⟨.tokenJson, .error _⟩ | ⟨.subscribe, .error _⟩ => true
  | _ => false

def ProcessAnswer.waited : ProcessAnswer → Bool
  | ⟨.timer _, _⟩ => true
  | _ => false

def Subscribed (history : List ProcessAnswer) : Prop :=
  (⟨.subscribe, .ok ()⟩ : ProcessAnswer) ∈ history

structure Retrying (history : List ProcessAnswer) (attempts : Nat) : Prop where
  unhandled : ∀ a ∈ history, a.cmd ≠ .handlers
  failed : history.countP ProcessAnswer.failed = attempts
  waited : history.countP ProcessAnswer.waited = attempts

/-- Every attempt failed; the last one was not waited after. -/
structure GaveUp (history : List ProcessAnswer) (attempts : Nat) : Prop where
  unhandled : ∀ a ∈ history, a.cmd ≠ .handlers
  failed : history.countP ProcessAnswer.failed = attempts
  waited : history.countP ProcessAnswer.waited + 1 = attempts

/-! ## Contracts -/

section

variable (port : Binary64)

def ProcessCmd.fallible : ProcessCmd → Bool
  | .listen => !validatePort port
  | .fetchToken | .errorText | .tokenJson | .subscribe | .cancel | .close _ => true
  | _ => false

def CanReply (cmd : ProcessCmd) (reply : Except JsError cmd.Reply) : Prop :=
  ∀ error, reply = .error error → cmd.fallible port = true

variable {port} in
private theorem processExec_can {cmd : ProcessCmd} {choice : ProcessChoice} {w v : ProcessWorld}
    {reply : Except JsError cmd.Reply} (he : processExec port cmd choice w = some (reply, v)) :
    CanReply port cmd reply := by
  rintro error rfl
  unfold processExec at he
  split at he
  next => cases he
  next =>
    cases cmd with
    | fetchToken | errorText | tokenJson | subscribe | cancel | close => rfl
    | setTimer | handlers | settle | exit => cases choice <;> cases he
    | listen =>
        cases choice with
        | ok =>
            simp only [carryOut] at he
            split at he <;> cases he
        | fail =>
            simp only [carryOut] at he
            split at he <;> cases he
            next invalid => simpa [ProcessCmd.fallible] using invalid
        | token | text | failAfter => cases he
    | timer | serverClosed | allSettled =>
        cases choice with
        | ok =>
            simp only [carryOut] at he
            split at he <;> cases he
        | token | text | fail | failAfter => cases he

/-- The listener subscribed, and then `listen` refused the port. -/
structure PortRefused (history : List ProcessAnswer) : Prop where
  invalid : validatePort port = false
  subscribed : Subscribed history
  refused : ∃ error, (⟨.listen, .error error⟩ : ProcessAnswer) ∈ history

/-- What `bootstrap` asks. -/
def BootstrapAsks (history : List ProcessAnswer) : ProcessCmd → Prop
  | .fetchToken | .errorText | .tokenJson | .subscribe => True
  | .setTimer milliseconds => milliseconds = Process.delayMs
  | .timer due => ∃ earlier, history = earlier ++ [⟨.setTimer Process.delayMs, .ok due⟩]
  | .listen => Subscribed history ∧ ∀ a ∈ history, a.cmd ≠ .handlers
  | .handlers => Subscribed history
  | .exit code message => code = 1 ∧ message = "Bootstrap failed" ∧
      (GaveUp history Process.maxRetries ∨ PortRefused port history)
  | _ => False

/-- What the callback of `shutdown` asks. -/
def ShutdownAsks (history : List ProcessAnswer) : ProcessCmd → Prop
  | .serverClosed => True
  | .allSettled round => (⟨.serverClosed, .ok round⟩ : ProcessAnswer) ∈ history
  | .exit code message => code = 0 ∧ message = "Graceful shutdown complete" ∧
      ∃ round, (⟨.allSettled round, .ok ()⟩ : ProcessAnswer) ∈ history
  | _ => False

def CleanUp.resources : CleanUp → List Resource
  | .listener | .refresher => []
  | .queue => [.worker, .queue, .queueEvents]
  | .eventLog => [.eventLogPool]
  | .deduplicator => [.dedupRedis]
  | .pg => [.pg]
  | .redis => [.redis]

/-- What a clean-up asks; it succeeds only when all it closes was closed. -/
def CleanUpAsks (round : Nat) (task : CleanUp) (history : List ProcessAnswer) : ProcessCmd → Prop
  | .cancel => task = .listener
  | .close r => r ∈ task.resources
  | .settle round' task' outcome => round' = round ∧ task' = task ∧ (outcome = .ok () →
      ∀ r ∈ task.resources, (⟨.close r, .ok ()⟩ : ProcessAnswer) ∈ history)
  | _ => False

def ProcessCall.Asks : ProcessCall → List ProcessAnswer → ProcessCmd → Prop
  | .bootstrap => BootstrapAsks port
  | .shutdown _ => ShutdownAsks
  | .cleanUp round task => CleanUpAsks round task

end

variable {port : Binary64}

/-! ## `connect` -/

theorem Retrying.append {history more : List ProcessAnswer} {attempts : Nat}
    (retrying : Retrying history attempts) (others : ∀ a ∈ more, a.cmd ≠ .handlers) :
    ∀ a ∈ history ++ more, a.cmd ≠ .handlers := by
  intro a mem
  obtain mem | mem := List.mem_append.mp mem
  · exact retrying.unhandled a mem
  · exact others a mem

theorem Retrying.gaveUp {history more : List ProcessAnswer} {attempts : Nat}
    (retrying : Retrying history attempts) (others : ∀ a ∈ more, a.cmd ≠ .handlers)
    (once : more.countP ProcessAnswer.failed = 1) (unwaited : more.countP ProcessAnswer.waited = 0) :
    GaveUp (history ++ more) (attempts + 1) where
  unhandled := retrying.append others
  failed := by rw [List.countP_append, retrying.failed, once]
  waited := by rw [List.countP_append, retrying.waited, unwaited]

namespace Process

private theorem connect_once {history : List ProcessAnswer} {attempts : Nat}
    (retrying : Retrying history attempts) :
    _connect.Meets (CanReply port) (BootstrapAsks port) (fun final outcome =>
      match outcome with
      | .ok () => Subscribed final ∧ ∀ a ∈ final, a.cmd ≠ .handlers
      | .error _ => GaveUp final (attempts + 1)) history := by
  refine .call_bind trivial (fun ok _ => ?_) fun e _ => retrying.gaveUp (by simp) rfl rfl
  cases ok with
  | true =>
      refine .call_bind trivial (fun _ _ => ?_) fun e _ => ?_
      · refine ⟨trivial, fun reply _ => ?_⟩
        cases reply with
        | ok =>
            refine ⟨by simp [Subscribed], ?_⟩
            rw [List.append_assoc, List.append_assoc]
            exact retrying.append (by simp)
        | error e =>
            show GaveUp _ _
            rw [List.append_assoc, List.append_assoc]
            exact retrying.gaveUp (by simp) rfl rfl
      · show GaveUp _ _
        rw [List.append_assoc]
        exact retrying.gaveUp (by simp) rfl rfl
  | false =>
      refine .call_bind trivial (fun text _ => ?_) fun e _ => ?_
      · show GaveUp _ _
        rw [List.append_assoc]
        exact retrying.gaveUp (by simp) rfl rfl
      · show GaveUp _ _
        rw [List.append_assoc]
        exact retrying.gaveUp (by simp) rfl rfl

private theorem sleep_meets {history : List ProcessAnswer} {attempts : Nat}
    (gaveUp : GaveUp history attempts) :
    (sleep delayMs).Meets (CanReply port) (BootstrapAsks port) (fun final outcome =>
      outcome = .ok () ∧ Retrying final attempts) history := by
  have infallible {cmd : ProcessCmd} {e : JsError} (sure : cmd.fallible port = false)
      (can : CanReply port cmd (.error e)) : False := by
    have fallible := can e rfl
    rw [sure] at fallible
    cases fallible
  refine .call_bind rfl (fun due _ => ⟨⟨history, rfl⟩, fun reply can => ?_⟩) fun e can =>
    (infallible rfl can).elim
  cases reply with
  | error e => exact (infallible rfl can).elim
  | ok =>
      refine ⟨rfl, ?_⟩
      obtain ⟨unhandled, failed, waited⟩ := gaveUp
      rw [List.append_assoc]
      refine ⟨fun a mem => ?_, ?_, ?_⟩
      · obtain mem | mem := List.mem_append.mp mem
        · exact unhandled a mem
        · obtain rfl | rfl : a = _ ∨ a = _ := by simpa using mem
          · nofun
          · nofun
      · rw [List.countP_append, failed]
        rfl
      · rw [List.countP_append]
        exact waited

private theorem connect_meets {history : List ProcessAnswer} {attempts : Nat} (remaining : Nat)
    (retrying : Retrying history attempts) :
    (connect delayMs remaining).Meets (CanReply port) (BootstrapAsks port) (fun final outcome =>
      match outcome with
      | .ok () => remaining = 0 ∨ Subscribed final ∧ ∀ a ∈ final, a.cmd ≠ .handlers
      | .error _ => GaveUp final (attempts + remaining)) history := by
  induction remaining generalizing history attempts with
  | zero => exact .inl rfl
  | succ remaining ih =>
      refine (connect_once retrying).catch (fun final _ subscribed => .inr subscribed)
        fun final err gaveUp => ?_
      by_cases last : remaining = 0
      · subst last
        exact gaveUp
      · rw [if_neg last]
        refine (sleep_meets gaveUp).bind (fun final _ waited => ?_) fun _ _ failed => ?_
        · refine (ih waited.2).imp fun final outcome ended => ?_
          cases outcome with
          | ok => exact .inr (ended.resolve_left last)
          | error e =>
              have same : attempts + (remaining + 1) = attempts + 1 + remaining := by omega
              show GaveUp _ _
              rw [same]
              exact ended
        · cases failed.1

/-! ## The calls -/

private theorem serve_meets : (do
    connect delayMs maxRetries
    ask .listen
    ask .handlers : ProcessProg Unit).Meets (CanReply port) (BootstrapAsks port)
      (fun final outcome => ∀ error, outcome = .error error →
        GaveUp final maxRetries ∨ PortRefused port final) [] := by
  have start : Retrying [] 0 := ⟨by simp, rfl, rfl⟩
  refine (connect_meets maxRetries start).bind (fun final _ connected => ?_) fun final e gaveUp => ?_
  · obtain none | ⟨subscribed, unhandled⟩ := connected
    · cases none
    · refine .call_bind ⟨subscribed, unhandled⟩ (fun _ _ => ⟨?_, fun reply can => ?_⟩)
        fun e can _ _ => .inr ⟨?_, List.mem_append_left _ subscribed, e, List.mem_concat_self⟩
      · exact List.mem_append_left _ subscribed
      · cases reply with
        | ok => exact fun e failed => by cases failed
        | error e => cases can e rfl
      · simpa [ProcessCmd.fallible] using can e rfl
  · intro e' _
    rw [← Nat.zero_add maxRetries]
    exact .inl gaveUp

private theorem bootstrap_meets :
    bootstrap.Meets (CanReply port) (BootstrapAsks port) (fun _ _ => True) [] := by
  refine serve_meets.catch (fun _ _ _ => trivial) fun final e failed => ?_
  refine ⟨⟨rfl, rfl, failed e rfl⟩, fun reply _ => ?_⟩
  cases reply <;> trivial

private theorem closed_meets : closed.Meets (CanReply port) ShutdownAsks (fun _ _ => True) [] := by
  refine .call_bind trivial (fun round _ => ?_) fun _ _ => trivial
  refine .call_bind List.mem_cons_self (fun _ _ => ?_) fun _ _ => trivial
  refine ⟨⟨rfl, rfl, round, by simp⟩, fun reply _ => ?_⟩
  cases reply <;> trivial

/-- A clean-up closes its resources one after the other, and stops at the first error. -/
theorem cleanUp_meets (round : Nat) (task : CleanUp) :
    (cleanUp task).Meets (CanReply port) (CleanUpAsks round task)
      (fun final outcome => outcome = .ok () →
        ∀ r ∈ task.resources, (⟨.close r, .ok ()⟩ : ProcessAnswer) ∈ final) [] := by
  have closes {r : Resource} {history : List ProcessAnswer} (mem : r ∈ task.resources) :
      CleanUpAsks round task history (.close r) := mem
  cases task with
  | listener => exact ⟨rfl, fun reply _ => by cases reply <;> simp [Prog.Meets, CleanUp.resources]⟩
  | refresher => exact fun _ => by simp [CleanUp.resources]
  | eventLog | deduplicator | pg | redis =>
      refine ⟨closes (by decide), fun reply _ => ?_⟩
      cases reply <;> simp [Prog.Meets, CleanUp.resources]
  | queue =>
      refine .call_bind (closes (by decide)) (fun _ _ => ?_) fun _ _ => nofun
      refine .call_bind (closes (by decide)) (fun _ _ => ?_) fun _ _ => nofun
      refine ⟨closes (by decide), fun reply _ => ?_⟩
      cases reply <;> simp [Prog.Meets, CleanUp.resources]

private theorem settling_meets (round : Nat) (task : CleanUp) :
    (settling round task).Meets (CanReply port) (CleanUpAsks round task) (fun _ _ => True) [] := by
  refine Prog.meets_attempt.mpr ((cleanUp_meets round task).imp fun final outcome closed => ?_)
  refine ⟨⟨rfl, rfl, closed⟩, fun reply _ => ?_⟩
  cases reply <;> trivial

end Process

theorem process_contract {w : ProcessWorld} {c : ProcessConfig} {actions : List ProcessAction}
    (h : (processSystem port).run (.initial w) actions = some c) {pid : Nat}
    {p : Proc ProcessCall (ProcessProg Unit)} (hp : c.procs[pid]? = some p) :
    p.state.Meets (CanReply port) (p.entry.Asks port) (fun _ _ => True)
      ((c.own pid).map Record.answer) ∧
      ∀ first r rest, c.own pid = first ++ r :: rest →
        p.entry.Asks port (first.map Record.answer) r.cmd := by
  let ends : ProcessCall → List ProcessAnswer → Except JsError Unit → Prop := fun _ _ _ => True
  suffices launched : ∀ call v x v', (processSystem port).launch call v = some (x, v') →
      x.Meets (CanReply port) (call.Asks port) (ends call) [] from
    System.run_contract rfl (fun _ _ _ _ _ => processExec_can) launched h hp
  intro call v x v' hl
  simp only [processSystem, ProcessCall.launch] at hl
  split at hl
  next => cases hl
  next =>
    cases call with
    | bootstrap =>
        simp only at hl
        split at hl <;> cases hl
        exact Process.bootstrap_meets
    | shutdown signal =>
        simp only at hl
        split at hl <;> cases hl
        exact Process.closed_meets
    | cleanUp round task =>
        simp only at hl
        split at hl
        next =>
          split at hl <;> cases hl
          exact Process.settling_meets round task
        next => cases hl

end SalesforceTikTok
