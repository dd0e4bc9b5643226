import Mathlib.Logic.Function.Basic
import SalesforceTikTok.Concurrency.Contract
import SalesforceTikTok.Core.Numbers
import SalesforceTikTok.Core.Platform

/-!
# The process

`bootstrap` and `shutdown` of server.ts, `connect` and `disconnect` of the CDC listener and
`drainQueue`, statement by statement. What runs behind them is kept to what they wait for: HTTP
connections, jobs of the worker, and the clock. `shutdown` is started by a signal, each of its
clean-ups is a promise of its own, and `process.exit` leaves nothing to run.
-/

namespace SalesforceTikTok

open Concurrency

/-! ## The world of the process -/

inductive Resource where
  | worker
  | queue
  | queueEvents
  /-- `pool` of event-log.ts. -/
  | eventLogPool
  /-- `redisClient` of redis-dedup.ts. -/
  | dedupRedis
  | pg
  | redis
  deriving DecidableEq, Repr

inductive ResourceState where
  | absent
  | opened
  | closed
  deriving DecidableEq, Repr

/-- The promises that `shutdown` waits for. -/
inductive CleanUp where
  | listener
  | queue
  | refresher
  | eventLog
  | deduplicator
  | pg
  | redis
  deriving DecidableEq, Repr

def CleanUp.all : List CleanUp :=
  [.listener, .queue, .refresher, .eventLog, .deduplicator, .pg, .redis]

/-- How the process ended: without a code by a signal, else with the last thing it logged. -/
structure Exit where
  code : Option Nat
  message : String
  deriving DecidableEq, Repr

/-- One `Promise.allSettled` of `shutdown`. -/
structure CleanUpRound where
  started : List CleanUp
  settled : List (CleanUp × Except JsError Unit)

structure ProcessWorld where
  /-- Milliseconds. -/
  clock : Nat
  exited : Option Exit
  resources : Resource → ResourceState
  /-- Jobs that the worker has in hand. -/
  jobs : Nat
  /-- `subscription` of the listener. -/
  subscribed : Bool
  /-- The HTTP server takes connections in. -/
  accepting : Bool
  connections : Nat
  /-- The handlers of signals and uncaught errors are installed. -/
  handling : Bool
  /-- When the timers of `shutdown` are due. -/
  timers : List Nat
  rounds : List CleanUpRound

/-- Before `bootstrap`. -/
def ProcessWorld.loaded (clock : Nat) : ProcessWorld where
  clock := clock
  exited := none
  resources _ := .absent
  jobs := 0
  subscribed := false
  accepting := false
  connections := 0
  handling := false
  timers := []
  rounds := []

namespace ProcessWorld

/-- What `bootstrap` opens before its first await: both pools, both Redis clients, the worker
and the queue events. The queue is opened by whoever needs it first. -/
def opened (w : ProcessWorld) : ProcessWorld :=
  { w with resources := fun r => if r = .queue then w.resources .queue else .opened }

def close (w : ProcessWorld) (r : Resource) : ProcessWorld :=
  { w with
    resources := fun r' => if r' = r ∧ w.resources r ≠ .absent then .closed else w.resources r' }

def settle (w : ProcessWorld) (round : Nat) (task : CleanUp) (outcome : Except JsError Unit) :
    ProcessWorld :=
  { w with
    rounds := w.rounds.modify round fun r => { r with settled := r.settled ++ [(task, outcome)] } }

def exit (w : ProcessWorld) (code : Option Nat) (message : String) : ProcessWorld :=
  { w with exited := some ⟨code, message⟩ }

def allSettled (w : ProcessWorld) (round : Nat) : Bool :=
  match w.rounds[round]? with
  | some r => CleanUp.all.all fun task => r.settled.any fun entry => entry.1 = task
  | none => false

end ProcessWorld

/-! ## Commands -/

inductive ProcessCmd where
  /-- `fetch` of the token endpoint: `tokenRes.ok`. -/
  | fetchToken
  | errorText
  | tokenJson
  /-- The connection and its `subscribe`. -/
  | subscribe
  /-- `setTimeout`; it does not suspend. -/
  | setTimer (milliseconds : Nat)
  /-- The timer that is due then. -/
  | timer (due : Nat)
  /-- `app.listen(...)`. -/
  | listen
  /-- The four `process.on(...)`. -/
  | handlers
  /-- The callback of `server.close`. The reply numbers its clean-ups. -/
  | serverClosed
  | allSettled (round : Nat)
  /-- `if (subscription) { subscription.cancel(); subscription = null }`. -/
  | cancel
  /-- `if (r) await r.close()`, or `end` or `quit`. -/
  | close (r : Resource)
  /-- A clean-up of the round has settled. -/
  | settle (round : Nat) (task : CleanUp) (outcome : Except JsError Unit)
  /-- The last log line and `process.exit(code)`. -/
  | exit (code : Nat) (message : String)

abbrev ProcessCmd.Reply : ProcessCmd → Type
  | .fetchToken => Bool
  | .errorText => String
  | .setTimer _ | .serverClosed => Nat
  | .tokenJson | .subscribe | .timer _ | .listen | .handlers | .allSettled _ | .cancel | .close _
  | .settle _ _ _ | .exit _ _ => Unit

inductive ProcessChoice where
  | ok
  | token (ok : Bool)
  | text (text : String)
  | fail (error : JsError)
  | failAfter (error : JsError)

section

variable (port : Binary64)

/-- The HTTP server has closed when it takes nothing in and every connection has ended, the
worker when no job is in its hands. With `env.PORT` no port, `listen` throws. -/
def carryOut : (cmd : ProcessCmd) → ProcessChoice → ProcessWorld →
    Option (Except JsError cmd.Reply × ProcessWorld)
  | .fetchToken, .token ok, w => some (.ok ok, w)
  | .errorText, .text text, w => some (.ok text, w)
  | .tokenJson, .ok, w => some (.ok (), w)
  | .fetchToken, .fail error, w | .errorText, .fail error, w | .tokenJson, .fail error, w
  | .subscribe, .fail error, w | .cancel, .fail error, w | .close _, .fail error, w =>
      some (.error error, w)
  | .subscribe, .ok, w => some (.ok (), { w with subscribed := true })
  | .setTimer milliseconds, .ok, w => some (.ok (w.clock + milliseconds), w)
  | .timer due, .ok, w => if due ≤ w.clock then some (.ok (), w) else none
  | .listen, .ok, w =>
      if validatePort port then some (.ok (), { w with accepting := true }) else none
  | .listen, .fail error, w => if validatePort port then none else some (.error error, w)
  | .handlers, .ok, w => some (.ok (), { w with handling := true })
  | .serverClosed, .ok, w =>
      if w.accepting = false ∧ w.connections = 0 then
        some (.ok w.rounds.length, { w with rounds := w.rounds ++ [⟨[], []⟩] })
      else none
  | .allSettled round, .ok, w => if w.allSettled round then some (.ok (), w) else none
  | .cancel, .ok, w => some (.ok (), { w with subscribed := false })
  | .close r, .ok, w => if r = .worker ∧ 0 < w.jobs then none else some (.ok (), w.close r)
  | .close r, .failAfter error, w => some (.error error, w.close r)
  | .settle round task outcome, .ok, w => some (.ok (), w.settle round task outcome)
  | .exit code message, .ok, w => some (.ok (), w.exit code message)
  | _, _, _ => none

def processExec (cmd : ProcessCmd) (choice : ProcessChoice) (w : ProcessWorld) :
    Option (Except JsError cmd.Reply × ProcessWorld) :=
  if w.exited.isSome then none else carryOut port cmd choice w

end

inductive ProcessEvent where
  | tick (elapsed : Nat)
  | connect
  | hangUp
  | takeJob
  | finishJob
  /-- `getQueue()`. -/
  | needQueue
  /-- A timer of `shutdown` fires. -/
  | forced
  | uncaughtException
  | unhandledRejection
  /-- `SIGTERM` or `SIGINT` that nobody handles. -/
  | kill

def happen : ProcessEvent → ProcessWorld → Option ProcessWorld
  | .tick elapsed, w => some { w with clock := w.clock + elapsed }
  | .connect, w => if w.accepting then some { w with connections := w.connections + 1 } else none
  | .hangUp, w => if 0 < w.connections then some { w with connections := w.connections - 1 } else none
  | .takeJob, w => if w.resources .worker = .opened then some { w with jobs := w.jobs + 1 } else none
  | .finishJob, w => if 0 < w.jobs then some { w with jobs := w.jobs - 1 } else none
  | .needQueue, w =>
      if w.resources .queue = .absent then
        some { w with resources := Function.update w.resources .queue .opened }
      else some w
  | .forced, w =>
      if w.timers.any (· ≤ w.clock) then some (w.exit (some 1) "Forced exit after 30s shutdown timeout")
      else none
  -- without a handler Node ends the process as well
  | .uncaughtException, w =>
      some (w.exit (some 1) (if w.handling then "Uncaught exception" else ""))
  | .unhandledRejection, w =>
      some (w.exit (some 1) (if w.handling then "Unhandled promise rejection" else ""))
  | .kill, w => if w.handling then none else some (w.exit none "")

def processEnv (event : ProcessEvent) (w : ProcessWorld) : Option ProcessWorld :=
  if w.exited.isSome then none else happen event w

abbrev processRuntime (port : Binary64) :
    Runtime ProcessCmd ProcessCmd.Reply JsError ProcessWorld ProcessChoice ProcessEvent where
  exec := processExec port
  env := processEnv

abbrev ProcessProg := Prog ProcessCmd ProcessCmd.Reply JsError

namespace Process

abbrev ask (cmd : ProcessCmd) : ProcessProg cmd.Reply := Prog.call cmd

/-! ## `SalesforceCDCListener` -/

/-- `_connect`. -/
def _connect : ProcessProg Unit := do
  let ok : Bool ← ask .fetchToken
  if ok = true then
    ask .tokenJson
    ask .subscribe
  else
    let errText : String ← ask .errorText
    throw { message := "Salesforce auth failed: " ++ errText }

def sleep (milliseconds : Nat) : ProcessProg Unit := do
  let due : Nat ← ask (.setTimer milliseconds)
  ask (.timer due)

/-- The loop of `connect` with this many attempts left. -/
def connect (delayMs : Nat) : Nat → ProcessProg Unit
  | 0 => pure ()
  | remaining + 1 => do
      try
        _connect
      catch err =>
        if remaining = 0 then throw err
        else do
          sleep delayMs
          connect delayMs remaining

/-- The defaults of `connect`. -/
def maxRetries : Nat := 30

def delayMs : Nat := 5000

def disconnect : ProcessProg Unit := ask .cancel

/-! ## server.ts -/

/-- `bootstrap` from its first await on, and its `catch`. -/
def bootstrap : ProcessProg Unit := do
  try
    connect delayMs maxRetries
    ask .listen
    ask .handlers
  catch _ =>
    ask (.exit 1 "Bootstrap failed")

/-- The callback that `shutdown` gives to `server.close`. -/
def closed : ProcessProg Unit := do
  let round : Nat ← ask .serverClosed
  ask (.allSettled round)
  ask (.exit 0 "Graceful shutdown complete")

def shutdownTimeout : Nat := 30000

def drainQueue : ProcessProg Unit := do
  ask (.close .worker)
  ask (.close .queue)
  ask (.close .queueEvents)

/-- The promises of `Promise.allSettled`. The refresher was never started, and `stop` does
nothing then. -/
def cleanUp : CleanUp → ProcessProg Unit
  | .listener => disconnect
  | .queue => drainQueue
  | .refresher => pure ()
  | .eventLog => ask (.close .eventLogPool)
  | .deduplicator => ask (.close .dedupRedis)
  | .pg => ask (.close .pg)
  | .redis => ask (.close .redis)

def settling (round : Nat) (task : CleanUp) : ProcessProg Unit :=
  (cleanUp task).attempt >>= fun outcome => ask (.settle round task outcome)

end Process

/-! ## The whole process -/

inductive ProcessCall where
  | bootstrap
  | shutdown (signal : String)
  | cleanUp (round : Nat) (task : CleanUp)

/-- `shutdown` closes the HTTP server and sets its timer before it suspends. -/
def ProcessCall.launch (call : ProcessCall) (w : ProcessWorld) :
    Option (ProcessProg Unit × ProcessWorld) :=
  if w.exited.isSome then none
  else
    match call with
    | .bootstrap =>
        if w.resources .pg = .absent then some (Process.bootstrap, w.opened) else none
    | .shutdown _ =>
        if w.handling then
          some (Process.closed,
            { w with accepting := false, timers := w.timers ++ [w.clock + Process.shutdownTimeout] })
        else none
    | .cleanUp round task =>
        match w.rounds[round]? with
        | some r =>
            if task ∈ r.started then none
            else some (Process.settling round task,
              { w with rounds := w.rounds.set round { r with started := task :: r.started } })
        | none => none

def processSystem (port : Binary64) :
    System (processRuntime port) Unit ProcessCall (ProcessProg Unit) where
  view := Prog.view
  launch := ProcessCall.launch

abbrev ProcessRecord := Record ProcessCmd ProcessCmd.Reply JsError ProcessChoice

abbrev ProcessConfig := Config ProcessCmd ProcessCmd.Reply JsError ProcessWorld ProcessChoice
  ProcessCall (ProcessProg Unit)

abbrev ProcessAction := Action ProcessCall ProcessChoice ProcessEvent

abbrev ProcessAnswer := Answer ProcessCmd ProcessCmd.Reply JsError

end SalesforceTikTok
