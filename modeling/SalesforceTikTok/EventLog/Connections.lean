import SalesforceTikTok.Concurrency.Handler
import SalesforceTikTok.Concurrency.System
import SalesforceTikTok.Core.Platform
import SalesforceTikTok.Storage.Session

/-!
# The connections of the event log

The pool of Postgres clients behind `EventLog`: a client is lent to one caller at a time, and
goes back unless its connection is broken. `pool.query` takes a client for one statement;
`withTransaction` keeps one for a whole transaction. Statements and their rows stay abstract.
-/

namespace SalesforceTikTok

open Concurrency Storage

/-- `Q` are statements. Clients are numbered in the order in which they connected. -/
inductive PoolCmd (Q : Type) where
  /-- `pool.connect()`. -/
  | connect
  /-- `client.query(...)`. -/
  | client (client : Nat) (request : SessionRequest Q)
  /-- `pool.query(...)`. -/
  | query (statement : Q)
  /-- `client.release()`. It does not suspend; as a command of its own it may come later. -/
  | release (client : Nat)

abbrev PoolCmd.Reply {Q : Type} (Rows : Type) : PoolCmd Q → Type
  | .connect => Nat
  | .client _ request => request.Reply Rows
  | .query _ => Rows
  | .release _ => Unit

inductive PoolAnswer (Rows : Type) where
  | ok
  | rows (rows : Rows)
  | refuse (error : JsError)
  /-- The connection broke, before or after the request was carried out. -/
  | drop (error : JsError)
  | lose (error : JsError)

inductive PoolChoice (Rows : Type) where
  | lend (client : Nat)
  | timeout (error : JsError)
  | answer (answer : PoolAnswer Rows)
  | through (client : Nat) (answer : PoolAnswer Rows)

namespace PoolAnswer

variable {Q Rows : Type}

def verdict : PoolAnswer Rows → SessionVerdict
  | .ok | .rows _ => .done
  | .refuse _ => .refused
  | .drop _ => .unsent
  | .lose _ => .unanswered

def carried (answer : PoolAnswer Rows) : Bool :=
  answer.verdict = .done ∨ answer.verdict = .unanswered

def reply : (request : SessionRequest Q) → PoolAnswer Rows →
    Option (Except JsError (request.Reply Rows))
  | .statement _, .rows found => some (.ok found)
  | .begin, .ok | .commit, .ok | .rollback, .ok => some (.ok ())
  | _, .refuse error | _, .drop error | _, .lose error => some (.error error)
  | _, _ => none

end PoolAnswer

structure PoolWorld (Q : Type) where
  /-- What is durable, unit by unit. -/
  committed : List (List Q)
  sessions : List (Session Q)
  /-- The clients that nobody has. -/
  available : List Nat

def PoolWorld.fresh {Q : Type} : PoolWorld Q := ⟨[], [], []⟩

namespace PoolWorld

variable {Q : Type}

def lend (w : PoolWorld Q) (client : Nat) : Option (PoolWorld Q) :=
  if client ∈ w.available then some { w with available := w.available.erase client }
  else if client = w.sessions.length then some { w with sessions := w.sessions ++ [.idle] }
  else none

def perform (w : PoolWorld Q) (client : Nat) (request : SessionRequest Q)
    (verdict : SessionVerdict) : Option (PoolWorld Q) :=
  match w.sessions[client]? with
  | none => none
  | some session =>
      match session.answer request verdict with
      | none => none
      | some (next, units) =>
          some { w with committed := w.committed ++ units, sessions := w.sessions.set client next }

def giveBack (w : PoolWorld Q) (client : Nat) : PoolWorld Q :=
  match w.sessions[client]? with
  | some .broken => w
  | _ => { w with available := w.available ++ [client] }

def close (w : PoolWorld Q) (client : Nat) : PoolWorld Q :=
  { w with sessions := w.sessions.set client .broken, available := w.available.erase client }

end PoolWorld

/-- `pool.query` gives its client back after rows, and has it closed after an error. -/
def poolExec {Q Rows : Type} : (cmd : PoolCmd Q) → PoolChoice Rows → PoolWorld Q →
    Option (Except JsError (cmd.Reply Rows) × PoolWorld Q)
  | .connect, .lend client, w => (w.lend client).map fun v => (.ok client, v)
  | .connect, .timeout error, w => some (.error error, w)
  | .client client request, .answer answer, w =>
      match answer.reply request, w.perform client request answer.verdict with
      | some reply, some v => some (reply, v)
      | _, _ => none
  | .query statement, .through client answer, w =>
      match answer.reply (.statement statement),
        (w.lend client).bind (·.perform client (.statement statement) answer.verdict) with
      | some (.ok rows), some v => some (.ok rows, v.giveBack client)
      | some (.error error), some v => some (.error error, v.close client)
      | _, _ => none
  | .query _, .timeout error, w => some (.error error, w)
  | .release client, .answer .ok, w => some (.ok (), w.giveBack client)
  | _, _, _ => none

inductive PoolEvent where
  /-- A connection breaks; the pool drops the client if nobody has it. -/
  | breaks (client : Nat)

def poolEnv {Q : Type} : PoolEvent → PoolWorld Q → Option (PoolWorld Q)
  | .breaks client, w => some (w.close client)

abbrev poolRuntime (Q Rows : Type) :
    Runtime (PoolCmd Q) (PoolCmd.Reply Rows) JsError (PoolWorld Q) (PoolChoice Rows) PoolEvent where
  exec := poolExec
  env := poolEnv

abbrev PoolProg (Q Rows : Type) := Prog (PoolCmd Q) (PoolCmd.Reply Rows) JsError

/-- What `withTransaction` runs: a program of statements for its client. -/
abbrev Statements (Q Rows T : Type) := Prog Q (fun _ => Rows) JsError T

namespace EventLog

variable {Q Rows T : Type}

def ask (cmd : PoolCmd Q) : PoolProg Q Rows (cmd.Reply Rows) := Prog.call cmd

/-- `fn(client)`. -/
def onClient (client : Nat) (fn : Statements Q Rows T) : PoolProg Q Rows T :=
  fn.handle fun statement => ask (.client client (.statement statement))

def withTransaction (fn : Statements Q Rows T) : PoolProg Q Rows T := do
  let client : Nat ← ask .connect
  let outcome ←
    (try
      let _ ← ask (.client client .begin)
      let result ← onClient client fn
      let _ ← ask (.client client .commit)
      pure result
    catch err =>
      let _ ← ask (.client client .rollback)
      throw err : PoolProg Q Rows T).attempt
  -- `finally`
  let _ ← ask (.release client)
  match outcome with
  | .ok result => pure result
  | .error err => throw err

end EventLog

inductive PoolCall (Q Rows T : Type) where
  | withTransaction (fn : Statements Q Rows T)
  | query (statement : Q)

inductive PoolResult (Rows T : Type) where
  | result (value : T)
  | rows (rows : Rows)

def PoolCall.program {Q Rows T : Type} : PoolCall Q Rows T → PoolProg Q Rows (PoolResult Rows T)
  | .withTransaction fn => .result <$> EventLog.withTransaction fn
  | .query statement => .rows <$> EventLog.ask (.query statement)

def poolSystem (Q Rows T : Type) : System (poolRuntime Q Rows) (PoolResult Rows T)
    (PoolCall Q Rows T) (PoolProg Q Rows (PoolResult Rows T)) where
  view := Prog.view
  launch call w := some (call.program, w)

abbrev PoolRecord (Q Rows : Type) :=
  Record (PoolCmd Q) (PoolCmd.Reply Rows) JsError (PoolChoice Rows)

abbrev PoolConfig (Q Rows T X : Type) :=
  Config (PoolCmd Q) (PoolCmd.Reply Rows) JsError (PoolWorld Q) (PoolChoice Rows)
    (PoolCall Q Rows T) X

abbrev PoolAction (Q Rows T : Type) := Action (PoolCall Q Rows T) (PoolChoice Rows) PoolEvent

end SalesforceTikTok
