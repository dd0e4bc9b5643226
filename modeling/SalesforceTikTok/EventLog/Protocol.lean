import SalesforceTikTok.Concurrency.Refinement
import SalesforceTikTok.EventLog.Connections

/-!
# The points of a transaction

Where a caller of the event log is suspended, and what it awaits there. The points have the
same runs as the programs (`pool_refines`).
-/

namespace SalesforceTikTok

open Concurrency Storage

variable {Q Rows T : Type}

inductive PoolPoint (Q Rows T : Type) where
  | asking (statement : Q)
  | connecting (fn : Statements Q Rows T)
  | beginning (client : Nat) (fn : Statements Q Rows T)
  | running (client : Nat) (statement : Q) (resume : Except JsError Rows → Statements Q Rows T)
  | committing (client : Nat) (result : T)
  | rollingBack (client : Nat) (err : JsError)
  | releasing (client : Nat) (outcome : Except JsError T)
  | ended (outcome : Except JsError (PoolResult Rows T))

namespace EventLog

/-- What `withTransaction` does with the body of its `try`. -/
def guarded (client : Nat) (body : PoolProg Q Rows T) : PoolProg Q Rows T :=
  tryCatch body fun err => ask (.client client .rollback) >>= fun _ => throw err

def released (client : Nat) (outcome : Except JsError T) : PoolProg Q Rows T := do
  let _ ← ask (.release client)
  match outcome with
  | .ok result => pure result
  | .error err => throw err

/-- From a point of the `try` to the end. -/
def finished (client : Nat) (body : PoolProg Q Rows T) : PoolProg Q Rows T :=
  body.attempt >>= released client

/-- `fn` and the commit after it. -/
def committed (client : Nat) (fn : Statements Q Rows T) : PoolProg Q Rows T := do
  let result ← onClient client fn
  let _ ← ask (.client client .commit)
  pure result

end EventLog

namespace PoolPoint

open EventLog

/-- Where the statements of `fn` lead. -/
def next (client : Nat) : Statements Q Rows T → PoolPoint Q Rows T
  | .done result => .committing client result
  | .fail err => .rollingBack client err
  | .await statement resume => .running client statement resume

def program : PoolPoint Q Rows T → PoolProg Q Rows (PoolResult Rows T)
  | .asking statement => .rows <$> ask (.query statement)
  | .connecting fn => .result <$> withTransaction fn
  | .beginning client fn =>
      .result <$> finished client
        (guarded client (ask (.client client .begin) >>= fun _ => committed client fn))
  | .running client statement resume =>
      .result <$> finished client (guarded client (committed client (.await statement resume)))
  | .committing client result =>
      .result <$> finished client
        (guarded client (ask (.client client .commit) >>= fun _ => pure result))
  | .rollingBack client err =>
      .result <$> finished client (ask (.client client .rollback) >>= fun _ => throw err)
  | .releasing client outcome => .result <$> released client outcome
  | .ended (.ok value) => .done value
  | .ended (.error err) => .fail err

def view : PoolPoint Q Rows T →
    View (PoolCmd Q) (PoolCmd.Reply Rows) JsError (PoolResult Rows T) (PoolPoint Q Rows T)
  | .asking statement =>
      .awaits (.query statement) fun
        | .ok rows => .ended (.ok (.rows rows))
        | .error err => .ended (.error err)
  | .connecting fn =>
      .awaits .connect fun
        | .ok client => .beginning client fn
        | .error err => .ended (.error err)
  | .beginning client fn =>
      .awaits (.client client .begin) fun
        | .ok _ => next client fn
        | .error err => .rollingBack client err
  | .running client statement resume =>
      .awaits (.client client (.statement statement)) fun reply => next client (resume reply)
  | .committing client result =>
      .awaits (.client client .commit) fun
        | .ok _ => .releasing client (.ok result)
        | .error err => .rollingBack client err
  | .rollingBack client err =>
      .awaits (.client client .rollback) fun
        | .ok _ => .releasing client (.error err)
        -- the error of `ROLLBACK` replaces the one that led here
        | .error err' => .releasing client (.error err')
  | .releasing client outcome =>
      .awaits (.release client) fun
        | .ok _ => .ended (outcome.map .result)
        | .error err => .ended (.error err)
  | .ended outcome => .ended outcome

private theorem next_program (client : Nat) (fn : Statements Q Rows T) :
    (next client fn).program =
      .result <$> finished client (guarded client (committed client fn)) := by
  cases fn <;> rfl

theorem view_program (x : PoolPoint Q Rows T) : x.program.view = x.view.map program := by
  cases x with
  | asking statement => exact View.awaits_ext (fun _ => rfl) fun _ => rfl
  | connecting fn => exact View.awaits_ext (fun _ => rfl) fun _ => rfl
  | beginning client fn =>
      exact View.awaits_ext (fun _ => (next_program client fn).symm) fun _ => rfl
  | running client statement resume =>
      exact View.awaits_ext (fun _ => (next_program client _).symm)
        fun _ => (next_program client _).symm
  | committing client result => exact View.awaits_ext (fun _ => rfl) fun _ => rfl
  | rollingBack client err => exact View.awaits_ext (fun _ => rfl) fun _ => rfl
  | releasing client outcome =>
      cases outcome with
      | ok value => exact View.awaits_ext (fun _ => rfl) fun _ => rfl
      | error err => exact View.awaits_ext (fun _ => rfl) fun _ => rfl
  | ended outcome => cases outcome <;> rfl

end PoolPoint

def PoolCall.startPoint : PoolCall Q Rows T → PoolPoint Q Rows T
  | .withTransaction fn => .connecting fn
  | .query statement => .asking statement

def poolProtocol (Q Rows T : Type) : System (poolRuntime Q Rows) (PoolResult Rows T)
    (PoolCall Q Rows T) (PoolPoint Q Rows T) where
  view := PoolPoint.view
  launch call w := some (call.startPoint, w)

theorem pool_refines : Refines (poolProtocol Q Rows T) (poolSystem Q Rows T) PoolPoint.program where
  view := PoolPoint.view_program
  launch call _ := by cases call <;> rfl

end SalesforceTikTok
