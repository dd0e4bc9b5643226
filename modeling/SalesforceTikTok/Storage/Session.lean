import Mathlib.Data.List.Basic

/-!
# Database sessions

A session carries out statements one at a time. Between `BEGIN` and its end a transaction
collects them, and `COMMIT` makes them durable as one unit; outside of one every statement
is a unit of its own. A refused statement aborts the transaction: all that is left is to end
it, and `COMMIT` then succeeds without making anything durable. A connection that breaks
takes its transaction with it.
-/

namespace Storage

variable {Q : Type}

inductive Session (Q : Type) where
  | idle
  | opened (work : List Q)
  | aborted
  | broken
  deriving DecidableEq, Repr

inductive SessionRequest (Q : Type) where
  | begin
  | statement (query : Q)
  | commit
  | rollback
  deriving DecidableEq, Repr

abbrev SessionRequest.Reply (Rows : Type) : SessionRequest Q → Type
  | .statement _ => Rows
  | .begin | .commit | .rollback => Unit

/-- How a request ends: done, refused by the database, or with the connection broken before or
after it was done. -/
inductive SessionVerdict where
  | done
  | refused
  | unsent
  | unanswered
  deriving DecidableEq, Repr

namespace Session

def carry : Session Q → SessionRequest Q → Option (Session Q × List (List Q))
  | .idle, .begin => some (.opened [], [])
  | .idle, .statement query => some (.idle, [[query]])
  | .idle, .commit | .idle, .rollback => some (.idle, [])
  | .opened work, .begin => some (.opened work, [])
  | .opened work, .statement query => some (.opened (work ++ [query]), [])
  | .opened work, .commit => some (.idle, [work])
  | .opened _, .rollback => some (.idle, [])
  | .aborted, .commit | .aborted, .rollback => some (.idle, [])
  | .aborted, .begin | .aborted, .statement _ | .broken, _ => none

/-- A request that is refused. A refused `COMMIT` ends the transaction. -/
def refuse : Session Q → SessionRequest Q → Option (Session Q)
  | .idle, .rollback | .opened _, .rollback | .aborted, .rollback | .broken, _ => none
  | .idle, _ => some .idle
  | .opened _, .commit => some .idle
  | .opened _, _ => some .aborted
  | .aborted, .commit => none
  | .aborted, _ => some .aborted

/-- The next session and what became durable; `none` is "not possible here". -/
def answer (session : Session Q) (request : SessionRequest Q) :
    SessionVerdict → Option (Session Q × List (List Q))
  | .done => session.carry request
  | .refused => (session.refuse request).map fun next => (next, [])
  | .unsent => some (.broken, [])
  | .unanswered => (session.carry request).map fun next => (.broken, next.2)

/-- The session is in a transaction with this work, of which a statement may have been
refused. -/
def InTransaction (session : Session Q) (work : List Q) (refusal : Bool) : Prop :=
  session = .broken ∨ session = if refusal then .aborted else .opened work

def Settled (session : Session Q) : Prop := session = .idle ∨ session = .broken

variable {session next : Session Q} {work : List Q} {refusal : Bool} {verdict : SessionVerdict}
  {units : List (List Q)}

/-- Outside of a transaction a statement is a unit of its own. -/
theorem answer_alone {query : Q}
    (answered : idle.answer (.statement query) verdict = some (next, units)) : next.Settled ∧
      units = if verdict = .done ∨ verdict = .unanswered then [[query]] else [] := by
  cases verdict <;> cases answered <;> simp [Settled]

theorem answer_begin (settled : session.Settled)
    (answered : session.answer .begin verdict = some (next, units)) : units = [] ∧
      (verdict = .done ∧ next = .opened [] ∨ verdict ≠ .done ∧ next.Settled) := by
  obtain rfl | rfl := settled <;> cases verdict <;> cases answered <;> simp [Settled]

theorem answer_statement {query : Q} (inside : session.InTransaction work refusal)
    (answered : session.answer (.statement query) verdict = some (next, units)) : units = [] ∧
      (verdict = .done ∧ next.InTransaction (work ++ [query]) refusal ∨
        verdict ≠ .done ∧ next.InTransaction work true) := by
  obtain rfl | rfl := inside
  · cases verdict <;> cases answered
    simp [InTransaction]
  · cases refusal <;> cases verdict <;> cases answered <;> simp [InTransaction]

/-- `COMMIT` makes the whole work durable, or nothing if a statement was refused. -/
theorem answer_commit (inside : session.InTransaction work refusal)
    (answered : session.answer .commit verdict = some (next, units)) : next.Settled ∧
      units = if refusal = false ∧ (verdict = .done ∨ verdict = .unanswered) then [work] else [] := by
  obtain rfl | rfl := inside
  · cases verdict <;> cases answered
    simp [Settled]
  · cases refusal <;> cases verdict <;> cases answered <;> simp [Settled]

/-- `ROLLBACK` ends any transaction, and makes nothing durable. -/
theorem answer_rollback (answered : session.answer .rollback verdict = some (next, units)) :
    next.Settled ∧ units = [] := by
  cases session <;> cases verdict <;> cases answered <;> simp [Settled]

end Session
end Storage
