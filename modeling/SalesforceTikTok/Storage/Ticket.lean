import Mathlib.Data.List.Basic

/-!
# One-time tickets

A ticket is issued under a key, holds for a while and is used up by being redeemed. A
ticket office that keeps its books is known by its marks: a ticket is outstanding when the
last thing that happened to its key is that it was issued, not too long ago.
-/

namespace Storage.Ticket

inductive Event where
  | issued
  | redeemed
  deriving DecidableEq, Repr

structure Mark (κ : Type) where
  key : κ
  time : Int
  event : Event
  deriving DecidableEq, Repr

variable {κ : Type} [DecidableEq κ]

def latest (marks : List (Mark κ)) (key : κ) : Option (Mark κ) :=
  (marks.filter fun m => m.key = key).getLast?

/-- The ticket was issued less than `width` before and has not been redeemed since. -/
def Outstanding (width : Int) (marks : List (Mark κ)) (key : κ) (now : Int) : Prop :=
  ∃ issued, latest marks key = some ⟨key, issued, .issued⟩ ∧ now < issued + width

@[simp] theorem latest_nil (key : κ) : latest [] key = none := rfl

theorem latest_concat_self (marks : List (Mark κ)) (m : Mark κ) :
    latest (marks ++ [m]) m.key = some m := by
  simp [latest]

theorem latest_concat_ne (marks : List (Mark κ)) {m : Mark κ} {key : κ} (other : m.key ≠ key) :
    latest (marks ++ [m]) key = latest marks key := by
  simp [latest, other]

end Storage.Ticket
