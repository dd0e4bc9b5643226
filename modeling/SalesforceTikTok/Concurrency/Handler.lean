import SalesforceTikTok.Concurrency.Program

/-!
# Programs in place of commands

A handler carries out every command of one kind by a program over commands of another
kind. The caller waits until that program has ended and goes on with its outcome, so a
program and its handled form agree on everything but the commands.
-/

namespace Concurrency

variable {C C' : Type} {R : C → Type} {R' : C' → Type} {ε α β : Type}

namespace Prog

def attempt : Prog C R ε α → Prog C R ε (Except ε α)
  | done value => done (.ok value)
  | fail error => done (.error error)
  | await cmd resume => await cmd fun reply => (resume reply).attempt

def handle (handler : (cmd : C) → Prog C' R' ε (R cmd)) : Prog C R ε α → Prog C' R' ε α
  | done value => done value
  | fail error => fail error
  | await cmd resume => (handler cmd).attempt >>= fun reply => (resume reply).handle handler

theorem handle_await (handler : (cmd : C) → Prog C' R' ε (R cmd)) (cmd : C)
    (resume : Except ε (R cmd) → Prog C R ε α) :
    (await cmd resume).handle handler =
      (handler cmd).attempt >>= fun reply => (resume reply).handle handler := rfl

theorem call_attempt_bind (cmd : C) (next : Except ε (R cmd) → Prog C R ε β) :
    (call cmd : Prog C R ε (R cmd)).attempt >>= next = await cmd next := by
  show await cmd _ = await cmd next
  congr
  funext reply
  cases reply <;> rfl

theorem eq_of_view_awaits {p : Prog C R ε α} {cmd : C}
    {resume : Except ε (R cmd) → Prog C R ε α} (h : p.view = .awaits cmd resume) :
    p = await cmd resume := by
  cases p with
  | done value => cases h
  | fail error => cases h
  | await cmd' resume' => cases h; rfl

theorem eq_of_view_ok {p : Prog C R ε α} {value : α} (h : p.view = .ended (.ok value)) :
    p = done value := by
  cases p <;> cases h
  rfl

theorem eq_of_view_error {p : Prog C R ε α} {error : ε} (h : p.view = .ended (.error error)) :
    p = fail error := by
  cases p <;> cases h
  rfl

end Prog
end Concurrency
