/-!
# Asynchronous programs

A program is a finite tree of awaited commands. Every awaited command is
answered either by a value of its own reply type or by an error, so a rejected
promise is an ordinary answer and `try`/`catch` is ordinary recursion on the
tree. Nothing here says what a command does: that is the business of a runtime.
-/

namespace Concurrency

/-- A program over the commands `C`, whose command `c` is answered in `R c`. -/
inductive Prog (C : Type) (R : C → Type) (ε α : Type) : Type where
  | done (value : α)
  | fail (error : ε)
  | await (cmd : C) (resume : Except ε (R cmd) → Prog C R ε α)

/-- What a process shows its scheduler: its outcome, or the one command it awaits. -/
inductive View (C : Type) (R : C → Type) (ε α X : Type) : Type where
  | ended (outcome : Except ε α)
  | awaits (cmd : C) (resume : Except ε (R cmd) → X)

variable {C : Type} {R : C → Type} {ε α β X Y : Type}

def View.map (f : X → Y) : View C R ε α X → View C R ε α Y
  | .ended outcome => .ended outcome
  | .awaits cmd resume => .awaits cmd fun reply => f (resume reply)

/-- Two views of one command agree when they agree on every answer. -/
theorem View.awaits_ext {cmd : C} {resume resume' : Except ε (R cmd) → X}
    (ok : ∀ value, resume (.ok value) = resume' (.ok value))
    (error : ∀ e, resume (.error e) = resume' (.error e)) :
    (View.awaits cmd resume : View C R ε α X) = .awaits cmd resume' := by
  congr
  funext reply
  cases reply with
  | ok value => exact ok value
  | error e => exact error e

namespace Prog

protected def bind : Prog C R ε α → (α → Prog C R ε β) → Prog C R ε β
  | done value, next => next value
  | fail error, _ => fail error
  | await cmd resume, next => await cmd fun reply => (resume reply).bind next

protected def tryCatch : Prog C R ε α → (ε → Prog C R ε α) → Prog C R ε α
  | done value, _ => done value
  | fail error, handler => handler error
  | await cmd resume, handler => await cmd fun reply => (resume reply).tryCatch handler

instance : Monad (Prog C R ε) where
  pure := done
  bind := Prog.bind

instance : MonadExcept ε (Prog C R ε) where
  throw := fail
  tryCatch := Prog.tryCatch

def call (cmd : C) : Prog C R ε (R cmd) :=
  await cmd fun
    | .ok value => done value
    | .error error => fail error

def view : Prog C R ε α → View C R ε α (Prog C R ε α)
  | done value => .ended (.ok value)
  | fail error => .ended (.error error)
  | await cmd resume => .awaits cmd resume

/-! ## Unfolding equations -/

@[simp] theorem done_bind (value : α) (next : α → Prog C R ε β) :
    (done value : Prog C R ε α) >>= next = next value := rfl

@[simp] theorem fail_bind (error : ε) (next : α → Prog C R ε β) :
    (fail error : Prog C R ε α) >>= next = fail error := rfl

@[simp] theorem await_bind (cmd : C) (resume : Except ε (R cmd) → Prog C R ε α)
    (next : α → Prog C R ε β) :
    await cmd resume >>= next = await cmd fun reply => resume reply >>= next := rfl

end Prog
end Concurrency
