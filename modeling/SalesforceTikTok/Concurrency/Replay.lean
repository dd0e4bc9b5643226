import SalesforceTikTok.Concurrency.Contract

/-!
# Programs and their answers

What a program comes to is settled by what it is answered. `Takes` relates the two
by recursion on the program, so that the answers of a sequence of parts split into
the answers of the parts; in a run it relates how a call has ended to the answers
of that call (`Ended.takes`).
-/

namespace Concurrency

variable {C : Type} {R : C → Type} {ε α β W Ch V E : Type}

namespace Prog

/-! ## Changing what a program returns -/

theorem map_bind (f : β → α) (p : Prog C R ε W) (next : W → Prog C R ε β) :
    f <$> (p >>= next) = p >>= fun value => f <$> next value := by
  induction p with
  | done value => rfl
  | fail error => rfl
  | await cmd resume ih => exact congrArg (await cmd) (funext ih)

theorem map_catch (f : β → α) (p : Prog C R ε β) (handler : ε → Prog C R ε β) :
    f <$> tryCatch p handler = tryCatch (f <$> p) fun error => f <$> handler error := by
  induction p with
  | done value => rfl
  | fail error => rfl
  | await cmd resume ih => exact congrArg (await cmd) (funext ih)

/-! ## Programs and what they are answered -/

/-- Answered so, with no answer left over, the program comes to this outcome. -/
def Takes (outcome : Except ε α) : Prog C R ε α → List (Answer C R ε) → Prop
  | done value, answers => answers = [] ∧ outcome = .ok value
  | fail error, answers => answers = [] ∧ outcome = .error error
  | await cmd resume, answers =>
      ∃ reply rest, answers = ⟨cmd, reply⟩ :: rest ∧ (resume reply).Takes outcome rest

theorem takes_call {cmd : C} {outcome : Except ε (R cmd)} {answers : List (Answer C R ε)} :
    (call cmd : Prog C R ε (R cmd)).Takes outcome answers ↔ answers = [⟨cmd, outcome⟩] := by
  constructor
  · rintro ⟨reply, rest, rfl, ends⟩
    cases reply <;> obtain ⟨rfl, rfl⟩ := ends <;> rfl
  · rintro rfl
    refine ⟨outcome, [], rfl, ?_⟩
    cases outcome <;> exact ⟨rfl, rfl⟩

theorem takes_bind {p : Prog C R ε α} {next : α → Prog C R ε β} {outcome : Except ε β}
    {answers : List (Answer C R ε)} :
    (p >>= next).Takes outcome answers ↔
      (∃ value first rest, answers = first ++ rest ∧ p.Takes (.ok value) first ∧
        (next value).Takes outcome rest) ∨
        ∃ error, p.Takes (.error error) answers ∧ outcome = .error error := by
  induction p generalizing answers with
  | done value =>
      constructor
      · exact fun h => .inl ⟨value, [], answers, rfl, ⟨rfl, rfl⟩, h⟩
      · rintro (⟨_, _, rest, rfl, ⟨rfl, same⟩, h⟩ | ⟨_, ⟨_, same⟩, _⟩)
        · cases same
          exact h
        · cases same
  | fail error =>
      constructor
      · exact fun h => .inr ⟨error, ⟨h.1, rfl⟩, h.2⟩
      · rintro (⟨_, _, _, _, ⟨_, same⟩, _⟩ | ⟨_, ⟨none, same⟩, h⟩)
        · cases same
        · cases same
          exact ⟨none, h⟩
  | await cmd resume ih =>
      constructor
      · rintro ⟨reply, rest, rfl, h⟩
        rcases (ih reply).mp h with ⟨value, first, rest, rfl, part, next⟩ | ⟨error, part, same⟩
        · exact .inl ⟨value, _ :: first, rest, rfl, ⟨reply, first, rfl, part⟩, next⟩
        · exact .inr ⟨error, ⟨reply, rest, rfl, part⟩, same⟩
      · rintro (⟨value, _, rest, rfl, ⟨reply, first, rfl, part⟩, next⟩ |
          ⟨error, ⟨reply, rest, rfl, part⟩, same⟩)
        · exact ⟨reply, first ++ rest, rfl,
            (ih reply).mpr (.inl ⟨value, first, rest, rfl, part, next⟩)⟩
        · exact ⟨reply, rest, rfl, (ih reply).mpr (.inr ⟨error, part, same⟩)⟩

theorem takes_call_bind {cmd : C} {next : R cmd → Prog C R ε β} {outcome : Except ε β}
    {answers : List (Answer C R ε)} :
    ((call cmd : Prog C R ε (R cmd)) >>= next).Takes outcome answers ↔
      (∃ value rest, answers = ⟨cmd, .ok value⟩ :: rest ∧ (next value).Takes outcome rest) ∨
        ∃ error, answers = [⟨cmd, .error error⟩] ∧ outcome = .error error := by
  rw [takes_bind]
  simp only [takes_call]
  constructor
  · rintro (⟨value, _, rest, rfl, rfl, next⟩ | failed)
    · exact .inl ⟨value, rest, rfl, next⟩
    · exact .inr failed
  · rintro (⟨value, rest, rfl, next⟩ | failed)
    · exact .inl ⟨value, [_], rest, rfl, rfl, next⟩
    · exact .inr failed

theorem takes_catch {p : Prog C R ε α} {handler : ε → Prog C R ε α} {outcome : Except ε α}
    {answers : List (Answer C R ε)} :
    (tryCatch p handler).Takes outcome answers ↔
      (∃ value, p.Takes (.ok value) answers ∧ outcome = .ok value) ∨
        ∃ error first rest, answers = first ++ rest ∧ p.Takes (.error error) first ∧
          (handler error).Takes outcome rest := by
  induction p generalizing answers with
  | done value =>
      constructor
      · exact fun h => .inl ⟨value, ⟨h.1, rfl⟩, h.2⟩
      · rintro (⟨_, ⟨none, same⟩, h⟩ | ⟨_, _, _, _, ⟨_, same⟩, _⟩)
        · cases same
          exact ⟨none, h⟩
        · cases same
  | fail error =>
      constructor
      · exact fun h => .inr ⟨error, [], answers, rfl, ⟨rfl, rfl⟩, h⟩
      · rintro (⟨_, ⟨_, same⟩, _⟩ | ⟨_, _, rest, rfl, ⟨rfl, same⟩, h⟩)
        · cases same
        · cases same
          exact h
  | await cmd resume ih =>
      constructor
      · rintro ⟨reply, rest, rfl, h⟩
        rcases (ih reply).mp h with ⟨value, part, same⟩ | ⟨error, first, rest, rfl, part, next⟩
        · exact .inl ⟨value, ⟨reply, rest, rfl, part⟩, same⟩
        · exact .inr ⟨error, _ :: first, rest, rfl, ⟨reply, first, rfl, part⟩, next⟩
      · rintro (⟨value, ⟨reply, rest, rfl, part⟩, same⟩ |
          ⟨error, _, rest, rfl, ⟨reply, first, rfl, part⟩, next⟩)
        · exact ⟨reply, rest, rfl, (ih reply).mpr (.inl ⟨value, part, same⟩)⟩
        · exact ⟨reply, first ++ rest, rfl,
            (ih reply).mpr (.inr ⟨error, first, rest, rfl, part, next⟩)⟩

theorem Takes.unique {p : Prog C R ε α} {outcome outcome' : Except ε α}
    {answers : List (Answer C R ε)} (h : p.Takes outcome answers)
    (h' : p.Takes outcome' answers) : outcome = outcome' := by
  induction p generalizing answers with
  | done value => exact h.2.trans h'.2.symm
  | fail error => exact h.2.trans h'.2.symm
  | await cmd resume ih =>
      obtain ⟨reply, rest, rfl, part⟩ := h
      obtain ⟨reply', rest', same, part'⟩ := h'
      cases same
      exact ih reply part part'

/-- A program that meets its contract has ended as that says. -/
theorem Takes.ends {asks : List (Answer C R ε) → C → Prop}
    {ends : List (Answer C R ε) → Except ε α → Prop} {p : Prog C R ε α} {outcome : Except ε α}
    {history answers : List (Answer C R ε)} (h : p.Takes outcome answers)
    (meets : p.Meets (fun _ _ => True) asks ends history) : ends (history ++ answers) outcome := by
  induction p generalizing history answers with
  | done value =>
      obtain ⟨rfl, rfl⟩ := h
      rwa [List.append_nil]
  | fail error =>
      obtain ⟨rfl, rfl⟩ := h
      rwa [List.append_nil]
  | await cmd resume ih =>
      obtain ⟨reply, rest, rfl, part⟩ := h
      have last := ih reply part (meets.2 reply trivial)
      rwa [List.append_assoc] at last

theorem Takes.within {P : C → Prop} {Q : Except ε α → Prop} {p : Prog C R ε α}
    {outcome : Except ε α} {answers : List (Answer C R ε)} (h : p.Takes outcome answers)
    (within : p.Within P Q) : ∀ a ∈ answers, P a.cmd := by
  induction p generalizing answers with
  | done value =>
      rw [h.1]
      exact fun a none => absurd none List.not_mem_nil
  | fail error =>
      rw [h.1]
      exact fun a none => absurd none List.not_mem_nil
  | await cmd resume ih =>
      obtain ⟨reply, rest, rfl, part⟩ := h
      intro a ha
      rcases List.mem_cons.mp ha with rfl | later
      · exact within.1
      · exact ih reply part (within.2 reply) a later

end Prog

namespace System

variable {rt : Runtime C R ε W Ch V} {S : System rt α E (Prog C R ε α)}

/-- A call has ended as its program does when it is answered as that call was. -/
theorem Ended.takes {program : E → Prog C R ε α} (view : S.view = Prog.view)
    (launched : ∀ entry w x v, S.launch entry w = some (x, v) → x = program entry)
    {w : W} {c : Config C R ε W Ch E (Prog C R ε α)} {actions : List (Action E Ch V)}
    (h : S.run (.initial w) actions = some c) {pid : Nat} {p : Proc E (Prog C R ε α)}
    (hp : c.procs[pid]? = some p) {outcome : Except ε α} (ended : S.Ended c pid outcome) :
    (program p.entry).Takes outcome ((c.own pid).map Record.answer) := by
  have own := run_own (fun _ => True) (fun entry x history => ∀ answers outcome,
    x.Takes outcome answers →
      (program entry).Takes outcome (history.map Record.answer ++ answers)) ?_ ?_ h
    (fun _ _ => trivial) hp
  · have shown := ended.view_eq hp
    rw [view] at shown
    have last : p.state.Takes outcome [] := by
      cases outcome with
      | ok value =>
          rw [Prog.eq_of_view_ok shown]
          exact ⟨rfl, rfl⟩
      | error error =>
          rw [Prog.eq_of_view_error shown]
          exact ⟨rfl, rfl⟩
    simpa using own [] outcome last
  · intro entry w x v hl answers outcome rest
    rw [launched entry w x v hl] at rest
    exact rest
  · intro entry x history cmd resume pid choice reply w v own hv _ _ answers outcome rest
    rw [view] at hv
    rw [Prog.eq_of_view_awaits hv] at own
    have longer := own (⟨cmd, reply⟩ :: answers) outcome ⟨reply, answers, rfl, rest⟩
    simpa [Record.answer] using longer

end System
end Concurrency
