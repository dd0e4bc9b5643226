import SalesforceTikTok.Concurrency.Invariant
import SalesforceTikTok.Concurrency.Refinement

/-!
# Simulation of observed runs

An observer notes some of the steps of a run. A run is simulated by an automaton over
these notes when every noted step is a move of the automaton and the others leave its
state alone: what the observer notes is then a path of the automaton, and the facts about
its paths are facts about the runs.
-/

namespace Concurrency

variable {C : Type} {R : C → Type} {ε α β W Ch V E X Y A : Type}

/-- `notes` leads an automaton with these moves from `x` to `y`. -/
inductive Path (move : A → β → A → Prop) : A → List β → A → Prop where
  | nil (x : A) : Path move x [] x
  | cons {x y z : A} {note : β} {notes : List β} (first : move x note y)
      (rest : Path move y notes z) : Path move x (note :: notes) z

namespace Path

variable {move : A → β → A → Prop} {x y z : A} {notes : List β}

/-- What every move preserves holds at the end of a path. The invariant may speak of the
notes so far. -/
theorem invariant {I : List β → A → Prop}
    (moved : ∀ before x note y, I before x → move x note y → I (before ++ [note]) y)
    {before : List β} (path : Path move x notes y) (start : I before x) :
    I (before ++ notes) y := by
  induction path generalizing before with
  | nil x => simpa using start
  | cons first rest ih =>
      have later := ih (moved _ _ _ _ start first)
      rwa [List.append_assoc] at later

/-- A path passes through a state before each of its notes. -/
theorem split {before after : List β} {note : β} (path : Path move x (before ++ note :: after) z) :
    ∃ y y', Path move x before y ∧ move y note y' := by
  induction before generalizing x with
  | nil =>
      cases path with
      | cons first rest => exact ⟨x, _, .nil x, first⟩
  | cons head before ih =>
      cases path with
      | cons first rest =>
          obtain ⟨y, y', path, moved⟩ := ih rest
          exact ⟨y, y', .cons first path, moved⟩

end Path

namespace System

variable {rt : Runtime C R ε W Ch V} {S : System rt α E X}

abbrev Observer (C : Type) (R : C → Type) (ε W Ch V E X β : Type) : Type :=
  Config C R ε W Ch E X → Action E Ch V → Config C R ε W Ch E X → Option β

def observe (S : System rt α E X) (note : Observer C R ε W Ch V E X β)
    (c : Config C R ε W Ch E X) : List (Action E Ch V) → List β
  | [] => []
  | a :: rest =>
      match S.step c a with
      | some d => (note c a d).toList ++ observe S note d rest
      | none => []

theorem observe_cons {c d : Config C R ε W Ch E X} {a : Action E Ch V}
    (h : S.step c a = some d) (note : Observer C R ε W Ch V E X β) (rest : List (Action E Ch V)) :
    S.observe note c (a :: rest) = (note c a d).toList ++ S.observe note d rest := by
  rw [observe, h]

theorem observe_concat {c d d' : Config C R ε W Ch E X} {taken : List (Action E Ch V)}
    {a : Action E Ch V} (h : S.run c taken = some d) (hs : S.step d a = some d')
    (note : Observer C R ε W Ch V E X β) :
    S.observe note c (taken ++ [a]) = S.observe note c taken ++ (note d a d').toList := by
  induction taken generalizing c with
  | nil =>
      cases h
      simp [observe, hs]
  | cons first rest ih =>
      obtain ⟨e, he, hr⟩ := run_cons h
      simp only [List.cons_append, observe, he, ih hr, List.append_assoc]

/-- A run whose noted steps are moves, and whose other steps are none, is observed as a path.
The steps may be under a condition. -/
theorem run_simulates_along (note : Observer C R ε W Ch V E X β) {move : A → β → A → Prop}
    (P : Config C R ε W Ch E X → Action E Ch V → Config C R ε W Ch E X → Prop)
    (Rel : A → Config C R ε W Ch E X → Prop)
    (noted : ∀ x c a d b, Rel x c → S.step c a = some d → P c a d → note c a d = some b →
      ∃ y, move x b y ∧ Rel y d)
    (silent : ∀ x c a d, Rel x c → S.step c a = some d → P c a d → note c a d = none → Rel x d)
    {c d : Config C R ε W Ch E X} {actions : List (Action E Ch V)}
    (h : S.run c actions = some d) (along : S.Along P c actions) {x : A} (start : Rel x c) :
    ∃ y, Path move x (S.observe note c actions) y ∧ Rel y d := by
  induction actions generalizing c x with
  | nil =>
      cases h
      exact ⟨x, .nil x, start⟩
  | cons a rest ih =>
      obtain ⟨e, he, hr⟩ := run_cons h
      obtain ⟨here, later⟩ := along e he
      rw [observe_cons he]
      cases seen : note c a e with
      | none => exact ih hr later (silent x c a e start he here seen)
      | some b =>
          obtain ⟨y, moved, related⟩ := noted x c a e b start he here seen
          obtain ⟨z, path, final⟩ := ih hr later related
          exact ⟨z, .cons moved path, final⟩

theorem run_simulates (note : Observer C R ε W Ch V E X β) {move : A → β → A → Prop}
    (Rel : A → Config C R ε W Ch E X → Prop)
    (noted : ∀ x c a d b, Rel x c → S.step c a = some d → note c a d = some b →
      ∃ y, move x b y ∧ Rel y d)
    (silent : ∀ x c a d, Rel x c → S.step c a = some d → note c a d = none → Rel x d)
    {c d : Config C R ε W Ch E X} {actions : List (Action E Ch V)}
    (h : S.run c actions = some d) {x : A} (start : Rel x c) :
    ∃ y, Path move x (S.observe note c actions) y ∧ Rel y d :=
  run_simulates_along note (fun _ _ _ => True) Rel
    (fun x c a d b related hs _ => noted x c a d b related hs)
    (fun x c a d related hs _ => silent x c a d related hs)
    h (along_of_actions (fun _ => True) (fun _ _ => trivial) c) start

end System

theorem Refines.observe {rt : Runtime C R ε W Ch V} {S : System rt α E X} {T : System rt α E Y}
    {f : X → Y} (hf : Refines S T f) (note : System.Observer C R ε W Ch V E Y β)
    (c : Config C R ε W Ch E X) (actions : List (Action E Ch V)) :
    T.observe note (c.map f) actions =
      S.observe (fun b a d => note (b.map f) a (d.map f)) c actions := by
  induction actions generalizing c with
  | nil => rfl
  | cons a rest ih =>
      simp only [System.observe, hf.step]
      cases S.step c a with
      | none => rfl
      | some d => exact congrArg _ (ih d)

end Concurrency
