import Mathlib.Data.List.Infix

/-!
# Infixes of appended lists

An infix of two lists in a row lies in the first, in the second, or across their
border. Where no beginning of the infix ends the first list, or no end of it begins
the second, nothing lies across, and one list alone decides.
-/

namespace Collections

variable {α : Type}

/-- Whatever follows `xs`, `part` does not begin in it. -/
structure NotBegun (part xs : List α) : Prop where
  whole : ¬ part <:+: xs
  begins : ∀ first ∈ part.inits, first = [] ∨ ¬ first <:+ xs

/-- Whatever precedes `ys`, `part` does not end in it. -/
structure NotEnded (part ys : List α) : Prop where
  whole : ¬ part <:+: ys
  ends : ∀ last ∈ part.tails, last = [] ∨ ¬ last <+: ys

variable {part xs ys : List α}

theorem NotBegun.infix_append (h : NotBegun part xs) (ys : List α) :
    part <:+: xs ++ ys ↔ part <:+: ys := by
  constructor
  · intro occurs
    obtain inFirst | inSecond | ⟨first, last, filled, _, rfl, suffix, _⟩ :=
      List.infix_append_iff_ne_nil.mp occurs
    · exact absurd inFirst h.whole
    · exact inSecond
    · have initial := (List.mem_inits first (first ++ last)).mpr (List.prefix_append _ _)
      exact ((h.begins first initial).resolve_left filled suffix).elim
  · exact fun occurs => occurs.trans (List.suffix_append _ _).isInfix

theorem NotEnded.infix_append (h : NotEnded part ys) (xs : List α) :
    part <:+: xs ++ ys ↔ part <:+: xs := by
  constructor
  · intro occurs
    obtain inFirst | inSecond | ⟨first, last, _, filled, rfl, _, starts⟩ :=
      List.infix_append_iff_ne_nil.mp occurs
    · exact inFirst
    · exact absurd inSecond h.whole
    · have final := (List.mem_tails last (first ++ last)).mpr (List.suffix_append _ _)
      exact ((h.ends last final).resolve_left filled starts).elim
  · exact fun occurs => occurs.trans (List.prefix_append _ _).isInfix

/-- A list without the first element of `part` holds no beginning of it. -/
theorem NotBegun.of_notMem {x : α} {rest : List α} (absent : x ∉ xs) :
    NotBegun (x :: rest) xs where
  whole occurs := absent (occurs.subset List.mem_cons_self)
  begins first initial := by
    cases first with
    | nil => exact .inl rfl
    | cons y more =>
        obtain ⟨rfl, _⟩ := List.cons_prefix_cons.mp ((List.mem_inits _ _).mp initial)
        exact .inr fun suffix => absent (suffix.subset List.mem_cons_self)

end Collections
