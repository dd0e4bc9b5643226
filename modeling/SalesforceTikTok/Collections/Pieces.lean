import Mathlib.Order.Monotone.Basic

/-!
# Pieces of a list

A list is cut at a nondecreasing sequence of positions. The pieces before a
position make up the list up to it, so that a position which few short pieces
lead to is not far from the start.
-/

variable {α : Type}

/-- What lies between the positions number `k` and `k + 1`. -/
def piece (l : List α) (cut : ℕ → ℕ) (k : ℕ) : List α := (l.take (cut (k + 1))).drop (cut k)

/-- The first `count` pieces. -/
def pieces (l : List α) (cut : ℕ → ℕ) (count : ℕ) : List (List α) :=
  (List.range count).map (piece l cut)

section

variable {l : List α} {cut : ℕ → ℕ} {count : ℕ}

theorem pieces_succ : pieces l cut (count + 1) = pieces l cut count ++ [piece l cut count] := by
  simp [pieces, List.range_succ]

theorem mem_pieces {batch : List α} :
    batch ∈ pieces l cut count ↔ ∃ k < count, piece l cut k = batch := by
  simp [pieces]

theorem length_piece (k : ℕ) :
    (piece l cut k).length = min (cut (k + 1)) l.length - cut k := by
  simp [piece]

theorem flatten_pieces (start : cut 0 = 0) (ordered : ∀ k < count, cut k ≤ cut (k + 1)) :
    (pieces l cut count).flatten = l.take (cut count) := by
  induction count with
  | zero => simp [pieces, start]
  | succ count ih =>
      have before : (l.take (cut (count + 1))).take (cut count) = l.take (cut count) := by
        rw [List.take_take, Nat.min_eq_left (ordered count (Nat.lt_succ_self count))]
      have earlier := ih fun k hk => ordered k (Nat.lt_succ_of_lt hk)
      rw [pieces_succ, List.flatten_append, earlier, List.flatten_singleton, piece, ← before]
      exact List.take_append_drop _ _

/-- Pieces of at most `size` lead no further than `size` times their number. -/
theorem pieces_reach (start : cut 0 = 0) {size : ℕ}
    (short : ∀ batch ∈ pieces l cut count, batch.length ≤ size) :
    min (cut count) l.length ≤ size * count := by
  induction count with
  | zero => simp [start]
  | succ count ih =>
      have earlier := ih fun batch hb => short batch (by
        rw [pieces_succ]
        exact List.mem_append_left _ hb)
      have last := short _ (mem_pieces.mpr ⟨count, Nat.lt_succ_self count, rfl⟩)
      rw [length_piece] at last
      rw [Nat.mul_succ]
      omega

end
