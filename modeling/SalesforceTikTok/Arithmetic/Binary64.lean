import Mathlib.Data.Int.Log
import Mathlib.Data.Rat.Floor
import Mathlib.Tactic.Linarith
import Mathlib.Tactic.Positivity
import Mathlib.Tactic.Ring

/-!
# Double precision numbers

The finite numbers of IEEE 754 binary64 are the rationals that rounding leaves
alone. An operation rounds its exact result to the nearest of them, of two as
near to the one whose last place is even, and overflows to an infinity. The two
zeros are one number here: neither comparisons nor sums of numbers tell them
apart.
-/

namespace Binary64

/-! ## Rounding to whole numbers -/

def nearest (q : ℚ) : ℤ :=
  if q - ⌊q⌋ < 1 / 2 then ⌊q⌋
  else if 1 / 2 < q - ⌊q⌋ then ⌊q⌋ + 1
  else if ⌊q⌋ % 2 = 0 then ⌊q⌋ else ⌊q⌋ + 1

theorem nearest_bounds (q : ℚ) : ⌊q⌋ ≤ nearest q ∧ nearest q ≤ ⌊q⌋ + 1 := by
  unfold nearest
  split
  · omega
  · split
    · omega
    · split <;> omega

theorem nearest_mono {q r : ℚ} (h : q ≤ r) : nearest q ≤ nearest r := by
  have floors : ⌊q⌋ ≤ ⌊r⌋ := Int.floor_mono h
  have upper := (nearest_bounds q).2
  have lower := (nearest_bounds r).1
  rcases floors.lt_or_eq with below | same
  · omega
  · unfold nearest at lower ⊢
    rw [← same] at lower ⊢
    by_cases first : q - ⌊q⌋ < 1 / 2
    · rw [if_pos first]
      exact lower
    · have second : ¬ r - ⌊q⌋ < 1 / 2 := by linarith
      rw [if_neg first, if_neg second]
      by_cases third : 1 / 2 < q - ⌊q⌋
      · have fourth : 1 / 2 < r - ⌊q⌋ := by linarith
        rw [if_pos third, if_pos fourth]
      · rw [if_neg third]
        split <;> split <;> omega

@[simp] theorem nearest_intCast (n : ℤ) : nearest n = n := by
  simp [nearest]

theorem nearest_le {q : ℚ} {n : ℤ} (h : q ≤ n) : nearest q ≤ n :=
  nearest_intCast n ▸ nearest_mono h

theorem le_nearest {q : ℚ} {n : ℤ} (h : (n : ℚ) ≤ q) : n ≤ nearest q :=
  nearest_intCast n ▸ nearest_mono h

/-! ## Rounding to the format -/

def lastPlace (q : ℚ) : ℤ := max (Int.log 2 |q| - 52) (-1074)

def round (q : ℚ) : ℚ := nearest (q / 2 ^ lastPlace q) * 2 ^ lastPlace q

theorem place_pos (e : ℤ) : (0 : ℚ) < 2 ^ e := zpow_pos (by norm_num) e

@[simp] theorem round_zero : round 0 = 0 := by
  simp [round, nearest]

theorem scaled_bound (q : ℚ) : |q / 2 ^ lastPlace q| < 2 ^ 53 := by
  have size : |q| < 2 ^ (Int.log 2 |q| + 1) := Int.lt_zpow_succ_log_self (by decide) _
  have wider : (2 : ℚ) ^ (Int.log 2 |q| + 1) ≤ 2 ^ (53 + lastPlace q) := by
    refine zpow_le_zpow_right₀ (by norm_num) ?_
    unfold lastPlace
    omega
  rw [abs_div, abs_of_pos (place_pos _), div_lt_iff₀ (place_pos _)]
  calc |q| < 2 ^ (53 + lastPlace q) := size.trans_le wider
    _ = 2 ^ 53 * 2 ^ lastPlace q := by
      rw [zpow_add₀ (by norm_num)]
      norm_num

/-- What is a whole number of last places is of the format. -/
theorem round_of_whole {q : ℚ} {n : ℤ} (h : q = n * 2 ^ lastPlace q) : round q = q := by
  have scaled : q / 2 ^ lastPlace q = n := (div_eq_iff (place_pos _).ne').mpr h
  rw [round, scaled, nearest_intCast]
  exact h.symm

theorem round_scaled_lt {m e : ℤ} (short : |m| < 2 ^ 53) (place : -1074 ≤ e) :
    round (m * 2 ^ e) = m * 2 ^ e := by
  rcases eq_or_ne m 0 with rfl | some
  · simp
  · have size : |(m * 2 ^ e : ℚ)| < (2 : ℕ) ^ (e + 53) := by
      rw [abs_mul, abs_of_pos (place_pos e), ← Int.cast_abs, zpow_add₀ (by norm_num), mul_comm]
      refine mul_lt_mul_of_pos_left ?_ (place_pos e)
      exact_mod_cast short
    have positive : (0 : ℚ) < |(m * 2 ^ e : ℚ)| :=
      abs_pos.mpr (mul_ne_zero (by exact_mod_cast some) (place_pos e).ne')
    have log := (Int.lt_zpow_iff_log_lt (by decide) positive).mp size
    have fits : lastPlace (m * 2 ^ e) ≤ e := by
      unfold lastPlace
      omega
    have split : (2 : ℚ) ^ e = 2 ^ (e - lastPlace (m * 2 ^ e)).toNat *
        2 ^ lastPlace (m * 2 ^ e) := by
      rw [← zpow_natCast, ← zpow_add₀ (by norm_num)]
      congr 1
      omega
    refine round_of_whole (n := m * 2 ^ (e - lastPlace (m * 2 ^ e)).toNat) ?_
    push_cast
    rw [mul_assoc, ← split]

/-- A whole number of at most 53 places, with a last place that is not too small, is of the
format. -/
theorem round_scaled {m e : ℤ} (short : |m| ≤ 2 ^ 53) (place : -1074 ≤ e) :
    round (m * 2 ^ e) = m * 2 ^ e := by
  rcases short.lt_or_eq with less | same
  · exact round_scaled_lt less place
  · -- half the number has a place less
    obtain ⟨half, twice, less⟩ : ∃ half : ℤ, m = half * 2 ∧ |half| < 2 ^ 53 := by
      rcases (abs_eq (by norm_num)).mp same with rfl | rfl
      · exact ⟨2 ^ 52, by norm_num, by norm_num⟩
      · exact ⟨-2 ^ 52, by norm_num, by norm_num⟩
    have shifted : (m * 2 ^ e : ℚ) = half * 2 ^ (e + 1) := by
      rw [twice, zpow_add₀ (by norm_num)]
      push_cast
      ring
    rw [shifted]
    exact round_scaled_lt less (by omega)

theorem round_round (q : ℚ) : round (round q) = round q := by
  have short : |nearest (q / 2 ^ lastPlace q)| ≤ 2 ^ 53 := by
    have bound := abs_lt.mp (scaled_bound q)
    rw [abs_le]
    constructor
    · refine le_nearest ?_
      push_cast
      exact bound.1.le
    · refine nearest_le ?_
      push_cast
      exact bound.2.le
  exact round_scaled short (by unfold lastPlace; omega)

theorem round_intCast {n : ℤ} (short : |n| ≤ 2 ^ 53) : round n = n := by
  simpa using round_scaled short (by decide : (-1074 : ℤ) ≤ 0)

theorem round_nonpos {q : ℚ} (h : q ≤ 0) : round q ≤ 0 := by
  have scaled : q / 2 ^ lastPlace q ≤ ((0 : ℤ) : ℚ) := by
    rw [Int.cast_zero]
    exact div_nonpos_of_nonpos_of_nonneg h (place_pos _).le
  refine mul_nonpos_of_nonpos_of_nonneg ?_ (place_pos _).le
  exact_mod_cast nearest_le scaled

theorem round_nonneg {q : ℚ} (h : 0 ≤ q) : 0 ≤ round q := by
  have scaled : ((0 : ℤ) : ℚ) ≤ q / 2 ^ lastPlace q := by
    rw [Int.cast_zero]
    exact div_nonneg h (place_pos _).le
  refine mul_nonneg ?_ (place_pos _).le
  exact_mod_cast le_nearest scaled

theorem lastPlace_mono {q r : ℚ} (positive : 0 < q) (h : q ≤ r) : lastPlace q ≤ lastPlace r := by
  have logs : Int.log 2 |q| ≤ Int.log 2 |r| := by
    rw [abs_of_pos positive, abs_of_pos (positive.trans_le h)]
    exact Int.log_mono_right positive h
  unfold lastPlace
  omega

/-- A power of two is of the format if it is no smaller than the last places of its size. -/
theorem whole_power {e : ℤ} {p : ℤ} (h : p ≤ e) :
    (2 : ℚ) ^ e = ((2 ^ (e - p).toNat : ℤ) : ℚ) * 2 ^ p := by
  push_cast
  rw [← zpow_natCast, ← zpow_add₀ (by norm_num)]
  congr 1
  omega

theorem round_mono {q r : ℚ} (nonneg : 0 ≤ q) (h : q ≤ r) : round q ≤ round r := by
  rcases nonneg.eq_or_lt with rfl | positive
  · rw [round_zero]
    exact round_nonneg h
  · rcases (lastPlace_mono positive h).eq_or_lt with same | wider
    · unfold round
      rw [same]
      refine mul_le_mul_of_nonneg_right ?_ (place_pos _).le
      exact_mod_cast nearest_mono (div_le_div_of_nonneg_right h (place_pos _).le)
    · -- a power of two lies between numbers of different size
      have larger : 0 < r := positive.trans_le h
      have sizes : lastPlace r + 52 = Int.log 2 r ∧ Int.log 2 q < Int.log 2 r := by
        unfold lastPlace at wider ⊢
        rw [abs_of_pos positive, abs_of_pos larger] at wider
        rw [abs_of_pos larger]
        omega
      have below : q ≤ 2 ^ Int.log 2 r :=
        ((Int.lt_zpow_iff_log_lt (by decide) positive).mpr sizes.2).le
      have above : (2 : ℚ) ^ Int.log 2 r ≤ r := Int.zpow_log_le_self (by decide) larger
      have lower : round q ≤ 2 ^ Int.log 2 r := by
        rw [whole_power (show lastPlace q ≤ Int.log 2 r by omega), round]
        refine mul_le_mul_of_nonneg_right ?_ (place_pos _).le
        refine Int.cast_le.mpr (nearest_le ?_)
        rw [div_le_iff₀ (place_pos _), ← whole_power (by omega)]
        exact below
      have upper : (2 : ℚ) ^ Int.log 2 r ≤ round r := by
        rw [whole_power (show lastPlace r ≤ Int.log 2 r by omega), round]
        refine mul_le_mul_of_nonneg_right ?_ (place_pos _).le
        refine Int.cast_le.mpr (le_nearest ?_)
        rw [le_div_iff₀ (place_pos _), ← whole_power (by omega)]
        exact above
      exact lower.trans upper

end Binary64

/-! ## The numbers -/

inductive Binary64 where
  | finite (value : ℚ) (representable : Binary64.round value = value ∧ |value| < 2 ^ 1024)
  | infinite (negative : Bool)
  | nan
  deriving DecidableEq

namespace Binary64

def ofRat (q : ℚ) : Binary64 :=
  if fits : |round q| < 2 ^ 1024 then .finite (round q) ⟨round_round q, fits⟩
  else .infinite (q < 0)

def add : Binary64 → Binary64 → Binary64
  | .finite q _, .finite r _ => ofRat (q + r)
  | .finite _ _, .infinite negative | .infinite negative, .finite _ _ => .infinite negative
  | .infinite negative, .infinite other => if negative = other then .infinite negative else .nan
  | .nan, _ | _, .nan => .nan

def sub : Binary64 → Binary64 → Binary64
  | .finite q _, .finite r _ => ofRat (q - r)
  | .finite _ _, .infinite negative => .infinite !negative
  | .infinite negative, .finite _ _ => .infinite negative
  | .infinite negative, .infinite other => if negative = other then .nan else .infinite negative
  | .nan, _ | _, .nan => .nan

/-- The comparison `<`, which is false of what is not a number. -/
def lt : Binary64 → Binary64 → Bool
  | .finite q _, .finite r _ => q < r
  | .finite _ _, .infinite negative => !negative
  | .infinite negative, .finite _ _ => negative
  | .infinite negative, .infinite other => negative && !other
  | .nan, _ | _, .nan => false

/-- The comparison `<=`. -/
def le : Binary64 → Binary64 → Bool
  | .finite q _, .finite r _ => q ≤ r
  | .finite _ _, .infinite negative => !negative
  | .infinite negative, .finite _ _ => negative
  | .infinite negative, .infinite other => negative || !other
  | .nan, _ | _, .nan => false

instance : Add Binary64 := ⟨add⟩
instance : Sub Binary64 := ⟨sub⟩
instance : LT Binary64 := ⟨fun x y => x.lt y = true⟩
instance : LE Binary64 := ⟨fun x y => x.le y = true⟩
instance : DecidableLT Binary64 := fun x y => inferInstanceAs (Decidable (x.lt y = true))
instance : DecidableLE Binary64 := fun x y => inferInstanceAs (Decidable (x.le y = true))
instance : Zero Binary64 := ⟨ofRat 0⟩
instance : One Binary64 := ⟨ofRat 1⟩
instance : NatCast Binary64 := ⟨fun n => ofRat n⟩

theorem ofRat_round {q : ℚ} (fits : |round q| < 2 ^ 1024) :
    ofRat q = .finite (round q) ⟨round_round q, fits⟩ := dif_pos fits

theorem ofRat_overflow {q : ℚ} (large : ¬ |round q| < 2 ^ 1024) : ofRat q = .infinite (q < 0) :=
  dif_neg large

theorem ofRat_self {q : ℚ} (representable : round q = q ∧ |q| < 2 ^ 1024) :
    ofRat q = .finite q representable := by
  unfold ofRat
  rw [dif_pos (representable.1.symm ▸ representable.2)]
  congr
  exact representable.1

theorem intCast_fits {n : ℤ} (short : |n| ≤ 2 ^ 53) : |(n : ℚ)| < 2 ^ 1024 := by
  have wider : |(n : ℚ)| ≤ 2 ^ 53 := by exact_mod_cast short
  exact wider.trans_lt (pow_lt_pow_right₀ (by norm_num) (by norm_num))

theorem ofRat_intCast {n : ℤ} (short : |n| ≤ 2 ^ 53) :
    ofRat n = .finite n ⟨round_intCast short, intCast_fits short⟩ :=
  ofRat_self ⟨round_intCast short, intCast_fits short⟩

section

variable {n : ℕ} {q : ℚ} {representable : round q = q ∧ |q| < 2 ^ 1024}

theorem natCast_eq (short : n ≤ 2 ^ 53) :
    ∃ representable, (n : Binary64) = .finite n representable :=
  ⟨_, ofRat_intCast (n := n) (by
    rw [Nat.abs_cast]
    exact_mod_cast short)⟩

theorem zero_eq : ∃ representable, (0 : Binary64) = .finite 0 representable :=
  ⟨⟨round_zero, by simp⟩, by
    change ofRat 0 = _
    simp [ofRat]⟩

theorem one_eq : (1 : Binary64) = (1 : ℕ) := by
  change ofRat 1 = ofRat (1 : ℕ)
  rw [Nat.cast_one]

theorem zero_eq_natCast : (0 : Binary64) = (0 : ℕ) := by
  change ofRat 0 = ofRat (0 : ℕ)
  rw [Nat.cast_zero]

theorem natCast_le_natCast {m : ℕ} (first : m ≤ 2 ^ 53) (second : n ≤ 2 ^ 53) :
    (m : Binary64) ≤ n ↔ m ≤ n := by
  obtain ⟨_, left⟩ := natCast_eq first
  obtain ⟨_, right⟩ := natCast_eq second
  rw [left, right]
  exact decide_eq_true_iff.trans Nat.cast_le

/-- Whole numbers of at most 53 places count down one by one. -/
theorem natCast_sub_one (short : n + 1 ≤ 2 ^ 53) : ((n + 1 : ℕ) : Binary64) - 1 = n := by
  obtain ⟨_, left⟩ := natCast_eq short
  obtain ⟨_, right⟩ := natCast_eq (n := 1) (by norm_num)
  rw [one_eq, left, right]
  change ofRat ((n + 1 : ℕ) - (1 : ℕ)) = ofRat n
  push_cast
  rw [add_sub_cancel_right]

theorem finite_lt_natCast (short : n ≤ 2 ^ 53) :
    .finite q representable < (n : Binary64) ↔ q < n := by
  obtain ⟨_, same⟩ := natCast_eq short
  rw [same]
  exact decide_eq_true_iff

theorem natCast_le_finite (short : n ≤ 2 ^ 53) :
    (n : Binary64) ≤ .finite q representable ↔ n ≤ q := by
  obtain ⟨_, same⟩ := natCast_eq short
  rw [same]
  exact decide_eq_true_iff

end

/-! ## Bounds on numbers -/

def AtLeast : Binary64 → ℚ → Prop
  | .finite r _, q => q ≤ r
  | .infinite negative, _ => negative = false
  | .nan, _ => False

theorem AtLeast.mono {x : Binary64} {q r : ℚ} (h : x.AtLeast r) (le : q ≤ r) : x.AtLeast q := by
  cases x with
  | finite s _ => exact le.trans h
  | infinite negative => exact h
  | nan => exact h

theorem natCast_le_iff {x : Binary64} {n : ℕ} (short : n ≤ 2 ^ 53) :
    (n : Binary64) ≤ x ↔ x.AtLeast n := by
  obtain ⟨_, same⟩ := natCast_eq short
  rw [same]
  cases x with
  | finite r _ => exact decide_eq_true_iff
  | infinite negative => cases negative <;> simp [AtLeast, LE.le, le]
  | nan => simp [AtLeast, LE.le, le]

theorem one_le_iff {x : Binary64} : 1 ≤ x ↔ x.AtLeast 1 := by
  rw [one_eq, natCast_le_iff (by norm_num), Nat.cast_one]

theorem atLeast_ofRat {q r : ℚ} (nonneg : 0 ≤ q) (h : q ≤ r) : (ofRat r).AtLeast (round q) := by
  unfold ofRat
  split
  · exact round_mono nonneg h
  · exact decide_eq_false (not_lt.mpr (nonneg.trans h))

theorem sub_one {q : ℚ} {representable : round q = q ∧ |q| < 2 ^ 1024} :
    .finite q representable - 1 = ofRat (q - 1) := by
  obtain ⟨_, one⟩ := natCast_eq (n := 1) (by norm_num)
  rw [one_eq, one]
  change ofRat (q - (1 : ℕ)) = _
  rw [Nat.cast_one]

theorem infinite_sub_one {negative : Bool} :
    Binary64.infinite negative - 1 = .infinite negative := by
  obtain ⟨_, one⟩ := natCast_eq (n := 1) (by norm_num)
  rw [one_eq, one]
  rfl

/-! ## Taking one away -/

theorem round_even {q : ℚ} (large : 2 ^ 53 ≤ q) : ∃ n : ℤ, round q = 2 * n := by
  have positive : 0 < q := lt_of_lt_of_le (by norm_num) large
  have log : 53 ≤ Int.log 2 q := by
    have size : ((2 : ℕ) : ℚ) ^ (53 : ℤ) ≤ q := by exact_mod_cast large
    exact (Int.zpow_le_iff_le_log (by decide) positive).mp size
  have place : 1 ≤ lastPlace q := by
    unfold lastPlace
    rw [abs_of_pos positive]
    omega
  refine ⟨nearest (q / 2 ^ lastPlace q) * 2 ^ (lastPlace q - 1).toNat, ?_⟩
  have split := whole_power place
  push_cast at split ⊢
  rw [round, split]
  ring

theorem round_sub_one {q : ℚ} (format : round q = q) (whole : 1 ≤ q) (short : q ≤ 2 ^ 53) :
    round (q - 1) = q - 1 := by
  rcases short.eq_or_lt with rfl | less
  · have less_one : (2 : ℚ) ^ 53 - 1 = ((2 ^ 53 - 1 : ℤ) : ℚ) := by norm_num
    rw [less_one]
    exact round_intCast (by norm_num)
  · have positive : 0 < q := lt_of_lt_of_le (by norm_num) whole
    have log : Int.log 2 q < 53 := by
      refine (Int.lt_zpow_iff_log_lt (by decide) positive).mp ?_
      exact_mod_cast less
    have place : lastPlace q ≤ 0 := by
      unfold lastPlace
      rw [abs_of_pos positive]
      omega
    -- one is a whole number of last places too
    have one : (1 : ℚ) = ((2 ^ (0 - lastPlace q).toNat : ℤ) : ℚ) * 2 ^ lastPlace q := by
      simpa using whole_power place
    have scaled : q = nearest (q / 2 ^ lastPlace q) * 2 ^ lastPlace q := format.symm
    have split : q - 1 = ((nearest (q / 2 ^ lastPlace q) - 2 ^ (0 - lastPlace q).toNat : ℤ) : ℚ) *
        2 ^ lastPlace q := by
      push_cast at one ⊢
      linarith
    have bound : |nearest (q / 2 ^ lastPlace q) - 2 ^ (0 - lastPlace q).toNat| ≤ (2 ^ 53 : ℤ) := by
      have size := (abs_lt.mp (scaled_bound q)).2
      have nonneg : (0 : ℚ) ≤ ((nearest (q / 2 ^ lastPlace q) -
          2 ^ (0 - lastPlace q).toNat : ℤ) : ℚ) := by
        refine nonneg_of_mul_nonneg_left ?_ (place_pos (lastPlace q))
        rw [← split]
        linarith
      have upper : nearest (q / 2 ^ lastPlace q) ≤ 2 ^ 53 := nearest_le (by
        push_cast
        exact size.le)
      have taken : (0 : ℤ) ≤ 2 ^ (0 - lastPlace q).toNat := by positivity
      rw [abs_of_nonneg (by exact_mod_cast nonneg)]
      omega
    rw [split]
    exact round_scaled bound (by unfold lastPlace; omega)

/-- A number that taking one away makes smaller becomes smaller by one at least. -/
theorem round_sub_one_le {q : ℚ} (format : round q = q) (whole : 1 ≤ q)
    (less : round (q - 1) < q) : round (q - 1) ≤ q - 1 := by
  rcases le_or_gt q (2 ^ 53) with short | large
  · exact (round_sub_one format whole short).le
  · obtain ⟨n, even⟩ := round_even large.le
    rw [format] at even
    have more : 2 ^ 52 < n := by
      have twice : (2 : ℚ) ^ 53 < 2 * n := even ▸ large
      have : (2 : ℤ) ^ 53 < 2 * n := by exact_mod_cast twice
      omega
    have rest : (2 : ℚ) ^ 53 ≤ q - 1 := by
      rw [even]
      have : (2 : ℤ) ^ 53 ≤ 2 * n - 1 := by omega
      exact_mod_cast this
    obtain ⟨m, even'⟩ := round_even rest
    rw [even', even] at less ⊢
    have smaller : 2 * m < 2 * n := by exact_mod_cast less
    have apart : 2 * m ≤ 2 * n - 1 := by omega
    exact_mod_cast apart

/-- What one can be taken from is then finite and not negative. -/
theorem sub_one_of_lt {x : Binary64} (whole : 1 ≤ x) (less : x - 1 < x) :
    ∃ q r representable representable', x = .finite q representable ∧
      x - 1 = .finite r representable' ∧ 0 ≤ r ∧ r ≤ q - 1 := by
  have whole : x.AtLeast 1 := one_le_iff.mp whole
  cases x with
  | finite q representable =>
      have whole : 1 ≤ q := whole
      rw [sub_one] at less ⊢
      have fits : |round (q - 1)| < 2 ^ 1024 := by
        by_contra large
        rw [ofRat_overflow large, decide_eq_false (by linarith)] at less
        cases less
      rw [ofRat_round fits] at less ⊢
      have smaller : round (q - 1) < q := of_decide_eq_true less
      exact ⟨q, _, representable, _, rfl, rfl, round_nonneg (by linarith),
        round_sub_one_le representable.1 whole smaller⟩
  | infinite negative =>
      rw [infinite_sub_one] at less
      cases negative <;> cases less
  | nan => exact whole.elim

end Binary64
