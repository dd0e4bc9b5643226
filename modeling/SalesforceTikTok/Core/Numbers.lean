import SalesforceTikTok.Arithmetic.Binary64

/-!
# Numbers of the configuration

The numeric settings as the environment schema admits them, and what the platform
does with numbers as positions in an array.
-/

namespace SalesforceTikTok

/-! ## Settings -/

/-- `z.coerce.number().default(fallback)`: what `Number` makes of the variable, if it is set.
All numbers pass, fractions, negative ones and infinities too; `Number('')` is 0. -/
def coerceNumber (fallback : Binary64) : Option Binary64 → Option Binary64
  | none => some fallback
  | some .nan => none
  | some value => some value

theorem coerceNumber_ne_nan {fallback : Binary64} (h : fallback ≠ .nan)
    (setting : Option Binary64) : coerceNumber fallback setting ≠ some .nan := by
  rcases setting with _ | value
  · simpa [coerceNumber] using h
  · cases value <;> simp [coerceNumber]

/-- The admitted values of `TIKTOK_BATCH_SIZE`. -/
def TIKTOK_BATCH_SIZE : Option Binary64 → Option Binary64 := coerceNumber 50

/-- The admitted values of `TIKTOK_RATE_LIMIT_RPS`. -/
def TIKTOK_RATE_LIMIT_RPS : Option Binary64 → Option Binary64 := coerceNumber 10

/-- The admitted values of `PORT`. -/
def PORT : Option Binary64 → Option Binary64 := coerceNumber 3000

/-- `validatePort` of Node, which `listen` throws by: a whole number of 16 bits. -/
def validatePort : Binary64 → Bool
  | .finite q _ => q.den = 1 ∧ 0 ≤ q ∧ q ≤ 65535
  | _ => false

/-- The schema admits numbers that are no ports. -/
example : PORT (some 70000) = some 70000 ∧ validatePort 70000 = false := by decide +kernel

/-! ## Arrays -/

structure JsArray (α : Type) where
  toList : List α
  bound : toList.length < 2 ^ 32

namespace JsArray

variable {α : Type}

def length (a : JsArray α) : ℕ := a.toList.length

/-- The whole part, as `ToIntegerOrInfinity` takes it. -/
def truncate (q : ℚ) : ℤ := if q < 0 then ⌈q⌉ else ⌊q⌋

/-- A position counts from the end if it is negative, and is kept within the array. -/
def relativeIndex (length : ℕ) : Binary64 → ℕ
  | .finite q _ =>
      if truncate q < 0 then (length + truncate q).toNat else min (truncate q).toNat length
  | .infinite negative => if negative then 0 else length
  | .nan => 0

theorem relativeIndex_of_nonneg (length : ℕ) {q : ℚ} (nonneg : 0 ≤ q) {representable} :
    relativeIndex length (.finite q representable) = min ⌊q⌋₊ length := by
  have floor : truncate q = ⌊q⌋ := if_neg nonneg.not_gt
  have positive : 0 ≤ ⌊q⌋ := Int.floor_nonneg.mpr nonneg
  simp only [relativeIndex, floor]
  rw [if_neg positive.not_gt, Int.floor_toNat]

def slice (a : JsArray α) (start stop : Binary64) : List α :=
  (a.toList.take (relativeIndex a.length stop)).drop (relativeIndex a.length start)

end JsArray
end SalesforceTikTok
