import SalesforceTikTok.Collections.Pieces
import SalesforceTikTok.Core.Numbers
import SalesforceTikTok.Core.Types

/-!
# Batches of events

The events of a call are sent in batches. The loop steps an index by the batch
size, in double precision and whatever number the configuration holds, and cuts
the list at the whole parts of the index.
-/

namespace SalesforceTikTok

namespace TikTokEventBuilder

variable (events : JsArray CanonicalEvent) (batchSize : Binary64)

/-- The loop of `batchEvents` at index `i`, for at most this many iterations. -/
def batchLoop : ℕ → Binary64 → List (List CanonicalEvent) → Option (List (List CanonicalEvent))
  | fuel, i, batches =>
      if i < events.length then
        match fuel with
        | 0 => none
        | fuel + 1 =>
            batchLoop fuel (i + batchSize) (batches ++ [events.slice i (i + batchSize)])
      else some batches

/-- `batchEvents`, if it returns after at most this many iterations. -/
def batchEvents (fuel : ℕ) : Option (List (List CanonicalEvent)) :=
  batchLoop events batchSize fuel 0 []

/-! ## The index -/

def index : ℕ → Binary64
  | 0 => 0
  | k + 1 => index k + batchSize

def cut (k : ℕ) : ℕ := JsArray.relativeIndex events.length (index batchSize k)

structure StopsAfter (count : ℕ) : Prop where
  goes_on : ∀ k < count, index batchSize k < events.length
  stops : ¬ index batchSize count < events.length

variable {events batchSize}

private theorem batchLoop_returns {fuel k : ℕ} {batches : List (List CanonicalEvent)}
    (returned : batchLoop events batchSize fuel (index batchSize k)
      (pieces events.toList (cut events batchSize) k) = some batches)
    (before : ∀ j < k, index batchSize j < events.length) :
    ∃ count, StopsAfter events batchSize count ∧
      batches = pieces events.toList (cut events batchSize) count := by
  induction fuel generalizing k with
  | zero =>
      unfold batchLoop at returned
      split at returned
      · cases returned
      next stops => exact ⟨k, ⟨before, stops⟩, (Option.some.inj returned).symm⟩
  | succ fuel ih =>
      unfold batchLoop at returned
      split at returned
      next goes_on =>
        refine ih (k := k + 1) ?_ fun j hj => ?_
        · rw [pieces_succ]
          exact returned
        · rcases (Nat.lt_succ_iff_lt_or_eq.mp hj) with earlier | rfl
          · exact before j earlier
          · exact goes_on
      next stops => exact ⟨k, ⟨before, stops⟩, (Option.some.inj returned).symm⟩

private theorem batchLoop_stops {k more fuel : ℕ} (h : StopsAfter events batchSize (k + more))
    (enough : more ≤ fuel) :
    batchLoop events batchSize fuel (index batchSize k)
        (pieces events.toList (cut events batchSize) k) =
      some (pieces events.toList (cut events batchSize) (k + more)) := by
  induction more generalizing k fuel with
  | zero =>
      unfold batchLoop
      exact if_neg h.stops
  | succ more ih =>
      obtain ⟨fuel, rfl⟩ : ∃ less, fuel = less + 1 := ⟨fuel - 1, by omega⟩
      have shifted : k + (more + 1) = k + 1 + more := by omega
      rw [shifted] at h ⊢
      have rest := ih h (Nat.le_of_succ_le_succ enough)
      rw [pieces_succ] at rest
      unfold batchLoop
      rw [if_pos (h.goes_on k (by omega))]
      exact rest

theorem StopsAfter.unique {count count' : ℕ} (h : StopsAfter events batchSize count)
    (h' : StopsAfter events batchSize count') : count = count' := by
  rcases lt_trichotomy count count' with less | same | more
  · exact absurd (h'.goes_on count less) h.stops
  · exact same
  · exact absurd (h.goes_on count' more) h'.stops

/-- What the loop returns are the pieces up to the index at which it stops. -/
theorem batchEvents_returns {fuel : ℕ} {batches : List (List CanonicalEvent)}
    (returned : batchEvents events batchSize fuel = some batches) :
    ∃ count, StopsAfter events batchSize count ∧
      batches = pieces events.toList (cut events batchSize) count :=
  batchLoop_returns (k := 0) returned nofun

private theorem batchEvents_stops {count fuel : ℕ} (h : StopsAfter events batchSize count)
    (enough : count ≤ fuel) :
    batchEvents events batchSize fuel =
      some (pieces events.toList (cut events batchSize) count) := by
  rw [← Nat.zero_add count] at h ⊢
  exact batchLoop_stops h enough

/-! ## Batch sizes below one -/

def NonPositive : Binary64 → Prop
  | .finite q _ => q ≤ 0
  | .infinite negative => negative = true
  | .nan => False

theorem NonPositive.ofRat {q : ℚ} (h : q ≤ 0) : NonPositive (Binary64.ofRat q) := by
  by_cases fits : |Binary64.round q| < 2 ^ 1024
  · rw [Binary64.ofRat_round fits]
    exact Binary64.round_nonpos h
  · rw [Binary64.ofRat_overflow fits]
    refine decide_eq_true (lt_of_le_of_ne h ?_)
    rintro rfl
    simp at fits

theorem NonPositive.add {x y : Binary64} (hx : NonPositive x) (hy : NonPositive y) :
    NonPositive (x + y) := by
  cases x with
  | finite q =>
      cases y with
      | finite r => exact .ofRat (add_nonpos hx hy)
      | infinite negative => exact hy
      | nan => exact hy
  | infinite negative =>
      cases y with
      | finite r => exact hx
      | infinite other =>
          obtain rfl : negative = true := hx
          obtain rfl : other = true := hy
          rfl
      | nan => exact hy
  | nan => exact hx.elim

theorem NonPositive.index (h : NonPositive batchSize) (k : ℕ) :
    NonPositive (index batchSize k) := by
  induction k with
  | zero => exact .ofRat le_rfl
  | succ k ih => exact ih.add h

private theorem length_short (events : JsArray CanonicalEvent) : events.length ≤ 2 ^ 53 :=
  events.bound.le.trans (by norm_num)

/-- An index that does not rise above zero never reaches the end. -/
theorem NonPositive.never (h : NonPositive batchSize) (some_event : 0 < events.length)
    (count : ℕ) : ¬ StopsAfter events batchSize count := by
  intro ended
  refine ended.stops ?_
  have low := h.index count
  cases here : TikTokEventBuilder.index batchSize count with
  | finite q representable =>
      rw [here] at low
      refine (Binary64.finite_lt_natCast (length_short events)).mpr (lt_of_le_of_lt low ?_)
      exact_mod_cast some_event
  | infinite negative =>
      obtain ⟨_, same⟩ := Binary64.natCast_eq (length_short events)
      rw [here] at low
      rw [same]
      exact low
  | nan =>
      rw [here] at low
      exact low.elim

/-- The first batch is empty if the first step of the index has no whole part. -/
theorem empty_first (first : cut events batchSize 1 = 0) (some_event : 0 < events.length)
    {count : ℕ} (ended : StopsAfter events batchSize count) :
    [] ∈ pieces events.toList (cut events batchSize) count := by
  have started : 0 < count := by
    refine Nat.pos_of_ne_zero fun none => ended.stops ?_
    obtain ⟨_, zero⟩ := Binary64.zero_eq
    rw [none, index, zero]
    refine (Binary64.finite_lt_natCast (length_short events)).mpr ?_
    exact_mod_cast some_event
  refine mem_pieces.mpr ⟨0, started, ?_⟩
  rw [piece, first]
  simp

/-! ## Batch sizes from one on -/

def sums (q : ℚ) : ℕ → ℚ
  | 0 => 0
  | count + 1 => Binary64.round (sums q count + q)

section

variable {q : ℚ} {representable : Binary64.round q = q ∧ |q| < 2 ^ 1024}

private theorem sums_one (representable : Binary64.round q = q ∧ |q| < 2 ^ 1024) :
    sums q 1 = q := by
  simp [sums, representable.1]

/-- While it is below the length of an array, a sum is no less than the whole parts make. -/
theorem sums_ge (representable : Binary64.round q = q ∧ |q| < 2 ^ 1024) (one : 1 ≤ q) {k : ℕ}
    (before : ∀ j < k, sums q j < 2 ^ 32) : (⌊q⌋₊ * k : ℚ) ≤ sums q k := by
  have whole : (⌊q⌋₊ : ℚ) ≤ q := Nat.floor_le (by linarith)
  induction k with
  | zero => simp [sums]
  | succ k ih =>
      rcases Nat.eq_zero_or_pos k with rfl | later
      · rw [sums_one representable]
        simpa using whole
      · have earlier := ih fun j hj => before j (by omega)
        have small : ⌊q⌋₊ * k < 2 ^ 32 := by
          exact_mod_cast earlier.trans_lt (before k (by omega))
        have factor : ⌊q⌋₊ ≤ ⌊q⌋₊ * k := Nat.le_mul_of_pos_right _ later
        have exact : Binary64.round ((⌊q⌋₊ * k + ⌊q⌋₊ : ℕ) : ℤ) = ((⌊q⌋₊ * k + ⌊q⌋₊ : ℕ) : ℤ) :=
          Binary64.round_intCast (by
            rw [Nat.abs_cast]
            norm_cast
            omega)
        push_cast at exact
        calc (⌊q⌋₊ * (k + 1 : ℕ) : ℚ) = ⌊q⌋₊ * k + ⌊q⌋₊ := by
              push_cast
              ring
          _ = Binary64.round (⌊q⌋₊ * k + ⌊q⌋₊) := exact.symm
          _ ≤ Binary64.round (sums q k + q) := by
              refine Binary64.round_mono (by positivity) ?_
              linarith

private theorem sums_succ_ge (one : 1 ≤ q) {k : ℕ} (nonneg : 0 ≤ sums q k)
    (small : sums q k < 2 ^ 32) : (⌊sums q k⌋₊ + 1 : ℚ) ≤ sums q (k + 1) := by
  have whole : (⌊sums q k⌋₊ : ℚ) ≤ sums q k := Nat.floor_le nonneg
  have below : ⌊sums q k⌋₊ < 2 ^ 32 := by exact_mod_cast whole.trans_lt small
  have exact : Binary64.round ((⌊sums q k⌋₊ + 1 : ℕ) : ℤ) = ((⌊sums q k⌋₊ + 1 : ℕ) : ℤ) :=
    Binary64.round_intCast (by
      rw [Nat.abs_cast]
      norm_cast
      omega)
  push_cast at exact
  rw [← exact]
  refine Binary64.round_mono (by positivity) ?_
  linarith

private theorem sums_nonneg (one : 1 ≤ q) (k : ℕ) : 0 ≤ sums q k := by
  induction k with
  | zero => exact le_rfl
  | succ k ih => exact Binary64.round_nonneg (by linarith)

private theorem sums_fit (representable : Binary64.round q = q ∧ |q| < 2 ^ 1024) (one : 1 ≤ q)
    {k : ℕ} (before : ∀ j ≤ k, sums q j < 2 ^ 32) : |sums q (k + 1)| < 2 ^ 1024 := by
  rcases Nat.eq_zero_or_pos k with rfl | later
  · rw [sums_one representable]
    exact representable.2
  · -- the batch size itself is below the index
    have whole : ⌊q⌋₊ ≤ ⌊q⌋₊ * k := Nat.le_mul_of_pos_right _ later
    have low : (⌊q⌋₊ : ℚ) ≤ sums q k := by
      refine le_trans ?_ (sums_ge representable one fun j hj => before j hj.le)
      exact_mod_cast whole
    have small := before k le_rfl
    have size : q < ⌊q⌋₊ + 1 := Nat.lt_floor_add_one q
    have bound : sums q (k + 1) ≤ ((2 ^ 34 : ℤ) : ℚ) := by
      rw [← Binary64.round_intCast (show |(2 ^ 34 : ℤ)| ≤ 2 ^ 53 by norm_num)]
      refine Binary64.round_mono ?_ ?_
      · linarith [sums_nonneg one k]
      · push_cast
        linarith
    rw [abs_of_nonneg (sums_nonneg one _)]
    exact (bound.trans (le_abs_self _)).trans_lt (Binary64.intCast_fits (by norm_num))

private theorem index_eq (one : 1 ≤ q) {k : ℕ}
    (before : ∀ j < k, index (.finite q representable) j < events.length) :
    (∃ fits, index (.finite q representable) k = .finite (sums q k) fits) ∧
      ∀ j < k, sums q j < events.length := by
  induction k with
  | zero => exact ⟨Binary64.zero_eq, nofun⟩
  | succ k ih =>
      obtain ⟨⟨fits, here⟩, below⟩ := ih fun j hj => before j (by omega)
      have last : sums q k < events.length := by
        have further := before k (Nat.lt_succ_self k)
        rw [here] at further
        exact (Binary64.finite_lt_natCast (length_short events)).mp further
      have all : ∀ j < k + 1, sums q j < events.length := by
        intro j hj
        rcases Nat.lt_succ_iff_lt_or_eq.mp hj with earlier | rfl
        · exact below j earlier
        · exact last
      have capped : (events.length : ℚ) < 2 ^ 32 := by exact_mod_cast events.bound
      have inside := sums_fit representable one fun j hj =>
        (all j (Nat.lt_succ_of_le hj)).trans capped
      refine ⟨⟨⟨Binary64.round_round _, inside⟩, ?_⟩, all⟩
      rw [index, here]
      exact Binary64.ofRat_round inside

private theorem cut_eq (one : 1 ≤ q) {k : ℕ}
    (before : ∀ j < k, index (.finite q representable) j < events.length) :
    cut events (.finite q representable) k = min ⌊sums q k⌋₊ events.length := by
  obtain ⟨⟨fits, here⟩, _⟩ := index_eq one before
  rw [cut, here, JsArray.relativeIndex_of_nonneg _ (sums_nonneg one k)]

/-- The loop goes on up to the first sum that is no less than the length. -/
theorem stopsAfter_iff (one : 1 ≤ q) {count : ℕ} :
    StopsAfter events (.finite q representable) count ↔
      (∀ k < count, sums q k < events.length) ∧ (events.length : ℚ) ≤ sums q count := by
  have short := length_short events
  constructor
  · intro h
    obtain ⟨⟨fits, here⟩, below⟩ := index_eq one h.goes_on
    refine ⟨below, not_lt.mp fun inside => h.stops ?_⟩
    rw [here]
    exact (Binary64.finite_lt_natCast short).mpr inside
  · rintro ⟨below, reached⟩
    have goes_on : ∀ k ≤ count, ∀ j < k, index (.finite q representable) j < events.length := by
      intro k
      induction k with
      | zero => exact fun _ => nofun
      | succ k ih =>
          intro hk j hj
          rcases Nat.lt_succ_iff_lt_or_eq.mp hj with earlier | rfl
          · exact ih (by omega) j earlier
          · obtain ⟨⟨fits, here⟩, _⟩ := index_eq one (ih (by omega))
            rw [here]
            exact (Binary64.finite_lt_natCast short).mpr (below j hk)
    obtain ⟨⟨fits, here⟩, _⟩ := index_eq one (goes_on count le_rfl)
    refine ⟨goes_on count le_rfl, fun further => ?_⟩
    rw [here, Binary64.finite_lt_natCast short] at further
    linarith

private theorem stops (representable : Binary64.round q = q ∧ |q| < 2 ^ 1024) (one : 1 ≤ q) :
    ∃ count, StopsAfter events (.finite q representable) count := by
  have reached : ∃ count, (events.length : ℚ) ≤ sums q count := by
    by_contra never
    push Not at never
    have capped : (events.length : ℚ) < 2 ^ 32 := by exact_mod_cast events.bound
    have grown := sums_ge representable one (k := events.length) fun j _ =>
      (never j).trans capped
    have whole : (1 : ℚ) ≤ ⌊q⌋₊ := by exact_mod_cast Nat.le_floor (by simpa using one)
    have size : (events.length : ℚ) ≤ ⌊q⌋₊ * events.length :=
      le_mul_of_one_le_left (by positivity) whole
    linarith [never events.length]
  refine ⟨Nat.find reached, (stopsAfter_iff one).mpr ⟨fun k hk => ?_, Nat.find_spec reached⟩⟩
  exact not_le.mp (Nat.find_min reached hk)

structure Cuts (events : JsArray CanonicalEvent) (q : ℚ) (cut : ℕ → ℕ) (count : ℕ) : Prop where
  start : cut 0 = 0
  value : ∀ k ≤ count, cut k = min ⌊sums q k⌋₊ events.length
  inside : ∀ k < count, cut k < events.length
  last : cut count = events.length
  grows : ∀ k < count, cut k < cut (k + 1)
  lower : ∀ k < count, ⌊q⌋₊ * k ≤ cut k

theorem StopsAfter.cuts (one : 1 ≤ q) {count : ℕ}
    (h : StopsAfter events (.finite q representable) count) :
    Cuts events q (cut events (.finite q representable)) count := by
  obtain ⟨below, reached⟩ := (stopsAfter_iff one).mp h
  have value : ∀ k ≤ count, cut events (.finite q representable) k =
      min ⌊sums q k⌋₊ events.length := fun k hk =>
    cut_eq one fun j hj => h.goes_on j (by omega)
  have capped : (events.length : ℚ) < 2 ^ 32 := by exact_mod_cast events.bound
  have under : ∀ k < count, ⌊sums q k⌋₊ < events.length := by
    intro k hk
    have whole := (Nat.floor_le (sums_nonneg one k)).trans_lt (below k hk)
    exact_mod_cast whole
  refine ⟨?_, value, ?_, ?_, ?_, ?_⟩
  · rw [value 0 (Nat.zero_le _)]
    simp [sums]
  · intro k hk
    rw [value k hk.le]
    have := under k hk
    omega
  · rw [value count le_rfl]
    exact Nat.min_eq_right (Nat.le_floor reached)
  · intro k hk
    have next : ⌊sums q k⌋₊ + 1 ≤ ⌊sums q (k + 1)⌋₊ := by
      refine Nat.le_floor ?_
      push_cast
      exact sums_succ_ge one (sums_nonneg one k) ((below k hk).trans capped)
    rw [value k hk.le, value (k + 1) hk]
    have := under k hk
    omega
  · intro k hk
    have low : ⌊q⌋₊ * k ≤ ⌊sums q k⌋₊ := by
      refine Nat.le_floor ?_
      push_cast
      exact sums_ge representable one fun j hj => (below j (by omega)).trans capped
    rw [value k hk.le]
    have := under k hk
    omega

end

/-! ## The partition -/

/-- The batches make up the list in order, none is empty and none is larger than the batch
size or than 50 events. -/
structure Partition (events : JsArray CanonicalEvent) (batchSize : Binary64)
    (batches : List (List CanonicalEvent)) : Prop where
  lossless : batches.flatten = events.toList
  nonempty : [] ∉ batches
  limited : ∀ batch ∈ batches, (batch.length : Binary64) ≤ batchSize ∧ batch.length ≤ 50

/-- No batch of this many events is too large. A fraction of the batch size must not add up to
an event of its own before the list ends. -/
def Fits (length : ℕ) : Binary64 → Prop
  | .finite q _ =>
      length = 0 ∨ 1 ≤ q ∧ (length ≤ 50 ∨ q < 51) ∧
        ∀ count, ⌊q⌋₊ * count < ⌊sums q count⌋₊ → length ≤ ⌊q⌋₊ * count
  | .infinite negative => length = 0 ∨ negative = false ∧ length ≤ 50
  | .nan => length = 0

namespace Cuts

variable {q : ℚ} {cut : ℕ → ℕ} {count : ℕ}

private theorem lossless (h : Cuts events q cut count) :
    (pieces events.toList cut count).flatten = events.toList := by
  rw [flatten_pieces h.start fun k hk => (h.grows k hk).le, h.last]
  exact List.take_length

theorem nonempty (h : Cuts events q cut count) : [] ∉ pieces events.toList cut count := by
  intro empty
  obtain ⟨k, hk, same⟩ := mem_pieces.mp empty
  have size : (piece events.toList cut k).length = _ := length_piece k
  have grown := h.grows k hk
  have below := h.inside k hk
  rw [same] at size
  simp only [List.length_nil, JsArray.length] at size below
  omega

/-- No batch is larger than the whole part of the batch size if no fractions add up. -/
theorem short (h : Cuts events q cut count)
    (exact : ∀ k, ⌊q⌋₊ * k < ⌊sums q k⌋₊ → events.length ≤ ⌊q⌋₊ * k) {k : ℕ} (hk : k < count) :
    (piece events.toList cut k).length ≤ ⌊q⌋₊ := by
  have low := h.lower k hk
  have next := h.value (k + 1) hk
  have here := exact (k + 1)
  rw [Nat.mul_succ] at here
  rw [length_piece]
  unfold JsArray.length at next here
  omega

/-- Where fractions add up within the list, batches of the whole part are too few. -/
theorem carried (h : Cuts events q cut count)
    (short : ∀ batch ∈ pieces events.toList cut count, batch.length ≤ ⌊q⌋₊) {k : ℕ}
    (carry : ⌊q⌋₊ * k < ⌊sums q k⌋₊) : events.length ≤ ⌊q⌋₊ * k := by
  rcases Nat.lt_or_ge count k with ended | inside
  · have reached := pieces_reach h.start short
    rw [h.last] at reached
    have more : ⌊q⌋₊ * count ≤ ⌊q⌋₊ * k := Nat.mul_le_mul_left _ ended.le
    unfold JsArray.length at reached ⊢
    omega
  · have reached : min (cut k) events.toList.length ≤ ⌊q⌋₊ * k := by
      refine pieces_reach h.start fun batch hb => ?_
      obtain ⟨j, hj, same⟩ := mem_pieces.mp hb
      exact short batch (mem_pieces.mpr ⟨j, by omega, same⟩)
    rw [h.value k inside] at reached
    unfold JsArray.length at reached ⊢
    omega

end Cuts

/-- Batches of so many events at most are within a batch size of one or more. -/
theorem limited_iff {q : ℚ} {representable} (one : 1 ≤ q) {batches : List (List CanonicalEvent)}
    (part : ∀ batch ∈ batches, batch.length ≤ events.length) :
    (∀ batch ∈ batches, (batch.length : Binary64) ≤ .finite q representable ∧
        batch.length ≤ 50) ↔
      ∀ batch ∈ batches, batch.length ≤ ⌊q⌋₊ ∧ batch.length ≤ 50 := by
  refine forall₂_congr fun batch hb => and_congr_left' ?_
  rw [Binary64.natCast_le_finite ((part batch hb).trans (length_short events)),
    Nat.le_floor_iff (by linarith)]

private theorem partition_iff {q : ℚ} {representable} (one : 1 ≤ q) {count : ℕ}
    (h : StopsAfter events (.finite q representable) count) :
    Partition events (.finite q representable)
        (pieces events.toList (cut events (.finite q representable)) count) ↔
      Fits events.length (.finite q representable) := by
  have cuts := h.cuts one
  have part : ∀ batch ∈ pieces events.toList (cut events (.finite q representable)) count,
      batch.length ≤ events.length := by
    intro batch hb
    obtain ⟨k, _, rfl⟩ := mem_pieces.mp hb
    rw [length_piece]
    unfold JsArray.length
    omega
  constructor
  · intro partition
    have small := (limited_iff one part).mp partition.limited
    refine or_iff_not_imp_left.mpr fun some_event => ⟨one, ?_, fun k carry => ?_⟩
    · have started : 0 < count := by
        refine Nat.pos_of_ne_zero fun none => some_event ?_
        rw [← cuts.last, none, cuts.start]
      have first := (small _ (mem_pieces.mpr ⟨0, started, rfl⟩)).2
      rw [length_piece, cuts.start, cuts.value 1 started, sums_one representable] at first
      by_contra large
      push Not at large
      have size : 51 ≤ ⌊q⌋₊ := Nat.le_floor (by exact_mod_cast large.2)
      have many := large.1
      unfold JsArray.length at first many
      omega
    · exact cuts.carried (fun batch hb => (small batch hb).1) carry
  · intro fits
    refine ⟨cuts.lossless, cuts.nonempty, (limited_iff one part).mpr fun batch hb => ?_⟩
    obtain ⟨k, hk, rfl⟩ := mem_pieces.mp hb
    have some_event := cuts.inside k hk
    rcases fits with none | ⟨_, limit, exact⟩
    · omega
    · have short := cuts.short exact hk
      have size := part _ hb
      rcases limit with few | small
      · omega
      · have whole : ⌊q⌋₊ < 51 := (Nat.floor_lt (by linarith)).mpr (by exact_mod_cast small)
        omega

/-! ## The batches are a partition -/

private theorem index_one {q : ℚ} {representable} :
    index (.finite q representable) 1 = .finite q representable := by
  obtain ⟨_, zero⟩ := Binary64.zero_eq
  rw [index, index, zero]
  change Binary64.ofRat (0 + q) = _
  rw [zero_add]
  exact Binary64.ofRat_self representable

/-- `batchEvents` returns after finitely many iterations, and its batches are a partition. -/
def Partitions (events : JsArray CanonicalEvent) (batchSize : Binary64) : Prop :=
  ∃ enough batches, (∀ fuel ≥ enough, batchEvents events batchSize fuel = some batches) ∧
    Partition events batchSize batches

private theorem partitions_iff : Partitions events batchSize ↔ ∃ count,
    StopsAfter events batchSize count ∧
      Partition events batchSize (pieces events.toList (cut events batchSize) count) := by
  constructor
  · rintro ⟨enough, batches, returned, partition⟩
    obtain ⟨count, stops, rfl⟩ := batchEvents_returns (returned enough le_rfl)
    exact ⟨count, stops, partition⟩
  · rintro ⟨count, stops, partition⟩
    exact ⟨count, _, fun fuel enough => batchEvents_stops stops enough, partition⟩

private theorem partitions_empty (none : events.length = 0) : Partitions events batchSize := by
  have stops : StopsAfter events batchSize 0 := by
    refine ⟨nofun, fun further => ?_⟩
    obtain ⟨_, zero⟩ := Binary64.zero_eq
    rw [index, none, zero, Binary64.finite_lt_natCast (by norm_num)] at further
    simp at further
  have nothing : events.toList = [] := List.length_eq_zero_iff.mp none
  refine partitions_iff.mpr ⟨0, stops, ?_, List.not_mem_nil, nofun⟩
  simp [pieces, nothing]

/-- Zero and what is negative: the loop never ends. Fractions below one: the first batch is
empty. -/
theorem not_partitions_of_small {q : ℚ} {representable} (small : q < 1)
    (some_event : 0 < events.length) : ¬ Partitions events (.finite q representable) := by
  intro h
  obtain ⟨count, stops, partition⟩ := partitions_iff.mp h
  rcases le_or_gt q 0 with low | positive
  · have nonPositive : NonPositive (.finite q representable) := low
    exact nonPositive.never some_event count stops
  · have first : cut events (.finite q representable) 1 = 0 := by
      rw [cut, index_one, JsArray.relativeIndex_of_nonneg _ positive.le,
        Nat.floor_eq_zero.mpr small]
      exact Nat.zero_min _
    exact partition.nonempty (empty_first first some_event stops)

private theorem index_infinite : index (.infinite false) 1 = .infinite false := by
  obtain ⟨_, zero⟩ := Binary64.zero_eq
  rw [index, index, zero]
  rfl

private theorem stopsAfter_infinite (some_event : 0 < events.length) :
    StopsAfter events (.infinite false) 1 := by
  constructor
  · intro k hk
    obtain rfl : k = 0 := by omega
    obtain ⟨_, zero⟩ := Binary64.zero_eq
    rw [index, zero, Binary64.finite_lt_natCast (length_short events)]
    exact_mod_cast some_event
  · obtain ⟨_, size⟩ := Binary64.natCast_eq (length_short events)
    rw [index_infinite, size]
    nofun

private theorem pieces_infinite (events : JsArray CanonicalEvent) :
    pieces events.toList (cut events (.infinite false)) 1 = [events.toList] := by
  have start : cut events (.infinite false) 0 = 0 := by
    obtain ⟨_, zero⟩ := Binary64.zero_eq
    rw [cut, index, zero, JsArray.relativeIndex_of_nonneg _ le_rfl]
    simp
  have stop : cut events (.infinite false) 1 = events.length := by
    rw [cut, index_infinite]
    rfl
  simp [pieces, piece, start, stop, JsArray.length]

private theorem partitions_of_infinite (some_event : 0 < events.length) :
    Partitions events (.infinite false) ↔ events.length ≤ 50 := by
  have stops := stopsAfter_infinite some_event
  rw [partitions_iff]
  constructor
  · rintro ⟨count, ended, partition⟩
    obtain rfl := ended.unique stops
    rw [pieces_infinite] at partition
    exact (partition.limited _ List.mem_cons_self).2
  · intro few
    refine ⟨1, stops, ?_⟩
    rw [pieces_infinite]
    refine ⟨by simp, ?_, ?_⟩
    · intro empty
      have none := congrArg List.length (List.mem_singleton.mp empty)
      unfold JsArray.length at some_event
      simp only [List.length_nil] at none
      omega
    · intro batch hb
      rw [List.mem_singleton.mp hb]
      refine ⟨?_, few⟩
      obtain ⟨_, size⟩ := Binary64.natCast_eq (length_short events)
      change ((events.length : ℕ) : Binary64) ≤ _
      rw [size]
      rfl

private theorem fits_whole {length size : ℕ} (short : length ≤ 2 ^ 53) (one : 1 ≤ size)
    (limit : size ≤ 50) : Fits length size := by
  obtain ⟨_, whole⟩ := Binary64.natCast_eq (limit.trans (by norm_num))
  have sums_eq : ∀ count, size * count ≤ 2 ^ 53 → sums size count = size * count := by
    intro count
    induction count with
    | zero => simp [sums]
    | succ count ih =>
        intro small
        rw [Nat.mul_succ] at small
        have exact : Binary64.round ((size * count + size : ℕ) : ℤ) =
            ((size * count + size : ℕ) : ℤ) := Binary64.round_intCast (by
          rw [Nat.abs_cast]
          exact_mod_cast small)
        push_cast at exact
        rw [sums, ih (by omega), exact]
        push_cast
        ring
  rw [whole]
  refine .inr ⟨by exact_mod_cast one, .inr (by exact_mod_cast Nat.lt_succ_of_le limit), ?_⟩
  intro count carry
  rw [Nat.floor_natCast] at carry ⊢
  by_cases small : size * count ≤ 2 ^ 53
  · rw [sums_eq count small, ← Nat.cast_mul, Nat.floor_natCast] at carry
    omega
  · omega

/-- A list of events is partitioned just when a batch size of one or more fits its length. -/
theorem batchEvents_partitions_iff (setting : Option Binary64) (events : JsArray CanonicalEvent)
    (batchSize : Binary64) (admitted : TIKTOK_BATCH_SIZE setting = some batchSize) :
    Partitions events batchSize ↔ Fits events.length batchSize := by
  rcases Nat.eq_zero_or_pos events.length with none | some_event
  · refine iff_of_true (partitions_empty none) ?_
    cases batchSize with
    | finite q representable => exact .inl none
    | infinite negative => exact .inl none
    | nan => exact none
  · cases batchSize with
    | finite q representable =>
        rcases lt_or_ge q 1 with small | one
        · refine iff_of_false (not_partitions_of_small small some_event) ?_
          rintro (none | ⟨one, _⟩)
          · omega
          · linarith
        · rw [partitions_iff]
          constructor
          · rintro ⟨count, ended, partition⟩
            exact (partition_iff one ended).mp partition
          · intro fits
            obtain ⟨count, ended⟩ := stops representable one
            exact ⟨count, ended, (partition_iff one ended).mpr fits⟩
    | infinite negative =>
        cases negative with
        | true =>
            refine iff_of_false ?_ ?_
            · rw [partitions_iff]
              rintro ⟨count, ended, _⟩
              have nonPositive : NonPositive (.infinite true) := rfl
              exact nonPositive.never some_event count ended
            · rintro (none | ⟨positive, _⟩)
              · omega
              · cases positive
        | false =>
            rw [partitions_of_infinite some_event]
            exact ⟨fun few => .inr ⟨rfl, few⟩, fun fits => fits.elim (by omega) And.right⟩
    | nan => exact absurd admitted (coerceNumber_ne_nan (by decide +kernel) setting)

namespace Sample

def listOf (count : ℕ) (short : count < 2 ^ 32) : JsArray CanonicalEvent where
  toList := List.replicate count {
    eventId := "event-001"
    eventName := .standard .submitForm
    eventTime := .int 1700000000
    lead := ⟨"00Q000000000001", "Open", none, none⟩
    user := {}
    attribution := {}
    device := {}
    integrationVersion := "1.0.0" }
  bound := by simpa using short

end Sample

/-- The halves of the batch size make a third event in the second batch. -/
example : (batchEvents (Sample.listOf 8 (by decide)) (.ofRat 2.5) 5).map (·.map List.length) =
    some [2, 3, 2, 1] := by decide +kernel

/-- The default partitions a list of 55 events. -/
theorem batchEvents_default :
    TIKTOK_BATCH_SIZE none = some 50 ∧ Partitions (Sample.listOf 55 (by decide)) 50 :=
  ⟨rfl, (batchEvents_partitions_iff none _ 50 rfl).mpr
    (fits_whole (length_short _) (by norm_num) (by norm_num))⟩

/-- A batch size of 100 is admitted, and makes one batch of 51 events; with 0, which the empty
text becomes, a list of one event keeps the loop going for ever. -/
theorem batches_oversized :
    (TIKTOK_BATCH_SIZE (some 100) = some 100 ∧
      ¬ Partitions (Sample.listOf 51 (by decide)) 100) ∧
    TIKTOK_BATCH_SIZE (some 0) = some 0 ∧ ¬ Partitions (Sample.listOf 1 (by decide)) 0 := by
  constructor
  · obtain ⟨_, hundred⟩ := Binary64.natCast_eq (n := 100) (by norm_num)
    change TIKTOK_BATCH_SIZE (some ((100 : ℕ) : Binary64)) = some ((100 : ℕ) : Binary64) ∧
      ¬ Partitions _ ((100 : ℕ) : Binary64)
    rw [hundred]
    refine ⟨rfl, fun h => ?_⟩
    obtain ⟨count, ended, partition⟩ := partitions_iff.mp h
    rcases (partition_iff (by norm_num) ended).mp partition with none | ⟨_, limit, _⟩
    · cases none
    · rcases limit with few | small
      · simp [Sample.listOf, JsArray.length] at few
      · norm_num at small
  · obtain ⟨_, zero⟩ := Binary64.zero_eq
    rw [zero]
    exact ⟨rfl, not_partitions_of_small (by norm_num) Nat.one_pos⟩

end TikTokEventBuilder

end SalesforceTikTok
