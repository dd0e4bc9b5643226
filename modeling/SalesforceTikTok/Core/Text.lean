import Mathlib.Data.List.DropRight
import SalesforceTikTok.Core.Platform

/-!
# Trimmed text and its digits

What `trim` and the removal of all but digits leave of a text, and what both
are blind to: blanks around it, and characters between its digits.
-/

namespace SalesforceTikTok

def Blank (cs : List Char) : Prop := ∀ c ∈ cs, isJsSpace c = true

theorem Blank.append {cs ds : List Char} (first : Blank cs) (second : Blank ds) :
    Blank (cs ++ ds) := by
  intro c hc
  obtain hc | hc := List.mem_append.mp hc
  · exact first c hc
  · exact second c hc

/-- `padded` is `text` with white space before and after it. -/
def Padded (text padded : String) : Prop :=
  ∃ before after, Blank before ∧ Blank after ∧ padded.toList = before ++ text.toList ++ after

/-- `cs` with characters inserted that `keep` does not hold of. -/
inductive Inserted (keep : Char → Bool) : List Char → List Char → Prop where
  | nil : Inserted keep [] []
  | same {cs ds} (c : Char) (rest : Inserted keep cs ds) : Inserted keep (c :: cs) (c :: ds)
  | insert {cs ds} (c : Char) (other : keep c = false) (rest : Inserted keep cs ds) :
      Inserted keep cs (c :: ds)

theorem Inserted.refl (keep : Char → Bool) (cs : List Char) : Inserted keep cs cs := by
  induction cs with
  | nil => exact .nil
  | cons c cs ih => exact .same c ih

theorem Inserted.filter {keep : Char → Bool} {cs ds : List Char} (h : Inserted keep cs ds) :
    ds.filter keep = cs.filter keep := by
  induction h with
  | nil => rfl
  | same c _ ih => simp only [List.filter_cons, ih]
  | insert c other _ ih => simp only [List.filter_cons, other, ih, Bool.false_eq_true, if_false]

/-! ## Trimming -/

private theorem trim_toList (s : String) :
    (trim s).toList = (s.toList.dropWhile isJsSpace).rdropWhile isJsSpace := by
  simp [trim, List.rdropWhile]

@[simp] theorem trim_empty : trim "" = "" := rfl

private theorem trim_padded (s : String) : Padded (trim s) s := by
  refine ⟨s.toList.takeWhile isJsSpace, (s.toList.dropWhile isJsSpace).rtakeWhile isJsSpace,
    fun c hc => List.mem_takeWhile_imp hc, fun c hc => List.mem_rtakeWhile_imp hc, ?_⟩
  rw [trim_toList, List.append_assoc, List.rdropWhile_append_rtakeWhile,
    List.takeWhile_append_dropWhile]

private theorem rdropWhile_append_blank {after : List Char} (blank : Blank after) (cs : List Char) :
    (cs ++ after).rdropWhile isJsSpace = cs.rdropWhile isJsSpace := by
  unfold List.rdropWhile
  rw [List.reverse_append, List.dropWhile_append_of_pos]
  intro c hc
  exact blank c (List.mem_reverse.mp hc)

theorem Padded.trim_eq {text padded : String} (h : Padded text padded) :
    trim padded = trim text := by
  obtain ⟨before, after, blankBefore, blankAfter, shape⟩ := h
  apply String.toList_injective
  rw [trim_toList, trim_toList, shape, List.append_assoc, List.dropWhile_append_of_pos blankBefore,
    List.dropWhile_append]
  split
  next none =>
    rw [List.isEmpty_iff.mp none, List.dropWhile_eq_nil_iff.mpr blankAfter]
  next => exact rdropWhile_append_blank blankAfter _

@[simp] theorem trim_trim (s : String) : trim (trim s) = trim s :=
  (trim_padded s).trim_eq.symm

theorem mem_trim {c : Char} (visible : isJsSpace c = false) (s : String) :
    c ∈ (trim s).toList ↔ c ∈ s.toList := by
  obtain ⟨before, after, blankBefore, blankAfter, shape⟩ := trim_padded s
  have notIn {cs : List Char} (blank : Blank cs) : c ∉ cs := by
    intro hc
    rw [blank c hc] at visible
    cases visible
  rw [shape, List.mem_append, List.mem_append]
  simp [notIn blankBefore, notIn blankAfter]

theorem trim_eq_empty_iff (s : String) : trim s = "" ↔ Blank s.toList := by
  constructor
  · intro trimmed
    obtain ⟨before, after, blankBefore, blankAfter, shape⟩ := trim_padded s
    rw [trimmed] at shape
    rw [shape]
    exact (blankBefore.append fun c hc => absurd hc List.not_mem_nil).append blankAfter
  · intro blank
    have padded : Padded "" s := ⟨s.toList, [], blank, fun c hc => absurd hc List.not_mem_nil,
      by simp⟩
    exact padded.trim_eq

/-! ## Digits -/

@[simp] theorem onlyDigits_toList (s : String) :
    (onlyDigits s).toList = s.toList.filter Char.isDigit := by
  simp [onlyDigits]

@[simp] theorem onlyDigits_empty : onlyDigits "" = "" := rfl

theorem onlyDigits_idem (s : String) : onlyDigits (onlyDigits s) = onlyDigits s := by
  apply String.toList_injective
  simp

/-- The removal of all but digits is blind to what stands between them. -/
theorem onlyDigits_inserted {s t : String} (h : Inserted Char.isDigit s.toList t.toList) :
    onlyDigits t = onlyDigits s := by
  apply String.toList_injective
  rw [onlyDigits_toList, onlyDigits_toList, h.filter]

theorem visible_of_ascii {c : Char} (low : 33 ≤ c.toNat) (high : c.toNat ≤ 126) :
    isJsSpace c = false := by
  unfold isJsSpace
  rw [decide_eq_false_iff_not]
  simp only [List.mem_cons, List.not_mem_nil, or_false]
  omega

private theorem visible_of_isDigit {c : Char} (digit : c.isDigit = true) : isJsSpace c = false := by
  have bounds : 48 ≤ c.toNat ∧ c.toNat ≤ 57 := by
    simpa [Char.isDigit, UInt32.le_iff_toNat_le] using digit
  exact visible_of_ascii (by omega) (by omega)

theorem onlyDigits_of_blank {s : String} (blank : Blank s.toList) : onlyDigits s = "" := by
  apply String.toList_injective
  rw [onlyDigits_toList, String.toList_empty, List.filter_eq_nil_iff]
  intro c hc digit
  have space := blank c hc
  rw [visible_of_isDigit digit] at space
  cases space

end SalesforceTikTok
