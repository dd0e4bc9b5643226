import SalesforceTikTok.Core.Reformatting

/-!
# Phone numbers that carry their country code

`phone` strips the sign of a number before it looks at the number of digits, and
then takes ten digits for a national number and fewer for none. What it keeps of
the E.164 numbers are those of eleven digits and more.
-/

namespace SalesforceTikTok

/-- A number in E.164: a sign, the country code and the rest of the number. -/
structure E164 where
  digits : List Char
  only : ∀ d ∈ digits, d.isDigit = true
  leading : digits.head? ≠ some '0'
  least : 7 ≤ digits.length
  most : digits.length ≤ 15

def E164.text (number : E164) : String := "+" ++ String.ofList number.digits

def isSeparator (c : Char) : Bool := c ∈ [' ', '.', '-', '(', ')']

def E164.WrittenAs (number : E164) (raw : String) : Prop :=
  Inserted (fun c => !isSeparator c) number.text.toList raw.toList

/-- `phone` keeps the number, however it is written, and its hash is sent. -/
def E164.Preserved (p : Platform) (number : E164) : Prop :=
  Normalizer.phone "1" (some number.text) = some number.text ∧
    ∀ raw, number.WrittenAs raw →
      Normalizer.phone "1" (some raw) = Normalizer.phone "1" (some number.text) ∧
        ∀ user : CanonicalUser, user.phone = some raw →
          (Hasher.hashUser p user).phoneNumber = some (p.sha256Hex number.text)

namespace E164

variable (number : E164)

private theorem text_ne_empty : number.text ≠ "" := by
  intro empty
  have sign := congrArg String.toList empty
  simp [text] at sign

private theorem onlyDigits_text : onlyDigits number.text = String.ofList number.digits := by
  have kept : number.digits.filter Char.isDigit = number.digits :=
    List.filter_eq_self.mpr number.only
  apply String.toList_injective
  simp [text, kept]

private theorem onlyDigits_length : (onlyDigits number.text).length = number.digits.length := by
  rw [onlyDigits_text, String.length_ofList]

/-- A number is kept as soon as it is longer than a national one. -/
theorem phone_text (long : 11 ≤ number.digits.length) :
    Normalizer.phone "1" (some number.text) = some number.text := by
  have digits := number.onlyDigits_text
  rw [Normalizer.phone_international "1" (by rw [number.onlyDigits_length]; omega), digits]
  rfl

private theorem phone_ten (ten : number.digits.length = 10) :
    Normalizer.phone "1" (some number.text) = some ("+1" ++ String.ofList number.digits) := by
  rw [Normalizer.phone_national "1" (by rw [number.onlyDigits_length, ten]),
    number.onlyDigits_text]
  rfl

private theorem phone_few (few : number.digits.length < 10) :
    Normalizer.phone "1" (some number.text) = none :=
  Normalizer.phone_short "1" (by rwa [number.onlyDigits_length])

private theorem long_of_phone_text
    (kept : Normalizer.phone "1" (some number.text) = some number.text) :
    11 ≤ number.digits.length := by
  rcases Nat.lt_trichotomy number.digits.length 10 with few | ten | long
  · rw [number.phone_few few] at kept
    cases kept
  · rw [number.phone_ten ten, Option.some.injEq] at kept
    have lengths := congrArg String.length kept
    rw [text, String.length_append, String.length_append] at lengths
    have signs : "+1".length = 2 ∧ "+".length = 1 := by decide
    omega
  · exact long

theorem writtenAs_text : number.WrittenAs number.text := Inserted.refl _ _

variable {number}

theorem WrittenAs.punctuated {raw : String} (h : number.WrittenAs raw) :
    Normalizer.Punctuated number.text raw := by
  have digits {c : Char} (separator : (!isSeparator c) = false) : c.isDigit = false := by
    simp only [isSeparator, Bool.not_eq_false', decide_eq_true_eq] at separator
    simp only [List.mem_cons, List.not_mem_nil, or_false] at separator
    rcases separator with rfl | rfl | rfl | rfl | rfl <;> rfl
  have weaken {cs ds : List Char} (inserted : Inserted (fun c => !isSeparator c) cs ds) :
      Inserted Char.isDigit cs ds := by
    induction inserted with
    | nil => exact .nil
    | same c _ ih => exact .same c ih
    | insert c separator _ ih => exact .insert c (digits separator) ih
  exact weaken h

theorem WrittenAs.phone_eq {raw : String} (h : number.WrittenAs raw) :
    Normalizer.phone "1" (some raw) = Normalizer.phone "1" (some number.text) :=
  Normalizer.phone_punctuated "1" (.some h.punctuated)

/-- An E.164 number is preserved exactly if it has more digits than a national one. -/
theorem preserved_iff (p : Platform) (number : E164) :
    number.Preserved p ↔ 11 ≤ number.digits.length := by
  constructor
  · intro preserved
    exact number.long_of_phone_text preserved.1
  · intro long
    refine ⟨number.phone_text long, fun raw written => ⟨written.phone_eq, fun user sent => ?_⟩⟩
    have kept : Normalizer.phone "1" user.phone = some number.text := by
      rw [sent, written.phone_eq, number.phone_text long]
    unfold Hasher.hashUser
    simp only [kept, Hasher.sha256]
    exact if_neg number.text_ne_empty

def norwegian : E164 where
  digits := ['4', '7', '2', '2', '3', '3', '4', '4', '5', '5']
  only := by simp [Char.isDigit]
  leading := by simp
  least := by simp
  most := by simp

/-- A Norwegian number of ten digits is sent as a number of the United States. -/
theorem norwegian_not_preserved :
    norwegian.text = "+4722334455" ∧
      Normalizer.phone "1" (some norwegian.text) = some "+14722334455" ∧
      ∀ p, ¬ norwegian.Preserved p := by
  have moved : Normalizer.phone "1" (some norwegian.text) = some "+14722334455" := by decide
  refine ⟨by decide, moved, fun p preserved => ?_⟩
  have kept := preserved.1
  rw [moved] at kept
  revert kept
  decide

end E164
end SalesforceTikTok
