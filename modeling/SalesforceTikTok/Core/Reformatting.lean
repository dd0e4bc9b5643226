import Mathlib.Data.Option.Basic
import SalesforceTikTok.Core.Normalization
import SalesforceTikTok.Core.Text

/-!
# Hashes and the format of a field

Two ways to write one value have one hash: the normalisers settle at their first
application, and they are blind to blanks around a text, to its case, and to what
stands between the digits of a phone number or a zip code.
-/

namespace SalesforceTikTok

/-- What the language promises of `toLowerCase`. -/
structure Platform.Lowercases (p : Platform) : Prop where
  idem : ∀ s, p.toLowerCase (p.toLowerCase s) = p.toLowerCase s
  trim : ∀ s, p.toLowerCase (trim s) = trim (p.toLowerCase s)
  empty : p.toLowerCase "" = ""

/-- The text as the normalisers of names, places and e-mail addresses take it. -/
def Platform.lowered (p : Platform) (raw : String) : String := p.toLowerCase (trim raw)

namespace Platform.Lowercases

variable {p : Platform}

private theorem lowered_empty (h : p.Lowercases) : p.lowered "" = "" := by
  rw [lowered, trim_empty, h.empty]

private theorem lowered_idem (h : p.Lowercases) (raw : String) :
    p.lowered (p.lowered raw) = p.lowered raw := by
  unfold lowered
  rw [← h.trim, trim_trim, h.idem]

private theorem lowered_case (h : p.Lowercases) {raw raw' : String}
    (same : p.toLowerCase raw' = p.toLowerCase raw) : p.lowered raw' = p.lowered raw := by
  unfold lowered
  rw [h.trim, h.trim, same]

end Platform.Lowercases

/-! ## One rule -/

namespace Normalizer

variable {rule : String → Option String}

private theorem ofTruthy_present (rule : String → Option String) (raw : String) :
    ofTruthy rule (some raw) = if raw = "" then none else rule raw := rfl

/-- A rule that accepts what it returns settles at its first application. -/
theorem ofTruthy_idem
    (settled : ∀ raw text, rule raw = some text → ofTruthy rule (some text) = some text)
    (raw : Option String) : ofTruthy rule (ofTruthy rule raw) = ofTruthy rule raw := by
  have again (result : Option String) (h : ∀ text, result = some text →
      ofTruthy rule (some text) = some text) : ofTruthy rule result = result := by
    cases result with
    | none => rfl
    | some text => exact h text rfl
  apply again
  intro text returned
  cases raw with
  | none => cases returned
  | some raw =>
      rw [ofTruthy_present] at returned
      split at returned
      · cases returned
      · exact settled raw text returned

/-- The first test of a normaliser is none of a rule that rejects the empty text. -/
theorem ofTruthy_some (empty : rule "" = none) (raw : String) :
    ofTruthy rule (some raw) = rule raw := by
  rw [ofTruthy_present]
  split
  next blank => rw [blank, empty]
  next => rfl

private theorem ofTruthy_congr (empty : rule "" = none) {R : String → String → Prop}
    (blind : ∀ raw raw', R raw raw' → rule raw' = rule raw) {field field' : Option String}
    (h : Option.Rel R field field') : ofTruthy rule field' = ofTruthy rule field := by
  cases h with
  | none => rfl
  | some related => rw [ofTruthy_some empty, ofTruthy_some empty, blind _ _ related]

theorem nonEmpty_empty : nonEmpty "" = none := rfl

private theorem nonEmpty_eq_some {text result : String} :
    nonEmpty text = some result ↔ text ≠ "" ∧ text = result := by
  unfold nonEmpty
  split
  next empty => simp [empty]
  next full => simp [full]

/-- A rule that keeps the nonempty results of a function which settles. -/
theorem nonEmpty_settled {f : String → String} (idem : ∀ raw, f (f raw) = f raw)
    (raw text : String) (h : nonEmpty (f raw) = some text) :
    ofTruthy (fun raw => nonEmpty (f raw)) (some text) = some text := by
  obtain ⟨full, rfl⟩ := nonEmpty_eq_some.mp h
  rw [ofTruthy_present, if_neg full, idem]
  exact nonEmpty_eq_some.mpr ⟨full, rfl⟩

/-! ## Texts -/

section

variable {p : Platform}

private theorem email_idem (lower : p.Lowercases) (raw : Option String) :
    email p (email p raw) = email p raw := by
  apply ofTruthy_idem
  intro raw text returned
  dsimp only at returned
  split at returned
  next present =>
    cases returned
    have full : p.toLowerCase (trim raw) ≠ "" := by
      intro empty
      rw [empty] at present
      cases present
    have settled := lower.lowered_idem raw
    unfold Platform.lowered at settled
    rw [ofTruthy_present, if_neg full, settled, if_pos present]
  next => cases returned

private theorem nameField_idem (lower : p.Lowercases) (raw : Option String) :
    nameField p (nameField p raw) = nameField p raw :=
  ofTruthy_idem (nonEmpty_settled (f := p.lowered) lower.lowered_idem) raw

private theorem geo_idem (lower : p.Lowercases) (raw : Option String) :
    geo p (geo p raw) = geo p raw :=
  nameField_idem lower raw

private theorem externalId_idem (raw : Option String) : externalId
    (externalId raw) = externalId raw :=
  ofTruthy_idem (nonEmpty_settled (f := trim) trim_trim) raw

def Rewritten (p : Platform) (raw raw' : String) : Prop :=
  Padded raw raw' ∨ p.toLowerCase raw' = p.toLowerCase raw

private theorem lowered_rewritten (lower : p.Lowercases) {raw raw' : String}
    (h : Rewritten p raw raw') : p.lowered raw' = p.lowered raw := by
  obtain padded | same := h
  · unfold Platform.lowered
    rw [padded.trim_eq]
  · exact lower.lowered_case same

private theorem email_empty (lower : p.Lowercases) : '@' ∉ (p.lowered "").toList := by
  rw [lower.lowered_empty]
  exact List.not_mem_nil

private theorem email_rewritten (lower : p.Lowercases) {field field' : Option String}
    (h : Option.Rel (Rewritten p) field field') : email p field' = email p field := by
  refine ofTruthy_congr (if_neg (email_empty lower)) (fun raw raw' rewritten => ?_) h
  have same := lowered_rewritten lower rewritten
  unfold Platform.lowered at same
  dsimp only
  rw [same]

private theorem nameField_rewritten (lower : p.Lowercases) {field field' : Option String}
    (h : Option.Rel (Rewritten p) field field') : nameField p field' = nameField p field := by
  have empty : nonEmpty (p.lowered "") = none := by rw [lower.lowered_empty, nonEmpty_empty]
  exact ofTruthy_congr empty
    (fun raw raw' rewritten => congrArg nonEmpty (lowered_rewritten lower rewritten)) h

private theorem geo_rewritten (lower : p.Lowercases) {field field' : Option String}
    (h : Option.Rel (Rewritten p) field field') : geo p field' = geo p field :=
  nameField_rewritten lower h

private theorem externalId_padded {field field' : Option String}
    (h : Option.Rel Padded field field') : externalId field' = externalId field := by
  refine ofTruthy_congr ?_ (fun raw raw' padded => ?_) h
  · exact nonEmpty_empty
  · exact congrArg nonEmpty padded.trim_eq

end

/-! ## Digits -/

def Punctuated (raw raw' : String) : Prop := Inserted Char.isDigit raw.toList raw'.toList

private theorem zip_idem (raw : Option String) : zip (zip raw) = zip raw :=
  ofTruthy_idem (nonEmpty_settled (f := onlyDigits) onlyDigits_idem) raw

private theorem zip_punctuated {field field' : Option String}
    (h : Option.Rel Punctuated field field') : zip field' = zip field := by
  refine ofTruthy_congr ?_ (fun raw raw' inserted => ?_) h
  · exact nonEmpty_empty
  · exact congrArg nonEmpty (onlyDigits_inserted inserted)

theorem phone_punctuated (code : String) {field field' : Option String}
    (h : Option.Rel Punctuated field field') : phone code field' = phone code field := by
  refine ofTruthy_congr (if_pos rfl) (fun raw raw' inserted => ?_) h
  dsimp only
  rw [onlyDigits_inserted inserted]

theorem phone_short (code : String) {raw : String} (short : (onlyDigits raw).length < 10) :
    phone code (some raw) = none := by
  rw [← String.length_toList] at short
  refine (ofTruthy_some (if_pos rfl) raw).trans ?_
  dsimp only
  split
  · rfl
  · rw [if_neg (by omega), if_neg (by omega), if_neg (by omega)]

theorem phone_national (code : String) {raw : String} (ten : (onlyDigits raw).length = 10) :
    phone code (some raw) = some ("+" ++ code ++ onlyDigits raw) := by
  rw [← String.length_toList] at ten
  refine (ofTruthy_some (if_pos rfl) raw).trans ?_
  dsimp only
  rw [if_neg (by omega), if_neg (by omega), if_pos ten]

/-- More than ten digits are an international number, those that begin with `1` too. -/
theorem phone_international (code : String) {raw : String}
    (long : 10 < (onlyDigits raw).length) :
    phone code (some raw) = some ("+" ++ onlyDigits raw) := by
  rw [← String.length_toList] at long
  refine (ofTruthy_some (if_pos rfl) raw).trans ?_
  dsimp only
  rw [if_neg (by omega)]
  split
  · rfl
  · rw [if_neg (by omega)]

/-- A number in the form that `phone` gives it: a sign, and more than ten digits. -/
theorem phone_formatted (code : String) {digits : String} (only : onlyDigits digits = digits)
    (long : 10 < digits.length) : phone code (some ("+" ++ digits)) = some ("+" ++ digits) := by
  have stripped : onlyDigits ("+" ++ digits) = digits := by
    apply String.toList_injective
    rw [onlyDigits_toList, String.toList_append, List.filter_append, ← onlyDigits_toList digits,
      only]
    rfl
  rw [phone_international code (by rwa [stripped]), stripped]

private theorem phone_idem (raw : Option String) : phone "1" (phone "1" raw) = phone "1" raw := by
  cases raw with
  | none => rfl
  | some raw =>
      rcases Nat.lt_trichotomy (onlyDigits raw).length 10 with short | ten | long
      · rw [phone_short "1" short]
        rfl
      · -- the national number with its country code has eleven digits
        have digits : onlyDigits ("1" ++ onlyDigits raw) = "1" ++ onlyDigits raw := by
          apply String.toList_injective
          rw [onlyDigits_toList, String.toList_append, List.filter_append,
            ← onlyDigits_toList (onlyDigits raw), onlyDigits_idem]
          rfl
        have eleven : 10 < ("1" ++ onlyDigits raw).length := by
          rw [String.length_append, ten]
          decide
        rw [phone_national "1" ten, String.append_assoc]
        exact phone_formatted "1" digits eleven
      · rw [phone_international "1" long]
        exact phone_formatted "1" (onlyDigits_idem raw) long

end Normalizer

/-! ## A user's hashes -/

def CanonicalUser.normalized (p : Platform) (user : CanonicalUser) : CanonicalUser :=
  { user with
    email := Normalizer.email p user.email
    phone := Normalizer.phone "1" user.phone
    firstName := Normalizer.nameField p user.firstName
    lastName := Normalizer.nameField p user.lastName
    city := Normalizer.geo p user.city
    state := Normalizer.geo p user.state
    zip := Normalizer.zip user.zip
    country := Normalizer.geo p user.country
    externalId := Normalizer.externalId user.externalId }

structure CanonicalUser.Reformatted (p : Platform) (user user' : CanonicalUser) : Prop where
  email : Option.Rel (Normalizer.Rewritten p) user.email user'.email
  phone : Option.Rel Normalizer.Punctuated user.phone user'.phone
  firstName : Option.Rel (Normalizer.Rewritten p) user.firstName user'.firstName
  lastName : Option.Rel (Normalizer.Rewritten p) user.lastName user'.lastName
  city : Option.Rel (Normalizer.Rewritten p) user.city user'.city
  state : Option.Rel (Normalizer.Rewritten p) user.state user'.state
  zip : Option.Rel Normalizer.Punctuated user.zip user'.zip
  country : Option.Rel (Normalizer.Rewritten p) user.country user'.country
  externalId : Option.Rel Padded user.externalId user'.externalId

def HashedUser.fields (hashed : HashedUser) : List (Option String) :=
  [hashed.email, hashed.phoneNumber, hashed.firstName, hashed.lastName, hashed.city, hashed.state,
    hashed.zip, hashed.country, hashed.externalId]

namespace Hasher

variable {p : Platform}

private theorem hashUser_normalized (lower : p.Lowercases) (user : CanonicalUser) :
    hashUser p (user.normalized p) = hashUser p user := by
  simp only [hashUser, CanonicalUser.normalized, Normalizer.email_idem lower,
    Normalizer.phone_idem, Normalizer.nameField_idem lower, Normalizer.geo_idem lower,
    Normalizer.zip_idem, Normalizer.externalId_idem]

private theorem hashUser_reformatted (lower : p.Lowercases) {user user' : CanonicalUser}
    (h : user.Reformatted p user') : hashUser p user' = hashUser p user := by
  unfold hashUser
  rw [Normalizer.email_rewritten lower h.email, Normalizer.phone_punctuated "1" h.phone,
    Normalizer.nameField_rewritten lower h.firstName,
    Normalizer.nameField_rewritten lower h.lastName, Normalizer.geo_rewritten lower h.city,
    Normalizer.geo_rewritten lower h.state, Normalizer.zip_punctuated h.zip,
    Normalizer.geo_rewritten lower h.country, Normalizer.externalId_padded h.externalId]

private theorem sha256_eq_some {value : Option String} {hash : String}
    (h : sha256 p value = some hash) : ∃ text, text ≠ "" ∧ hash = p.sha256Hex text := by
  cases value with
  | none => cases h
  | some text =>
      change (if text = "" then none else some (p.sha256Hex text)) = some hash at h
      split at h
      next => cases h
      next full =>
        cases h
        exact ⟨text, full, rfl⟩

private theorem hashUser_of_text {user : CanonicalUser} {hash : String}
    (h : some hash ∈ (hashUser p user).fields) : ∃ text, text ≠ "" ∧ hash = p.sha256Hex text := by
  unfold HashedUser.fields hashUser at h
  simp only [List.mem_cons, List.not_mem_nil, or_false] at h
  rcases h with h | h | h | h | h | h | h | h | h <;> exact sha256_eq_some h.symm

end Hasher

/-- Each of the normalisers settles at its first application. -/
structure Normalizer.Settles (p : Platform) : Prop where
  email : ∀ raw, Normalizer.email p (Normalizer.email p raw) = Normalizer.email p raw
  phone : ∀ raw, Normalizer.phone "1" (Normalizer.phone "1" raw) = Normalizer.phone "1" raw
  nameField : ∀ raw,
    Normalizer.nameField p (Normalizer.nameField p raw) = Normalizer.nameField p raw
  zip : ∀ raw, Normalizer.zip (Normalizer.zip raw) = Normalizer.zip raw
  geo : ∀ raw, Normalizer.geo p (Normalizer.geo p raw) = Normalizer.geo p raw
  externalId : ∀ raw,
    Normalizer.externalId (Normalizer.externalId raw) = Normalizer.externalId raw

/-- The hashes of a user do not depend on the format of its fields, and none of them is the
hash of the empty text. -/
theorem hash_format_invariant {p : Platform} (lower : p.Lowercases) (user : CanonicalUser) :
    Normalizer.Settles p ∧
      Hasher.hashUser p (user.normalized p) = Hasher.hashUser p user ∧
      (∀ user', user.Reformatted p user' → Hasher.hashUser p user' = Hasher.hashUser p user) ∧
      ∀ hash, some hash ∈ (Hasher.hashUser p user).fields →
        (∃ text, text ≠ "" ∧ hash = p.sha256Hex text) ∧
          ((∀ text, p.sha256Hex text = p.sha256Hex "" → text = "") → hash ≠ p.sha256Hex "") := by
  have settles : Normalizer.Settles p :=
    ⟨Normalizer.email_idem lower, Normalizer.phone_idem, Normalizer.nameField_idem lower,
      Normalizer.zip_idem, Normalizer.geo_idem lower, Normalizer.externalId_idem⟩
  refine ⟨settles, Hasher.hashUser_normalized lower user,
    fun user' h => Hasher.hashUser_reformatted lower h, fun hash present => ?_⟩
  obtain ⟨text, full, hashed⟩ := Hasher.hashUser_of_text present
  refine ⟨⟨text, full, hashed⟩, fun apart collision => ?_⟩
  exact full (apart text (hashed.symm.trans collision))

/-! ## Case without accents -/

/-- A host that knows the texts of the example below, and the empty one. -/
def latinPlatform : Platform where
  toLowerCase s := String.ofList (s.toList.map Char.toLower)
  sha256Hex text :=
    if text = "john.doe@example.com" then
      "836f82db99121b3481011f16b49dfa5fbc714a0d1b1b9f784a1ebbbf5b39577f"
    else if text = "+15551234567" then
      "8a59780bb8cd2ba022bfa5ba2ea3b6e07af17a7d8b30c1f9b3390e36f69019e4"
    else if text = "john" then
      "96d9632f363564cc3032521409cf22a852f2032eec099ed5967c0d000cec607a"
    else "e3b0c44298fc1c149afbf4c8996fb92427ae41e4649b934ca495991b7852b855"
  dateParse _ := none

theorem toLower_cases (c : Char) :
    c.toLower = c ∨ (65 ≤ c.toNat ∧ c.toNat ≤ 90 ∧ c.toLower.toNat = c.toNat + 32) := by
  unfold Char.toLower
  split
  next upper =>
    obtain ⟨low, high⟩ := upper
    have low : 65 ≤ c.toNat := UInt32.le_iff_toNat_le.mp low
    have high : c.toNat ≤ 90 := UInt32.le_iff_toNat_le.mp high
    refine .inr ⟨low, high, ?_⟩
    change (c.val + 32).toNat = c.val.toNat + 32
    have bound : c.val.toNat + 32 < 2 ^ 32 := by
      change c.toNat + 32 < 2 ^ 32
      omega
    rw [UInt32.toNat_add]
    exact Nat.mod_eq_of_lt bound
  next => exact .inl rfl

private theorem toLower_idem (c : Char) : c.toLower.toLower = c.toLower := by
  obtain same | ⟨low, high, lowered⟩ := toLower_cases c
  · rw [same, same]
  · obtain same | ⟨_, high', _⟩ := toLower_cases c.toLower
    · exact same
    · omega

private theorem isJsSpace_toLower (c : Char) : isJsSpace c.toLower = isJsSpace c := by
  obtain same | ⟨low, high, lowered⟩ := toLower_cases c
  · rw [same]
  · have upper : isJsSpace c = false := visible_of_ascii (by omega) (by omega)
    have lower : isJsSpace c.toLower = false := visible_of_ascii (by omega) (by omega)
    rw [upper, lower]

private theorem latinPlatform_lowercases : latinPlatform.Lowercases where
  idem s := by
    have twice : Char.toLower ∘ Char.toLower = Char.toLower := funext toLower_idem
    simp [latinPlatform, twice]
  trim s := by
    have spaces : isJsSpace ∘ Char.toLower = isJsSpace := funext isJsSpace_toLower
    simp [latinPlatform, trim, List.dropWhile_map, spaces, ← List.map_reverse]
  empty := rfl

def plainUser : CanonicalUser where
  email := some "john.doe@example.com"
  phone := some "5551234567"
  firstName := some "john"

def formattedUser : CanonicalUser where
  email := some "JOHN.DOE@EXAMPLE.COM"
  phone := some "(555) 123-4567"
  firstName := some "  john  "

theorem hash_format_invariant_formatted :
    Hasher.hashUser latinPlatform formattedUser = Hasher.hashUser latinPlatform plainUser := by
  have padded : Padded "john" "  john  " :=
    ⟨[' ', ' '], [' ', ' '], by simp [Blank, isJsSpace], by simp [Blank, isJsSpace], rfl⟩
  have punctuated : Normalizer.Punctuated "5551234567" "(555) 123-4567" :=
    .insert _ rfl <| .same _ <| .same _ <| .same _ <| .insert _ rfl <| .insert _ rfl <|
      .same _ <| .same _ <| .same _ <| .insert _ rfl <| .same _ <| .same _ <| .same _ <| .same _
        .nil
  exact (hash_format_invariant latinPlatform_lowercases plainUser).2.2.1 formattedUser
    { email := .some (.inr (by decide)), phone := .some punctuated,
      firstName := .some (.inl padded), lastName := .none, city := .none, state := .none,
      zip := .none, country := .none, externalId := .none }

end SalesforceTikTok
