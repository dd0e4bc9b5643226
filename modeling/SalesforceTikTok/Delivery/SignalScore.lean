import SalesforceTikTok.Core.Reformatting
import SalesforceTikTok.Delivery.Pipeline

/-!
# Signals counted and signals sent

The scorer counts a signal that is not blank. The builder sends an e-mail
address with an at sign, a phone number of ten digits, and any other field that
is not empty, be it blank. They agree on leads where these come to the same.
-/

namespace SalesforceTikTok

open IdentityEnrichmentLayer

/-- Each flag of the score says whether its field is in the `user` object. -/
structure SignalsAgree (quality : IdentitySignalQuality) (user : TikTokUserData) : Prop where
  tiktokLeadId : quality.hasTikTokLeadId = user.leadId.isSome
  email : quality.hasEmail = user.email.isSome
  phone : quality.hasPhone = user.phoneNumber.isSome
  ttclid : quality.hasTtclid = user.ttclid.isSome
  externalId : quality.hasExternalId = user.externalId.isSome
  ip : quality.hasIp = user.ip.isSome
  userAgent : quality.hasUserAgent = user.userAgent.isSome

def Plain (raw : String) : Prop := raw = "" ∨ ¬ Blank raw.toList

/-- Signals that are either missing or usable. -/
structure SalesforceLead.SignalsUsable (lead : SalesforceLead) : Prop where
  email : ∀ raw ∈ lead.email, Blank raw.toList ∨ '@' ∈ raw.toList
  phone : ∀ raw ∈ lead.phone, Blank raw.toList ∨ 10 ≤ (onlyDigits raw).length
  tiktokLeadId : ∀ raw ∈ lead.tiktokLeadId, Plain raw
  ttclid : ∀ raw ∈ lead.ttclid, Plain raw
  ip : ∀ raw ∈ lead.ipAddress, Plain raw
  userAgent : ∀ raw ∈ lead.userAgent, Plain raw

/-! ## What is counted, and what is sent -/

private theorem hasSignal_some (raw : String) : hasSignal (some raw) = true ↔
    ¬ Blank raw.toList := by
  rw [← trim_eq_empty_iff]
  exact truthy_some (trim raw)

/-- A field agrees if its text is counted exactly when it is sent. -/
theorem agree_iff {S : Option String → Bool} {Usable : String → Prop}
    (absent : S none = false) (present : ∀ raw, S (some raw) = true ↔ Usable raw)
    (field : Option String) :
    hasSignal field = S field ↔ ∀ raw ∈ field, (¬ Blank raw.toList ↔ Usable raw) := by
  cases field with
  | none => simp [hasSignal, absent]
  | some raw =>
      rw [Bool.eq_iff_iff, hasSignal_some, present]
      simp

private theorem keepTruthy_isSome (value : Option String) :
    (TikTokEventBuilder.keepTruthy value).isSome = truthy value := by
  cases value with
  | none => rfl
  | some text =>
      change (if text = "" then none else some text).isSome = _
      split
      next empty => simp [truthy, empty]
      next full => simp [truthy, full]

section

variable {p : Platform}

private theorem hashed_isSome (digests : ∀ text, p.sha256Hex text ≠ "") (value : Option String) :
    (TikTokEventBuilder.keepTruthy (Hasher.sha256 p value)).isSome = truthy value := by
  rw [keepTruthy_isSome]
  cases value with
  | none => rfl
  | some text =>
      change truthy (if text = "" then none else some (p.sha256Hex text)) = _
      split
      next empty => simp [truthy, empty]
      next full => simp [truthy, full, digests]

private theorem truthy_email (atSign : ∀ s, '@' ∈ (p.toLowerCase s).toList ↔ '@' ∈ s.toList)
    (raw : String) : truthy (Normalizer.email p (some raw)) = true ↔ '@' ∈ raw.toList := by
  have visible : isJsSpace '@' = false := by decide
  have present : '@' ∈ (p.toLowerCase (trim raw)).toList ↔ '@' ∈ raw.toList :=
    (atSign (trim raw)).trans (mem_trim visible raw)
  have empty : '@' ∉ (p.toLowerCase (trim "")).toList := by
    rw [atSign]
    exact List.not_mem_nil
  unfold Normalizer.email
  rw [Normalizer.ofTruthy_some (if_neg empty)]
  dsimp only
  split
  next inside =>
    refine iff_of_true ((truthy_some _).mpr fun blank => ?_) (present.mp inside)
    rw [blank] at inside
    exact List.not_mem_nil inside
  next outside => exact iff_of_false Bool.false_ne_true (mt present.mpr outside)

private theorem truthy_phone (raw : String) :
    truthy (Normalizer.phone "1" (some raw)) = true ↔ 10 ≤ (onlyDigits raw).length := by
  have signed (digits : String) : truthy (some ("+" ++ digits)) = true := by
    refine (truthy_some _).mpr fun empty => ?_
    have sign := congrArg String.toList empty
    simp at sign
  rcases Nat.lt_trichotomy (onlyDigits raw).length 10 with short | ten | long
  · rw [Normalizer.phone_short "1" short]
    exact iff_of_false Bool.false_ne_true (by omega)
  · rw [Normalizer.phone_national "1" ten, String.append_assoc]
    exact iff_of_true (signed _) (by omega)
  · rw [Normalizer.phone_international "1" long]
    exact iff_of_true (signed _) (by omega)

private theorem truthy_externalId (raw : String) :
    truthy (Normalizer.externalId (some raw)) = true ↔ ¬ Blank raw.toList := by
  have rule : Normalizer.externalId (some raw) = Normalizer.nonEmpty (trim raw) := by
    refine Normalizer.ofTruthy_some ?_ raw
    exact Normalizer.nonEmpty_empty
  rw [rule, ← trim_eq_empty_iff, Normalizer.nonEmpty]
  split
  next empty => simp [empty]
  next full => simp [full]

/-! ## Where they agree -/

private theorem not_blank_of_atSign {raw : String} (present : '@' ∈ raw.toList) :
    ¬ Blank raw.toList := by
  intro blank
  have space := blank _ present
  revert space
  decide

private theorem not_blank_of_digits {raw : String} (ten : 10 ≤ (onlyDigits raw).length) :
    ¬ Blank raw.toList := by
  intro blank
  rw [onlyDigits_of_blank blank] at ten
  revert ten
  decide

private theorem counted_iff {raw : String} {Usable : Prop} (visible : Usable → ¬ Blank raw.toList) :
    (¬ Blank raw.toList ↔ Usable) ↔ Blank raw.toList ∨ Usable := by
  tauto

private theorem plain_iff (raw : String) : (¬ Blank raw.toList ↔ raw ≠ "") ↔ Plain raw := by
  have empty : raw = "" → Blank raw.toList := by
    rintro rfl c hc
    exact absurd hc List.not_mem_nil
  unfold Plain
  tauto

private theorem plain_agrees (field : Option String) :
    hasSignal field = (TikTokEventBuilder.keepTruthy field).isSome ↔ ∀ raw ∈ field, Plain raw := by
  rw [keepTruthy_isSome, agree_iff truthy_none truthy_some]
  exact forall₂_congr fun raw _ => plain_iff raw

end

/-- The score counts what is sent exactly for the leads whose signals are missing or usable. -/
theorem signals_agree_iff (P : Pipeline) (digests : ∀ text, P.platform.sha256Hex text ≠ "")
    (atSign : ∀ s, '@' ∈ (P.platform.toLowerCase s).toList ↔ '@' ∈ s.toList)
    (lead : SalesforceLead) (eventName : TikTokEventName) (eventTime : JsNumber) :
    SignalsAgree (scoreSignals (extractUser lead) (extractAttribution lead) (extractDevice lead))
        (TikTokEventBuilder.buildEventData P.platform
          (P.canonicalEvent lead eventName eventTime)).user ↔
      lead.SignalsUsable := by
  have email : hasSignal lead.email = (TikTokEventBuilder.keepTruthy
      (Hasher.sha256 P.platform (Normalizer.email P.platform lead.email))).isSome ↔
        ∀ raw ∈ lead.email, Blank raw.toList ∨ '@' ∈ raw.toList := by
    rw [hashed_isSome digests]
    refine (agree_iff (S := fun field => truthy (Normalizer.email P.platform field)) rfl
      (truthy_email atSign) lead.email).trans ?_
    exact forall₂_congr fun raw _ => counted_iff not_blank_of_atSign
  have phone : hasSignal lead.phone = (TikTokEventBuilder.keepTruthy
      (Hasher.sha256 P.platform (Normalizer.phone "1" lead.phone))).isSome ↔
        ∀ raw ∈ lead.phone, Blank raw.toList ∨ 10 ≤ (onlyDigits raw).length := by
    rw [hashed_isSome digests]
    refine (agree_iff (S := fun field => truthy (Normalizer.phone "1" field)) rfl truthy_phone
      lead.phone).trans ?_
    exact forall₂_congr fun raw _ => counted_iff not_blank_of_digits
  have externalId : hasSignal lead.externalId = (TikTokEventBuilder.keepTruthy
      (Hasher.sha256 P.platform (Normalizer.externalId lead.externalId))).isSome := by
    rw [hashed_isSome digests]
    exact (agree_iff (S := fun field => truthy (Normalizer.externalId field)) rfl
      truthy_externalId lead.externalId).mpr fun raw _ => Iff.rfl
  constructor
  · intro agree
    exact
      { email := email.mp agree.email
        phone := phone.mp agree.phone
        tiktokLeadId := (plain_agrees lead.tiktokLeadId).mp agree.tiktokLeadId
        ttclid := (plain_agrees lead.ttclid).mp agree.ttclid
        ip := (plain_agrees lead.ipAddress).mp agree.ip
        userAgent := (plain_agrees lead.userAgent).mp agree.userAgent }
  · intro usable
    exact
      { email := email.mpr usable.email
        phone := phone.mpr usable.phone
        externalId := externalId
        tiktokLeadId := (plain_agrees lead.tiktokLeadId).mpr usable.tiktokLeadId
        ttclid := (plain_agrees lead.ttclid).mpr usable.ttclid
        ip := (plain_agrees lead.ipAddress).mpr usable.ip
        userAgent := (plain_agrees lead.userAgent).mpr usable.userAgent }

/-! ## A lead of each kind -/

def latinPipeline : Pipeline where
  platform := latinPlatform
  env := {}
  eventSetManager := false

private theorem latinPlatform_digests (text : String) : latinPlatform.sha256Hex text ≠ "" := by
  simp only [latinPlatform]
  split_ifs <;> decide

private theorem latinPlatform_atSign (s : String) :
    '@' ∈ (latinPlatform.toLowerCase s).toList ↔ '@' ∈ s.toList := by
  have lowered (c : Char) : c.toLower = '@' ↔ c = '@' := by
    obtain same | ⟨low, high, shifted⟩ := toLower_cases c
    · rw [same]
    · have sign : '@'.toNat = 64 := rfl
      refine iff_of_false (fun h => ?_) (fun h => ?_)
      · rw [h] at shifted
        omega
      · rw [h] at low
        omega
  simp [latinPlatform, lowered]

def knownLead : SalesforceLead where
  id := "lead-001"
  status := "Open"
  email := some "john.doe@example.com"
  phone := some "(555) 123-4567"
  createdDate := "2024-03-15T09:00:00Z"
  tiktokLeadId := some "7341234567890"
  ipAddress := some "203.0.113.7"

theorem signals_agree_known :
    SignalsAgree
      (scoreSignals (extractUser knownLead) (extractAttribution knownLead)
        (extractDevice knownLead))
      (TikTokEventBuilder.buildEventData latinPlatform
        (latinPipeline.canonicalEvent knownLead (.standard .submitForm) (.int 1710496800))).user := by
  refine (signals_agree_iff latinPipeline latinPlatform_digests latinPlatform_atSign knownLead
    (.standard .submitForm) (.int 1710496800)).mpr ?_
  have visible {c : Char} {raw : String} (inside : c ∈ raw.toList) (h : isJsSpace c = false) :
      Plain raw := .inr fun blank => by
    have space := blank c inside
    rw [h] at space
    cases space
  exact
    { email := by
        rintro raw ⟨⟩
        exact .inr (by decide)
      phone := by
        rintro raw ⟨⟩
        exact .inr (by decide)
      tiktokLeadId := by
        rintro raw ⟨⟩
        exact visible (c := '7') (by decide) (by decide)
      ttclid := by rintro raw ⟨⟩
      ip := by
        rintro raw ⟨⟩
        exact visible (c := '2') (by decide) (by decide)
      userAgent := by rintro raw ⟨⟩ }

def localLead : SalesforceLead where
  id := "lead-002"
  status := "Open"
  phone := some "555-1234"
  createdDate := "2024-03-15T09:00:00Z"
  ipAddress := some " "

/-- The number is counted and not sent; the address is sent and not counted. -/
theorem signals_disagree_local :
    let quality := scoreSignals (extractUser localLead) (extractAttribution localLead)
      (extractDevice localLead)
    let user := (TikTokEventBuilder.buildEventData latinPlatform
      (latinPipeline.canonicalEvent localLead (.standard .submitForm) (.int 1710496800))).user
    (quality.hasPhone = true ∧ user.phoneNumber = none) ∧
      (quality.hasIp = false ∧ user.ip = some " ") ∧ ¬ SignalsAgree quality user := by
  intro quality user
  have phone : quality.hasPhone = true ∧ user.phoneNumber = none := by decide
  have ip : quality.hasIp = false ∧ user.ip = some " " := by decide
  refine ⟨phone, ip, fun agree => ?_⟩
  have same := agree.ip
  rw [ip.1, ip.2] at same
  cases same

end SalesforceTikTok
