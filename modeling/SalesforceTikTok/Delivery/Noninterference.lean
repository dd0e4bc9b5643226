import SalesforceTikTok.Delivery.History

/-!
# Personal data and what leaves the process

Two leads that differ in personal fields alone, and whose hashes agree, are the
same lead to the pipeline: the programs are equal, so the stores and TikTok see
the same commands whatever they answer.
-/

namespace SalesforceTikTok

open Concurrency

def SalesforceLead.impersonal (lead : SalesforceLead) : SalesforceLead :=
  { lead with
    email := none, phone := none, firstName := none, lastName := none, externalId := none,
    city := none, state := none, postalCode := none, country := none, company := none,
    title := none }

/-- The hashes of the lead's personal fields that a payload carries. -/
structure PersonalHashes where
  email : Option String
  phoneNumber : Option String
  firstName : Option String
  lastName : Option String
  externalId : Option String
  deriving DecidableEq

def SalesforceLead.personalHashes (p : Platform) (lead : SalesforceLead) : PersonalHashes :=
  let hashed := Hasher.hashUser p (IdentityEnrichmentLayer.extractUser lead)
  { email := hashed.email, phoneNumber := hashed.phoneNumber, firstName := hashed.firstName,
    lastName := hashed.lastName, externalId := hashed.externalId }

/-- The leads agree on all but personal fields, and their hashes agree. -/
structure SalesforceLead.Indistinct (p : Platform) (lead lead' : SalesforceLead) : Prop where
  impersonal : lead.impersonal = lead'.impersonal
  hashes : lead.personalHashes p = lead'.personalHashes p

/-! ## Every value that is passed on -/

namespace SalesforceLead.Indistinct

variable {p : Platform} {lead lead' : SalesforceLead}

/-- What does not look at personal fields is the same for both leads. -/
theorem field_eq (same : Indistinct p lead lead') {β : Type} (f : SalesforceLead → β)
    (blind : ∀ lead : SalesforceLead, f lead.impersonal = f lead) : f lead = f lead' := by
  rw [← blind lead, ← blind lead', same.impersonal]

private theorem id_eq (same : Indistinct p lead lead') : lead.id = lead'.id :=
  same.field_eq SalesforceLead.id fun _ => rfl

private theorem attribution_eq (same : Indistinct p lead lead') :
    IdentityEnrichmentLayer.extractAttribution lead =
      IdentityEnrichmentLayer.extractAttribution lead' :=
  same.field_eq IdentityEnrichmentLayer.extractAttribution fun _ => rfl

private theorem userData_eq {P : Pipeline} (same : Indistinct P.platform lead lead')
    (eventName : TikTokEventName) (eventTime : JsNumber) :
    TikTokEventBuilder.buildUserData
        (Hasher.hashUser P.platform (IdentityEnrichmentLayer.extractUser lead))
        (P.canonicalEvent lead eventName eventTime) =
      TikTokEventBuilder.buildUserData
        (Hasher.hashUser P.platform (IdentityEnrichmentLayer.extractUser lead'))
        (P.canonicalEvent lead' eventName eventTime) := by
  have email := congrArg PersonalHashes.email same.hashes
  have phoneNumber := congrArg PersonalHashes.phoneNumber same.hashes
  have firstName := congrArg PersonalHashes.firstName same.hashes
  have lastName := congrArg PersonalHashes.lastName same.hashes
  have externalId := congrArg PersonalHashes.externalId same.hashes
  have device : IdentityEnrichmentLayer.extractDevice lead =
      IdentityEnrichmentLayer.extractDevice lead' :=
    same.field_eq IdentityEnrichmentLayer.extractDevice fun _ => rfl
  have tiktokLeadId : (IdentityEnrichmentLayer.extractUser lead).tiktokLeadId =
      (IdentityEnrichmentLayer.extractUser lead').tiktokLeadId :=
    same.field_eq (fun lead => lead.tiktokLeadId) fun _ => rfl
  simp only [personalHashes] at email phoneNumber firstName lastName externalId
  simp only [TikTokEventBuilder.buildUserData, Pipeline.canonicalEvent, email, phoneNumber,
    firstName, lastName, externalId, same.attribution_eq, device, tiktokLeadId]

private theorem eventId_eq {P : Pipeline} (same : Indistinct P.platform lead lead')
    (eventName : TikTokEventName) (eventTime : JsNumber) :
    (P.canonicalEvent lead eventName eventTime).eventId =
      (P.canonicalEvent lead' eventName eventTime).eventId := by
  simp only [Pipeline.canonicalEvent, same.id_eq]

private theorem payload_eq {P : Pipeline} (same : Indistinct P.platform lead lead')
    (eventName : TikTokEventName) (eventTime : JsNumber) (eventSetId : Option String) :
    TikTokEventBuilder.buildPayload P.platform P.env [P.canonicalEvent lead eventName eventTime]
        eventSetId =
      TikTokEventBuilder.buildPayload P.platform P.env
        [P.canonicalEvent lead' eventName eventTime] eventSetId := by
  have user := same.userData_eq eventName eventTime
  have eventId := same.eventId_eq eventName eventTime
  have properties :
      TikTokEventBuilder.buildProperties (P.canonicalEvent lead eventName eventTime) =
        TikTokEventBuilder.buildProperties (P.canonicalEvent lead' eventName eventTime) := by
    have status : lead.status = lead'.status :=
      same.field_eq SalesforceLead.status fun _ => rfl
    simp only [TikTokEventBuilder.buildProperties, Pipeline.canonicalEvent, status,
      same.attribution_eq]
    rfl
  have data : TikTokEventBuilder.buildEventData P.platform
        (P.canonicalEvent lead eventName eventTime) =
      TikTokEventBuilder.buildEventData P.platform
        (P.canonicalEvent lead' eventName eventTime) := by
    unfold TikTokEventBuilder.buildEventData
    rw [properties, eventId]
    congr 1
  simp only [TikTokEventBuilder.buildPayload, List.map_cons, List.map_nil, data]

private theorem process_eq {P : Pipeline} (same : Indistinct P.platform lead lead')
    (cdcEvent : SalesforceCDCEvent) : P.process cdcEvent lead = P.process cdcEvent lead' := by
  simp only [Pipeline.process, same.attribution_eq, same.payload_eq, same.eventId_eq, same.id_eq]

end SalesforceLead.Indistinct

/-! ## Runs -/

inductive DeliveryCall.Indistinct (p : Platform) : DeliveryCall → DeliveryCall → Prop where
  | process (cdcEvent : SalesforceCDCEvent) {lead lead' : SalesforceLead}
      (same : lead.Indistinct p lead') :
      Indistinct p (.process cdcEvent lead) (.process cdcEvent lead')
  | runJob (jobId : String) : Indistinct p (.runJob jobId) (.runJob jobId)

/-- The same action, up to personal data: same answers, same moves of the environment. -/
inductive IndistinctActions (p : Platform) : DeliveryAction → DeliveryAction → Prop where
  | start {call call' : DeliveryCall} (same : call.Indistinct p call') :
      IndistinctActions p (.start call) (.start call')
  | resume (pid : Nat) (choice : DeliveryChoice) :
      IndistinctActions p (.resume pid choice) (.resume pid choice)
  | env (event : DeliveryEvent) : IndistinctActions p (.env event) (.env event)

theorem DeliveryCall.Indistinct.program_eq {P : Pipeline} {call call' : DeliveryCall}
    (same : call.Indistinct P.platform call') : P.program call = P.program call' := by
  cases same with
  | process cdcEvent same => exact same.process_eq cdcEvent
  | runJob jobId => rfl

theorem IndistinctActions.alike {P : Pipeline} {a b : DeliveryAction}
    (same : IndistinctActions P.platform a b) : Action.Alike P.system a b := by
  cases same with
  | start same =>
      apply Action.Alike.start
      intro w
      simp only [Pipeline.system, same.program_eq]
  | resume pid choice => exact .resume pid choice
  | env event => exact .env event

/-- The same commands with the same arguments in the same order, by the same calls. -/
theorem pii_noninterference {P : Pipeline} {w : DeliveryWorld}
    {c : DeliveryConfig (DeliveryProg Unit)} {actions actions' : List DeliveryAction}
    (h : P.system.run (.initial w) actions = some c)
    (same : List.Forall₂ (IndistinctActions P.platform) actions actions') :
    ∃ c', P.system.run (.initial w) actions' = some c' ∧ c'.trace = c.trace ∧
      c'.world = c.world ∧
        ∀ pid outcome, P.system.Ended c pid outcome → P.system.Ended c' pid outcome := by
  have alike : List.Forall₂ (Action.Alike P.system) actions actions' :=
    same.imp fun _ _ => IndistinctActions.alike
  obtain ⟨c', h', configs⟩ := System.run_alike h (.refl _) alike
  exact ⟨c', h', configs.trace, configs.world, fun _ _ => configs.ended⟩

namespace Sample

def hashing : Pipeline where
  platform :=
    { platform with
      sha256Hex := fun text =>
        if text = "+15551234567" then
          "8a59780bb8cd2ba022bfa5ba2ea3b6e07af17a7d8b30c1f9b3390e36f69019e4"
        else platform.sha256Hex text }
  env := pipeline.env
  eventSetManager := false

def phoneLead : SalesforceLead := { lead with phone := some "(555) 123-4567" }

def phoneLead' : SalesforceLead :=
  { lead with phone := some "5551234567", city := some "Portland" }

end Sample

def deliverLead (lead : SalesforceLead) : List DeliveryAction :=
  [.start (.process Sample.cdcEvent lead), .resume 0 .ok, .resume 0 .ok]

theorem pii_noninterference_phone :
    ∃ c', Sample.hashing.system.run (.initial (.fresh 0)) (deliverLead Sample.phoneLead') =
        some c' ∧
      c'.trace = (Sample.hashing.system.result (.initial (.fresh 0))
        (deliverLead Sample.phoneLead) (by decide)).trace := by
  have leads : Sample.phoneLead.Indistinct Sample.hashing.platform Sample.phoneLead' :=
    ⟨by decide, by decide⟩
  obtain ⟨c', h', trace, _⟩ := pii_noninterference (System.run_result _)
    (.cons (.start (.process Sample.cdcEvent leads))
      (.cons (.resume 0 .ok) (.cons (.resume 0 .ok) .nil)))
  exact ⟨c', h', trace⟩

end SalesforceTikTok
