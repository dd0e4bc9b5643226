import SalesforceTikTok.Delivery.Preparation

/-!
# The event set of a payload

`CRMEventSetManager.resolve` refuses to answer when it knows no event set. The
pipeline swallows the refusal, and the builder's chain of `??` ends in the empty
string, so a payload can name no event set at all.
-/

namespace SalesforceTikTok

open Concurrency

namespace Pipeline

variable {P : Pipeline}

/-- The call looks an event set up: its lead names an advertiser and a manager was injected. -/
def Asks (P : Pipeline) (lead : SalesforceLead) : Prop :=
  truthy (IdentityEnrichmentLayer.extractAttribution lead).campaignId = true ∧
    P.eventSetManager = true

/-- What names the event set of a payload: the answer of `resolve`, else the environment. -/
def EventSetNamed (P : Pipeline) : Option String → Prop
  | some eventSetId => eventSetId ≠ ""
  | none => truthy P.env.TIKTOK_CRM_EVENT_SET_ID = true

instance (P : Pipeline) : (resolved : Option String) → Decidable (P.EventSetNamed resolved)
  | some eventSetId => inferInstanceAs (Decidable (eventSetId ≠ ""))
  | none => inferInstanceAs (Decidable (truthy P.env.TIKTOK_CRM_EVENT_SET_ID = true))

private theorem eventSourceId_ne_iff (P : Pipeline) (events : List CanonicalEvent)
    (resolved : Option String) :
    (TikTokEventBuilder.buildPayload P.platform P.env events resolved).eventSourceId ≠ "" ↔
      P.EventSetNamed resolved := by
  cases resolved with
  | some eventSetId => simp [TikTokEventBuilder.buildPayload, EventSetNamed]
  | none =>
      unfold EventSetNamed
      cases configured : P.env.TIKTOK_CRM_EVENT_SET_ID with
      | none => simp [TikTokEventBuilder.buildPayload, configured]
      | some eventSetId => simp [TikTokEventBuilder.buildPayload, configured]

/-! ## Calls that look no event set up -/

private theorem asks_of_resolving {cdcEvent cdcEvent' : SalesforceCDCEvent}
    {lead lead' : SalesforceLead} {eventName : TikTokEventName} {advertiserId : String}
    (h : P.startPoint (.process cdcEvent lead) =
      .resolving cdcEvent' lead' eventName advertiserId) : P.Asks lead := by
  have untimed (name : TikTokEventName) :
      P.timed cdcEvent lead name none ≠ .resolving cdcEvent' lead' eventName advertiserId := by
    obtain timing | ⟨eventTime, marking⟩ := P.timed_cases cdcEvent lead name none
    · rw [timing]
      simp
    · rw [marking]
      simp
  simp only [startPoint] at h
  split at h
  · cases h
  split at h
  · exact absurd h (untimed _)
  next advertiser present =>
    split at h
    · exact absurd h (untimed _)
    next asked =>
      rw [not_or] at asked
      exact ⟨by simp [present, asked.1], by simpa using asked.2⟩

/-- Only a call that looks an event set up has an answer to the lookup. -/
theorem process_asks {w : DeliveryWorld} {c : DeliveryConfig DeliveryPoint}
    {actions : List DeliveryAction} (h : P.protocol.run (.initial w) actions = some c)
    {pid : Nat} {p : Proc DeliveryCall DeliveryPoint} (hp : c.procs[pid]? = some p)
    {cdcEvent : SalesforceCDCEvent} {lead : SalesforceLead}
    (entry : p.entry = .process cdcEvent lead) :
    ∀ r ∈ c.own pid, (resolvedId r).isSome = true → P.Asks lead := by
  let Own : DeliveryCall → DeliveryPoint → List DeliveryRecord → Prop := fun call x history =>
    ∀ cdcEvent lead, call = .process cdcEvent lead →
      (∀ cdcEvent' lead' eventName advertiserId,
        x = .resolving cdcEvent' lead' eventName advertiserId → P.Asks lead) ∧
      ∀ r ∈ history, (resolvedId r).isSome = true → P.Asks lead
  refine (protocol_own (fun _ => True) Own ?_ ?_ h (fun _ _ => trivial) hp cdcEvent lead entry).2
  · rintro call cdcEvent lead rfl
    exact ⟨fun _ _ _ _ => asks_of_resolving, by simp⟩
  · intro call x history w r y v own t _ cdcEvent lead hcall
    obtain ⟨point, before⟩ := own cdcEvent lead hcall
    have left (cdcEvent' lead' eventName advertiserId) :
        y ≠ .resolving cdcEvent' lead' eventName advertiserId := by
      cases t with
      | @resolved cdcEvent lead eventName _ _ _ _ _ eventSetId =>
          obtain timing | ⟨_, marking⟩ := P.timed_cases cdcEvent lead eventName eventSetId
          · rw [timing]
            simp
          · rw [marking]
            simp
      | _ => simp
    have here (answered : (resolvedId r).isSome = true) : P.Asks lead := by
      cases t with
      | resolved => exact point _ _ _ _ rfl
      | _ => cases answered
    refine ⟨fun _ _ _ _ back => absurd back (left _ _ _ _), fun q hq answered => ?_⟩
    obtain hq | hq := List.mem_append.mp hq
    · exact before q hq answered
    · obtain rfl := List.mem_singleton.mp hq
      exact here answered

end Pipeline

open Pipeline

/-- Of everything a call passes on: its log rows, what it sends and what it queues. -/
theorem event_source_named_iff {P : Pipeline} {w : DeliveryWorld}
    {c : DeliveryConfig (DeliveryProg Unit)} {actions : List DeliveryAction}
    (h : P.system.run (.initial w) actions = some c) {pid : Nat} {cdcEvent : SalesforceCDCEvent}
    {lead : SalesforceLead} {state : DeliveryProg Unit}
    (hp : c.procs[pid]? = some ⟨.process cdcEvent lead, state⟩) {r : DeliveryRecord}
    (hr : r ∈ c.own pid) {payload : TikTokEventsPayload}
    (passed : r.cmd.payload? = some payload) :
    (payload.eventSourceId ≠ "" ↔ P.EventSetNamed (resolvedIn (c.own pid))) ∧
      (¬ P.Asks lead → resolvedIn (c.own pid) = none) := by
  obtain ⟨eventName, named, owns, _⟩ := process_owns h hp hr
  refine ⟨?_, fun unasked => ?_⟩
  · rw [owns.1 payload passed]
    exact P.eventSourceId_ne_iff _ _
  · obtain ⟨d, hd, rfl⟩ := exists_protocol h
    rw [Config.map_get, Option.map_eq_some_iff] at hp
    obtain ⟨p, hp, hq⟩ := hp
    rw [resolvedIn, List.findSome?_eq_none_iff]
    intro q hq'
    by_contra answered
    have asks := process_asks hd hp (congrArg Proc.entry hq) q hq'
      (Option.isSome_iff_ne_none.mpr answered)
    exact unasked asks

/-! ## A refusal that is swallowed -/

namespace Sample

def managed : Pipeline where
  platform := platform
  env := pipeline.env
  eventSetManager := true

def campaignLead : SalesforceLead where
  id := "lead-001"
  status := "Qualified"
  createdDate := "2024-01-01T00:00:00Z"
  campaign := some "7123456789"

def noEventSet : JsError where
  message := "No CRM event set found for advertiser 7123456789. " ++
    "Complete provisioning at POST /event-sets/7123456789/provision " ++
    "or set TIKTOK_CRM_EVENT_SET_ID in your environment."

end Sample

/-- `resolve` refuses, and the event is sent all the same. -/
def refusedLookup : List DeliveryAction :=
  [.start (.process Sample.cdcEvent Sample.campaignLead), .resume 0 (.fail Sample.noEventSet),
    .resume 0 .ok, .resume 0 .ok, .resume 0 .ok, .resume 0 (.response Sample.response)]

/-- `resolve` answers, and its event set is named. -/
def answeredLookup : List DeliveryAction :=
  [.start (.process Sample.cdcEvent Sample.campaignLead), .resume 0 (.eventSet "evset-001"),
    .resume 0 .ok, .resume 0 .ok, .resume 0 .ok]

theorem event_source_named_iff_answered :
    let c := Sample.managed.system.result (.initial (.fresh 0)) answeredLookup (by decide)
    ∀ r ∈ c.own 0, ∀ payload, r.cmd = .acquire payload → payload.eventSourceId ≠ "" := by
  intro c r hr payload passed
  obtain ⟨state, hp⟩ : ∃ state,
      c.procs[0]? = some ⟨.process Sample.cdcEvent Sample.campaignLead, state⟩ := ⟨_, rfl⟩
  have named := (event_source_named_iff (System.run_result _) hp hr (by rw [passed]; rfl)).1
  exact named.mpr (by decide)

theorem event_source_missing :
    let c := Sample.managed.system.result (.initial (.fresh 0)) refusedLookup (by decide)
    ∃ r ∈ c.own 0, ∃ payload token,
      r.cmd = .postEvents payload token ∧ payload.eventSourceId = "" := by
  refine ⟨_, List.mem_of_getLast? rfl, _, _, rfl, rfl⟩

end SalesforceTikTok
