import SalesforceTikTok.Core.Normalization

/-!
# TikTok event builder

Canonical events become the payload of `/event/track/`.
-/

namespace SalesforceTikTok

/-- `EVENT_TO_DFO_STAGE`. -/
def TikTokStandardEvent.dfoStage : TikTokStandardEvent → Nat
  | .submitForm | .viewContent | .search | .findLocation => 1
  | .contact | .schedule | .addToWishlist | .addToCart | .initiateCheckout => 2
  | .completeRegistration | .submitApplication | .addPaymentInfo | .download
  | .customizeProduct => 3
  | .purchase | .applicationApproval | .subscribe | .startTrial => 4

/-- `EVENT_TO_DFO_STAGE[event_name]`: names outside the table have no stage. -/
def TikTokEventName.dfoStage : TikTokEventName → Option Nat
  | .standard event => some event.dfoStage
  | _ => none

namespace TikTokEventBuilder

/-- `if (value) target = value`: empty text is left out like absent text. -/
def keepTruthy : Option String → Option String
  | some value => if value = "" then none else some value
  | none => none

def buildProperties (event : CanonicalEvent) : TikTokEventProperties where
  leadStatus := some event.lead.status
  source := event.attribution.source
  campaignId := event.attribution.campaignId
  integrationVersion := some event.integrationVersion
  dfoStage := event.eventName.dfoStage
  value := if event.eventName = .standard .purchase then event.value else none
  currency := if event.eventName = .standard .purchase then event.currency else none

def buildUserData (hashed : HashedUser) (event : CanonicalEvent) : TikTokUserData where
  leadId := keepTruthy event.user.tiktokLeadId
  email := keepTruthy hashed.email
  phoneNumber := keepTruthy hashed.phoneNumber
  externalId := keepTruthy hashed.externalId
  firstName := keepTruthy hashed.firstName
  lastName := keepTruthy hashed.lastName
  ttclid := keepTruthy event.attribution.ttclid
  ip := keepTruthy event.device.ip
  userAgent := keepTruthy event.device.userAgent

def buildEventData (p : Platform) (event : CanonicalEvent) : TikTokEventData where
  event := event.eventName
  eventTime := event.eventTime
  eventId := event.eventId
  user := buildUserData (Hasher.hashUser p event.user) event
  properties := buildProperties event

/-- `eventSetIdOverride ?? env.TIKTOK_CRM_EVENT_SET_ID ?? ''`. -/
def buildPayload (p : Platform) (env : Env) (events : List CanonicalEvent)
    (eventSetIdOverride : Option String) : TikTokEventsPayload where
  eventSourceId := (eventSetIdOverride.or env.TIKTOK_CRM_EVENT_SET_ID).getD ""
  data := events.map (buildEventData p)

@[simp] theorem buildPayload_eventIds (p : Platform) (env : Env) (events : List CanonicalEvent)
    (override : Option String) :
    (buildPayload p env events override).eventIds = events.map (·.eventId) := by
  simp [buildPayload, TikTokEventsPayload.eventIds, buildEventData, Function.comp_def]

end TikTokEventBuilder
end SalesforceTikTok
