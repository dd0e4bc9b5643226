import SalesforceTikTok.Core.Platform

/-!
# Shared record types

The records that travel through the service, field by field as the source
declares them, without the fields that no modelled function reads.
-/

namespace SalesforceTikTok

/-! ## Salesforce change data capture -/

/-- `unnamed`: a change type outside the declared four (gap and overflow events). -/
inductive SalesforceChangeType where
  | create
  | update
  | delete
  | undelete
  | other (name : String) (unnamed : name ∉ ["CREATE", "UPDATE", "DELETE", "UNDELETE"])
  deriving DecidableEq, Repr

def SalesforceChangeType.toText : SalesforceChangeType → String
  | .create => "CREATE"
  | .update => "UPDATE"
  | .delete => "DELETE"
  | .undelete => "UNDELETE"
  | .other name _ => name

structure SalesforceCDCHeader where
  changeType : SalesforceChangeType
  changedFields : Option (List String) := none
  commitTimestamp : Option String := none
  entityName : String
  recordIds : Option (List String) := none
  deriving DecidableEq, Repr

structure SalesforceLead where
  id : String
  status : String
  email : Option String := none
  phone : Option String := none
  firstName : Option String := none
  lastName : Option String := none
  company : Option String := none
  title : Option String := none
  city : Option String := none
  state : Option String := none
  postalCode : Option String := none
  country : Option String := none
  isConverted : Bool := false
  convertedDate : Option String := none
  createdDate : String
  leadSource : Option String := none
  campaign : Option String := none
  ttclid : Option String := none
  tiktokLeadId : Option String := none
  externalId : Option String := none
  ipAddress : Option String := none
  userAgent : Option String := none
  deriving DecidableEq, Repr

/-- The payload of a CDC message: its header and the changed fields' values. -/
structure SalesforceCDCPayload where
  changeEventHeader : SalesforceCDCHeader
  fields : List (String × JsValue) := []

structure SalesforceCDCEvent where
  payload : SalesforceCDCPayload
  replayId : Int

/-- `payload[name]`, which is `undefined` for a field the message lacks. -/
def SalesforceCDCPayload.get (payload : SalesforceCDCPayload) (name : String) : JsValue :=
  (payload.fields.lookup name).getD .undefined

/-! ## Event names -/

inductive TikTokStandardEvent where
  | submitForm
  | completeRegistration
  | contact
  | findLocation
  | schedule
  | submitApplication
  | applicationApproval
  | subscribe
  | addToWishlist
  | viewContent
  | search
  | purchase
  | addToCart
  | initiateCheckout
  | addPaymentInfo
  | startTrial
  | download
  | customizeProduct
  deriving DecidableEq, Repr

def TikTokStandardEvent.toText : TikTokStandardEvent → String
  | .submitForm => "SubmitForm"
  | .completeRegistration => "CompleteRegistration"
  | .contact => "Contact"
  | .findLocation => "FindLocation"
  | .schedule => "Schedule"
  | .submitApplication => "SubmitApplication"
  | .applicationApproval => "ApplicationApproval"
  | .subscribe => "Subscribe"
  | .addToWishlist => "AddToWishlist"
  | .viewContent => "ViewContent"
  | .search => "Search"
  | .purchase => "Purchase"
  | .addToCart => "AddToCart"
  | .initiateCheckout => "InitiateCheckout"
  | .addPaymentInfo => "AddPaymentInfo"
  | .startTrial => "StartTrial"
  | .download => "Download"
  | .customizeProduct => "CustomizeProduct"

/-- What the service handles as a `TikTokEventName`: a declared name, or a
property that an object literal inherits and a table lookup can return. -/
inductive TikTokEventName where
  | standard (event : TikTokStandardEvent)
  | leadCreated
  | leadContacted
  | leadQualified
  | leadConverted
  | inherited (property : String)
  deriving DecidableEq, Repr

/-- `String(value)`: inherited properties are functions, except `__proto__`. -/
def TikTokEventName.toText : TikTokEventName → String
  | .standard event => event.toText
  | .leadCreated => "LeadCreated"
  | .leadContacted => "LeadContacted"
  | .leadQualified => "LeadQualified"
  | .leadConverted => "LeadConverted"
  | .inherited "__proto__" => "[object Object]"
  | .inherited "constructor" => "function Object() \x7b [native code] \x7d"
  | .inherited property => "function " ++ property ++ "() \x7b [native code] \x7d"

/-! ## Canonical events -/

structure CanonicalLead where
  leadId : String
  status : String
  createdAt : Option String
  convertedAt : Option String
  deriving DecidableEq, Repr

structure CanonicalUser where
  email : Option String := none
  phone : Option String := none
  firstName : Option String := none
  lastName : Option String := none
  city : Option String := none
  state : Option String := none
  zip : Option String := none
  country : Option String := none
  externalId : Option String := none
  tiktokLeadId : Option String := none
  deriving DecidableEq, Repr

structure CanonicalAttribution where
  ttclid : Option String := none
  source : Option String := none
  campaignId : Option String := none
  deriving DecidableEq, Repr

structure CanonicalDevice where
  ip : Option String := none
  userAgent : Option String := none
  deriving DecidableEq, Repr

structure CanonicalEvent where
  eventId : String
  eventName : TikTokEventName
  eventTime : JsNumber
  lead : CanonicalLead
  user : CanonicalUser
  attribution : CanonicalAttribution
  device : CanonicalDevice
  /-- `metadata.integration_version`. -/
  integrationVersion : String
  value : Option JsNumber := none
  currency : Option String := none
  deriving DecidableEq, Repr

structure IdentitySignalQuality where
  score : Nat
  hasTikTokLeadId : Bool
  hasEmail : Bool
  hasPhone : Bool
  hasTtclid : Bool
  hasExternalId : Bool
  hasIp : Bool
  hasUserAgent : Bool
  estimatedMatchRate : String
  deriving DecidableEq, Repr

/-! ## The TikTok payload -/

structure HashedUser where
  email : Option String
  phoneNumber : Option String
  firstName : Option String
  lastName : Option String
  city : Option String
  state : Option String
  zip : Option String
  country : Option String
  externalId : Option String
  deriving DecidableEq, Repr

structure TikTokUserData where
  leadId : Option String := none
  email : Option String := none
  phoneNumber : Option String := none
  externalId : Option String := none
  ttclid : Option String := none
  ip : Option String := none
  userAgent : Option String := none
  firstName : Option String := none
  lastName : Option String := none
  deriving DecidableEq, Repr

structure TikTokEventProperties where
  currency : Option String := none
  value : Option JsNumber := none
  leadStatus : Option String := none
  source : Option String := none
  campaignId : Option String := none
  integrationVersion : Option String := none
  dfoStage : Option Nat := none
  deriving DecidableEq, Repr

structure TikTokEventData where
  event : TikTokEventName
  eventTime : JsNumber
  eventId : String
  user : TikTokUserData
  properties : TikTokEventProperties
  deriving DecidableEq, Repr

structure TikTokEventsPayload where
  eventSourceId : String
  data : List TikTokEventData
  deriving DecidableEq, Repr

/-- `payload.data.map((e) => e.event_id)`. -/
def TikTokEventsPayload.eventIds (payload : TikTokEventsPayload) : List String :=
  payload.data.map (·.eventId)

structure BatchUploadStatus where
  eventId : String
  /-- `status === 'success'`; the alternative is `'failed'`. -/
  success : Bool
  errorMessage : Option String := none
  deriving DecidableEq, Repr

structure TikTokAPIResponse where
  code : Int
  message : String
  requestId : String
  batchUploadStatus : Option (List BatchUploadStatus) := none
  deriving DecidableEq, Repr

/-! ## The event log -/

inductive EventLogStatus where
  | pending
  | sent
  | failed
  | duplicate
  deriving DecidableEq, Repr

/-- One row of `crm_event_log`; `event_id` is the table's unique key. -/
structure EventLogRecord where
  eventName : TikTokEventName
  leadId : String
  salesforceReplayId : Int
  tiktokPayload : TikTokEventsPayload
  status : EventLogStatus
  tiktokResponse : Option TikTokAPIResponse := none
  attemptCount : Nat
  error : Option String := none
  deriving DecidableEq, Repr

/-! ## The retry queue -/

structure RetryJobData where
  payload : TikTokEventsPayload
  attemptNumber : Nat
  originalEventIds : List String
  deriving DecidableEq, Repr

/-! ## The filter's answer -/

structure FilterResult where
  shouldProcess : Bool
  reason : String
  eventType : Option TikTokEventName := none
  deriving DecidableEq, Repr

/-! ## Configuration -/

/-- The validated environment, as far as the modelled code reads it. -/
structure Env where
  TIKTOK_CRM_EVENT_SET_ID : Option String := none
  TIKTOK_ACCESS_TOKEN : Option String := none
  REDIS_DEDUP_TTL_SECONDS : Int := 172800
  INTEGRATION_VERSION : String := "1.0.0"
  TIKTOK_MAX_RETRIES : Int := 5
  deriving DecidableEq, Repr

end SalesforceTikTok
