import SalesforceTikTok.Core.Enrichment
import SalesforceTikTok.Core.EventBuilder
import SalesforceTikTok.Core.EventFilter
import SalesforceTikTok.Delivery.Stores

/-!
# The delivery programs

`Pipeline.process` and the retry worker, statement by statement: every `await`
of the source is one command, every `try` one handler. Logging is left out; it
neither returns a value nor throws.
-/

namespace SalesforceTikTok

open Concurrency

abbrev deliver (cmd : DeliveryCmd) : DeliveryProg cmd.Reply := Prog.call cmd

/-- A pipeline with its configuration; `eventSetManager` tells whether one was injected. -/
structure Pipeline where
  platform : Platform
  env : Env
  eventSetManager : Bool

def DEDUP_KEY_PREFIX : String := "crm:dedup:"

namespace EventDeduplicator

def isDuplicate (env : Env) (eventId : String) : DeliveryProg Bool := do
  try
    let result : SetReply ←
      deliver (.setNx (DEDUP_KEY_PREFIX ++ eventId) env.REDIS_DEDUP_TTL_SECONDS)
    pure (result = .null)
  catch _ =>
    pure false

end EventDeduplicator

namespace EventLog

def insert (eventId : String) (eventName : TikTokEventName) (leadId : String)
    (salesforceReplayId : Int) (tiktokPayload : TikTokEventsPayload) (status : EventLogStatus) :
    DeliveryProg Unit :=
  deliver (.insertLog eventId
    { eventName, leadId, salesforceReplayId, tiktokPayload, status, attemptCount := 1 })

def updateStatus (eventId : String) (status : EventLogStatus)
    (response : Option TikTokAPIResponse) (error : Option String) : DeliveryProg Unit :=
  deliver (.updateLog eventId status response error)

end EventLog

namespace TikTokAPIClient

/-- The resolver of a client constructed without one. -/
def staticToken (env : Env) : Except JsError String :=
  match env.TIKTOK_ACCESS_TOKEN with
  | some token =>
      if token = "" then
        .error { message := "No token resolver provided and TIKTOK_ACCESS_TOKEN is not set. " ++
          "Complete OAuth at /auth/tiktok or set TIKTOK_ACCESS_TOKEN." }
      else .ok token
  | none =>
      .error { message := "No token resolver provided and TIKTOK_ACCESS_TOKEN is not set. " ++
        "Complete OAuth at /auth/tiktok or set TIKTOK_ACCESS_TOKEN." }

def resolveToken (env : Env) : DeliveryProg String :=
  match staticToken env with
  | .ok token => return token
  | .error error => throw error

def businessError (result : TikTokAPIResponse) : JsError where
  message :=
    "TikTok API returned non-zero code: " ++ toString result.code ++ " — " ++ result.message

def sendEvents (env : Env) (payload : TikTokEventsPayload) : DeliveryProg TikTokAPIResponse := do
  deliver (.acquire payload)
  let accessToken ← resolveToken env
  let result : TikTokAPIResponse ← deliver (.postEvents payload accessToken)
  if result.code ≠ 0 then
    throw (businessError result)
  else
    return result

end TikTokAPIClient

namespace RetryQueue

def jobData (payload : TikTokEventsPayload) : RetryJobData where
  payload := payload
  attemptNumber := 0
  originalEventIds := payload.eventIds

/-- `payload.data.map((e) => e.event_id).join(':')`. -/
def jobId (payload : TikTokEventsPayload) : String := ":".intercalate payload.eventIds

def enqueuePayload (payload : TikTokEventsPayload) : DeliveryProg String :=
  deliver (.addJob (jobId payload) (jobData payload))

/-- One run of a job: BullMQ picks it, the handler sends its payload, BullMQ
books the outcome. -/
def runJob (env : Env) (id : String) : DeliveryProg Unit := do
  let data : RetryJobData ← deliver (.takeJob id)
  let succeeded ←
    (try
      let _ ← TikTokAPIClient.sendEvents env data.payload
      pure true
    catch _ =>
      pure false)
  deliver (.settleJob id succeeded)

end RetryQueue

namespace Pipeline

variable (P : Pipeline)

/-- By default the campaign id is the advertiser id; the lookup is skipped without
one or without a manager, and its failure is swallowed. -/
def resolveEventSetId (campaignId : Option String) : DeliveryProg (Option String) :=
  match campaignId with
  | none => return none
  | some advertiserId =>
      if advertiserId = "" ∨ P.eventSetManager = false then return none
      else
        try
          let eventSetId ← deliver (.resolveEventSet advertiserId)
          pure (some eventSetId)
        catch _ =>
          pure none

/-- Whole seconds of the commit time; `NaN` when the text does not parse. -/
def commitSeconds (commitTimestamp : String) : JsNumber :=
  match P.platform.dateParse commitTimestamp with
  | some milliseconds => .int (milliseconds / 1000)
  | none => .nan

/-- The commit time, or the pipeline clock where the header carries none. -/
def eventTime (commitTimestamp : Option String) : DeliveryProg JsNumber :=
  match commitTimestamp with
  | none => do
      let now : Int ← deliver .now
      return .int (now / 1000)
  | some text =>
      if text = "" then do
        let now : Int ← deliver .now
        return .int (now / 1000)
      else return P.commitSeconds text

def canonicalEvent (lead : SalesforceLead) (eventName : TikTokEventName) (eventTime : JsNumber) :
    CanonicalEvent where
  eventId := Hasher.eventId P.platform lead.id eventName eventTime
  eventName := eventName
  eventTime := eventTime
  lead :=
    { leadId := lead.id, status := lead.status, createdAt := some lead.createdDate,
      convertedAt := lead.convertedDate }
  user := IdentityEnrichmentLayer.extractUser lead
  attribution := IdentityEnrichmentLayer.extractAttribution lead
  device := IdentityEnrichmentLayer.extractDevice lead
  integrationVersion := P.env.INTEGRATION_VERSION

def process (cdcEvent : SalesforceCDCEvent) (lead : SalesforceLead) : DeliveryProg Unit :=
  match EventFilter.accepted P.platform cdcEvent with
  | none => return
  | some eventName => do
      let eventSetId ← P.resolveEventSetId (IdentityEnrichmentLayer.extractAttribution lead).campaignId
      let eventTime ← P.eventTime cdcEvent.payload.changeEventHeader.commitTimestamp
      let canonical := P.canonicalEvent lead eventName eventTime
      let eventId := canonical.eventId
      let payload := TikTokEventBuilder.buildPayload P.platform P.env [canonical] eventSetId
      let isDuplicate ← EventDeduplicator.isDuplicate P.env eventId
      if isDuplicate then
        EventLog.insert eventId eventName lead.id cdcEvent.replayId payload .duplicate
      else
        EventLog.insert eventId eventName lead.id cdcEvent.replayId payload .pending
        try
          let response ← TikTokAPIClient.sendEvents P.env payload
          EventLog.updateStatus eventId .sent (some response) none
        catch error =>
          EventLog.updateStatus eventId .failed none (some error.message)
          let _ ← RetryQueue.enqueuePayload payload

end Pipeline

/-- The calls of the delivery path: CDC messages handed to the pipeline, and runs
of queued jobs. -/
inductive DeliveryCall where
  | process (cdcEvent : SalesforceCDCEvent) (lead : SalesforceLead)
  | runJob (jobId : String)

def Pipeline.program (P : Pipeline) : DeliveryCall → DeliveryProg Unit
  | .process cdcEvent lead => P.process cdcEvent lead
  | .runJob id => RetryQueue.runJob P.env id

def Pipeline.system (P : Pipeline) :
    System (deliveryRuntime P.env) Unit DeliveryCall (DeliveryProg Unit) where
  view := Prog.view
  launch call w := some (P.program call, w)

end SalesforceTikTok
