import SalesforceTikTok.Concurrency.Refinement
import SalesforceTikTok.Delivery.Pipeline

/-!
# The delivery protocol

The points at which a delivery call can be suspended, and what each awaits. The
point system has the same runs as the programs (`protocol_refines`), so a fact
about points proved by cases is a fact about the programs.
-/

namespace SalesforceTikTok

open Concurrency

/-- What a process call carries from its deduplication step on. -/
structure Delivery where
  eventId : String
  eventName : TikTokEventName
  leadId : String
  salesforceReplayId : Int
  payload : TikTokEventsPayload
  single : payload.eventIds = [eventId]

/-- The row `EventLog.insert` proposes. -/
def Delivery.record (d : Delivery) (status : EventLogStatus) : EventLogRecord where
  eventName := d.eventName
  leadId := d.leadId
  salesforceReplayId := d.salesforceReplayId
  tiktokPayload := d.payload
  status := status
  attemptCount := 1

theorem RetryQueue.jobId_of_single {payload : TikTokEventsPayload} {eventId : String}
    (h : payload.eventIds = [eventId]) : RetryQueue.jobId payload = eventId := by
  rw [RetryQueue.jobId, h]
  rfl

theorem Delivery.jobId_eq (d : Delivery) : RetryQueue.jobId d.payload = d.eventId :=
  RetryQueue.jobId_of_single d.single

def Pipeline.delivery (P : Pipeline) (cdcEvent : SalesforceCDCEvent) (lead : SalesforceLead)
    (eventName : TikTokEventName) (eventSetId : Option String) (eventTime : JsNumber) :
    Delivery where
  eventId := (P.canonicalEvent lead eventName eventTime).eventId
  eventName := eventName
  leadId := lead.id
  salesforceReplayId := cdcEvent.replayId
  payload :=
    TikTokEventBuilder.buildPayload P.platform P.env [P.canonicalEvent lead eventName eventTime]
      eventSetId
  single := by simp

/-- Where a delivery call is suspended. The points of a retry run are those from
`taking` on. -/
inductive DeliveryPoint where
  | resolving (cdcEvent : SalesforceCDCEvent) (lead : SalesforceLead) (eventName : TikTokEventName)
      (advertiserId : String)
  | timing (cdcEvent : SalesforceCDCEvent) (lead : SalesforceLead) (eventName : TikTokEventName)
      (eventSetId : Option String)
  | marking (d : Delivery)
  | loggingDuplicate (d : Delivery)
  | loggingPending (d : Delivery)
  | acquiring (d : Delivery)
  | posting (d : Delivery) (accessToken : String)
  | loggingSent (d : Delivery) (response : TikTokAPIResponse)
  | loggingFailed (d : Delivery) (error : JsError)
  | enqueueing (d : Delivery)
  | taking (jobId : String)
  | jobAcquiring (jobId : String) (data : RetryJobData)
  | jobPosting (jobId : String) (data : RetryJobData) (accessToken : String)
  | settling (jobId : String) (succeeded : Bool)
  | ended (outcome : Except JsError Unit)

namespace Pipeline

variable (P : Pipeline)

/-! ## The program that remains at a point -/

/-- Steps 7 and 8 of `process` after the pending row. -/
def sendOrEnqueue (d : Delivery) : DeliveryProg Unit := do
  try
    let response ← TikTokAPIClient.sendEvents P.env d.payload
    EventLog.updateStatus d.eventId .sent (some response) none
  catch error =>
    EventLog.updateStatus d.eventId .failed none (some error.message)
    let _ ← RetryQueue.enqueuePayload d.payload

def fromDedup (d : Delivery) : DeliveryProg Unit := do
  let isDuplicate ← EventDeduplicator.isDuplicate P.env d.eventId
  if isDuplicate then
    EventLog.insert d.eventId d.eventName d.leadId d.salesforceReplayId d.payload .duplicate
  else
    EventLog.insert d.eventId d.eventName d.leadId d.salesforceReplayId d.payload .pending
    P.sendOrEnqueue d

def fromTime (cdcEvent : SalesforceCDCEvent) (lead : SalesforceLead)
    (eventName : TikTokEventName) (eventSetId : Option String) : DeliveryProg Unit := do
  let eventTime ← P.eventTime cdcEvent.payload.changeEventHeader.commitTimestamp
  P.fromDedup (P.delivery cdcEvent lead eventName eventSetId eventTime)

/-- The `catch` branch of `process`. -/
def onSendError (d : Delivery) (error : JsError) : DeliveryProg Unit := do
  EventLog.updateStatus d.eventId .failed none (some error.message)
  let _ ← RetryQueue.enqueuePayload d.payload

/-- `sendEvents` from its POST on. -/
def post (payload : TikTokEventsPayload) (accessToken : String) :
    DeliveryProg TikTokAPIResponse := do
  let result : TikTokAPIResponse ← deliver (.postEvents payload accessToken)
  if result.code ≠ 0 then
    throw (TikTokAPIClient.businessError result)
  else
    return result

def settleRun (id : String) (send : DeliveryProg TikTokAPIResponse) : DeliveryProg Unit := do
  let succeeded ←
    (try
      let _ ← send
      pure true
    catch _ =>
      pure false)
  deliver (.settleJob id succeeded)

end Pipeline

def DeliveryPoint.program (P : Pipeline) : DeliveryPoint → DeliveryProg Unit
  | .resolving cdcEvent lead eventName advertiserId => do
      let eventSetId ←
        (try
          let eventSetId ← deliver (.resolveEventSet advertiserId)
          pure (some eventSetId)
        catch _ =>
          pure none)
      P.fromTime cdcEvent lead eventName eventSetId
  | .timing cdcEvent lead eventName eventSetId => do
      let now : Int ← deliver .now
      P.fromDedup (P.delivery cdcEvent lead eventName eventSetId (.int (now / 1000)))
  | .marking d => P.fromDedup d
  | .loggingDuplicate d =>
      EventLog.insert d.eventId d.eventName d.leadId d.salesforceReplayId d.payload .duplicate
  | .loggingPending d => do
      EventLog.insert d.eventId d.eventName d.leadId d.salesforceReplayId d.payload .pending
      P.sendOrEnqueue d
  | .acquiring d => P.sendOrEnqueue d
  | .posting d accessToken => do
      try
        let response ← Pipeline.post d.payload accessToken
        EventLog.updateStatus d.eventId .sent (some response) none
      catch error =>
        Pipeline.onSendError d error
  | .loggingSent d response => do
      try
        EventLog.updateStatus d.eventId .sent (some response) none
      catch error =>
        Pipeline.onSendError d error
  | .loggingFailed d error => Pipeline.onSendError d error
  | .enqueueing d => do
      let _ ← RetryQueue.enqueuePayload d.payload
  | .taking id => RetryQueue.runJob P.env id
  | .jobAcquiring id data => Pipeline.settleRun id (TikTokAPIClient.sendEvents P.env data.payload)
  | .jobPosting id data accessToken => Pipeline.settleRun id (Pipeline.post data.payload accessToken)
  | .settling id succeeded => deliver (.settleJob id succeeded)
  | .ended (.ok value) => .done value
  | .ended (.error error) => .fail error

/-! ## What a point awaits and where it goes -/

namespace Pipeline

variable (P : Pipeline)

def timed (cdcEvent : SalesforceCDCEvent) (lead : SalesforceLead)
    (eventName : TikTokEventName) (eventSetId : Option String) : DeliveryPoint :=
  match cdcEvent.payload.changeEventHeader.commitTimestamp with
  | none => .timing cdcEvent lead eventName eventSetId
  | some text =>
      if text = "" then .timing cdcEvent lead eventName eventSetId
      else .marking (P.delivery cdcEvent lead eventName eventSetId (P.commitSeconds text))

def startPoint : DeliveryCall → DeliveryPoint
  | .process cdcEvent lead =>
      match EventFilter.accepted P.platform cdcEvent with
      | none => .ended (.ok ())
      | some eventName =>
          match (IdentityEnrichmentLayer.extractAttribution lead).campaignId with
          | none => P.timed cdcEvent lead eventName none
          | some advertiserId =>
              if advertiserId = "" ∨ P.eventSetManager = false then
                P.timed cdcEvent lead eventName none
              else .resolving cdcEvent lead eventName advertiserId
  | .runJob id => .taking id

theorem timed_cases (cdcEvent : SalesforceCDCEvent) (lead : SalesforceLead)
    (eventName : TikTokEventName) (eventSetId : Option String) :
    P.timed cdcEvent lead eventName eventSetId = .timing cdcEvent lead eventName eventSetId ∨
      ∃ eventTime, P.timed cdcEvent lead eventName eventSetId =
        .marking (P.delivery cdcEvent lead eventName eventSetId eventTime) := by
  unfold timed
  split
  · exact .inl rfl
  · split
    · exact .inl rfl
    · exact .inr ⟨_, rfl⟩

/-- A message that passes the filter starts at its event set or at its time. -/
theorem startPoint_accepted {cdcEvent : SalesforceCDCEvent} {eventName : TikTokEventName}
    (h : EventFilter.accepted P.platform cdcEvent = some eventName) (lead : SalesforceLead) :
    P.startPoint (.process cdcEvent lead) = P.timed cdcEvent lead eventName none ∨
      ∃ advertiserId, P.startPoint (.process cdcEvent lead) =
        .resolving cdcEvent lead eventName advertiserId := by
  simp only [startPoint, h]
  split
  · exact .inl rfl
  · split
    · exact .inl rfl
    · exact .inr ⟨_, rfl⟩

theorem startPoint_filtered {cdcEvent : SalesforceCDCEvent}
    (h : EventFilter.accepted P.platform cdcEvent = none) (lead : SalesforceLead) :
    P.startPoint (.process cdcEvent lead) = .ended (.ok ()) := by
  simp only [startPoint, h]

end Pipeline

def DeliveryPoint.isUnclaimed : DeliveryPoint → Bool
  | .resolving .. | .timing .. | .marking _ | .taking _ | .ended _ => true
  | _ => false

theorem Pipeline.timed_isUnclaimed (P : Pipeline) (cdcEvent : SalesforceCDCEvent)
    (lead : SalesforceLead) (eventName : TikTokEventName) (eventSetId : Option String) :
    (P.timed cdcEvent lead eventName eventSetId).isUnclaimed = true := by
  obtain timing | ⟨eventTime, marking⟩ := P.timed_cases cdcEvent lead eventName eventSetId
  · rw [timing]; rfl
  · rw [marking]; rfl

theorem Pipeline.startPoint_isUnclaimed (P : Pipeline) (call : DeliveryCall) :
    (P.startPoint call).isUnclaimed = true := by
  cases call with
  | runJob id => rfl
  | process cdcEvent lead =>
      cases passed : EventFilter.accepted P.platform cdcEvent with
      | none => rw [P.startPoint_filtered passed]; rfl
      | some eventName =>
          obtain timed | ⟨advertiserId, resolving⟩ := P.startPoint_accepted passed lead
          · rw [timed]
            exact P.timed_isUnclaimed ..
          · rw [resolving]
            rfl

def DeliveryPoint.view (P : Pipeline) :
    DeliveryPoint → View DeliveryCmd DeliveryCmd.Reply JsError Unit DeliveryPoint
  | .resolving cdcEvent lead eventName advertiserId =>
      .awaits (.resolveEventSet advertiserId) fun
        | .ok eventSetId => P.timed cdcEvent lead eventName (some eventSetId)
        | .error _ => P.timed cdcEvent lead eventName none
  | .timing cdcEvent lead eventName eventSetId =>
      .awaits .now fun
        | .ok now =>
            .marking (P.delivery cdcEvent lead eventName eventSetId (.int (now / (1000 : Int))))
        | .error error => .ended (.error error)
  | .marking d =>
      .awaits (.setNx (DEDUP_KEY_PREFIX ++ d.eventId) P.env.REDIS_DEDUP_TTL_SECONDS) fun
        | .ok .null => .loggingDuplicate d
        | .ok .ok => .loggingPending d
        | .error _ => .loggingPending d
  | .loggingDuplicate d =>
      .awaits (.insertLog d.eventId (d.record .duplicate)) fun
        | .ok _ => .ended (.ok ())
        | .error error => .ended (.error error)
  | .loggingPending d =>
      .awaits (.insertLog d.eventId (d.record .pending)) fun
        | .ok _ => .acquiring d
        | .error error => .ended (.error error)
  | .acquiring d =>
      .awaits (.acquire d.payload) fun
        | .ok _ =>
            match TikTokAPIClient.staticToken P.env with
            | .ok accessToken => .posting d accessToken
            | .error error => .loggingFailed d error
        | .error error => .loggingFailed d error
  | .posting d accessToken =>
      .awaits (.postEvents d.payload accessToken) fun
        | .ok response =>
            if response.code ≠ 0 then .loggingFailed d (TikTokAPIClient.businessError response)
            else .loggingSent d response
        | .error error => .loggingFailed d error
  | .loggingSent d response =>
      .awaits (.updateLog d.eventId .sent (some response) none) fun
        | .ok _ => .ended (.ok ())
        | .error error => .loggingFailed d error
  | .loggingFailed d error =>
      .awaits (.updateLog d.eventId .failed none (some error.message)) fun
        | .ok _ => .enqueueing d
        | .error error => .ended (.error error)
  | .enqueueing d =>
      .awaits (.addJob (RetryQueue.jobId d.payload) (RetryQueue.jobData d.payload)) fun
        | .ok _ => .ended (.ok ())
        | .error error => .ended (.error error)
  | .taking id =>
      .awaits (.takeJob id) fun
        | .ok data => .jobAcquiring id data
        | .error error => .ended (.error error)
  | .jobAcquiring id data =>
      .awaits (.acquire data.payload) fun
        | .ok _ =>
            match TikTokAPIClient.staticToken P.env with
            | .ok accessToken => .jobPosting id data accessToken
            | .error _ => .settling id false
        | .error _ => .settling id false
  | .jobPosting id data accessToken =>
      .awaits (.postEvents data.payload accessToken) fun
        | .ok response => .settling id (response.code = 0)
        | .error _ => .settling id false
  | .settling id succeeded =>
      .awaits (.settleJob id succeeded) fun
        | .ok _ => .ended (.ok ())
        | .error error => .ended (.error error)
  | .ended outcome => .ended outcome

def Pipeline.protocol (P : Pipeline) :
    System (deliveryRuntime P.env) Unit DeliveryCall DeliveryPoint where
  view := DeliveryPoint.view P
  launch call w := some (P.startPoint call, w)

/-! ## The points are the programs -/

theorem Pipeline.fromTime_eq (P : Pipeline) (cdcEvent : SalesforceCDCEvent) (lead : SalesforceLead)
    (eventName : TikTokEventName) (eventSetId : Option String) :
    P.fromTime cdcEvent lead eventName eventSetId =
      (P.timed cdcEvent lead eventName eventSetId).program P := by
  unfold Pipeline.fromTime Pipeline.timed Pipeline.eventTime
  cases cdcEvent.payload.changeEventHeader.commitTimestamp with
  | none => exact congrArg (Prog.await _) (funext fun reply => by cases reply <;> rfl)
  | some text =>
      by_cases empty : text = ""
      · simp only [if_pos empty]
        exact congrArg (Prog.await _) (funext fun reply => by cases reply <;> rfl)
      · simp only [if_neg empty]
        rfl

theorem Pipeline.program_eq (P : Pipeline) (call : DeliveryCall) :
    P.program call = (P.startPoint call).program P := by
  cases call with
  | runJob id => rfl
  | process cdcEvent lead =>
      simp only [Pipeline.program, Pipeline.process, Pipeline.startPoint]
      cases EventFilter.accepted P.platform cdcEvent with
      | none => rfl
      | some eventName =>
          simp only [Pipeline.resolveEventSetId]
          cases (IdentityEnrichmentLayer.extractAttribution lead).campaignId with
          | none => exact P.fromTime_eq cdcEvent lead eventName none
          | some advertiserId =>
              by_cases skipped : advertiserId = "" ∨ P.eventSetManager = false
              · simp only [if_pos skipped]
                exact P.fromTime_eq cdcEvent lead eventName none
              · simp only [if_neg skipped]
                rfl

theorem DeliveryPoint.view_program (P : Pipeline) (x : DeliveryPoint) :
    (x.program P).view = (x.view P).map (DeliveryPoint.program P) := by
  cases x with
  | resolving cdcEvent lead eventName advertiserId =>
      exact View.awaits_ext (fun _ => P.fromTime_eq ..) (fun _ => P.fromTime_eq ..)
  | timing cdcEvent lead eventName eventSetId => exact View.awaits_ext (fun _ => rfl) fun _ => rfl
  | marking d =>
      refine View.awaits_ext (fun result => ?_) fun _ => rfl
      cases result <;> rfl
  | loggingDuplicate d => exact View.awaits_ext (fun _ => rfl) fun _ => rfl
  | loggingPending d => exact View.awaits_ext (fun _ => rfl) fun _ => rfl
  | acquiring d =>
      refine View.awaits_ext (fun _ => ?_) fun _ => rfl
      simp only [TikTokAPIClient.resolveToken]
      cases TikTokAPIClient.staticToken P.env <;> rfl
  | posting d accessToken =>
      refine View.awaits_ext (fun response => ?_) fun _ => rfl
      show tryCatch ((if response.code ≠ 0 then Prog.fail (TikTokAPIClient.businessError response)
          else Prog.done response) >>= fun response =>
            EventLog.updateStatus d.eventId .sent (some response) none) _ = _
      by_cases refused : response.code ≠ 0
      · simp only [if_pos refused]
        rfl
      · simp only [if_neg refused]
        rfl
  | loggingSent d response => exact View.awaits_ext (fun _ => rfl) fun _ => rfl
  | loggingFailed d error => exact View.awaits_ext (fun _ => rfl) fun _ => rfl
  | enqueueing d => exact View.awaits_ext (fun _ => rfl) fun _ => rfl
  | taking id => exact View.awaits_ext (fun _ => rfl) fun _ => rfl
  | jobAcquiring id data =>
      refine View.awaits_ext (fun _ => ?_) fun _ => rfl
      simp only [TikTokAPIClient.resolveToken]
      cases TikTokAPIClient.staticToken P.env <;> rfl
  | jobPosting id data accessToken =>
      refine View.awaits_ext (fun response => ?_) fun _ => rfl
      show tryCatch ((if response.code ≠ 0 then Prog.fail (TikTokAPIClient.businessError response)
          else Prog.done response) >>= fun _ => Prog.done true) (fun _ => Prog.done false) >>=
            (fun succeeded => deliver (.settleJob id succeeded)) = _
      by_cases refused : response.code ≠ 0
      · simp only [if_pos refused, refused, decide_false]
        rfl
      · simp only [not_not.mp refused, decide_true]
        rfl
  | settling id succeeded => exact View.awaits_ext (fun _ => rfl) fun _ => rfl
  | ended outcome => cases outcome <;> rfl

theorem protocol_refines (P : Pipeline) :
    Refines P.protocol P.system (DeliveryPoint.program P) where
  view := DeliveryPoint.view_program P
  launch call _ := by simp [Pipeline.protocol, Pipeline.system, P.program_eq call]

end SalesforceTikTok
