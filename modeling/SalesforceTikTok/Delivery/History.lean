import SalesforceTikTok.Delivery.Transitions

/-!
# The history of a delivery call

The answered commands of a call, reduced to the steps that matter for delivery,
and the step sequences a `process` call can leave behind: at each point exactly
one, up to the answers it received.
-/

namespace SalesforceTikTok

open Concurrency

inductive DeliveryStep where
  /-- `SET NX` on a deduplication key; no reply when Redis rejected it. -/
  | marked (key : String) (reply : Option SetReply)
  | inserted (eventId : String) (status : EventLogStatus) (resolved : Bool)
  /-- A call of `sendEvents`. -/
  | sending (payload : TikTokEventsPayload)
  /-- TikTok answered the POST with code 0: that `sendEvents` call resolves. -/
  | accepted (payload : TikTokEventsPayload)
  | refused (payload : TikTokEventsPayload)
  | updated (eventId : String) (status : EventLogStatus) (resolved : Bool)
  /-- A call of `queue.add`; `reached` unless it was rejected without effect. -/
  | queued (data : RetryJobData) (reached : Bool) (resolved : Bool)
  deriving DecidableEq

def replied {α : Type} : Except JsError α → Bool
  | .ok _ => true
  | .error _ => false

def DeliveryChoice.isFail : DeliveryChoice → Bool
  | .fail _ => true
  | _ => false

/-- The step an answered command stands for; the others do not concern delivery. -/
def deliveryStep : DeliveryRecord → Option DeliveryStep
  | ⟨_, .setNx key _, _, .ok reply⟩ => some (.marked key (some reply))
  | ⟨_, .setNx key _, _, .error _⟩ => some (.marked key none)
  | ⟨_, .insertLog eventId record, _, reply⟩ =>
      some (.inserted eventId record.status (replied reply))
  | ⟨_, .acquire payload, _, _⟩ => some (.sending payload)
  | ⟨_, .postEvents payload _, _, .ok response⟩ =>
      some (if response.code = 0 then .accepted payload else .refused payload)
  | ⟨_, .postEvents payload _, _, .error _⟩ => some (.refused payload)
  | ⟨_, .updateLog eventId status _ _, _, reply⟩ =>
      some (.updated eventId status (replied reply))
  | ⟨_, .addJob _ data, choice, reply⟩ =>
      some (.queued data (!choice.isFail) (replied reply))
  | _ => none

def deliverySteps (history : List DeliveryRecord) : List DeliveryStep :=
  history.filterMap deliveryStep

@[simp] theorem deliverySteps_nil : deliverySteps [] = [] := rfl

theorem deliverySteps_append (first second : List DeliveryRecord) :
    deliverySteps (first ++ second) = deliverySteps first ++ deliverySteps second := by
  simp [deliverySteps]

theorem deliverySteps_single (r : DeliveryRecord) :
    deliverySteps [r] = (deliveryStep r).toList := by
  cases hr : deliveryStep r <;> simp [deliverySteps, hr]

/-- What preceded the write of `failed`: no token, a refusal, or an accepted send
whose own write was rejected. -/
inductive FailedAttempt (d : Delivery) : List DeliveryStep → Prop where
  | noToken : FailedAttempt d []
  | refused : FailedAttempt d [.refused d.payload]
  | unlogged : FailedAttempt d [.accepted d.payload, .updated d.eventId .sent false]

/-- The steps of a call that was not a duplicate, up to its call of `sendEvents`. -/
def Delivery.opening (d : Delivery) (reply : Option SetReply) : List DeliveryStep :=
  [.marked (DEDUP_KEY_PREFIX ++ d.eventId) reply, .inserted d.eventId .pending true,
    .sending d.payload]

/-- The steps of a `process` call suspended, or ended, at a point. -/
inductive ProcessHistory : DeliveryPoint → List DeliveryStep → Prop where
  | resolving {cdcEvent lead eventName advertiserId} :
      ProcessHistory (.resolving cdcEvent lead eventName advertiserId) []
  | timing {cdcEvent lead eventName eventSetId} :
      ProcessHistory (.timing cdcEvent lead eventName eventSetId) []
  | marking {d : Delivery} : ProcessHistory (.marking d) []
  | loggingDuplicate {d : Delivery} :
      ProcessHistory (.loggingDuplicate d)
        [.marked (DEDUP_KEY_PREFIX ++ d.eventId) (some .null)]
  | loggingPending {d : Delivery} {reply : Option SetReply} (first : reply ≠ some .null) :
      ProcessHistory (.loggingPending d) [.marked (DEDUP_KEY_PREFIX ++ d.eventId) reply]
  | acquiring {d : Delivery} {reply : Option SetReply} (first : reply ≠ some .null) :
      ProcessHistory (.acquiring d)
        [.marked (DEDUP_KEY_PREFIX ++ d.eventId) reply, .inserted d.eventId .pending true]
  | posting {d : Delivery} {reply : Option SetReply} {accessToken} (first : reply ≠ some .null) :
      ProcessHistory (.posting d accessToken) (d.opening reply)
  | loggingSent {d : Delivery} {reply : Option SetReply} {response} (first : reply ≠ some .null) :
      ProcessHistory (.loggingSent d response) (d.opening reply ++ [.accepted d.payload])
  | loggingFailed {d : Delivery} {reply : Option SetReply} {error attempt}
      (first : reply ≠ some .null) (failed : FailedAttempt d attempt) :
      ProcessHistory (.loggingFailed d error) (d.opening reply ++ attempt)
  | enqueueing {d : Delivery} {reply : Option SetReply} {attempt} (first : reply ≠ some .null)
      (failed : FailedAttempt d attempt) :
      ProcessHistory (.enqueueing d)
        (d.opening reply ++ attempt ++ [.updated d.eventId .failed true])
  | filtered : ProcessHistory (.ended (.ok ())) []
  | duplicate {d : Delivery} {outcome resolved} (ok : resolved = true → outcome = .ok ()) :
      ProcessHistory (.ended outcome)
        [.marked (DEDUP_KEY_PREFIX ++ d.eventId) (some .null),
          .inserted d.eventId .duplicate resolved]
  | dropped {d : Delivery} {reply : Option SetReply} {error} (first : reply ≠ some .null) :
      ProcessHistory (.ended (.error error))
        [.marked (DEDUP_KEY_PREFIX ++ d.eventId) reply, .inserted d.eventId .pending false]
  | sent {d : Delivery} {reply : Option SetReply} (first : reply ≠ some .null) :
      ProcessHistory (.ended (.ok ()))
        (d.opening reply ++ [.accepted d.payload, .updated d.eventId .sent true])
  | unlogged {d : Delivery} {reply : Option SetReply} {attempt error} (first : reply ≠ some .null)
      (failed : FailedAttempt d attempt) :
      ProcessHistory (.ended (.error error))
        (d.opening reply ++ attempt ++ [.updated d.eventId .failed false])
  | queued {d : Delivery} {reply : Option SetReply} {attempt reached resolved outcome}
      (first : reply ≠ some .null) (failed : FailedAttempt d attempt)
      (ok : resolved = true → outcome = .ok ()) :
      ProcessHistory (.ended outcome)
        (d.opening reply ++ attempt ++
          [.updated d.eventId .failed true,
            .queued (RetryQueue.jobData d.payload) reached resolved])

def DeliveryStep.isSend : DeliveryStep → Bool
  | .sending _ | .accepted _ | .refused _ => true
  | _ => false

def DeliveryPoint.isRetry : DeliveryPoint → Bool
  | .taking _ | .jobAcquiring _ _ | .jobPosting _ _ _ | .settling _ _ | .ended _ => true
  | _ => false

theorem DeliveryTransition.retry {P : Pipeline} {x y : DeliveryPoint} {w v : DeliveryWorld}
    {r : DeliveryRecord} (t : DeliveryTransition P x w r y v) (retry : x.isRetry = true) :
    y.isRetry = true ∧ ∀ s ∈ (deliveryStep r).toList, s.isSend = true := by
  cases t with
  | taken | jobAcquired | jobNoToken | jobPostFailed | settled =>
      exact ⟨rfl, by simp [deliveryStep, DeliveryStep.isSend]⟩
  | jobPosted =>
      refine ⟨rfl, ?_⟩
      simp only [deliveryStep, Option.toList_some, List.mem_singleton, forall_eq]
      split <;> rfl
  | _ => cases retry

theorem ProcessHistory.timed (P : Pipeline) (cdcEvent : SalesforceCDCEvent)
    (lead : SalesforceLead) (eventName : TikTokEventName) (eventSetId : Option String) :
    ProcessHistory (P.timed cdcEvent lead eventName eventSetId) [] := by
  obtain timing | ⟨eventTime, marking⟩ := P.timed_cases cdcEvent lead eventName eventSetId
  · exact timing ▸ .timing
  · exact marking ▸ .marking

theorem ProcessHistory.start (P : Pipeline) (cdcEvent : SalesforceCDCEvent)
    (lead : SalesforceLead) : ProcessHistory (P.startPoint (.process cdcEvent lead)) [] := by
  cases filter : EventFilter.accepted P.platform cdcEvent with
  | none => exact P.startPoint_filtered filter lead ▸ .filtered
  | some eventName =>
      obtain timed | ⟨advertiserId, resolving⟩ := P.startPoint_accepted filter lead
      · exact timed ▸ .timed P cdcEvent lead eventName none
      · exact resolving ▸ .resolving

/-- Every answered command extends the history as its point prescribes. -/
theorem ProcessHistory.answered {P : Pipeline} {x y : DeliveryPoint} {steps : List DeliveryStep}
    {w v : DeliveryWorld} {r : DeliveryRecord} (history : ProcessHistory x steps)
    (t : DeliveryTransition P x w r y v) :
    ProcessHistory y (steps ++ (deliveryStep r).toList) := by
  cases history with
  | resolving => cases t with | resolved eventSetId => exact .timed ..
  | timing => cases t with | timed => exact .marking
  | marking =>
      cases t with
      | novel => exact .loggingPending (by simp)
      | duplicate => exact .loggingDuplicate
      | markFailed => exact .loggingPending (by simp)
  | loggingDuplicate =>
      cases t with
      | duplicateLogged => exact .duplicate fun _ => rfl
      | duplicateLogFailed => exact .duplicate (by simp [replied])
  | loggingPending first =>
      cases t with
      | pendingLogged => exact .acquiring first
      | pendingLogFailed => exact .dropped first
  | acquiring first =>
      cases t with
      | acquired => exact .posting first
      | noToken => exact .loggingFailed first .noToken
  | posting first =>
      cases t with
      | accepted code =>
          simp only [deliveryStep, code, if_true, Option.toList_some]
          exact .loggingSent first
      | refused code =>
          simp only [deliveryStep, code, if_false, Option.toList_some]
          exact .loggingFailed first .refused
      | postFailed => exact .loggingFailed first .refused
  | loggingSent first =>
      rw [List.append_assoc]
      cases t with
      | sentLogged => exact .sent first
      | sentLogFailed => exact .loggingFailed first .unlogged
  | loggingFailed first failed =>
      cases t with
      | failedLogged => exact .enqueueing first failed
      | failedLogFailed => exact .unlogged first failed
  | enqueueing first failed =>
      rw [List.append_assoc _ _ (Option.toList _)]
      cases t with
      | enqueued => exact .queued first failed fun _ => rfl
      | enqueueFailed => exact .queued first failed (by simp [replied])
  | filtered | duplicate ok | dropped first | sent first | unlogged first failed
  | queued first failed ok => cases t

/-- The events a step concerns; a marking names a key instead. -/
def DeliveryStep.eventIds : DeliveryStep → List String
  | .marked _ _ => []
  | .inserted eventId _ _ | .updated eventId _ _ => [eventId]
  | .sending payload | .accepted payload | .refused payload => payload.eventIds
  | .queued data _ _ => data.payload.eventIds

theorem FailedAttempt.single {d : Delivery} {attempt : List DeliveryStep}
    (failed : FailedAttempt d attempt) : ∀ s ∈ attempt, s.eventIds = [d.eventId] := by
  cases failed <;> simp [DeliveryStep.eventIds, d.single]

/-- A call marks the key of one event and then concerns no other. -/
theorem ProcessHistory.single_event {x : DeliveryPoint} {steps : List DeliveryStep}
    (history : ProcessHistory x steps) :
    steps = [] ∨ ∃ (d : Delivery) (reply : Option SetReply) (rest : List DeliveryStep),
      steps = .marked (DEDUP_KEY_PREFIX ++ d.eventId) reply :: rest ∧
        ∀ s ∈ rest, s.eventIds = [d.eventId] := by
  cases history with
  | resolving | timing | marking | filtered => exact .inl rfl
  | @loggingDuplicate d | @loggingPending d | @acquiring d | @posting d | @duplicate d
  | @dropped d =>
      exact .inr ⟨d, _, _, rfl, by simp [DeliveryStep.eventIds, d.single]⟩
  | @loggingSent d | @sent d =>
      exact .inr ⟨d, _, _, rfl, by simp [DeliveryStep.eventIds, d.single]⟩
  | @loggingFailed d _ _ _ _ failed | @enqueueing d _ _ _ failed | @unlogged d _ _ _ _ failed
  | @queued d _ _ _ _ _ _ failed =>
      refine .inr ⟨d, _, _, rfl, ?_⟩
      simpa [DeliveryStep.eventIds, d.single, or_imp, forall_and, RetryQueue.jobData] using
        failed.single

namespace Pipeline

variable {P : Pipeline}

/-- The steps of call `pid` so far. -/
def callSteps {X : Type} (c : DeliveryConfig X) (pid : Nat) : List DeliveryStep :=
  deliverySteps (c.own pid)

theorem mem_callSteps {X : Type} {c : DeliveryConfig X} {pid : Nat} {s : DeliveryStep} :
    s ∈ callSteps c pid ↔ ∃ r ∈ c.trace, r.pid = pid ∧ deliveryStep r = some s := by
  simp [callSteps, deliverySteps, List.mem_filterMap, System.mem_own, and_assoc]

theorem mem_steps {X : Type} {c : DeliveryConfig X} {s : DeliveryStep} :
    s ∈ deliverySteps c.trace ↔ ∃ pid, s ∈ callSteps c pid := by
  simp only [mem_callSteps, deliverySteps, List.mem_filterMap]
  exact ⟨fun ⟨r, hr, hs⟩ => ⟨r.pid, r, hr, rfl, hs⟩, fun ⟨_, r, hr, _, hs⟩ => ⟨r, hr, hs⟩⟩

/-- In every run every `process` call has a history of its point. -/
theorem process_history {w : DeliveryWorld} {c : DeliveryConfig DeliveryPoint}
    {actions : List DeliveryAction} (h : P.protocol.run (.initial w) actions = some c)
    {pid : Nat} {p : Proc DeliveryCall DeliveryPoint} (hp : c.procs[pid]? = some p)
    {cdcEvent : SalesforceCDCEvent} {lead : SalesforceLead}
    (entry : p.entry = .process cdcEvent lead) :
    ProcessHistory p.state (callSteps c pid) := by
  let Own : DeliveryCall → DeliveryPoint → List DeliveryRecord → Prop := fun call x history =>
    ∀ cdcEvent lead, call = .process cdcEvent lead → ProcessHistory x (deliverySteps history)
  refine protocol_own (fun _ => True) Own ?_ ?_ h (fun _ _ => trivial) hp cdcEvent lead entry
  · rintro call cdcEvent lead rfl
    exact .start P cdcEvent lead
  · intro call x history w r y v own t _ cdcEvent lead hcall
    rw [deliverySteps_append, deliverySteps_single]
    exact (own cdcEvent lead hcall).answered t

/-- A retry run stays at its own points and does nothing but send. -/
theorem worker_retry {w : DeliveryWorld} {c : DeliveryConfig DeliveryPoint}
    {actions : List DeliveryAction} (h : P.protocol.run (.initial w) actions = some c)
    {pid : Nat} {p : Proc DeliveryCall DeliveryPoint} (hp : c.procs[pid]? = some p)
    {jobId : String} (entry : p.entry = .runJob jobId) :
    p.state.isRetry = true ∧ ∀ s ∈ callSteps c pid, s.isSend = true := by
  let Own : DeliveryCall → DeliveryPoint → List DeliveryRecord → Prop := fun call x history =>
    ∀ jobId, call = .runJob jobId → x.isRetry = true ∧
      ∀ s ∈ deliverySteps history, s.isSend = true
  refine protocol_own (fun _ => True) Own ?_ ?_ h (fun _ _ => trivial) hp jobId entry
  · rintro call jobId rfl
    exact ⟨rfl, by simp⟩
  · intro call x history w r y v own t _ jobId hcall
    obtain ⟨retry, sends⟩ := own jobId hcall
    obtain ⟨retry', send⟩ := t.retry retry
    refine ⟨retry', fun s hs => ?_⟩
    rw [deliverySteps_append, deliverySteps_single, List.mem_append] at hs
    exact hs.elim (sends s) (send s)

theorem worker_history {w : DeliveryWorld} {c : DeliveryConfig DeliveryPoint}
    {actions : List DeliveryAction} (h : P.protocol.run (.initial w) actions = some c)
    {pid : Nat} {p : Proc DeliveryCall DeliveryPoint} (hp : c.procs[pid]? = some p)
    {jobId : String} (entry : p.entry = .runJob jobId) :
    ∀ s ∈ callSteps c pid, s.isSend = true :=
  (worker_retry h hp entry).2

theorem exists_proc {w : DeliveryWorld} {c : DeliveryConfig DeliveryPoint}
    {actions : List DeliveryAction} (h : P.protocol.run (.initial w) actions = some c)
    {pid : Nat} {s : DeliveryStep} (hs : s ∈ callSteps c pid) : ∃ p, c.procs[pid]? = some p := by
  obtain ⟨r, hr, rfl, _⟩ := mem_callSteps.mp hs
  exact ⟨_, List.getElem?_eq_getElem (System.run_pid_bound h r hr)⟩

/-- A step other than those of a send is a step of a `process` call. -/
theorem process_of_step {w : DeliveryWorld} {c : DeliveryConfig DeliveryPoint}
    {actions : List DeliveryAction} (h : P.protocol.run (.initial w) actions = some c)
    {pid : Nat} {s : DeliveryStep} (hs : s ∈ callSteps c pid) (own : s.isSend = false) :
    ∃ p cdcEvent lead, c.procs[pid]? = some p ∧ p.entry = .process cdcEvent lead := by
  obtain ⟨p, hp⟩ := exists_proc h hs
  cases entry : p.entry with
  | process cdcEvent lead => exact ⟨p, cdcEvent, lead, hp, entry⟩
  | runJob jobId =>
      have sends := worker_history h hp entry s hs
      rw [own] at sends
      cases sends

/-! ## Histories of the programs -/

theorem exists_protocol {w : DeliveryWorld} {d : DeliveryConfig (DeliveryProg Unit)}
    {actions : List DeliveryAction} (h : P.system.run (.initial w) actions = some d) :
    ∃ c, P.protocol.run (.initial w) actions = some c ∧ d = c.map (DeliveryPoint.program P) :=
  (protocol_refines P).lift (c := .initial w) h

theorem view_ended {x : DeliveryPoint} {outcome : Except JsError Unit}
    (h : x.view P = .ended outcome) : x = .ended outcome := by
  cases x <;> cases h
  rfl

theorem ended_point {c : DeliveryConfig DeliveryPoint} {pid : Nat}
    {p : Proc DeliveryCall DeliveryPoint} {outcome : Except JsError Unit}
    (hp : c.procs[pid]? = some p) (ended : P.protocol.Ended c pid outcome) :
    p.state = .ended outcome := by
  have hv := ended.view_eq hp
  exact view_ended hv

theorem ended_of_idle {c : DeliveryConfig DeliveryPoint} {pid : Nat}
    {p : Proc DeliveryCall DeliveryPoint} (hp : c.procs[pid]? = some p)
    (idle : ¬ P.protocol.InFlight c pid) : ∃ outcome, p.state = .ended outcome := by
  cases hv : p.state.view P with
  | ended outcome => exact ⟨outcome, view_ended hv⟩
  | awaits cmd resume => exact absurd ⟨p, cmd, resume, hp, hv⟩ idle

end Pipeline

/-! ## Working stores -/

def DeliveryStep.rejected : DeliveryStep → Bool
  | .marked _ reply => reply = none
  | .inserted _ _ resolved | .updated _ _ resolved | .queued _ _ resolved => !resolved
  | _ => false

def StoresWorking (steps : List DeliveryStep) : Prop :=
  ∀ s ∈ steps, s.rejected = false

theorem StoresWorking.answered {trace : List DeliveryRecord}
    (working : StoresWorking (deliverySteps trace)) :
    ∀ r ∈ trace, ∀ s, deliveryStep r = some s → s.rejected = false :=
  fun r hr s hs => working s (List.mem_filterMap.mpr ⟨r, hr, hs⟩)

theorem StoresWorking.call {X : Type} {c : DeliveryConfig X}
    (working : StoresWorking (deliverySteps c.trace)) (pid : Nat) :
    StoresWorking (Pipeline.callSteps c pid) := fun s hs => working s (Pipeline.mem_steps.mpr ⟨pid, hs⟩)

/-- What an ended `process` call has done when the stores worked. -/
inductive CompletedCall : List DeliveryStep → Prop where
  | filtered : CompletedCall []
  | duplicate (d : Delivery) :
      CompletedCall [.marked (DEDUP_KEY_PREFIX ++ d.eventId) (some .null),
        .inserted d.eventId .duplicate true]
  | sent (d : Delivery) :
      CompletedCall
        (d.opening (some .ok) ++ [.accepted d.payload, .updated d.eventId .sent true])
  | retried (d : Delivery) {attempt : List DeliveryStep} {reached : Bool}
      (refused : attempt = [] ∨ attempt = [.refused d.payload]) :
      CompletedCall
        (d.opening (some .ok) ++ attempt ++
          [.updated d.eventId .failed true,
            .queued (RetryQueue.jobData d.payload) reached true])

theorem FailedAttempt.of_working {d : Delivery} {attempt : List DeliveryStep}
    (failed : FailedAttempt d attempt) (working : StoresWorking attempt) :
    attempt = [] ∨ attempt = [.refused d.payload] := by
  cases failed with
  | noToken => exact .inl rfl
  | refused => exact .inr rfl
  | unlogged => simp [StoresWorking, DeliveryStep.rejected] at working

theorem StoresWorking.append {first second : List DeliveryStep} :
    StoresWorking (first ++ second) ↔ StoresWorking first ∧ StoresWorking second := by
  simp [StoresWorking, or_imp, forall_and]

/-- A call past its deduplication step set the key, when Redis answered. -/
theorem StoresWorking.first_reply {d : Delivery} {reply : Option SetReply}
    (working : StoresWorking (d.opening reply)) (first : reply ≠ some .null) :
    reply = some .ok := by
  have answered : reply ≠ none := by
    simpa [DeliveryStep.rejected] using
      working (.marked (DEDUP_KEY_PREFIX ++ d.eventId) reply) (by simp [Delivery.opening])
  match reply, first, answered with
  | some .ok, _, _ => rfl
  | some .null, first, _ => exact absurd rfl first
  | none, _, answered => exact absurd rfl answered

theorem ProcessHistory.completed {outcome : Except JsError Unit} {steps : List DeliveryStep}
    (history : ProcessHistory (.ended outcome) steps) (working : StoresWorking steps) :
    outcome = .ok () ∧ CompletedCall steps := by
  cases history with
  | filtered => exact ⟨rfl, .filtered⟩
  | @duplicate d _ resolved ok =>
      obtain rfl : resolved = true := by simpa [StoresWorking, DeliveryStep.rejected] using working
      exact ⟨ok rfl, .duplicate d⟩
  | dropped first => simp [StoresWorking, DeliveryStep.rejected] at working
  | @sent d reply first =>
      obtain rfl := (StoresWorking.append.mp working).1.first_reply first
      exact ⟨rfl, .sent d⟩
  | unlogged first failed =>
      have written := (StoresWorking.append.mp working).2
      simp [StoresWorking, DeliveryStep.rejected] at written
  | @queued d reply attempt reached resolved _ first failed ok =>
      obtain ⟨before, written⟩ := StoresWorking.append.mp working
      obtain ⟨opened, attempted⟩ := StoresWorking.append.mp before
      obtain rfl := opened.first_reply first
      obtain rfl : resolved = true := by
        simpa [StoresWorking, DeliveryStep.rejected] using written
      exact ⟨ok rfl, .retried d (failed.of_working attempted)⟩

/-! ## A sample message

The fixture of the pipeline's tests, with the digest and the time the platform
computes for it.
-/

namespace Sample

def platform : Platform where
  toLowerCase s := s.map Char.toLower
  sha256Hex text :=
    if text = "lead-001:SubmitForm:1710496800" then
      "1595488d2c3c63e3584565af0f242d9f46e5dbcb2b532114630b735f1ab2df5a"
    else ""
  dateParse text := if text = "2024-03-15T10:00:00Z" then some 1710496800000 else none

def pipeline : Pipeline where
  platform := platform
  env := { TIKTOK_ACCESS_TOKEN := some "test-token" }
  eventSetManager := false

def cdcEvent : SalesforceCDCEvent where
  payload :=
    { changeEventHeader :=
        { changeType := .create, changedFields := some [],
          commitTimestamp := some "2024-03-15T10:00:00Z", entityName := "Lead",
          recordIds := some ["lead-001"] } }
  replayId := 100

def lead : SalesforceLead where
  id := "lead-001"
  status := "Qualified"
  createdDate := "2024-01-01T00:00:00Z"

def call : DeliveryCall := .process cdcEvent lead

def delivery : Delivery :=
  pipeline.delivery cdcEvent lead (.standard .submitForm) none (.int 1710496800)

def response : TikTokAPIResponse where
  code := 0
  message := "OK"
  requestId := "req-abc-123"

def lostConnection : JsError where
  message := "Connection terminated unexpectedly"

abbrev after (actions : List DeliveryAction)
    (possible : (pipeline.system.run (.initial (.fresh 0)) actions).isSome = true) :
    DeliveryConfig (DeliveryProg Unit) :=
  pipeline.system.result (.initial (.fresh 0)) actions possible

end Sample
end SalesforceTikTok
