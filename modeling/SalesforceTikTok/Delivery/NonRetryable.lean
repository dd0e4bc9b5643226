import SalesforceTikTok.Delivery.History
import SalesforceTikTok.Delivery.HttpRetry

/-!
# Refused payloads

A response with status 400, 401 or 403 stops the retries of axios-retry, but it is thrown
like any other failure: `process` puts the payload into the retry queue, and a failed run
of a job is repeated. A payload is not sent again only where the queue does not take it,
or has no attempt left for it.
-/

namespace SalesforceTikTok

open Concurrency

/-! ## Requests and refusals -/

def HttpRecord.refused (r : HttpRecord) : Option TikTokEventsPayload :=
  match r.cmd, r.choice with
  | .receive payload, .answer (.response status _) =>
      if status ∈ NON_RETRYABLE_CODES then some payload else none
  | _, _ => none

def HttpRecord.sent (r : HttpRecord) : Option TikTokEventsPayload :=
  match r.cmd with
  | .send payload _ => some payload
  | _ => none

def refusals (trace : List HttpRecord) : List TikTokEventsPayload :=
  trace.filterMap HttpRecord.refused

def RefusalsFinal (trace : List HttpRecord) : Prop :=
  trace.Pairwise fun r r' => ∀ payload ∈ r.refused, r'.sent ≠ some payload

instance (trace : List HttpRecord) : Decidable (RefusalsFinal trace) :=
  inferInstanceAs (Decidable (List.Pairwise _ _))

/-! ## What keeps a refused payload from being sent -/

def Unqueued (payload : TikTokEventsPayload) (w : DeliveryWorld) : Prop :=
  ∀ id job, w.jobs.lookup id = some job → job.data.payload = payload →
    job.state ≠ .waiting ∧ job.state ≠ .delayed

instance (payload : TikTokEventsPayload) (w : DeliveryWorld) : Decidable (Unqueued payload w) :=
  decidable_of_iff _ (Storage.forall_entries (P := fun _ (job : Job) => job.data.payload = payload →
    job.state ≠ .waiting ∧ job.state ≠ .delayed))

/-- The answer to a call at this point does not bring the payload back: a message with it is
turned away as a duplicate, the queue does not take it in, a job with it succeeds or has no
attempt left. -/
def Barred (P : Pipeline) (payload : TikTokEventsPayload) (w : DeliveryWorld)
    (choice : DeliveryChoice) : DeliveryPoint → Prop
  | .marking d => d.payload = payload →
      choice.isOk = true ∧ 0 < P.env.REDIS_DEDUP_TTL_SECONDS ∧
        w.holds (DEDUP_KEY_PREFIX ++ d.eventId) = true
  | .enqueueing d => d.payload = payload →
      choice.isFail = true ∨ (w.jobs.lookup (RetryQueue.jobId payload)).isSome = true
  | .settling id succeeded => ∀ job ∈ w.jobs.lookup id, job.data.payload = payload →
      succeeded = true ∨ P.env.TIKTOK_MAX_RETRIES ≤ job.attemptsMade + 1
  | _ => True

instance (P : Pipeline) (payload : TikTokEventsPayload) (w : DeliveryWorld)
    (choice : DeliveryChoice) : (x : DeliveryPoint) → Decidable (Barred P payload w choice x)
  | .marking _ | .enqueueing _ | .settling _ _ => by unfold Barred; infer_instance
  | .resolving _ _ _ _ | .timing _ _ _ _ | .loggingDuplicate _ | .loggingPending _ | .acquiring _
  | .posting _ _ | .loggingSent _ _ | .loggingFailed _ _ | .taking _ | .jobAcquiring _ _
  | .jobPosting _ _ _ | .ended _ => isTrue trivial

/-- Nothing else is under way for a payload when it is refused, and nothing brings it back
later. -/
def Unretried (H : HttpClient) (b : HttpConfig HttpPoint) : HttpAction → Prop
  | .resume pid (.delivery choice) => ∀ p ∈ b.procs[pid]?, ∀ payload ∈ refusals b.trace,
      Barred H.pipeline payload b.world choice p.state.point
  | .resume pid (.answer (.response status _)) => status ∈ NON_RETRYABLE_CODES →
      ∀ p ∈ b.procs[pid]?, ∀ payload ∈ p.state.point.sending,
        Unqueued payload b.world ∧
          ∀ other ∈ b.procs.eraseIdx pid, other.state.point.sending ≠ some payload
  | _ => True

instance (H : HttpClient) (b : HttpConfig HttpPoint) : (act : HttpAction) →
    Decidable (Unretried H b act)
  | .resume _ (.delivery _) | .resume _ (.answer (.response _ _)) => by
      unfold Unretried
      infer_instance
  | .resume _ .sent | .resume _ (.answer (.noResponse _)) | .start _ | .env _ => isTrue trivial

section

variable {P : Pipeline} {payload : TikTokEventsPayload} {x y : DeliveryPoint}
  {w v : DeliveryWorld} {r : DeliveryRecord}

theorem Unqueued.of_jobs (h : Unqueued payload w) (same : v.jobs = w.jobs) :
    Unqueued payload v := by
  unfold Unqueued
  rw [same]
  exact h

/-- A job that is stored under an id does not wait, unless it carries another payload. -/
theorem Unqueued.insert (h : Unqueued payload w) {id : String} {job : Job}
    (idle : job.data.payload = payload → job.state ≠ .waiting ∧ job.state ≠ .delayed)
    (jobs : v.jobs = w.jobs.insert id job) : Unqueued payload v := by
  intro id' job' found carries
  rw [jobs] at found
  obtain ⟨_, rfl⟩ | earlier := Storage.lookup_insert_cases found
  · exact idle carries
  · exact h id' job' earlier carries

theorem Unqueued.addJob (h : Unqueued payload w) {id : String} {data : RetryJobData}
    (retained : data.payload = payload → (w.jobs.lookup id).isSome = true) :
    Unqueued payload (w.addJob id data) := by
  unfold DeliveryWorld.addJob
  split
  next => exact h
  next missing =>
    refine h.insert (fun carries => ?_) rfl
    have held := retained carries
    rw [missing] at held
    cases held

theorem Job.settle_idle {attempts : Int} {job : Job} {succeeded : Bool}
    (last : succeeded = true ∨ attempts ≤ job.attemptsMade + 1) :
    (job.settle attempts succeeded).state ≠ .waiting ∧
      (job.settle attempts succeeded).state ≠ .delayed := by
  unfold Job.settle
  split
  next => simp
  next unsuccessful =>
    have spent : ¬ (job.attemptsMade + 1 : Int) < attempts := by
      have := last.resolve_left unsuccessful
      omega
    rw [if_neg spent]
    simp

/-- An answer that does not bring the payload back puts no job with it into the queue. -/
theorem Unqueued.answered (h : Unqueued payload w) (t : DeliveryTransition P x w r y v)
    (barred : Barred P payload w r.choice x) : Unqueued payload v := by
  cases t with
  | markFailed lost effect =>
      rcases effect with rfl | rfl
      · exact h
      · rw [DeliveryWorld.setNx_frame]
        exact h.of_jobs rfl
  | duplicateLogFailed lost effect | pendingLogFailed lost effect | sentLogFailed lost effect
  | failedLogFailed lost effect =>
      rcases effect with rfl | rfl
      · exact h
      · exact h.of_jobs rfl
  | enqueued =>
      refine h.addJob fun same => ?_
      subst same
      exact (barred rfl).resolve_left (by simp [DeliveryChoice.isFail])
  | enqueueFailed lost effect =>
      rcases effect with ⟨rfl, rfl⟩ | ⟨rfl, rfl⟩
      · exact h
      · refine h.addJob fun same => ?_
        subst same
        exact (barred rfl).resolve_left (by simp [DeliveryChoice.isFail])
  | taken picked =>
      obtain ⟨job, _, _, rfl⟩ := DeliveryWorld.takeJob_spec picked
      exact h.insert (fun _ => by simp) rfl
  | settled =>
      rename_i id succeeded pid
      cases found : w.jobs.lookup id with
      | none => exact h.of_jobs (by simp [DeliveryWorld.settleJob, found])
      | some job =>
          have booked : (w.settleJob P.env.TIKTOK_MAX_RETRIES id succeeded).jobs =
              w.jobs.insert id (job.settle P.env.TIKTOK_MAX_RETRIES succeeded) := by
            simp [DeliveryWorld.settleJob, found]
          refine h.insert (fun carries => ?_) booked
          rw [Job.settle_data] at carries
          exact Job.settle_idle (barred job found carries)
  | _ => exact h.of_jobs rfl

private theorem sending_unclaimed (unclaimed : x.isUnclaimed = true) : x.sending = none := by
  cases x with
  | loggingPending d | acquiring d | posting d accessToken | jobAcquiring id data
  | jobPosting id data accessToken => cases unclaimed
  | _ => rfl

/-- A call has its payload to send up to its POST, and nothing after it. -/
theorem DeliveryTransition.posted {accessToken : String} {pid : Nat} {choice : DeliveryChoice}
    {reply : Except JsError TikTokAPIResponse}
    (t : DeliveryTransition P x w ⟨pid, .postEvents payload accessToken, choice, reply⟩ y v) :
    x.sending = some payload ∧ y.sending = none := by
  cases t <;> exact ⟨rfl, rfl⟩

theorem Unqueued.sending (h : Unqueued payload w) (t : DeliveryTransition P x w r y v)
    (barred : Barred P payload w r.choice x) (sends : y.sending = some payload) :
    x.sending = some payload := by
  cases t with
  | novel positive free =>
      obtain ⟨_, _, held⟩ := barred (Option.some.inj sends)
      rw [free] at held
      cases held
  | markFailed lost effect =>
      obtain ⟨regular, positive, _⟩ := barred (Option.some.inj sends)
      obtain failed | expiry := lost
      · cases ‹DeliveryChoice› with
        | ok => exact absurd rfl failed
        | _ => cases regular
      · omega
  | taken picked =>
      obtain ⟨job, found, rfl, _⟩ := DeliveryWorld.takeJob_spec picked
      obtain ⟨ready, delayed⟩ := h _ job found (Option.some.inj sends)
      exact absurd (DeliveryWorld.takeJob_waiting picked found) (by simp [ready, delayed])
  | resolved eventSetId =>
      rw [sending_unclaimed (P.timed_isUnclaimed ..)] at sends
      cases sends
  | _ => first | exact sends | cases sends

end

/-! ## Through a run -/

/-- Every refused payload is neither queued nor about to be sent. -/
structure RefusalsKept (c : HttpConfig HttpPoint) : Prop where
  final : RefusalsFinal c.trace
  unqueued : ∀ payload ∈ refusals c.trace, Unqueued payload c.world
  unsent : ∀ payload ∈ refusals c.trace, ∀ p ∈ c.procs, p.state.point.sending ≠ some payload

private theorem mem_refusals_append {trace : List HttpRecord} {r : HttpRecord}
    {payload : TikTokEventsPayload} : payload ∈ refusals (trace ++ [r]) ↔
      payload ∈ refusals trace ∨ r.refused = some payload := by
  simp [refusals, List.filterMap_append, List.filterMap_cons]
  cases r.refused <;> simp [eq_comm]

private theorem refusals_quiet {trace : List HttpRecord} {r : HttpRecord}
    (quiet : r.refused = none) : refusals (trace ++ [r]) = refusals trace := by
  simp [refusals, List.filterMap_append, quiet]

private theorem refused_cases {r : HttpRecord} {payload : TikTokEventsPayload}
    (h : r.refused = some payload) : ∃ status body, r.cmd = .receive payload ∧
      r.choice = .answer (.response status body) ∧ status ∈ NON_RETRYABLE_CODES := by
  obtain ⟨pid, cmd, choice, reply⟩ := r
  cases cmd with
  | receive asked =>
      cases choice with
      | answer answer =>
          cases answer with
          | response status body =>
              simp only [HttpRecord.refused] at h
              split at h <;> cases h
              exact ⟨status, body, rfl, rfl, ‹_›⟩
          | noResponse error => cases h
      | _ => cases h
  | _ => cases h

private theorem refused_of_retried {H : HttpClient} {r : HttpRecord} {answer : HttpAnswer}
    (retried : H.retryCondition answer = true) (choice : r.choice = .answer answer) :
    r.refused = none := by
  cases refused : r.refused with
  | none => rfl
  | some payload =>
      obtain ⟨status, body, _, said, final⟩ := refused_cases refused
      obtain rfl : answer = .response status body := by simpa [choice] using said
      simp only [HttpClient.retryCondition, if_pos final] at retried
      cases retried

section

variable {H : HttpClient} {c : HttpConfig HttpPoint}

/-- An answer that refuses nothing keeps what was refused from being sent, if the call does. -/
theorem RefusalsKept.step (h : RefusalsKept c) {pid : Nat} {entry : DeliveryCall} {y : HttpPoint}
    {v : DeliveryWorld} {r : HttpRecord} (sent : ∀ payload ∈ refusals c.trace, r.sent ≠ some payload)
    (unqueued : ∀ payload ∈ refusals (c.trace ++ [r]), Unqueued payload v)
    (unsent : ∀ payload ∈ refusals (c.trace ++ [r]), y.point.sending ≠ some payload)
    (others : ∀ payload, r.refused = some payload → ∀ other ∈ c.procs.eraseIdx pid,
      other.state.point.sending ≠ some payload) :
    RefusalsKept ⟨v, c.procs.set pid ⟨entry, y⟩, c.trace ++ [r]⟩ where
  final := by
    refine List.pairwise_append.mpr ⟨h.final, List.pairwise_singleton _ _, ?_⟩
    intro earlier he last hl payload refused
    obtain rfl := List.mem_singleton.mp hl
    exact sent payload (List.mem_filterMap.mpr ⟨earlier, he, refused⟩)
  unqueued := unqueued
  unsent := by
    intro payload refused p hp
    obtain ⟨i, hi⟩ := List.getElem?_of_mem hp
    obtain ⟨rfl, rfl⟩ | ⟨other, hi⟩ := System.get_answered hi
    · exact unsent payload refused
    · obtain earlier | now := mem_refusals_append.mp refused
      · exact h.unsent payload earlier p (List.mem_of_getElem? hi)
      · exact others payload now p (List.mem_eraseIdx_iff_getElem?.mpr ⟨i, other, hi⟩)

theorem RefusalsKept.answered (h : RefusalsKept c) {pid : Nat} {p : Proc DeliveryCall HttpPoint}
    (hp : c.procs[pid]? = some p) {r : HttpRecord} {y : HttpPoint} {v : DeliveryWorld}
    (t : HttpTransition H p.state c.world r y v)
    (unretried : Unretried H c (.resume pid r.choice)) :
    RefusalsKept ⟨v, c.procs.set pid ⟨p.entry, y⟩, c.trace ++ [r]⟩ := by
  have member := List.mem_of_getElem? hp
  obtain ⟨entry, state⟩ := p
  cases t with
  | delivery t =>
      refine h.step (by simp [HttpRecord.sent]) ?_ ?_ (by simp [HttpRecord.refused])
      · rw [refusals_quiet rfl]
        intro payload refused
        exact (h.unqueued payload refused).answered t (unretried _ hp payload refused)
      · rw [refusals_quiet rfl]
        intro payload refused sends
        have begun := (h.unqueued payload refused).sending t (unretried _ hp payload refused) sends
        exact h.unsent payload refused _ member begun
  | sent sending =>
      refine h.step ?_ ?_ ?_ (by simp [HttpRecord.refused])
      · intro payload refused sends
        obtain rfl := Option.some.inj sends
        exact h.unsent _ refused _ member sending
      · rw [refusals_quiet rfl]
        exact h.unqueued
      · rw [refusals_quiet rfl]
        exact fun payload refused => h.unsent payload refused _ member
  | @again x left _ pid' asked answer sending retried =>
      have quiet : HttpRecord.refused ⟨pid', .receive asked, .answer answer, .ok answer⟩ = none :=
        refused_of_retried retried rfl
      refine h.step (by simp [HttpRecord.sent]) ?_ ?_ ?_
      · rw [refusals_quiet quiet]
        exact h.unqueued
      · rw [refusals_quiet quiet]
        exact fun payload refused => h.unsent payload refused _ member
      · intro payload refused
        rw [quiet] at refused
        cases refused
  | @answered x left _ pid' asked accessToken answer choice y t =>
      obtain ⟨sending, silent⟩ := t.posted
      have guard (payload : TikTokEventsPayload)
          (refused : HttpRecord.refused ⟨pid', .receive asked, .answer answer, .ok answer⟩ =
            some payload) : Unqueued payload c.world ∧
          ∀ other ∈ c.procs.eraseIdx pid, other.state.point.sending ≠ some payload := by
        obtain ⟨status, body, cmd, said, final⟩ := refused_cases refused
        cases cmd
        cases said
        exact unretried final _ hp _ sending
      refine h.step (by simp [HttpRecord.sent]) ?_ ?_ fun payload refused => (guard payload refused).2
      · intro payload refused
        obtain earlier | now := mem_refusals_append.mp refused
        · exact h.unqueued payload earlier
        · exact (guard payload now).1
      · intro payload _ sends
        rw [HttpClient.enter, silent] at sends
        cases sends

end

/-- In every run of the pipeline and the worker in which nothing else is under way for a payload
when it is refused, and neither the queue nor the deduplication brings it back later, no
request leaves for a payload after it was refused. -/
theorem refusals_final {H : HttpClient} {w : DeliveryWorld} {actions : List HttpAction}
    {c : HttpConfig (HttpProg Unit)} (h : H.system.run (.initial w) actions = some c)
    (unretried : H.protocol.Along (fun b act _ => Unretried H b act) (.initial w) actions) :
    RefusalsFinal c.trace := by
  obtain ⟨d, hd, rfl⟩ := H.refines.lift (c := .initial w) h
  suffices kept : RefusalsKept d from kept.final
  refine HttpClient.protocol_invariant _ RefusalsKept ?_ ?_ ?_ hd unretried ?_
  · intro c call h
    refine ⟨h.final, h.unqueued, fun payload refused p hp => ?_⟩
    rcases List.mem_append.mp hp with hp | hp
    · exact h.unsent payload refused p hp
    · obtain rfl := List.mem_singleton.mp hp
      simp [HttpClient.enter, sending_unclaimed (H.pipeline.startPoint_isUnclaimed call)]
  · exact fun c pid p r y v h hp _ t unretried => h.answered hp t unretried
  · intro c event v h moved _
    refine ⟨h.final, fun payload refused => ?_, h.unsent⟩
    obtain ⟨elapsed, rfl⟩ | ⟨id, rfl⟩ := deliveryEnv_cases moved
    · exact (h.unqueued payload refused).of_jobs rfl
    · exact fun id' job found =>
        h.unqueued payload refused id' job (Storage.lookup_of_erase found)
  · refine ⟨List.Pairwise.nil, fun payload refused => ?_, fun payload refused => ?_⟩
    · cases refused
    · cases refused

/-! ## A refused lead -/

namespace Sample

def client : HttpClient where
  pipeline := pipeline
  isNetworkError _ := false

def refusedDelivery : List HttpAction :=
  [.start call, .resume 0 (.delivery .ok), .resume 0 (.delivery .ok), .resume 0 (.delivery .ok),
    .resume 0 .sent, .resume 0 (.answer (.response 401 response)), .resume 0 (.delivery .ok)]

def unqueuedRefusal : List HttpAction :=
  refusedDelivery ++
    [.resume 0 (.delivery (.fail lostConnection)), .start call, .resume 1 (.delivery .ok),
      .resume 1 (.delivery .ok)]

def retriedRefusal : List HttpAction :=
  refusedDelivery ++
    [.resume 0 (.delivery .ok), .start (.runJob delivery.eventId), .resume 1 (.delivery .ok),
      .resume 1 (.delivery .ok), .resume 1 .sent]

end Sample

/-- Redis is down when the refused payload is to be queued, and its second message is turned
away as a duplicate. -/
theorem refusals_final_unqueued :
    ∃ c, Sample.client.system.run (.initial (.fresh 0)) Sample.unqueuedRefusal = some c ∧
      refusals c.trace = [Sample.delivery.payload] ∧ RefusalsFinal c.trace := by
  let c := Sample.client.system.result (.initial (.fresh 0)) Sample.unqueuedRefusal (by decide)
  have h : Sample.client.system.run (.initial (.fresh 0)) Sample.unqueuedRefusal = some c :=
    System.run_result _
  exact ⟨c, h, by decide, refusals_final h (by decide)⟩

/-- Refused with 401, the payload is queued and sent again by the worker. -/
theorem refused_payload_resent :
    ∃ c, Sample.client.system.run (.initial (.fresh 0)) Sample.retriedRefusal = some c ∧
      ¬ RefusalsFinal c.trace :=
  ⟨_, System.run_result (by decide), by decide⟩

end SalesforceTikTok
