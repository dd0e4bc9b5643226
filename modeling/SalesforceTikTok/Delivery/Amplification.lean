import SalesforceTikTok.Delivery.NoLostEvent
import SalesforceTikTok.Delivery.NonRetryable

/-!
# Retry amplification

Every POST is sent up to `TIKTOK_MAX_RETRIES` times more, and a payload that failed
comes back as a job with `TIKTOK_MAX_RETRIES` attempts, each of them a POST. While the
deduplication key of an event lives, one call sends and queues it, so the requests for
the event are bounded by the product of the two. The bound is kept as a budget: what was
sent, what the calls may still bring about and what the stores still allow never exceed it.
-/

namespace SalesforceTikTok

open Concurrency

/-! ## Requests for an event -/

def HttpRecord.requests (eventId : String) (r : HttpRecord) : Bool :=
  r.sent.any fun payload => eventId ∈ payload.eventIds

def requestsFor (eventId : String) (trace : List HttpRecord) : Nat :=
  trace.countP (HttpRecord.requests eventId)

/-- The step of the delivery path this answer stands for. -/
def HttpRecord.step : HttpRecord → Option DeliveryStep
  | ⟨pid, .delivery cmd, .delivery choice, reply⟩ => deliveryStep ⟨pid, cmd, choice, reply⟩
  | _ => none

def httpSteps (trace : List HttpRecord) : List DeliveryStep := trace.filterMap HttpRecord.step

/-- The queue retains no job with this event. -/
def NewToQueue (eventId : String) (w : DeliveryWorld) : Prop :=
  ∀ id job, w.jobs.lookup id = some job → eventId ∉ job.data.payload.eventIds

/-- The deduplication key of this event, once set, does not expire. -/
def KeyLives {X : Type} (eventId : String) (b : HttpConfig X) (_ : HttpAction)
    (d : HttpConfig X) : Prop :=
  b.world.stored eventId = true → d.world.stored eventId = true

instance {X : Type} (eventId : String) (b : HttpConfig X) (act : HttpAction) (d : HttpConfig X) :
    Decidable (KeyLives eventId b act d) :=
  inferInstanceAs (Decidable (_ → _))

/-! ## Runs of the job -/

def Job.runsLeft (attempts : Nat) (job : Job) : Nat :=
  match job.state with
  | .waiting | .delayed => attempts - job.attemptsMade
  | .active => attempts - job.attemptsMade - 1
  | .completed | .failed => 0

def DeliveryWorld.runsLeft (attempts : Nat) (eventId : String) (w : DeliveryWorld) : Nat :=
  match w.jobs.lookup eventId with
  | some job => if eventId ∈ job.data.payload.eventIds then job.runsLeft attempts else 0
  | none => 0

def DeliveryWorld.running (eventId : String) (w : DeliveryWorld) : Bool :=
  match w.jobs.lookup eventId with
  | some job => job.state = .active
  | none => false

def DeliveryPoint.runs (eventId : String) : DeliveryPoint → Bool
  | .jobAcquiring id _ | .jobPosting id _ _ | .settling id _ => id = eventId
  | _ => false

/-- A job with the event has its id, and an attempt left where it waits. -/
structure JobInOrder (attempts : Nat) (eventId : String) (w : DeliveryWorld) : Prop where
  named : ∀ id job, w.jobs.lookup id = some job → eventId ∈ job.data.payload.eventIds →
    id = eventId
  startable : ∀ job, w.jobs.lookup eventId = some job → eventId ∈ job.data.payload.eventIds →
    job.state = .waiting ∨ job.state = .delayed → job.attemptsMade < attempts

section

variable {attempts : Nat} {eventId id : String} {w v : DeliveryWorld} {data : RetryJobData}

private theorem runsLeft_congr (same : v.jobs.lookup eventId = w.jobs.lookup eventId) :
    v.runsLeft attempts eventId = w.runsLeft attempts eventId := by
  simp only [DeliveryWorld.runsLeft, same]

private theorem running_congr (same : v.jobs.lookup eventId = w.jobs.lookup eventId) :
    v.running eventId = w.running eventId := by
  simp only [DeliveryWorld.running, same]

private theorem runsLeft_addJob (w : DeliveryWorld) (attempts : Nat) (id : String)
    (data : RetryJobData) :
    (w.addJob id data).runsLeft attempts eventId ≤ w.runsLeft attempts eventId +
      if id = eventId ∧ eventId ∈ data.payload.eventIds then attempts else 0 := by
  unfold DeliveryWorld.addJob
  split
  next => exact Nat.le_add_right _ _
  next absent =>
    by_cases here : eventId = id
    · subst here
      by_cases carries : eventId ∈ data.payload.eventIds
      · simp [DeliveryWorld.runsLeft, absent, carries, Job.runsLeft]
      · simp [DeliveryWorld.runsLeft, absent, carries]
    · rw [runsLeft_congr (w := w) (AList.lookup_insert_ne here)]
      exact Nat.le_add_right _ _

private theorem runsLeft_takeJob (order : JobInOrder attempts eventId w)
    (picked : w.takeJob id = some (data, v)) :
    v.runsLeft attempts eventId + (if eventId ∈ data.payload.eventIds then 1 else 0) ≤
      w.runsLeft attempts eventId := by
  obtain ⟨job, found, rfl, rfl⟩ := DeliveryWorld.takeJob_spec picked
  have waits := DeliveryWorld.takeJob_waiting picked found
  by_cases carries : eventId ∈ job.data.payload.eventIds
  · obtain rfl := order.named id job found carries
    have startable := order.startable job found carries waits
    have before : job.runsLeft attempts = attempts - job.attemptsMade := by
      rcases waits with waits | waits <;> simp [Job.runsLeft, waits]
    simp only [DeliveryWorld.runsLeft, AList.lookup_insert, found, if_pos carries, before]
    simp only [Job.runsLeft]
    omega
  · rw [if_neg carries]
    by_cases here : eventId = id
    · subst here
      simp [DeliveryWorld.runsLeft, found, carries]
    · exact Nat.le_of_eq (runsLeft_congr (AList.lookup_insert_ne here))

private theorem runsLeft_settleJob {limit : Int} (limited : limit = attempts) (succeeded : Bool)
    (busy : id = eventId → w.running eventId = true) :
    (w.settleJob limit id succeeded).runsLeft attempts eventId ≤ w.runsLeft attempts eventId := by
  subst limited
  by_cases here : eventId = id
  · subst here
    have active := busy rfl
    cases found : w.jobs.lookup eventId with
    | none => simp [DeliveryWorld.running, found] at active
    | some job =>
        have active : job.state = .active := by simpa [DeliveryWorld.running, found] using active
        by_cases carries : eventId ∈ job.data.payload.eventIds
        · simp only [DeliveryWorld.runsLeft, DeliveryWorld.settleJob, found, AList.lookup_insert,
            Job.settle_data, if_pos carries]
          unfold Job.settle
          split
          next => simp [Job.runsLeft]
          next =>
            split
            next => simp only [Job.runsLeft, active]; omega
            next => simp [Job.runsLeft]
        · simp [DeliveryWorld.runsLeft, DeliveryWorld.settleJob, found, carries]
  · refine Nat.le_of_eq (runsLeft_congr ?_)
    unfold DeliveryWorld.settleJob
    split
    next => exact AList.lookup_insert_ne here
    next => rfl

end

/-! ## What an answer does to the job -/

section

variable {H : HttpClient} {eventId : String} {x y : DeliveryPoint} {w v : DeliveryWorld}
  {r : DeliveryRecord}

theorem HttpClient.retries_eq (retried : 1 ≤ H.pipeline.env.TIKTOK_MAX_RETRIES) :
    H.pipeline.env.TIKTOK_MAX_RETRIES = H.retries := by
  unfold HttpClient.retries
  omega

theorem JobInOrder.of_jobs {attempts : Nat} (order : JobInOrder attempts eventId w)
    (same : v.jobs = w.jobs) : JobInOrder attempts eventId v := by
  refine ⟨fun id job found => ?_, fun job found => ?_⟩
  · rw [same] at found
    exact order.named id job found
  · rw [same] at found
    exact order.startable job found

/-- A job that is stored under an id keeps the order, if it does. -/
theorem JobInOrder.insert {attempts : Nat} (order : JobInOrder attempts eventId w) {id : String}
    {job : Job} (jobs : v.jobs = w.jobs.insert id job)
    (named : eventId ∈ job.data.payload.eventIds → id = eventId)
    (startable : eventId ∈ job.data.payload.eventIds → job.state = .waiting ∨ job.state = .delayed →
      job.attemptsMade < attempts) : JobInOrder attempts eventId v := by
  constructor
  · intro id' job' found carries
    rw [jobs] at found
    obtain ⟨rfl, rfl⟩ | earlier := Storage.lookup_insert_cases found
    · exact named carries
    · exact order.named id' job' earlier carries
  · intro job' found carries
    rw [jobs] at found
    obtain ⟨_, rfl⟩ | earlier := Storage.lookup_insert_cases found
    · exact startable carries
    · exact order.startable job' earlier carries

theorem JobInOrder.erase {attempts : Nat} (order : JobInOrder attempts eventId w) (id : String) :
    JobInOrder attempts eventId { w with jobs := w.jobs.erase id } where
  named id' job found := order.named id' job (Storage.lookup_of_erase found)
  startable job found := order.startable job (Storage.lookup_of_erase found)

theorem JobInOrder.addJob {attempts : Nat} (order : JobInOrder attempts eventId w)
    (positive : 0 < attempts) (d : Delivery) : JobInOrder attempts eventId
      (w.addJob (RetryQueue.jobId d.payload) (RetryQueue.jobData d.payload)) := by
  unfold DeliveryWorld.addJob
  split
  next => exact order
  next =>
    refine order.insert rfl (fun carries => ?_) fun _ _ => positive
    rw [RetryQueue.jobData, d.single, List.mem_singleton] at carries
    rw [d.jobId_eq, carries]

theorem DeliveryTransition.order (t : DeliveryTransition H.pipeline x w r y v)
    (retried : 1 ≤ H.pipeline.env.TIKTOK_MAX_RETRIES) (order : JobInOrder H.retries eventId w) :
    JobInOrder H.retries eventId v := by
  have limit := HttpClient.retries_eq retried
  have positive : 0 < H.retries := by omega
  cases t with
  | markFailed lost effect =>
      rcases effect with rfl | rfl
      · exact order
      · rw [DeliveryWorld.setNx_frame]
        exact order.of_jobs rfl
  | duplicateLogFailed lost effect | pendingLogFailed lost effect | sentLogFailed lost effect
  | failedLogFailed lost effect =>
      rcases effect with rfl | rfl
      · exact order
      · exact order.of_jobs rfl
  | enqueued => exact order.addJob positive _
  | enqueueFailed lost effect =>
      rcases effect with ⟨_, rfl⟩ | ⟨_, rfl⟩
      · exact order
      · exact order.addJob positive _
  | taken picked =>
      obtain ⟨job, found, _, rfl⟩ := DeliveryWorld.takeJob_spec picked
      exact order.insert rfl (order.named _ job found) fun _ waits => by simp at waits
  | settled =>
      rename_i id succeeded pid
      cases found : w.jobs.lookup id with
      | none => exact order.of_jobs (by simp [DeliveryWorld.settleJob, found])
      | some job =>
          have booked : (w.settleJob H.pipeline.env.TIKTOK_MAX_RETRIES id succeeded).jobs =
              w.jobs.insert id (job.settle H.pipeline.env.TIKTOK_MAX_RETRIES succeeded) := by
            simp [DeliveryWorld.settleJob, found]
          refine order.insert booked ?_ ?_
          · rw [Job.settle_data]
            exact order.named id job found
          · intro _ waits
            unfold Job.settle at waits ⊢
            split
            next done => simp [done] at waits
            next undone =>
              rw [if_neg undone] at waits
              split
              next again => show job.attemptsMade + 1 < H.retries; omega
              next last => simp [last] at waits
  | _ => exact order.of_jobs rfl

private theorem runs_unclaimed (unclaimed : x.isUnclaimed = true) : x.runs eventId = false := by
  cases x with
  | jobAcquiring id data | jobPosting id data accessToken | settling id succeeded => cases unclaimed
  | _ => rfl

private theorem running_addJob {id : String} {data : RetryJobData}
    (running : w.running eventId = true) : (w.addJob id data).running eventId = true := by
  unfold DeliveryWorld.addJob
  split
  next => exact running
  next absent =>
    by_cases here : eventId = id
    · subst here
      simp [DeliveryWorld.running, absent] at running
    · rw [running_congr (w := w) (AList.lookup_insert_ne here)]
      exact running

/-- A call goes on running the job of the event or leaving it alone, or begins its run, or ends
it. -/
theorem DeliveryTransition.runs_cases (t : DeliveryTransition H.pipeline x w r y v)
    (eventId : String) :
    (y.runs eventId = x.runs eventId ∧
      (w.running eventId = true → v.running eventId = true)) ∨
    (w.running eventId = false ∧ v.running eventId = true) ∨
    (x.runs eventId = true ∧ y.runs eventId = false) := by
  cases t with
  | resolved eventSetId =>
      exact .inl ⟨runs_unclaimed (H.pipeline.timed_isUnclaimed ..), fun running => running⟩
  | markFailed lost effect =>
      refine .inl ⟨rfl, fun running => ?_⟩
      rcases effect with rfl | rfl
      · exact running
      · rw [DeliveryWorld.setNx_frame]
        exact running
  | duplicateLogFailed lost effect | pendingLogFailed lost effect | sentLogFailed lost effect
  | failedLogFailed lost effect =>
      refine .inl ⟨rfl, fun running => ?_⟩
      rcases effect with rfl | rfl
      · exact running
      · exact running
  | enqueued => exact .inl ⟨rfl, running_addJob⟩
  | enqueueFailed lost effect =>
      refine .inl ⟨rfl, fun running => ?_⟩
      rcases effect with ⟨_, rfl⟩ | ⟨_, rfl⟩
      · exact running
      · exact running_addJob running
  | @taken id _ _ data _ picked =>
      obtain ⟨job, found, _, rfl⟩ := DeliveryWorld.takeJob_spec picked
      have waits := DeliveryWorld.takeJob_waiting picked found
      by_cases here : eventId = id
      · subst here
        refine .inr (.inl ⟨?_, ?_⟩)
        · rcases waits with waits | waits <;> simp [DeliveryWorld.running, found, waits]
        · simp [DeliveryWorld.running]
      · refine .inl ⟨by simp [DeliveryPoint.runs, Ne.symm here], fun running => ?_⟩
        rw [running_congr (w := w) (AList.lookup_insert_ne here)]
        exact running
  | @settled id succeeded =>
      by_cases here : eventId = id
      · exact .inr (.inr ⟨by simp [DeliveryPoint.runs, here], rfl⟩)
      · refine .inl ⟨by simp [DeliveryPoint.runs, Ne.symm here], fun running => ?_⟩
        rw [running_congr (w := w) ?_]
        · exact running
        · unfold DeliveryWorld.settleJob
          split
          next => exact AList.lookup_insert_ne here
          next => rfl
  | _ => exact .inl ⟨rfl, fun running => running⟩

end

/-! ## The budget -/

def HttpPoint.sendsLeft (x : HttpPoint) : Nat := if x.sent then x.left else x.left + 1

/-- The requests for this event that a call may still bring about: those of its own POST, and
those of the runs of the job that it may queue. -/
def HttpPoint.due (retries : Nat) (eventId : String) (x : HttpPoint) : Nat :=
  match x.point with
  | .loggingPending d | .acquiring d =>
      if d.eventId = eventId then retries + 1 + retries * (retries + 1) else 0
  | .posting d _ => if d.eventId = eventId then x.sendsLeft + retries * (retries + 1) else 0
  | .loggingSent d _ | .loggingFailed d _ | .enqueueing d =>
      if d.eventId = eventId then retries * (retries + 1) else 0
  | .jobAcquiring _ data => if eventId ∈ data.payload.eventIds then retries + 1 else 0
  | .jobPosting _ data _ => if eventId ∈ data.payload.eventIds then x.sendsLeft else 0
  | _ => 0

/-- The requests for this event that the stores still allow: all of them while it was not
claimed, and those of the runs left to its job. -/
def DeliveryWorld.due (retries : Nat) (eventId : String) (w : DeliveryWorld) : Nat :=
  (if w.stored eventId = true then 0 else retries + 1 + retries * (retries + 1)) +
    w.runsLeft retries eventId * (retries + 1)

section

variable {H : HttpClient} {eventId : String} {x y : DeliveryPoint} {w v : DeliveryWorld}
  {r : DeliveryRecord}

theorem Delivery.carries_iff (d : Delivery) :
    eventId ∈ d.payload.eventIds ↔ d.eventId = eventId := by
  rw [d.single, List.mem_singleton]
  exact eq_comm

private theorem due_unclaimed (unclaimed : x.isUnclaimed = true) :
    (H.enter x).due H.retries eventId = 0 := by
  cases x with
  | resolving | timing | marking | taking | ended => rfl
  | _ => cases unclaimed

private theorem stored_insert {other : String} {expiry : Int} (apart : other ≠ eventId) :
    ({ w with dedup := w.dedup.insert (DEDUP_KEY_PREFIX ++ other) expiry } :
      DeliveryWorld).stored eventId = w.stored eventId := by
  refine DeliveryWorld.holds_congr rfl (AList.lookup_insert_ne fun same => ?_)
  exact apart (dedupKey_inj.mp same).symm

private theorem stored_setNx {other : String} {ttlSeconds : Int} (apart : other ≠ eventId) :
    (w.setNx (DEDUP_KEY_PREFIX ++ other) ttlSeconds).2.stored eventId = w.stored eventId := by
  unfold DeliveryWorld.setNx
  split
  · rfl
  · split
    · rfl
    · exact stored_insert apart

private theorem stored_novel (eventId : String) {expiry : Int} (later : w.clock < expiry) :
    ({ w with dedup := w.dedup.insert (DEDUP_KEY_PREFIX ++ eventId) expiry } :
      DeliveryWorld).stored eventId = true :=
  DeliveryWorld.holds_of_lookup (AList.lookup_insert _) later

private theorem due_congr {retries : Nat} (stored : v.stored eventId = w.stored eventId)
    (jobs : v.jobs = w.jobs) : v.due retries eventId = w.due retries eventId := by
  have runs : v.runsLeft retries eventId = w.runsLeft retries eventId :=
    runsLeft_congr (congrArg (AList.lookup eventId) jobs)
  rw [DeliveryWorld.due, DeliveryWorld.due, stored, runs]

/-- What the stores allow for the runs of the job goes with the number of these. -/
theorem due_le_of_runs {retries runs : Nat}
    (fewer : v.runsLeft retries eventId + runs ≤ w.runsLeft retries eventId)
    (stored : v.stored eventId = w.stored eventId) :
    v.due retries eventId + runs * (retries + 1) ≤ w.due retries eventId := by
  have spent := Nat.mul_le_mul_right (retries + 1) fewer
  rw [Nat.add_mul] at spent
  rw [DeliveryWorld.due, DeliveryWorld.due, stored]
  omega

private theorem due_addJob (w : DeliveryWorld) (retries : Nat) (d : Delivery) :
    (w.addJob (RetryQueue.jobId d.payload) (RetryQueue.jobData d.payload)).due retries eventId ≤
      (if d.eventId = eventId then retries * (retries + 1) else 0) + w.due retries eventId := by
  have runs : _ ≤ w.runsLeft retries eventId + _ :=
    runsLeft_addJob w retries (RetryQueue.jobId d.payload) (RetryQueue.jobData d.payload)
  have same : (w.addJob (RetryQueue.jobId d.payload) (RetryQueue.jobData d.payload)).stored
      eventId = w.stored eventId := DeliveryWorld.holds_congr (by simp) (by simp)
  have asked : RetryQueue.jobId d.payload = eventId ∧
      eventId ∈ (RetryQueue.jobData d.payload).payload.eventIds ↔ d.eventId = eventId := by
    rw [d.jobId_eq, RetryQueue.jobData, d.carries_iff, and_self]
  have spent := Nat.mul_le_mul_right (retries + 1) runs
  rw [Nat.add_mul] at spent
  simp only [DeliveryWorld.due, same]
  by_cases here : d.eventId = eventId
  · rw [if_pos (asked.mpr here)] at spent
    rw [if_pos here]
    omega
  · rw [if_neg (fun both => here (asked.mp both))] at spent
    rw [if_neg here]
    omega

/-- No answer adds to what the call and the stores have due. -/
theorem DeliveryTransition.due_le (t : DeliveryTransition H.pipeline x w r y v) (left : Nat)
    (sent : Bool) (retried : 1 ≤ H.pipeline.env.TIKTOK_MAX_RETRIES)
    (order : JobInOrder H.retries eventId w)
    (busy : x.runs eventId = true → w.running eventId = true)
    (marked : deliveryStep r ≠ some (.marked (DEDUP_KEY_PREFIX ++ eventId) none)) :
    (H.enter y).due H.retries eventId + v.due H.retries eventId ≤
      HttpPoint.due H.retries eventId ⟨x, left, sent⟩ + w.due H.retries eventId := by
  cases t with
  | resolved eventSetId =>
      rw [due_unclaimed (H.pipeline.timed_isUnclaimed ..)]
      exact Nat.add_le_add_right (Nat.zero_le _) _
  | @novel d _ _ _ positive free =>
      by_cases here : d.eventId = eventId
      · subst here
        have claimed := stored_novel d.eventId
          (show w.clock < w.clock + H.pipeline.env.REDIS_DEDUP_TTL_SECONDS * 1000 by omega)
        have free : w.stored d.eventId = false := free
        simp only [HttpClient.enter, HttpPoint.due, DeliveryWorld.due, claimed, free]
        exact Nat.le_of_eq (by simp [DeliveryWorld.runsLeft])
      · refine Nat.add_le_add (Nat.le_of_eq (if_neg here)) (Nat.le_of_eq (due_congr ?_ rfl))
        exact stored_insert here
  | @markFailed d _ _ _ _ v lost effect =>
      have apart : d.eventId ≠ eventId := by
        rintro rfl
        exact marked rfl
      refine Nat.add_le_add (Nat.le_of_eq (if_neg apart)) (Nat.le_of_eq ?_)
      rcases effect with rfl | rfl
      · rfl
      · exact due_congr (stored_setNx apart) (by rw [DeliveryWorld.setNx_frame])
  | enqueued =>
      show 0 + _ ≤ _
      rw [Nat.zero_add]
      exact due_addJob ..
  | enqueueFailed lost effect =>
      show 0 + _ ≤ _
      rw [Nat.zero_add]
      rcases effect with ⟨_, rfl⟩ | ⟨_, rfl⟩
      · exact Nat.le_add_left _ _
      · exact due_addJob ..
  | @taken id _ _ data _ picked =>
      have fewer := runsLeft_takeJob order picked
      obtain ⟨job, found, _, rfl⟩ := DeliveryWorld.takeJob_spec picked
      have spent := due_le_of_runs fewer rfl
      show (if eventId ∈ data.payload.eventIds then H.retries + 1 else 0) + _ ≤ 0 + _
      split at spent
      next carries =>
        rw [if_pos carries]
        omega
      next foreign =>
        rw [if_neg foreign]
        omega
  | @settled id succeeded =>
      have limit := HttpClient.retries_eq retried
      have fewer : _ + 0 ≤ _ := runsLeft_settleJob limit succeeded fun here =>
        busy (decide_eq_true here)
      have spent := due_le_of_runs fewer (v := w.settleJob _ id succeeded) rfl
      show 0 + _ ≤ 0 + _
      omega
  | duplicateLogFailed lost effect | pendingLogFailed lost effect | sentLogFailed lost effect
  | failedLogFailed lost effect =>
      refine Nat.add_le_add ?_ (Nat.le_of_eq ?_)
      · simp [HttpClient.enter, HttpPoint.due]
      · rcases effect with rfl | rfl
        · rfl
        · exact due_congr rfl rfl
  | pendingLogged | acquired token | noToken token | accepted code | refused code | postFailed
  | jobAcquired token =>
      refine Nat.add_le_add ?_ (Nat.le_of_eq (due_congr rfl rfl))
      simp only [HttpClient.enter, HttpPoint.due, HttpPoint.sendsLeft, Bool.false_eq_true, if_false]
      split <;> omega
  | failedLogged => exact Nat.add_le_add (Nat.le_refl _) (Nat.le_of_eq (due_congr rfl rfl))
  | _ => exact Nat.add_le_add (Nat.zero_le _) (Nat.le_of_eq (due_congr rfl rfl))

end

/-! ## Through a run -/

section

variable {H : HttpClient} {eventId : String} {x y : HttpPoint} {w v : DeliveryWorld}
  {r : HttpRecord}

theorem HttpTransition.spends (t : HttpTransition H x w r y v)
    (shown : ∃ resume, H.view x = .awaits r.cmd resume)
    (retried : 1 ≤ H.pipeline.env.TIKTOK_MAX_RETRIES) (order : JobInOrder H.retries eventId w)
    (busy : x.point.runs eventId = true → w.running eventId = true)
    (marked : r.step ≠ some (.marked (DEDUP_KEY_PREFIX ++ eventId) none)) :
    (r.requests eventId).toNat + y.due H.retries eventId + v.due H.retries eventId ≤
      x.due H.retries eventId + w.due H.retries eventId := by
  cases t with
  | delivery t =>
      show 0 + _ + _ ≤ _
      rw [Nat.zero_add]
      exact t.due_le _ _ retried order busy marked
  | @sent point left _ pid payload accessToken sending =>
      obtain ⟨resume, shown⟩ := shown
      obtain ⟨resume', shown⟩ := HttpPoint.view_send shown
      refine Nat.add_le_add_right ?_ _
      cases point with
      | posting d token =>
          cases shown
          simp only [HttpRecord.requests, HttpRecord.sent, Option.any_some, d.carries_iff,
            HttpPoint.due, HttpPoint.sendsLeft]
          by_cases here : d.eventId = eventId
          · simp only [here, decide_true, Bool.toNat_true, if_true, Bool.false_eq_true, if_false]
            omega
          · simp [here]
      | jobPosting id data token =>
          cases shown
          simp only [HttpRecord.requests, HttpRecord.sent, Option.any_some, HttpPoint.due,
            HttpPoint.sendsLeft]
          by_cases here : eventId ∈ data.payload.eventIds
          · simp only [here, decide_true, Bool.toNat_true, if_true, Bool.false_eq_true, if_false]
            omega
          · simp [here]
      | _ => cases shown
  | @again point left _ pid payload answer sending again =>
      show 0 + _ + _ ≤ _
      rw [Nat.zero_add]
      exact Nat.le_refl _
  | @answered point left _ pid payload accessToken answer choice y t =>
      show 0 + _ + _ ≤ _
      rw [Nat.zero_add]
      refine t.due_le _ _ retried order busy ?_
      generalize answer.outcome = outcome
      cases outcome with
      | ok response =>
          simp only [deliveryStep]
          split <;> simp
      | error error => simp [deliveryStep]

theorem HttpTransition.order (t : HttpTransition H x w r y v)
    (retried : 1 ≤ H.pipeline.env.TIKTOK_MAX_RETRIES) (order : JobInOrder H.retries eventId w) :
    JobInOrder H.retries eventId v := by
  cases t with
  | delivery t => exact t.order retried order
  | answered t => exact order
  | sent | again => exact order

theorem HttpTransition.runs_cases (t : HttpTransition H x w r y v) (eventId : String) :
    (y.point.runs eventId = x.point.runs eventId ∧
      (w.running eventId = true → v.running eventId = true)) ∨
    (w.running eventId = false ∧ v.running eventId = true) ∨
    (x.point.runs eventId = true ∧ y.point.runs eventId = false) := by
  cases t with
  | delivery t => exact t.runs_cases eventId
  | answered t => exact t.runs_cases eventId
  | sent | again => exact .inl ⟨rfl, fun running => running⟩

end

/-- What was sent for the event, what the calls may still bring about and what the stores still
allow stay within the bound; the job of the event is run by one call at most. -/
structure Budgeted (H : HttpClient) (eventId : String) (c : HttpConfig HttpPoint) : Prop where
  spent : requestsFor eventId c.trace +
    System.total (fun p => p.state.due H.retries eventId) c.procs + c.world.due H.retries eventId ≤
      H.retries + 1 + H.retries * (H.retries + 1)
  order : JobInOrder H.retries eventId c.world
  alone : (c.procs.countP fun p => p.state.point.runs eventId) ≤
    (c.world.running eventId).toNat

section

variable {H : HttpClient} {eventId : String} {c : HttpConfig HttpPoint}

theorem Budgeted.started (h : Budgeted H eventId c) (call : DeliveryCall) : Budgeted H eventId
    { c with procs := c.procs ++ [⟨call, H.enter (H.pipeline.startPoint call)⟩] } where
  spent := by
    rw [System.total_append]
    simpa [System.total, due_unclaimed (H.pipeline.startPoint_isUnclaimed call)] using h.spent
  order := h.order
  alone := by
    have idle : (H.enter (H.pipeline.startPoint call)).point.runs eventId = false :=
      runs_unclaimed (H.pipeline.startPoint_isUnclaimed call)
    rw [List.countP_append]
    simpa [idle] using h.alone

theorem Budgeted.answered (h : Budgeted H eventId c) {pid : Nat}
    {p : Proc DeliveryCall HttpPoint} (hp : c.procs[pid]? = some p) {r : HttpRecord} {y : HttpPoint}
    {v : DeliveryWorld} (shown : ∃ resume, H.view p.state = .awaits r.cmd resume)
    (t : HttpTransition H p.state c.world r y v)
    (retried : 1 ≤ H.pipeline.env.TIKTOK_MAX_RETRIES)
    (marked : r.step ≠ some (.marked (DEDUP_KEY_PREFIX ++ eventId) none)) :
    Budgeted H eventId ⟨v, c.procs.set pid ⟨p.entry, y⟩, c.trace ++ [r]⟩ := by
  let runs : Proc DeliveryCall HttpPoint → Bool := fun p => p.state.point.runs eventId
  have counted : _ + (p.state.point.runs eventId).toNat = _ + (y.point.runs eventId).toNat :=
    System.countP_answered hp runs ⟨p.entry, y⟩
  have alone : c.procs.countP runs ≤ _ := h.alone
  have busy : p.state.point.runs eventId = true → c.world.running eventId = true := by
    intro here
    have positive : 0 < c.procs.countP runs :=
      List.countP_pos_iff.mpr ⟨p, List.mem_of_getElem? hp, here⟩
    cases running : c.world.running eventId with
    | true => rfl
    | false =>
        rw [running] at alone
        exact absurd (Nat.lt_of_lt_of_le positive alone) (Nat.lt_irrefl 0)
  constructor
  · have spends := t.spends shown retried h.order busy marked
    have summed : _ + p.state.due H.retries eventId = _ + y.due H.retries eventId :=
      System.total_answered hp (fun p => p.state.due H.retries eventId) ⟨p.entry, y⟩
    have spent := h.spent
    simp only [requestsFor, List.countP_append, List.countP_singleton] at spent ⊢
    have last : (if r.requests eventId then 1 else 0) = (r.requests eventId).toNat := by
      cases r.requests eventId <;> rfl
    omega
  · exact t.order retried h.order
  · show (c.procs.set pid ⟨p.entry, y⟩).countP runs ≤ _
    have before : (c.world.running eventId).toNat ≤ 1 := Bool.toNat_le _
    obtain ⟨same, kept⟩ | ⟨free, taken⟩ | ⟨ran, ended⟩ := t.runs_cases eventId
    · rw [same] at counted
      cases running : c.world.running eventId with
      | true =>
          rw [running, Bool.toNat_true] at alone
          rw [kept running, Bool.toNat_true]
          omega
      | false =>
          rw [running, Bool.toNat_false] at alone
          omega
    · rw [free, Bool.toNat_false] at alone
      rw [taken, Bool.toNat_true]
      have most : (y.point.runs eventId).toNat ≤ 1 := Bool.toNat_le _
      omega
    · rw [ran, ended, Bool.toNat_true, Bool.toNat_false] at counted
      omega

theorem Budgeted.moved (h : Budgeted H eventId c) {event : DeliveryEvent} {v : DeliveryWorld}
    (moved : deliveryEnv event c.world = some v)
    (lives : KeyLives eventId c (.env event) { c with world := v }) :
    Budgeted H eventId { c with world := v } := by
  obtain ⟨elapsed, rfl⟩ | ⟨id, job, found, finished, rfl⟩ := deliveryEnv_spec moved
  · refine ⟨Nat.le_trans (Nat.add_le_add_left ?_ _) h.spent, h.order.of_jobs rfl, h.alone⟩
    refine Nat.add_le_add ?_ (Nat.le_refl _)
    cases stored : c.world.stored eventId with
    | true => exact Nat.le_of_eq (if_pos (lives stored))
    | false =>
        rw [if_neg Bool.false_ne_true]
        split
        next => exact Nat.zero_le _
        next => exact Nat.le_refl _
  · have order := h.order.erase id
    by_cases here : eventId = id
    · subst here
      have idle : c.world.running eventId = false := by
        rcases finished with finished | finished <;>
          simp [DeliveryWorld.running, found, finished]
      have alone := h.alone
      rw [idle] at alone
      refine ⟨Nat.le_trans (Nat.add_le_add_left ?_ _) h.spent, order,
        Nat.le_trans alone (Nat.zero_le _)⟩
      refine Nat.add_le_add_left (Nat.mul_le_mul_right _ ?_) _
      simp [DeliveryWorld.runsLeft]
    · have kept : (c.world.jobs.erase id).lookup eventId = c.world.jobs.lookup eventId :=
        AList.lookup_erase_ne here
      refine ⟨Nat.le_trans (Nat.add_le_add_left ?_ _) h.spent, order, ?_⟩
      · exact Nat.add_le_add_left (Nat.mul_le_mul_right _ (Nat.le_of_eq (runsLeft_congr kept))) _
      · rw [running_congr kept]
        exact h.alone

theorem Budgeted.initial {w : DeliveryWorld} (new : NewToQueue eventId w) :
    Budgeted H eventId (.initial w) := by
  have none : w.runsLeft H.retries eventId = 0 := by
    unfold DeliveryWorld.runsLeft
    split
    next job found => exact if_neg (new eventId job found)
    next => rfl
  refine ⟨?_, ⟨fun id job found carries => absurd carries (new id job found),
    fun job found carries => absurd carries (new eventId job found)⟩, Nat.zero_le _⟩
  show 0 + 0 + w.due H.retries eventId ≤ _
  rw [DeliveryWorld.due, none]
  split <;> omega

end

/-- Whatever TikTok answers: within the life of its deduplication key, an event that is new to
the queue is sent at most `TIKTOK_MAX_RETRIES + 1` times in each of `TIKTOK_MAX_RETRIES + 1`
POSTs. -/
theorem retry_amplification_bounded {H : HttpClient} {w : DeliveryWorld}
    {actions : List HttpAction} {c : HttpConfig (HttpProg Unit)}
    (h : H.system.run (.initial w) actions = some c)
    (retried : 1 ≤ H.pipeline.env.TIKTOK_MAX_RETRIES) {eventId : String}
    (new : NewToQueue eventId w)
    (marked : .marked (DEDUP_KEY_PREFIX ++ eventId) none ∉ httpSteps c.trace)
    (lives : H.system.Along (KeyLives eventId) (.initial w) actions) :
    (requestsFor eventId c.trace : Int) ≤
      (H.pipeline.env.TIKTOK_MAX_RETRIES + 1) * (H.pipeline.env.TIKTOK_MAX_RETRIES + 1) := by
  obtain ⟨d, hd, rfl⟩ := H.refines.lift (c := .initial w) h
  have ok : ∀ r ∈ d.trace, HttpRecord.step r ≠ some (.marked (DEDUP_KEY_PREFIX ++ eventId) none) :=
    fun r hr same => marked (List.mem_filterMap.mpr ⟨r, hr, same⟩)
  have steps := ((H.refines.along (c := .initial w)).mp lives).and (System.along_of_trace _ hd ok)
  have budgeted : Budgeted H eventId d := by
    refine HttpClient.protocol_invariant _ (Budgeted H eventId) ?_ ?_ ?_ hd steps ?_
    · exact fun c call h => h.started call
    · intro c pid p r y v h hp shown t ⟨_, ok⟩
      exact h.answered hp shown t retried (ok r (by simp))
    · exact fun c event v h moved ⟨lives, _⟩ => h.moved moved lives
    · exact .initial new
  have spent : requestsFor eventId d.trace ≤ (H.retries + 1) * (H.retries + 1) := by
    have spent := budgeted.spent
    rw [Nat.add_mul, Nat.one_mul]
    omega
  rw [HttpClient.retries_eq retried]
  exact_mod_cast spent

/-! ## The bound is reached -/

namespace Sample

def retryingClient : HttpClient where
  pipeline := { pipeline with env := { pipeline.env with TIKTOK_MAX_RETRIES := 1 } }
  isNetworkError _ := true

/-- TikTok is unavailable: the direct send fails, and so does the run of its job. -/
def unavailable : List HttpAction :=
  [.start call, .resume 0 (.delivery .ok), .resume 0 (.delivery .ok), .resume 0 (.delivery .ok),
    .resume 0 .sent, .resume 0 (.answer (.response 503 response)),
    .resume 0 .sent, .resume 0 (.answer (.noResponse lostConnection)),
    .resume 0 (.delivery .ok), .resume 0 (.delivery .ok),
    .start (.runJob delivery.eventId), .resume 1 (.delivery .ok), .resume 1 (.delivery .ok),
    .resume 1 .sent, .resume 1 (.answer (.response 429 response)),
    .resume 1 .sent, .resume 1 (.answer (.response 500 response)), .resume 1 (.delivery .ok)]

end Sample

theorem retry_amplification_bounded_unavailable :
    ∃ c, Sample.retryingClient.system.run (.initial (.fresh 0)) Sample.unavailable = some c ∧
      requestsFor Sample.delivery.eventId c.trace = 4 ∧
        (requestsFor Sample.delivery.eventId c.trace : Int) ≤ (1 + 1) * (1 + 1) := by
  let c := Sample.retryingClient.system.result (.initial (.fresh 0)) Sample.unavailable (by decide)
  have h : Sample.retryingClient.system.run (.initial (.fresh 0)) Sample.unavailable = some c :=
    System.run_result _
  have new : NewToQueue Sample.delivery.eventId (.fresh 0) := by
    intro id job found
    cases found
  exact ⟨c, h, by decide,
    retry_amplification_bounded h (by decide) new (by decide) (by decide)⟩

end SalesforceTikTok
