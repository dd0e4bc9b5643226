import Mathlib.Data.List.AList
import SalesforceTikTok.Concurrency.System
import SalesforceTikTok.Core.Types
import SalesforceTikTok.Storage.Expiring

/-!
# Stores behind the delivery path

The Redis deduplication keys, the Postgres event log, the BullMQ job set and the
clock, with the effect of every command the delivery code awaits on them. A
command may be answered regularly, fail without effect, or fail after its effect
took place (the reply was lost); TikTok and the event-set lookup answer as they
please. The command of a rate limiter or an HTTP post has no local effect.

BullMQ is modelled by its documented rules: `add` under a retained job id
changes nothing, a failed run is retried while attempts remain, finished jobs
are eventually removed.
-/

namespace SalesforceTikTok

/-- The answer of `SET key value EX ttl NX`. -/
inductive SetReply where
  | ok
  | null
  deriving DecidableEq, Repr

inductive DeliveryCmd where
  /-- `Date.now()`. -/
  | now
  /-- `eventSetManager.resolve(advertiserId)`. -/
  | resolveEventSet (advertiserId : String)
  /-- `redis.set(key, '1', 'EX', ttlSeconds, 'NX')`. -/
  | setNx (key : String) (ttlSeconds : Int)
  /-- `INSERT INTO crm_event_log … ON CONFLICT (event_id) DO NOTHING`. -/
  | insertLog (eventId : String) (record : EventLogRecord)
  /-- `UPDATE crm_event_log SET … WHERE event_id = $1`. -/
  | updateLog (eventId : String) (status : EventLogStatus) (response : Option TikTokAPIResponse)
      (error : Option String)
  /-- `rateLimiter.acquire()`, the first await of `sendEvents(payload)`; the payload
  only marks that call in the trace. -/
  | acquire (payload : TikTokEventsPayload)
  /-- `this.http.post('/event/track/', payload)`. -/
  | postEvents (payload : TikTokEventsPayload) (accessToken : String)
  /-- `queue.add('send-events', data, { jobId })`. -/
  | addJob (jobId : String) (data : RetryJobData)
  /-- The worker picks a waiting or delayed job. -/
  | takeJob (jobId : String)
  /-- The worker reports how the handler ended. -/
  | settleJob (jobId : String) (succeeded : Bool)

abbrev DeliveryCmd.Reply : DeliveryCmd → Type
  | .now => Int
  | .resolveEventSet _ => String
  | .setNx _ _ => SetReply
  | .postEvents _ _ => TikTokAPIResponse
  | .addJob _ _ => String
  | .takeJob _ => RetryJobData
  | .insertLog _ _ | .updateLog _ _ _ _ | .acquire _ | .settleJob _ _ => Unit

inductive JobState where
  | waiting
  | delayed
  | active
  | completed
  | failed
  deriving DecidableEq, Repr

structure Job where
  data : RetryJobData
  state : JobState
  attemptsMade : Nat
  deriving DecidableEq, Repr

structure DeliveryWorld where
  /-- Milliseconds. -/
  clock : Int
  /-- Deduplication keys with their expiry time. -/
  dedup : AList fun _ : String => Int
  /-- `crm_event_log`, keyed by its unique `event_id`. -/
  log : AList fun _ : String => EventLogRecord
  jobs : AList fun _ : String => Job
  /-- Every job the queue ever took in, finished and removed ones included. -/
  jobsAdded : List RetryJobData

def DeliveryWorld.fresh (clock : Int) : DeliveryWorld := ⟨clock, ∅, ∅, ∅, []⟩

/-- The key exists and has not expired. -/
def DeliveryWorld.holds (w : DeliveryWorld) (key : String) : Bool :=
  match w.dedup.lookup key with
  | some expiry => w.clock < expiry
  | none => false

inductive DeliveryChoice where
  | ok
  | fail (error : JsError)
  | failAfter (error : JsError)
  | eventSet (eventSetId : String)
  | response (response : TikTokAPIResponse)

inductive DeliveryEvent where
  | tick (elapsed : Nat)
  /-- `removeOnComplete` / `removeOnFail` drop a finished job. -/
  | evict (jobId : String)

/-- The `SET` clause of `updateStatus`. -/
def EventLogRecord.update (record : EventLogRecord) (status : EventLogStatus)
    (response : Option TikTokAPIResponse) (error : Option String) : EventLogRecord :=
  { record with
    status := status, tiktokResponse := response, error := error,
    attemptCount := record.attemptCount + 1 }

/-- The state after a run: done, or retried while `attempts` allows it. -/
def Job.settle (attempts : Int) (job : Job) (succeeded : Bool) : Job :=
  if succeeded then { job with state := .completed, attemptsMade := job.attemptsMade + 1 }
  else if (job.attemptsMade + 1 : Int) < attempts then
    { job with state := .delayed, attemptsMade := job.attemptsMade + 1 }
  else { job with state := .failed, attemptsMade := job.attemptsMade + 1 }

@[simp] theorem Job.settle_data (attempts : Int) (job : Job) (succeeded : Bool) :
    (job.settle attempts succeeded).data = job.data := by
  unfold Job.settle
  split
  · rfl
  · split <;> rfl

theorem Job.settle_completed {attempts : Int} {job : Job} {succeeded : Bool}
    (completed : (job.settle attempts succeeded).state = .completed) : succeeded = true := by
  unfold Job.settle at completed
  split at completed
  next done => exact done
  next =>
    split at completed
    · cases completed
    · cases completed

abbrev EventLogTable := AList fun _ : String => EventLogRecord

/-- `ON CONFLICT (event_id) DO NOTHING`. -/
def insertRow (log : EventLogTable) (eventId : String) (record : EventLogRecord) : EventLogTable :=
  match log.lookup eventId with
  | some _ => log
  | none => log.insert eventId record

/-- `WHERE event_id = $1`. -/
def updateRow (log : EventLogTable) (eventId : String) (status : EventLogStatus)
    (response : Option TikTokAPIResponse) (error : Option String) : EventLogTable :=
  match log.lookup eventId with
  | some record => log.insert eventId (record.update status response error)
  | none => log

namespace DeliveryWorld

/-- `SET NX EX`: a live key stays, else the key is set; Redis refuses an expiry
that is not positive. -/
def setNx (w : DeliveryWorld) (key : String) (ttlSeconds : Int) :
    Except JsError SetReply × DeliveryWorld :=
  if ttlSeconds ≤ 0 then
    (.error { message := "ERR invalid expire time in 'set' command" }, w)
  else if w.holds key then (.ok .null, w)
  else (.ok .ok, { w with dedup := w.dedup.insert key (w.clock + ttlSeconds * 1000) })

theorem lookup_of_holds {w : DeliveryWorld} {key : String} (held : w.holds key = true) :
    (w.dedup.lookup key).isSome = true := by
  unfold holds at held
  split at held
  next expiry present => rw [present]; rfl
  next => cases held

theorem holds_of_lookup {w : DeliveryWorld} {key : String} {expiry : Int}
    (present : w.dedup.lookup key = some expiry) (live : w.clock < expiry) :
    w.holds key = true := by
  simp [holds, present, live]

theorem holds_congr {w v : DeliveryWorld} {key : String} (clock : v.clock = w.clock)
    (entry : v.dedup.lookup key = w.dedup.lookup key) : v.holds key = w.holds key := by
  simp only [holds, entry, clock]

theorem free_later {w : DeliveryWorld} {key : String} (free : w.holds key = false)
    (elapsed : Nat) : ({ w with clock := w.clock + elapsed } : DeliveryWorld).holds key = false := by
  unfold holds at free ⊢
  dsimp only
  split at free
  next expiry present =>
    simp only [decide_eq_false_iff_not] at free ⊢
    omega
  next => rfl

theorem setNx_answers {ttlSeconds : Int} (positive : 0 < ttlSeconds) (w : DeliveryWorld)
    (key : String) : ∃ reply v, w.setNx key ttlSeconds = (.ok reply, v) := by
  have valid : ¬ ttlSeconds ≤ 0 := by omega
  rw [setNx, if_neg valid]
  split
  · exact ⟨_, _, rfl⟩
  · exact ⟨_, _, rfl⟩

theorem setNx_cases {ttlSeconds : Int} (positive : 0 < ttlSeconds)
    (w : DeliveryWorld) (key : String) :
    (w.holds key = true ∧ w.setNx key ttlSeconds = (.ok .null, w)) ∨
      (w.holds key = false ∧ w.setNx key ttlSeconds =
        (.ok .ok, { w with dedup := w.dedup.insert key (w.clock + ttlSeconds * 1000) })) := by
  have valid : ¬ ttlSeconds ≤ 0 := by omega
  unfold setNx
  rw [if_neg valid]
  cases held : w.holds key with
  | true => exact .inl ⟨rfl, rfl⟩
  | false => exact .inr ⟨rfl, rfl⟩

theorem setNx_frame (w : DeliveryWorld) (key : String) (ttlSeconds : Int) :
    (w.setNx key ttlSeconds).2 = { w with dedup := (w.setNx key ttlSeconds).2.dedup } := by
  unfold setNx
  split
  · rfl
  · split <;> rfl

def insertLog (w : DeliveryWorld) (eventId : String) (record : EventLogRecord) : DeliveryWorld :=
  { w with log := insertRow w.log eventId record }

def updateLog (w : DeliveryWorld) (eventId : String) (status : EventLogStatus)
    (response : Option TikTokAPIResponse) (error : Option String) : DeliveryWorld :=
  { w with log := updateRow w.log eventId status response error }

def addJob (w : DeliveryWorld) (jobId : String) (data : RetryJobData) : DeliveryWorld :=
  match w.jobs.lookup jobId with
  | some _ => w
  | none =>
      { w with
        jobs := w.jobs.insert jobId ⟨data, .waiting, 0⟩
        jobsAdded := w.jobsAdded ++ [data] }

@[simp] theorem addJob_clock (w : DeliveryWorld) (jobId : String) (data : RetryJobData) :
    (w.addJob jobId data).clock = w.clock := by
  unfold addJob; split <;> rfl

@[simp] theorem addJob_dedup (w : DeliveryWorld) (jobId : String) (data : RetryJobData) :
    (w.addJob jobId data).dedup = w.dedup := by
  unfold addJob; split <;> rfl

@[simp] theorem addJob_log (w : DeliveryWorld) (jobId : String) (data : RetryJobData) :
    (w.addJob jobId data).log = w.log := by
  unfold addJob; split <;> rfl

def takeJob (w : DeliveryWorld) (jobId : String) : Option (RetryJobData × DeliveryWorld) :=
  match w.jobs.lookup jobId with
  | some job =>
      if job.state = .waiting ∨ job.state = .delayed then
        some (job.data, { w with jobs := w.jobs.insert jobId { job with state := .active } })
      else none
  | none => none

def settleJob (w : DeliveryWorld) (attempts : Int) (jobId : String) (succeeded : Bool) :
    DeliveryWorld :=
  { w with
    jobs :=
      match w.jobs.lookup jobId with
      | some job => w.jobs.insert jobId (job.settle attempts succeeded)
      | none => w.jobs }

theorem takeJob_spec {w v : DeliveryWorld} {jobId : String} {data : RetryJobData}
    (h : w.takeJob jobId = some (data, v)) :
    ∃ job, w.jobs.lookup jobId = some job ∧ data = job.data ∧
      v = { w with jobs := w.jobs.insert jobId { job with state := .active } } := by
  unfold takeJob at h
  split at h
  next job hj =>
    split at h
    next =>
      cases h
      exact ⟨job, hj, rfl, rfl⟩
    next => cases h
  next => cases h

theorem takeJob_waiting {w v : DeliveryWorld} {jobId : String} {data : RetryJobData}
    (h : w.takeJob jobId = some (data, v)) {job : Job} (found : w.jobs.lookup jobId = some job) :
    job.state = .waiting ∨ job.state = .delayed := by
  simp only [takeJob, found] at h
  split at h
  next waiting => exact waiting
  next => cases h

def Carried (w : DeliveryWorld) (id : String) (job : Job) : Prop :=
  ∃ job', w.jobs.lookup id = some job' ∧ job'.data = job.data

theorem takeJob_carried {w v : DeliveryWorld} {jobId : String} {data : RetryJobData}
    (h : w.takeJob jobId = some (data, v)) {id : String} {job : Job}
    (found : v.jobs.lookup id = some job) : w.Carried id job := by
  obtain ⟨picked, there, _, rfl⟩ := takeJob_spec h
  obtain ⟨rfl, rfl⟩ | earlier := Storage.lookup_insert_cases found
  · exact ⟨picked, there, rfl⟩
  · exact ⟨job, earlier, rfl⟩

theorem settleJob_carried {w : DeliveryWorld} {attempts : Int} {jobId : String}
    {succeeded : Bool} {id : String} {job : Job}
    (found : (w.settleJob attempts jobId succeeded).jobs.lookup id = some job) :
    w.Carried id job := by
  simp only [settleJob] at found
  split at found
  next settled there =>
    obtain ⟨rfl, rfl⟩ | earlier := Storage.lookup_insert_cases found
    · exact ⟨settled, there, (Job.settle_data ..).symm⟩
    · exact ⟨job, earlier, rfl⟩
  next => exact ⟨job, found, rfl⟩

/-- A job found after an `add` is the added one or was there before. -/
theorem addJob_cases {w : DeliveryWorld} {jobId : String} {data : RetryJobData} {id : String}
    {job : Job} (found : (w.addJob jobId data).jobs.lookup id = some job) :
    id = jobId ∧ job = ⟨data, .waiting, 0⟩ ∨ w.jobs.lookup id = some job := by
  rw [addJob] at found
  split at found
  next => exact .inr found
  next => exact Storage.lookup_insert_cases found

theorem addJob_keeps {w : DeliveryWorld} {id : String} {job : Job}
    (found : w.jobs.lookup id = some job) (jobId : String) (data : RetryJobData) :
    (w.addJob jobId data).jobs.lookup id = some job := by
  unfold addJob
  split
  next => exact found
  next absent =>
    refine (AList.lookup_insert_ne fun same => ?_).trans found
    rw [same, absent] at found
    cases found

theorem addJob_carried {w : DeliveryWorld} {jobId : String} {data : RetryJobData} {id : String}
    {job : Job} (found : (w.addJob jobId data).jobs.lookup id = some job) :
    w.Carried id job ∨ job.data = data := by
  obtain ⟨_, rfl⟩ | earlier := addJob_cases found
  · exact .inr rfl
  · exact .inl ⟨job, earlier, rfl⟩

end DeliveryWorld

/-- A store command answered regularly, or failing before or after its effect. -/
def faulty {α : Type} (choice : DeliveryChoice) (w : DeliveryWorld)
    (regular : Except JsError α × DeliveryWorld) : Option (Except JsError α × DeliveryWorld) :=
  match choice with
  | .ok => some regular
  | .fail error => some (.error error, w)
  | .failAfter error => some (.error error, regular.2)
  | _ => none

def deliveryExec (env : Env) : (cmd : DeliveryCmd) → DeliveryChoice → DeliveryWorld →
    Option (Except JsError cmd.Reply × DeliveryWorld)
  | .now, .ok, w => some (.ok w.clock, w)
  | .resolveEventSet _, .eventSet eventSetId, w => some (.ok eventSetId, w)
  | .resolveEventSet _, .fail error, w => some (.error error, w)
  | .setNx key ttl, choice, w => faulty choice w (w.setNx key ttl)
  | .insertLog eventId record, choice, w => faulty choice w (.ok (), w.insertLog eventId record)
  | .updateLog eventId status response error, choice, w =>
      faulty choice w (.ok (), w.updateLog eventId status response error)
  | .acquire _, .ok, w => some (.ok (), w)
  | .postEvents _ _, .response response, w => some (.ok response, w)
  | .postEvents _ _, .fail error, w => some (.error error, w)
  | .addJob jobId data, choice, w => faulty choice w (.ok jobId, w.addJob jobId data)
  | .takeJob jobId, .ok, w => (w.takeJob jobId).map fun dw => (.ok dw.1, dw.2)
  | .settleJob jobId succeeded, .ok, w =>
      some (.ok (), w.settleJob env.TIKTOK_MAX_RETRIES jobId succeeded)
  | _, _, _ => none

def deliveryEnv : DeliveryEvent → DeliveryWorld → Option DeliveryWorld
  | .tick elapsed, w => some { w with clock := w.clock + elapsed }
  | .evict jobId, w =>
      match w.jobs.lookup jobId with
      | some job =>
          if job.state = .completed ∨ job.state = .failed then
            some { w with jobs := w.jobs.erase jobId }
          else none
      | none => none

/-- The environment only advances the clock or drops a finished job. -/
theorem deliveryEnv_spec {event : DeliveryEvent} {w v : DeliveryWorld}
    (h : deliveryEnv event w = some v) :
    (∃ elapsed : Nat, v = { w with clock := w.clock + elapsed }) ∨
      ∃ jobId job, w.jobs.lookup jobId = some job ∧
        (job.state = .completed ∨ job.state = .failed) ∧
          v = { w with jobs := w.jobs.erase jobId } := by
  cases event with
  | tick elapsed => exact .inl ⟨elapsed, (Option.some.inj h).symm⟩
  | evict jobId =>
      simp only [deliveryEnv] at h
      split at h
      next job found =>
        split at h
        next finished =>
          cases h
          exact .inr ⟨jobId, job, found, finished, rfl⟩
        next => cases h
      next => cases h

theorem deliveryEnv_cases {event : DeliveryEvent} {w v : DeliveryWorld}
    (h : deliveryEnv event w = some v) :
    (∃ elapsed : Nat, v = { w with clock := w.clock + elapsed }) ∨
      ∃ jobId, v = { w with jobs := w.jobs.erase jobId } := by
  obtain passed | ⟨jobId, _, _, _, dropped⟩ := deliveryEnv_spec h
  · exact .inl passed
  · exact .inr ⟨jobId, dropped⟩

abbrev deliveryRuntime (env : Env) :
    Concurrency.Runtime DeliveryCmd DeliveryCmd.Reply JsError DeliveryWorld DeliveryChoice
      DeliveryEvent where
  exec := deliveryExec env
  env := deliveryEnv

abbrev DeliveryProg := Concurrency.Prog DeliveryCmd DeliveryCmd.Reply JsError

abbrev DeliveryRecord := Concurrency.Record DeliveryCmd DeliveryCmd.Reply JsError DeliveryChoice

end SalesforceTikTok
