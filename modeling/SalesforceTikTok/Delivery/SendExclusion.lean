import SalesforceTikTok.Delivery.Origin
import SalesforceTikTok.Delivery.SingleDelivery

/-!
# One send at a time

Within the lifetime of its key an event is sent by one call at a time: the call that set
the key sends first, and the worker takes over when that call has given its payload to
the queue.
-/

namespace SalesforceTikTok

open Concurrency Pipeline

/-! ## Runs of jobs exclude each other -/

def DeliveryPoint.running? : DeliveryPoint → Option String
  | .jobAcquiring id _ | .jobPosting id _ _ | .settling id _ => some id
  | _ => none

theorem DeliveryPoint.running?_unclaimed {x : DeliveryPoint} (unclaimed : x.isUnclaimed = true) :
    x.running? = none := by
  cases x with
  | jobAcquiring | jobPosting | settling => cases unclaimed
  | _ => rfl

def DeliveryPoint.Carries (w : DeliveryWorld) (x : DeliveryPoint) : Prop :=
  ∀ id, x.running? = some id → ∃ job, w.jobs.lookup id = some job ∧ job.state = .active ∧
    ∀ data, x.job? = some data → job.data = data

/-- What an answer does to the jobs, and to the run of one. -/
inductive JobEffect (x y : DeliveryPoint) (w v : DeliveryWorld) : Prop where
  | kept (same : y.running? = x.running?) (passed : ∀ data, y.job? = some data → x.job? = some data)
      (stored : ∀ id job, w.jobs.lookup id = some job → v.jobs.lookup id = some job) :
      JobEffect x y w v
  | picked (id : String) (job : Job) (idle : x.running? = none) (runs : y.running? = some id)
      (found : w.jobs.lookup id = some job) (waits : job.state = .waiting ∨ job.state = .delayed)
      (passed : ∀ data, y.job? = some data → job.data = data)
      (stored : v.jobs = w.jobs.insert id { job with state := .active }) : JobEffect x y w v
  | booked (id : String) (runs : x.running? = some id) (idle : y.running? = none)
      (others : ∀ id', id' ≠ id → v.jobs.lookup id' = w.jobs.lookup id') : JobEffect x y w v

theorem DeliveryTransition.job_effect {P : Pipeline} {x y : DeliveryPoint} {w v : DeliveryWorld}
    {r : DeliveryRecord} (t : DeliveryTransition P x w r y v) : JobEffect x y w v := by
  have unchanged {w v : DeliveryWorld} (same : v.jobs = w.jobs) (id : String) (job : Job)
      (found : w.jobs.lookup id = some job) : v.jobs.lookup id = some job := same ▸ found
  cases t with
  | resolved =>
      have next := P.timed_isUnclaimed ‹_› ‹_› ‹_› ‹_›
      refine .kept (DeliveryPoint.running?_unclaimed next) (fun data job => ?_) (unchanged rfl)
      rw [DeliveryPoint.job?_unclaimed next] at job
      cases job
  | markFailed lost effect =>
      refine .kept rfl (fun _ job => by cases job) (unchanged ?_)
      obtain rfl | rfl := effect
      · rfl
      · rw [DeliveryWorld.setNx_frame]
  | duplicateLogFailed lost effect | pendingLogFailed lost effect | sentLogFailed lost effect
  | failedLogFailed lost effect =>
      refine .kept rfl (fun _ job => by cases job) (unchanged ?_)
      obtain rfl | rfl := effect <;> rfl
  | enqueued =>
      exact .kept rfl (fun _ job => by cases job) fun _ _ found => DeliveryWorld.addJob_keeps found _ _
  | enqueueFailed lost effect =>
      refine .kept rfl (fun _ job => by cases job) fun id job found => ?_
      obtain ⟨_, rfl⟩ | ⟨_, rfl⟩ := effect
      · exact found
      · exact DeliveryWorld.addJob_keeps found _ _
  | taken picked =>
      obtain ⟨job, found, rfl, rfl⟩ := DeliveryWorld.takeJob_spec picked
      refine .picked _ job rfl rfl found (DeliveryWorld.takeJob_waiting picked found) ?_ rfl
      exact fun data same => Option.some.inj same
  | jobAcquired => exact .kept rfl (fun _ job => job) (unchanged rfl)
  | @settled id =>
      refine .booked id rfl rfl fun id' other => ?_
      simp only [DeliveryWorld.settleJob]
      split
      · exact AList.lookup_insert_ne other
      · rfl
  | _ => exact .kept rfl (fun _ job => by cases job) (unchanged rfl)

/-- Every job that a call runs is active, and no two calls run one. -/
structure RunsAlone (c : DeliveryConfig DeliveryPoint) : Prop where
  carries : ∀ (pid : Nat) p, c.procs[pid]? = some p → p.state.Carries c.world
  alone : ∀ (i j : Nat) p q id, c.procs[i]? = some p → c.procs[j]? = some q →
    p.state.running? = some id → q.state.running? = some id → i = j

namespace RunsAlone

variable {P : Pipeline} {c : DeliveryConfig DeliveryPoint}

theorem started (h : RunsAlone c) (call : DeliveryCall) :
    RunsAlone { c with procs := c.procs ++ [⟨call, P.startPoint call⟩] } := by
  have fresh := DeliveryPoint.running?_unclaimed (P.startPoint_isUnclaimed call)
  constructor
  · intro pid p hp id runs
    obtain hp | ⟨_, rfl⟩ := System.get_started hp
    · exact h.carries pid p hp id runs
    · rw [fresh] at runs
      cases runs
  · intro i j p q id hi hj runsI runsJ
    obtain hi | ⟨_, rfl⟩ := System.get_started hi
    · obtain hj | ⟨_, rfl⟩ := System.get_started hj
      · exact h.alone i j p q id hi hj runsI runsJ
      · rw [fresh] at runsJ
        cases runsJ
    · rw [fresh] at runsI
      cases runsI

/-- An answer after which the call runs a job that no other call runs. -/
theorem moved (h : RunsAlone c) {pid : Nat} {p : Proc DeliveryCall DeliveryPoint}
    (hp : c.procs[pid]? = some p) {y : DeliveryPoint} {v : DeliveryWorld} {r : DeliveryRecord}
    (own : y.Carries v)
    (others : ∀ (q : Nat) p' id, q ≠ pid → c.procs[q]? = some p' → p'.state.running? = some id →
      y.running? ≠ some id ∧ ∀ job, c.world.jobs.lookup id = some job → v.jobs.lookup id = some job) :
    RunsAlone ⟨v, c.procs.set pid ⟨p.entry, y⟩, c.trace ++ [r]⟩ := by
  constructor
  · intro q p' hq id runs
    obtain ⟨_, rfl⟩ | ⟨other, hq⟩ := System.get_answered hq
    · exact own id runs
    · obtain ⟨job, found, rest⟩ := h.carries q p' hq id runs
      exact ⟨job, (others q p' id other hq runs).2 job found, rest⟩
  · intro i j p' q' id hi hj runsI runsJ
    obtain ⟨rfl, rfl⟩ | ⟨otherI, oldI⟩ := System.get_answered hi
    · obtain ⟨rfl, rfl⟩ | ⟨otherJ, oldJ⟩ := System.get_answered hj
      · rfl
      · exact absurd runsI (others j q' id otherJ oldJ runsJ).1
    · obtain ⟨rfl, rfl⟩ | ⟨otherJ, oldJ⟩ := System.get_answered hj
      · exact absurd runsJ (others i p' id otherI oldI runsI).1
      · exact h.alone i j p' q' id oldI oldJ runsI runsJ

theorem answered (h : RunsAlone c) {pid : Nat} {p : Proc DeliveryCall DeliveryPoint}
    (hp : c.procs[pid]? = some p) {y : DeliveryPoint} {v : DeliveryWorld} (r : DeliveryRecord)
    (effect : JobEffect p.state y c.world v) :
    RunsAlone ⟨v, c.procs.set pid ⟨p.entry, y⟩, c.trace ++ [r]⟩ := by
  cases effect with
  | kept same passed stored =>
      refine h.moved hp (fun id runs => ?_) fun q p' id other hq runs => ⟨fun here => ?_, stored id⟩
      · obtain ⟨job, found, active, data⟩ := h.carries pid p hp id (same ▸ runs)
        exact ⟨job, stored id job found, active, fun d job => data d (passed d job)⟩
      · exact other (h.alone q pid p' p id hq hp runs (same ▸ here))
  | picked id job idle runs found waits passed stored =>
      refine h.moved hp (fun id' runs' => ?_) fun q p' id' other hq runs' => ?_
      · obtain rfl : id = id' := Option.some.inj (runs.symm.trans runs')
        exact ⟨{ job with state := .active }, by rw [stored, AList.lookup_insert], rfl, passed⟩
      · -- the job waited, so nobody was running it
        have apart : id' ≠ id := by
          rintro rfl
          obtain ⟨job', found', active, _⟩ := h.carries q p' hq id' runs'
          obtain rfl : job = job' := Option.some.inj (found.symm.trans found')
          rw [active] at waits
          cases waits with
          | inl waits => cases waits
          | inr waits => cases waits
        refine ⟨fun here => apart (Option.some.inj (here.symm.trans runs)), fun job' found' => ?_⟩
        rw [stored, AList.lookup_insert_ne apart]
        exact found'
  | booked id runs idle kept =>
      refine h.moved hp (fun id' runs' => ?_) fun q p' id' other hq runs' => ?_
      · rw [idle] at runs'
        cases runs'
      · have apart : id' ≠ id := by
          rintro rfl
          exact other (h.alone q pid p' p id' hq hp runs' runs)
        refine ⟨fun here => ?_, fun job found => (kept id' apart).trans found⟩
        rw [idle] at here
        cases here

end RunsAlone

theorem runs_alone {P : Pipeline} {clock : Int} {c : DeliveryConfig DeliveryPoint}
    {actions : List DeliveryAction}
    (h : P.protocol.run (.initial (.fresh clock)) actions = some c) : RunsAlone c := by
  refine protocol_invariant (fun _ => True) RunsAlone ?_ ?_ ?_ h (fun _ _ => trivial) ?_
  · exact fun c call kept => kept.started call
  · exact fun c pid p r y v kept hp _ t _ => kept.answered hp r t.job_effect
  · intro c event v kept hv
    obtain ⟨elapsed, rfl⟩ | ⟨id, job, found, finished, rfl⟩ := deliveryEnv_spec hv
    · exact ⟨kept.carries, kept.alone⟩
    · refine ⟨fun pid p hp id' runs => ?_, kept.alone⟩
      obtain ⟨job', found', active, data⟩ := kept.carries pid p hp id' runs
      have apart : id' ≠ id := by
        rintro rfl
        obtain rfl : job = job' := Option.some.inj (found.symm.trans found')
        rw [active] at finished
        cases finished with
        | inl finished => cases finished
        | inr finished => cases finished
      exact ⟨job', by rw [AList.lookup_erase_ne apart]; exact found', active, data⟩
  · constructor <;> simp [Config.initial]

/-! ## Sends of one event -/

/-- The call is inside `sendEvents` with the event: it awaits the limiter or the POST. -/
def SendsNow (P : Pipeline) (c : DeliveryConfig (DeliveryProg Unit)) (eventId : String)
    (pid : Nat) : Prop :=
  ∃ payload, eventId ∈ payload.eventIds ∧
    (P.system.Awaits c pid (.acquire payload) ∨
      ∃ accessToken, P.system.Awaits c pid (.postEvents payload accessToken))

/-- A call that sends is a `process` call past its pending row, or a run of a job. -/
inductive DeliveryPoint.Sends (payload : TikTokEventsPayload) : DeliveryPoint → Prop where
  | direct {d : Delivery} {x : DeliveryPoint} (built : d.payload = payload)
      (point : x = .acquiring d ∨ ∃ accessToken, x = .posting d accessToken) : Sends payload x
  | retry {x : DeliveryPoint} {id : String} {data : RetryJobData} (built : data.payload = payload)
      (runs : x.running? = some id) (job : x.job? = some data) : Sends payload x

private theorem sends_of_awaits {P : Pipeline} {c : DeliveryConfig DeliveryPoint} {eventId : String}
    {pid : Nat} (h : SendsNow P (c.map (DeliveryPoint.program P)) eventId pid) :
    ∃ p payload, c.procs[pid]? = some p ∧ eventId ∈ payload.eventIds ∧ p.state.Sends payload := by
  obtain ⟨payload, mem, awaits⟩ := h
  have shown : ∃ p cmd resume, c.procs[pid]? = some p ∧ p.state.view P = .awaits cmd resume ∧
      (cmd = .acquire payload ∨ ∃ accessToken, cmd = .postEvents payload accessToken) := by
    obtain awaits | ⟨accessToken, awaits⟩ := awaits
    · obtain ⟨p, resume, hp, hv⟩ := (protocol_refines P).awaits.mp awaits
      exact ⟨p, _, resume, hp, hv, .inl rfl⟩
    · obtain ⟨p, resume, hp, hv⟩ := (protocol_refines P).awaits.mp awaits
      exact ⟨p, _, resume, hp, hv, .inr ⟨accessToken, rfl⟩⟩
  obtain ⟨p, cmd, resume, hp, hv, sends⟩ := shown
  refine ⟨p, payload, hp, mem, ?_⟩
  cases point : p.state with
  | acquiring d =>
      rw [point] at hv
      cases hv
      obtain sends | ⟨_, sends⟩ := sends
      · exact .direct (DeliveryCmd.acquire.inj sends) (.inl rfl)
      · cases sends
  | posting d token =>
      rw [point] at hv
      cases hv
      obtain sends | ⟨_, sends⟩ := sends
      · cases sends
      · exact .direct (DeliveryCmd.postEvents.inj sends).1 (.inr ⟨token, rfl⟩)
  | jobAcquiring id data =>
      rw [point] at hv
      cases hv
      obtain sends | ⟨_, sends⟩ := sends
      · exact .retry (DeliveryCmd.acquire.inj sends) rfl rfl
      · cases sends
  | jobPosting id data token =>
      rw [point] at hv
      cases hv
      obtain sends | ⟨_, sends⟩ := sends
      · cases sends
      · exact .retry (DeliveryCmd.postEvents.inj sends).1 rfl rfl
  | ended outcome =>
      rw [point] at hv
      cases hv
  | _ =>
      rw [point] at hv
      cases hv
      obtain sends | ⟨_, sends⟩ := sends <;> cases sends

/-- With Redis working a call that is not a duplicate set the key. -/
theorem RedisWorking.first_reply {key : String} {reply : Option SetReply}
    {rest : List DeliveryStep} (redis : RedisWorking (.marked key reply :: rest))
    (first : reply ≠ some .null) : reply = some .ok := by
  match reply with
  | some .ok => rfl
  | some .null => exact absurd rfl first
  | none => exact absurd List.mem_cons_self (redis _)

/-- A call that sends directly set the key of its event, and has not queued it. -/
theorem ProcessHistory.sends_directly {x : DeliveryPoint} {steps : List DeliveryStep} {d : Delivery}
    (history : ProcessHistory x steps) (point : x = .acquiring d ∨ ∃ token, x = .posting d token)
    (redis : RedisWorking steps) :
    .marked (DEDUP_KEY_PREFIX ++ d.eventId) (some .ok) ∈ steps ∧
      ∀ data reached resolved, .queued data reached resolved ∉ steps := by
  cases history with
  | acquiring first =>
      obtain same | ⟨_, same⟩ := point
      · cases same
        obtain rfl := redis.first_reply first
        simp
      · cases same
  | posting first =>
      obtain same | ⟨_, same⟩ := point
      · cases same
      · cases same
        obtain rfl := redis.first_reply first
        simp [Delivery.opening]
  | _ => obtain same | ⟨_, same⟩ := point <;> cases same

/-- A call that has queued a payload set the key of its event. -/
theorem ProcessHistory.marked_of_queued {x : DeliveryPoint} {steps : List DeliveryStep}
    (history : ProcessHistory x steps) {data : RetryJobData} {reached resolved : Bool}
    (queued : .queued data reached resolved ∈ steps) (redis : RedisWorking steps) {eventId : String}
    (mem : eventId ∈ data.payload.eventIds) :
    .marked (DEDUP_KEY_PREFIX ++ eventId) (some .ok) ∈ steps := by
  have attempted {d : Delivery} {attempt : List DeliveryStep} (failed : FailedAttempt d attempt) :
      .queued data reached resolved ∉ attempt := by
    cases failed <;> simp
  cases history with
  | resolving | timing | marking | filtered | loggingDuplicate | duplicate | loggingPending
  | acquiring | dropped => simp at queued
  | posting | loggingSent | sent => simp [Delivery.opening] at queued
  | loggingFailed _ failed | enqueueing _ failed | unlogged _ failed =>
      simp [Delivery.opening, attempted failed] at queued
  | @queued d _ _ _ _ _ first failed =>
      obtain ⟨rfl, _⟩ : data = RetryQueue.jobData d.payload ∧ _ := by
        simpa [Delivery.opening, attempted failed] using queued
      obtain rfl : eventId = d.eventId := by simpa [RetryQueue.jobData, d.single] using mem
      obtain rfl := redis.first_reply first
      simp [Delivery.opening]

theorem RedisWorking.call {X : Type} {c : DeliveryConfig X}
    (redis : RedisWorking (deliverySteps c.trace)) (pid : Nat) : RedisWorking (callSteps c pid) :=
  fun key marked => redis key (mem_steps.mpr ⟨pid, marked⟩)

section

variable {P : Pipeline} {clock : Int} {c : DeliveryConfig DeliveryPoint}
  {actions : List DeliveryAction} {eventId : String}
  (h : P.protocol.run (.initial (.fresh clock)) actions = some c)
  (redis : RedisWorking (deliverySteps c.trace))

include h redis

/-- A run of a job with the event has a call behind it that set the key and queued the event. -/
theorem claimant_of_retry {pid : Nat} {p : Proc DeliveryCall DeliveryPoint}
    (hp : c.procs[pid]? = some p) {data : RetryJobData} (job : p.state.job? = some data)
    (mem : eventId ∈ data.payload.eventIds) :
    ∃ q, .marked (DEDUP_KEY_PREFIX ++ eventId) (some .ok) ∈ callSteps c q ∧
      ∃ data reached resolved, .queued data reached resolved ∈ callSteps c q := by
  obtain ⟨⟨q, cmd, choice, reply⟩, hr, id, data', rfl, same⟩ :=
    (payloads_traced h).held pid p data hp job
  have own : .queued data' (!choice.isFail) (replied reply) ∈ callSteps c q :=
    mem_callSteps.mpr ⟨_, hr, rfl, rfl⟩
  obtain ⟨p', cdcEvent, lead, hq, entry⟩ := process_of_step h own rfl
  have marked := (process_history h hq entry).marked_of_queued own (redis.call q) (same ▸ mem)
  exact ⟨q, marked, data', _, _, own⟩

/-- A call that sends the event directly has set its key, and has not queued it. -/
theorem claimant_of_direct {pid : Nat} {p : Proc DeliveryCall DeliveryPoint}
    (hp : c.procs[pid]? = some p) {d : Delivery}
    (point : p.state = .acquiring d ∨ ∃ token, p.state = .posting d token)
    (mem : eventId ∈ d.payload.eventIds) :
    .marked (DEDUP_KEY_PREFIX ++ eventId) (some .ok) ∈ callSteps c pid ∧
      ∀ data reached resolved, .queued data reached resolved ∉ callSteps c pid := by
  rw [d.single, List.mem_singleton] at mem
  subst mem
  cases entry : p.entry with
  | process cdcEvent lead =>
      exact (process_history h hp entry).sends_directly point (redis.call pid)
  | runJob id =>
      have retry := (worker_retry h hp entry).1
      obtain point | ⟨_, point⟩ := point <;> rw [point] at retry <;> cases retry

private theorem sends_exclude {claim : Int} (sole : SoleClaim (DEDUP_KEY_PREFIX ++ eventId) claim c)
    {i j : Nat} {p q : Proc DeliveryCall DeliveryPoint} {payload payload' : TikTokEventsPayload}
    (hi : c.procs[i]? = some p) (hj : c.procs[j]? = some q) (memI : eventId ∈ payload.eventIds)
    (memJ : eventId ∈ payload'.eventIds) (sendsI : p.state.Sends payload)
    (sendsJ : q.state.Sends payload') : i = j := by
  have unique {i j : Nat}
      (first : .marked (DEDUP_KEY_PREFIX ++ eventId) (some .ok) ∈ callSteps c i)
      (second : .marked (DEDUP_KEY_PREFIX ++ eventId) (some .ok) ∈ callSteps c j) : i = j := by
    obtain ⟨r, hr, rfl, hs⟩ := mem_callSteps.mp first
    obtain ⟨r', hr', rfl, hs'⟩ := mem_callSteps.mp second
    exact (sole.claimed r' hr' hs').2 r hr hs
  -- a direct send and a retry would be by two claimants
  have apart {i j : Nat} {p q : Proc DeliveryCall DeliveryPoint} {d : Delivery}
      {data : RetryJobData} (hi : c.procs[i]? = some p) (hj : c.procs[j]? = some q)
      (point : p.state = .acquiring d ∨ ∃ token, p.state = .posting d token)
      (job : q.state.job? = some data) (memI : eventId ∈ d.payload.eventIds)
      (memJ : eventId ∈ data.payload.eventIds) : False := by
    obtain ⟨first, unqueued⟩ := claimant_of_direct h redis hi point memI
    obtain ⟨k, second, data', reached, resolved, queued⟩ := claimant_of_retry h redis hj job memJ
    rw [← unique first second] at queued
    exact unqueued data' reached resolved queued
  have kept := runs_alone h
  cases sendsI with
  | direct built point =>
      subst built
      cases sendsJ with
      | direct built' point' =>
          subst built'
          exact unique (claimant_of_direct h redis hi point memI).1
            (claimant_of_direct h redis hj point' memJ).1
      | retry built' runs job =>
          subst built'
          exact (apart hi hj point job memI memJ).elim
  | @retry _ id data built runs job =>
      subst built
      cases sendsJ with
      | direct built' point' =>
          subst built'
          exact (apart hj hi point' job memJ memI).elim
      | @retry _ id' data' built' runs' job' =>
          subst built'
          -- a job with the event has its id
          have named {i : Nat} {p : Proc DeliveryCall DeliveryPoint} {id : String}
              {data : RetryJobData} (hi : c.procs[i]? = some p) (runs : p.state.running? = some id)
              (job : p.state.job? = some data) (mem : eventId ∈ data.payload.eventIds) :
              id = eventId := by
            obtain ⟨stored, found, _, same⟩ := kept.carries i p hi id runs
            have ids := ((jobs_kept h).named id stored found).2
            rw [same data job] at ids
            rw [ids, List.mem_singleton] at mem
            exact mem.symm
          rw [named hi runs job memI] at runs
          rw [named hj runs' job' memJ] at runs'
          exact kept.alone i j p q eventId hi hj runs runs'

end

/-- With Redis working, within the lifetime of a key from the start: whatever Postgres, the
queue and TikTok answer, no two calls are inside `sendEvents` with one event, be they
`process` calls or runs of jobs. -/
theorem sends_exclusive {P : Pipeline} {clock : Int} {c : DeliveryConfig (DeliveryProg Unit)}
    {actions : List DeliveryAction} (h : P.system.run (.initial (.fresh clock)) actions = some c)
    (redis : RedisWorking (deliverySteps c.trace))
    (within : c.world.clock < clock + P.env.REDIS_DEDUP_TTL_SECONDS * 1000) {eventId : String}
    {i j : Nat} (first : SendsNow P c eventId i) (second : SendsNow P c eventId j) : i = j := by
  obtain ⟨c, hc, rfl⟩ := exists_protocol h
  have free : (DeliveryWorld.fresh clock).holds (DEDUP_KEY_PREFIX ++ eventId) = false := by
    simp [DeliveryWorld.holds, DeliveryWorld.fresh]
  have sole := sole_claim hc redis free within
  obtain ⟨p, payload, hi, memI, sendsI⟩ := sends_of_awaits first
  obtain ⟨q, payload', hj, memJ, sendsJ⟩ := sends_of_awaits second
  exact sends_exclude hc redis sole hi hj memI memJ sendsI sendsJ

def workerPosting : List DeliveryAction := retriedByWorker.take 10

theorem sends_exclusive_worker :
    ¬ SendsNow Sample.pipeline (Sample.after workerPosting (by decide)) Sample.delivery.eventId 0 := by
  have steps : deliverySteps (Sample.after workerPosting (by decide)).trace =
      Sample.delivery.opening (some .ok) ++ [.refused Sample.delivery.payload,
        .updated Sample.delivery.eventId .failed true,
        .queued (RetryQueue.jobData Sample.delivery.payload) true true,
        .sending Sample.delivery.payload] := by decide
  have redis : RedisWorking (deliverySteps (Sample.after workerPosting (by decide)).trace) := by
    rw [steps]
    simp [RedisWorking, Delivery.opening]
  have sends : SendsNow Sample.pipeline (Sample.after workerPosting (by decide))
      Sample.delivery.eventId 1 :=
    ⟨Sample.delivery.payload, by simp [Sample.delivery.single], .inr ⟨"test-token", _, _, rfl, rfl⟩⟩
  intro other
  have same := sends_exclusive (System.run_result (by decide)) redis (by decide) other sends
  cases same

end SalesforceTikTok
