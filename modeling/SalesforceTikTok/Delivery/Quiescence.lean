import SalesforceTikTok.Concurrency.Quiescence
import SalesforceTikTok.Delivery.SendExclusion
import SalesforceTikTok.Storage.Weight

/-!
# Delivery comes to rest

Once no more messages come in, the calls and jobs there are have a bounded number of
commands ahead of them, whatever fails, and can always be brought to their end.
-/

namespace SalesforceTikTok

open Concurrency Pipeline Storage

/-! ## What is ahead -/

/-- The runs a job has left. The first is given to every job. -/
def triesLeft (attempts : Int) (made : Nat) : Nat := max 1 (attempts - made).toNat

/-- The commands ahead of a job: four for each run, of which the picked one is under way. -/
def Job.ahead (attempts : Int) (job : Job) : Nat :=
  match job.state with
  | .waiting | .delayed => 4 * triesLeft attempts job.attemptsMade
  | .active => 4 * (triesLeft attempts job.attemptsMade - 1)
  | .completed | .failed => 0

/-- The commands ahead of a call, with those of the job it may add. A worker without a job
has none. -/
def DeliveryPoint.ahead (attempts : Int) : DeliveryPoint → Nat
  | .ended _ | .taking _ => 0
  | .settling _ _ | .loggingDuplicate _ => 1
  | .jobPosting _ _ _ => 2
  | .jobAcquiring _ _ => 3
  | .enqueueing _ => 1 + 4 * triesLeft attempts 0
  | .loggingFailed _ _ => 2 + 4 * triesLeft attempts 0
  | .loggingSent _ _ => 3 + 4 * triesLeft attempts 0
  | .posting _ _ => 4 + 4 * triesLeft attempts 0
  | .acquiring _ => 5 + 4 * triesLeft attempts 0
  | .loggingPending _ => 6 + 4 * triesLeft attempts 0
  | .marking _ => 7 + 4 * triesLeft attempts 0
  | .timing _ _ _ _ => 8 + 4 * triesLeft attempts 0
  | .resolving _ _ _ _ => 9 + 4 * triesLeft attempts 0

def Pipeline.ahead (P : Pipeline) (c : DeliveryConfig DeliveryPoint) : Nat :=
  weight (Job.ahead P.env.TIKTOK_MAX_RETRIES) c.world.jobs +
    System.total (fun p => p.state.ahead P.env.TIKTOK_MAX_RETRIES) c.procs

theorem Job.ahead_settle (attempts : Int) (job : Job) (succeeded : Bool) :
    (job.settle attempts succeeded).ahead attempts ≤
      4 * (triesLeft attempts job.attemptsMade - 1) := by
  unfold Job.settle
  split
  · exact Nat.zero_le _
  · split
    next more =>
      simp only [Job.ahead, triesLeft]
      omega
    next => exact Nat.zero_le _

theorem Job.settle_inactive (attempts : Int) (job : Job) (succeeded : Bool) :
    (job.settle attempts succeeded).state ≠ .active := by
  unfold Job.settle
  split
  · nofun
  · split <;> nofun

theorem Job.ahead_le (attempts : Int) (job : Job) :
    job.ahead attempts ≤ 4 * triesLeft attempts 0 := by
  unfold Job.ahead triesLeft
  split <;> omega

theorem DeliveryPoint.ahead_le (attempts : Int) (x : DeliveryPoint) :
    x.ahead attempts ≤ 9 + 4 * triesLeft attempts 0 := by
  cases x <;> simp only [DeliveryPoint.ahead] <;> omega

theorem DeliveryPoint.ahead_of_running (attempts : Int) {x : DeliveryPoint} {id : String}
    (runs : x.running? = some id) : 0 < x.ahead attempts := by
  cases x with
  | jobAcquiring | jobPosting | settling => exact Nat.succ_pos _
  | _ => cases runs

theorem Pipeline.timed_ahead (P : Pipeline) (cdcEvent : SalesforceCDCEvent) (lead : SalesforceLead)
    (eventName : TikTokEventName) (eventSetId : Option String) (attempts : Int) :
    (P.timed cdcEvent lead eventName eventSetId).ahead attempts ≤ 8 + 4 * triesLeft attempts 0 := by
  obtain timing | ⟨eventTime, marking⟩ := P.timed_cases cdcEvent lead eventName eventSetId
  · rw [timing]
    exact Nat.le_refl _
  · rw [marking]
    simp only [DeliveryPoint.ahead]
    omega

theorem DeliveryWorld.ahead_addJob (attempts : Int) (w : DeliveryWorld) (jobId : String)
    (data : RetryJobData) : weight (Job.ahead attempts) (w.addJob jobId data).jobs ≤
      weight (Job.ahead attempts) w.jobs + 4 * triesLeft attempts 0 := by
  unfold DeliveryWorld.addJob
  split
  next => exact Nat.le_add_right _ _
  next absent =>
    rw [weight_insert_new absent]
    exact Nat.le_refl _

/-- Every answer is paid for by what is ahead of its call or its job. -/
theorem DeliveryTransition.pays {P : Pipeline} {x y : DeliveryPoint} {w v : DeliveryWorld}
    {r : DeliveryRecord} (t : DeliveryTransition P x w r y v) (carries : x.Carries w) :
    weight (Job.ahead P.env.TIKTOK_MAX_RETRIES) v.jobs + y.ahead P.env.TIKTOK_MAX_RETRIES + 1 ≤
      weight (Job.ahead P.env.TIKTOK_MAX_RETRIES) w.jobs + x.ahead P.env.TIKTOK_MAX_RETRIES := by
  cases t with
  | resolved =>
      have next := P.timed_ahead ‹_› ‹_› ‹_› ‹_› P.env.TIKTOK_MAX_RETRIES
      change _ ≤ _ + (9 + 4 * triesLeft P.env.TIKTOK_MAX_RETRIES 0)
      omega
  | markFailed lost effect =>
      have same : v.jobs = w.jobs := by
        obtain rfl | rfl := effect
        · rfl
        · rw [DeliveryWorld.setNx_frame]
      rw [same]
      simp only [DeliveryPoint.ahead]
      omega
  | duplicateLogFailed lost effect | pendingLogFailed lost effect | sentLogFailed lost effect
  | failedLogFailed lost effect =>
      obtain rfl | rfl := effect <;>
        simp only [DeliveryPoint.ahead, DeliveryWorld.insertLog, DeliveryWorld.updateLog] <;> omega
  | @enqueued d =>
      have added := w.ahead_addJob P.env.TIKTOK_MAX_RETRIES (RetryQueue.jobId d.payload)
        (RetryQueue.jobData d.payload)
      simp only [DeliveryPoint.ahead]
      omega
  | @enqueueFailed d _ _ _ _ _ lost effect =>
      obtain ⟨_, rfl⟩ | ⟨_, rfl⟩ := effect
      · simp only [DeliveryPoint.ahead]
        omega
      · have added := w.ahead_addJob P.env.TIKTOK_MAX_RETRIES (RetryQueue.jobId d.payload)
          (RetryQueue.jobData d.payload)
        simp only [DeliveryPoint.ahead]
        omega
  | taken picked =>
      obtain ⟨job, found, rfl, rfl⟩ := DeliveryWorld.takeJob_spec picked
      have moved := weight_insert (f := Job.ahead P.env.TIKTOK_MAX_RETRIES) found
        { job with state := .active }
      have waiting : job.ahead P.env.TIKTOK_MAX_RETRIES =
          4 * triesLeft P.env.TIKTOK_MAX_RETRIES job.attemptsMade := by
        obtain state | state := DeliveryWorld.takeJob_waiting picked found <;> simp [Job.ahead, state]
      have one : 1 ≤ triesLeft P.env.TIKTOK_MAX_RETRIES job.attemptsMade := Nat.le_max_left 1 _
      simp only [Job.ahead] at moved waiting ⊢
      simp only [DeliveryPoint.ahead]
      omega
  | @settled id succeeded =>
      obtain ⟨job, found, active, _⟩ := carries id rfl
      have moved := weight_insert (f := Job.ahead P.env.TIKTOK_MAX_RETRIES) found
        (job.settle P.env.TIKTOK_MAX_RETRIES succeeded)
      have left := job.ahead_settle P.env.TIKTOK_MAX_RETRIES succeeded
      have before : job.ahead P.env.TIKTOK_MAX_RETRIES =
          4 * (triesLeft P.env.TIKTOK_MAX_RETRIES job.attemptsMade - 1) := by
        simp [Job.ahead, active]
      simp only [DeliveryWorld.settleJob, found, DeliveryPoint.ahead]
      omega
  | _ =>
      simp only [DeliveryPoint.ahead, DeliveryWorld.insertLog, DeliveryWorld.updateLog]
      omega

/-! ## Picked jobs are run -/

def Manned (c : DeliveryConfig DeliveryPoint) : Prop :=
  ∀ id job, c.world.jobs.lookup id = some job → job.state = .active →
    ∃ (pid : Nat) (p : Proc DeliveryCall DeliveryPoint),
      c.procs[pid]? = some p ∧ p.state.running? = some id

/-- An active job is run by the call that got the answer, or was active before and is not
the one that this call ran. -/
theorem DeliveryTransition.active {P : Pipeline} {x y : DeliveryPoint} {w v : DeliveryWorld}
    {r : DeliveryRecord} (t : DeliveryTransition P x w r y v) {id : String} {job : Job}
    (found : v.jobs.lookup id = some job) (active : job.state = .active) :
    y.running? = some id ∨ x.running? ≠ some id ∧ w.jobs.lookup id = some job := by
  have unchanged (same : v.jobs = w.jobs) (idle : x.running? = none ∨ y.running? = x.running?) :
      y.running? = some id ∨ x.running? ≠ some id ∧ w.jobs.lookup id = some job := by
    rw [same] at found
    obtain idle | kept := idle
    · exact .inr ⟨by simp [idle], found⟩
    · by_cases here : x.running? = some id
      · exact .inl (kept.trans here)
      · exact .inr ⟨here, found⟩
  have added {jobId : String} {data : RetryJobData} (same : v = w.addJob jobId data) :
      w.jobs.lookup id = some job := by
    subst same
    obtain ⟨_, rfl⟩ | before := DeliveryWorld.addJob_cases found
    · cases active
    · exact before
  cases t with
  | markFailed lost effect =>
      obtain rfl | rfl := effect
      · exact unchanged rfl (.inl rfl)
      · exact unchanged (by rw [DeliveryWorld.setNx_frame]) (.inl rfl)
  | duplicateLogFailed lost effect | pendingLogFailed lost effect | sentLogFailed lost effect
  | failedLogFailed lost effect =>
      obtain rfl | rfl := effect <;> exact unchanged rfl (.inl rfl)
  | enqueued => exact .inr ⟨nofun, added rfl⟩
  | enqueueFailed lost effect =>
      obtain ⟨_, rfl⟩ | ⟨_, same⟩ := effect
      · exact unchanged rfl (.inl rfl)
      · exact .inr ⟨nofun, added same⟩
  | @taken jobId _ _ _ _ picked =>
      obtain ⟨before, there, rfl, rfl⟩ := DeliveryWorld.takeJob_spec picked
      obtain ⟨rfl, rfl⟩ | earlier := lookup_insert_cases found
      · exact .inl rfl
      · exact .inr ⟨nofun, earlier⟩
  | jobAcquired | jobNoToken | jobPosted | jobPostFailed => exact unchanged rfl (.inr rfl)
  | @settled jobId succeeded =>
      refine .inr ?_
      simp only [DeliveryWorld.settleJob] at found
      split at found
      next before there =>
        by_cases here : id = jobId
        · subst here
          rw [AList.lookup_insert] at found
          cases found
          exact absurd active (Job.settle_inactive _ before succeeded)
        · rw [AList.lookup_insert_ne here] at found
          exact ⟨fun same => here (Option.some.inj same).symm, found⟩
      next absent =>
        refine ⟨fun same => ?_, found⟩
        obtain rfl := Option.some.inj same
        rw [absent] at found
        cases found
  | _ => exact unchanged rfl (.inl rfl)

private theorem jobs_manned {P : Pipeline} {clock : Int} {c : DeliveryConfig DeliveryPoint}
    {actions : List DeliveryAction}
    (h : P.protocol.run (.initial (.fresh clock)) actions = some c) : Manned c := by
  refine protocol_invariant (fun _ => True) Manned ?_ ?_ ?_ h (fun _ _ => trivial) ?_
  · intro c call manned id job found active
    obtain ⟨pid, p, hp, runs⟩ := manned id job found active
    have bound := (List.getElem?_eq_some_iff.mp hp).choose
    exact ⟨pid, p, by simpa [List.getElem?_append_left bound] using hp, runs⟩
  · intro c pid p r y v manned hp _ t _ id job found active
    have bound := (List.getElem?_eq_some_iff.mp hp).choose
    obtain here | ⟨apart, before⟩ := t.active found active
    · exact ⟨pid, _, List.getElem?_set_self bound, here⟩
    · obtain ⟨q, p', hq, runs⟩ := manned id job before active
      have other : q ≠ pid := by
        rintro rfl
        obtain rfl : p = p' := Option.some.inj (hp.symm.trans hq)
        exact apart runs
      exact ⟨q, p', by rw [List.getElem?_set_ne (Ne.symm other)]; exact hq, runs⟩
  · intro c event v manned hv id job found active
    obtain ⟨elapsed, rfl⟩ | ⟨id', _, rfl⟩ := deliveryEnv_cases hv
    · exact manned id job found active
    · exact manned id job (lookup_of_erase found) active
  · intro id job found
    cases found

/-! ## The next answer -/

/-- What a call that has commands ahead awaits can be answered. -/
theorem DeliveryPoint.answers (P : Pipeline) {attempts : Int} {x : DeliveryPoint}
    (ahead : 0 < x.ahead attempts) (w : DeliveryWorld) :
    ∃ cmd resume choice reply v, x.view P = .awaits cmd resume ∧
      deliveryExec P.env cmd choice w = some (reply, v) := by
  cases x with
  | ended outcome | taking id => cases ahead
  | resolving => exact ⟨_, _, .eventSet "", _, _, rfl, rfl⟩
  | posting | jobPosting =>
      exact ⟨_, _, .fail { message := "" }, _, _, rfl, rfl⟩
  | _ => exact ⟨_, _, .ok, _, _, rfl, rfl⟩

/-- The action takes no message in. -/
def TakesNothingIn (a : DeliveryAction) : Prop :=
  ∀ cdcEvent lead, a ≠ .start (.process cdcEvent lead)

section

variable {P : Pipeline} {clock : Int} {c : DeliveryConfig DeliveryPoint}

/-- While anything is ahead, a call can be answered, or a worker be started for a job that waits. -/
theorem Pipeline.moves_on (manned : Manned c) (left : 0 < P.ahead c) :
    ∃ actions d, (∀ a ∈ actions, TakesNothingIn a) ∧ P.protocol.run c actions = some d ∧
      c.trace.length < d.trace.length := by
  by_cases waiting : 0 < System.total (fun p => p.state.ahead P.env.TIKTOK_MAX_RETRIES) c.procs
  · obtain ⟨pid, p, hp, ahead⟩ := System.exists_of_total_pos waiting
    obtain ⟨cmd, resume, choice, reply, v, hv, he⟩ := p.state.answers P ahead c.world
    exact ⟨[.resume pid choice], _, by simp [TakesNothingIn],
      System.run_step (System.step_answer hp hv he) rfl, by simp⟩
  · have stored : 0 < weight (Job.ahead P.env.TIKTOK_MAX_RETRIES) c.world.jobs := by
      unfold Pipeline.ahead at left
      omega
    obtain ⟨id, job, found, ahead⟩ := exists_of_weight_pos stored
    cases state : job.state with
    | waiting | delayed =>
        have started : P.protocol.step c (.start (.runJob id)) =
            some { c with procs := c.procs ++ [⟨.runJob id, .taking id⟩] } := rfl
        have taken : (deliveryRuntime P.env).exec (.takeJob id) .ok c.world = some (.ok job.data,
            { c.world with jobs := c.world.jobs.insert id { job with state := .active } }) := by
          simp [deliveryExec, DeliveryWorld.takeJob, found, state]
        have answered := System.step_answer (S := P.protocol)
          (c := { c with procs := c.procs ++ [⟨.runJob id, .taking id⟩] })
          List.getElem?_concat_length rfl taken
        exact ⟨[.start (.runJob id), .resume c.procs.length .ok], _, by simp [TakesNothingIn],
          System.run_step started (System.run_step answered rfl), by simp⟩
    | active =>
        obtain ⟨pid, p, hp, runs⟩ := manned id job found state
        have least := System.le_total hp fun p => p.state.ahead P.env.TIKTOK_MAX_RETRIES
        have busy := DeliveryPoint.ahead_of_running P.env.TIKTOK_MAX_RETRIES runs
        omega
    | completed | failed => simp [Job.ahead, state] at ahead

private theorem delivery_drains (P : Pipeline) (clock : Int) :
    P.protocol.Drains TakesNothingIn
      (fun c => ∃ taken, P.protocol.run (.initial (.fresh clock)) taken = some c) P.ahead where
  kept c a d reached _ hs := System.reached_step reached hs
  spends := by
    rintro c a d ⟨taken, h⟩ inside hs
    cases a with
    | start call =>
        obtain ⟨x, v, hl, rfl⟩ := System.step_start hs
        cases hl
        cases call with
        | process cdcEvent lead => exact absurd rfl (inside cdcEvent lead)
        | runJob id =>
            simp only [Pipeline.ahead, System.total_append, System.total, Pipeline.startPoint,
              DeliveryPoint.ahead]
            omega
    | resume pid choice =>
        obtain ⟨p, cmd, resume, reply, v, hp, hv, he, rfl⟩ := System.step_resume hs
        have paid := (DeliveryPoint.transition pid hv he).pays ((runs_alone h).carries pid p hp)
        have moved := System.total_answered hp
          (fun p => p.state.ahead P.env.TIKTOK_MAX_RETRIES) ⟨p.entry, resume reply⟩
        simp only [Pipeline.ahead, List.length_append, List.length_singleton] at moved ⊢
        omega
    | env event =>
        obtain ⟨v, hv, rfl⟩ := System.step_env hs
        obtain ⟨elapsed, rfl⟩ | ⟨id, job, found, finished, rfl⟩ := deliveryEnv_spec hv
        · exact Nat.le_refl _
        · have erased := weight_erase (f := Job.ahead P.env.TIKTOK_MAX_RETRIES) found
          simp only [Pipeline.ahead]
          omega
  moves := by
    rintro c ⟨taken, h⟩ left
    exact Pipeline.moves_on (jobs_manned h) left

end

/-! ## At rest -/

/-- Every call has ended or is a worker that waits for a job, and every job is finished. -/
structure Quiescent (P : Pipeline) (c : DeliveryConfig (DeliveryProg Unit)) : Prop where
  calls : ∀ (pid : Nat) p, c.procs[pid]? = some p →
    (∃ outcome, P.system.Ended c pid outcome) ∨ ∃ id, P.system.Awaits c pid (.takeJob id)
  jobs : ∀ id job, c.world.jobs.lookup id = some job → job.state = .completed ∨ job.state = .failed

private theorem quiescent_of_spent {P : Pipeline} {c : DeliveryConfig DeliveryPoint}
    (manned : Manned c)
    (spent : P.ahead c = 0) : Quiescent P (c.map (DeliveryPoint.program P)) := by
  have idle {pid : Nat} {p : Proc DeliveryCall DeliveryPoint} (hp : c.procs[pid]? = some p) :
      p.state.ahead P.env.TIKTOK_MAX_RETRIES = 0 := by
    have least := System.le_total hp fun p => p.state.ahead P.env.TIKTOK_MAX_RETRIES
    unfold Pipeline.ahead at spent
    omega
  refine ⟨fun pid p hp => ?_, fun id job found => ?_⟩
  · rw [Config.map_get] at hp
    obtain ⟨q, hq, rfl⟩ := Option.map_eq_some_iff.mp hp
    have none_ahead := idle hq
    cases point : q.state with
    | ended outcome =>
        refine .inl ⟨outcome, (protocol_refines P).ended.mpr ⟨q, hq, ?_⟩⟩
        rw [point]
        rfl
    | taking id =>
        have awaits : q.state.view P = DeliveryPoint.view P (.taking id) := by rw [point]
        exact .inr ⟨id, (protocol_refines P).awaits.mpr ⟨q, _, hq, awaits⟩⟩
    | _ =>
        rw [point] at none_ahead
        simp [DeliveryPoint.ahead] at none_ahead
  · have light := le_weight (f := Job.ahead P.env.TIKTOK_MAX_RETRIES) found
    have least : 1 ≤ triesLeft P.env.TIKTOK_MAX_RETRIES job.attemptsMade := Nat.le_max_left 1 _
    cases state : job.state with
    | waiting | delayed =>
        simp only [Job.ahead, state] at light
        unfold Pipeline.ahead at spent
        simp only [Config.map_world] at light
        omega
    | active =>
        obtain ⟨pid, p, hp, runs⟩ := manned id job found state
        have busy := DeliveryPoint.ahead_of_running P.env.TIKTOK_MAX_RETRIES runs
        have := idle hp
        omega
    | completed => exact .inl rfl
    | failed => exact .inr rfl

/-- When no more messages come in, delivery ends: whatever is answered, at most
`9 + 4 * runs` commands per call and `4 * runs` per job are left, where `runs` is the number of
runs of a job; and from wherever this leads, every call can be brought to its end and every
job be finished. -/
theorem delivery_quiesces {P : Pipeline} {clock : Int} {c d : DeliveryConfig (DeliveryProg Unit)}
    {actions later : List DeliveryAction} (h : P.system.run (.initial (.fresh clock)) actions = some c)
    (hd : P.system.run c later = some d) (closed : ∀ a ∈ later, TakesNothingIn a) :
    d.trace.length ≤ c.trace.length +
        (9 + 4 * triesLeft P.env.TIKTOK_MAX_RETRIES 0) * c.procs.length +
        4 * triesLeft P.env.TIKTOK_MAX_RETRIES 0 * c.world.jobs.entries.length ∧
      ∃ rest e, (∀ a ∈ rest, TakesNothingIn a) ∧ P.system.run d rest = some e ∧ Quiescent P e := by
  obtain ⟨c, hc, rfl⟩ := exists_protocol h
  obtain ⟨d, reaches, rfl⟩ := (protocol_refines P).lift hd
  have drains := delivery_drains P clock
  have reached := drains.run_kept reaches closed ⟨actions, hc⟩
  constructor
  · have paid := drains.run_spends reaches closed ⟨actions, hc⟩
    have calls := System.total_le
      (fun p => DeliveryPoint.ahead_le P.env.TIKTOK_MAX_RETRIES p.state) c.procs
    have jobs := weight_le (m := c.world.jobs) fun _ job _ =>
      Job.ahead_le P.env.TIKTOK_MAX_RETRIES job
    have pool : (c.map (DeliveryPoint.program P)).procs.length = c.procs.length := by
      simp [Config.map]
    simp only [Pipeline.ahead, Config.map_trace, Config.map_world, pool] at paid ⊢
    omega
  · obtain ⟨rest, e, inside, he, ⟨taken, reached'⟩, spent⟩ := drains.run_exhausts d reached
    refine ⟨rest, e.map (DeliveryPoint.program P), inside, ?_, ?_⟩
    · rw [(protocol_refines P).run, he]
      rfl
    · exact quiescent_of_spent (jobs_manned reached') spent

def queuedForWorker : List DeliveryAction := retriedByWorker.take 7

def takenByWorker : List DeliveryAction := (retriedByWorker.drop 7).take 3

theorem delivery_quiesces_queued :
    let d := Sample.pipeline.system.result (Sample.after queuedForWorker (by decide))
      takenByWorker (by decide)
    d.trace.length = 8 ∧ ∃ rest e, (∀ a ∈ rest, TakesNothingIn a) ∧
      Sample.pipeline.system.run d rest = some e ∧ Quiescent Sample.pipeline e := by
  intro d
  have taken : Sample.pipeline.system.run (Sample.after queuedForWorker (by decide))
      takenByWorker = some d := System.run_result _
  have closed : ∀ a ∈ takenByWorker, TakesNothingIn a := by
    simp [takenByWorker, retriedByWorker, TakesNothingIn]
  exact ⟨by decide, (delivery_quiesces (System.run_result (by decide)) taken closed).2⟩

end SalesforceTikTok
