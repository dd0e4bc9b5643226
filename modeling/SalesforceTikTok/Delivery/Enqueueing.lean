import SalesforceTikTok.Delivery.History

/-!
# Enqueued payloads

A call of `enqueuePayload` resolves with the id of its job whether the queue took the
payload in or retained a job under that id already. So what resolved is pending, or was
delivered, unless the retained job has failed or has other contents.
-/

namespace SalesforceTikTok

open Concurrency

/-! ## The queue alone -/

inductive QueueCall where
  | enqueue (payload : TikTokEventsPayload)
  | runJob (jobId : String)

namespace Pipeline

variable (P : Pipeline)

def queueProgram : QueueCall → DeliveryProg Unit
  | .enqueue payload => do
      let _ ← RetryQueue.enqueuePayload payload
  | .runJob id => RetryQueue.runJob P.env id

/-- Calls of `enqueuePayload` and runs of jobs, in any interleaving. -/
def queueSystem : System (deliveryRuntime P.env) Unit QueueCall (DeliveryProg Unit) where
  view := Prog.view
  launch call w := some (P.queueProgram call, w)

end Pipeline

abbrev QueueConfig (X : Type) :=
  Config DeliveryCmd DeliveryCmd.Reply JsError DeliveryWorld DeliveryChoice QueueCall X

abbrev QueueAction := Action QueueCall DeliveryChoice DeliveryEvent

def JobState.isPending : JobState → Bool
  | .waiting | .delayed | .active => true
  | .completed | .failed => false

def DeliveryWorld.Pending (w : DeliveryWorld) (payload : TikTokEventsPayload) : Prop :=
  ∃ id job, w.jobs.lookup id = some job ∧ job.data.payload = payload ∧ job.state.isPending = true

/-- A `sendEvents` for these events resolves. -/
def DeliveryStep.accepts (eventIds : List String) : DeliveryStep → Bool
  | .accepted sent => sent.eventIds = eventIds
  | _ => false

/-- A `sendEvents` for the events of this payload has resolved; here only the worker sends. -/
def DeliveredFor (trace : List DeliveryRecord) (payload : TikTokEventsPayload) : Prop :=
  ∃ s ∈ deliverySteps trace, s.accepts payload.eventIds = true

instance (trace : List DeliveryRecord) (payload : TikTokEventsPayload) :
    Decidable (DeliveredFor trace payload) :=
  inferInstanceAs (Decidable (∃ s ∈ _, _))

def EnqueueResolves (P : Pipeline) (payload : TikTokEventsPayload) (act : QueueAction)
    (d : QueueConfig (DeliveryProg Unit)) : Prop :=
  ∃ pid choice, act = .resume pid choice ∧ d.entries[pid]? = some (.enqueue payload) ∧
    P.queueSystem.Ended d pid (.ok ())

/-- A payload whose call resolves is pending, or its events were delivered. -/
def EnqueuedPending (P : Pipeline) (_ : QueueConfig (DeliveryProg Unit)) (act : QueueAction)
    (d : QueueConfig (DeliveryProg Unit)) : Prop :=
  ∀ payload, EnqueueResolves P payload act d →
    d.world.Pending payload ∨ DeliveredFor d.trace payload

/-- A retained job that keeps this payload out of the queue and need not have delivered its
events: it failed for good, or has another payload or other events. -/
def Job.bars (job : Job) (payload : TikTokEventsPayload) : Prop :=
  match job.state with
  | .waiting | .delayed | .active => job.data.payload ≠ payload
  | .completed => job.data.payload.eventIds ≠ payload.eventIds
  | .failed => True

/-- Where the queue answers the call for a payload, it retains no job that bars it, or the
worker has delivered its events before. -/
def Admitted (b : QueueConfig (DeliveryProg Unit)) (act : QueueAction)
    (_ : QueueConfig (DeliveryProg Unit)) : Prop :=
  ∀ pid payload, act = .resume pid .ok → b.entries[pid]? = some (.enqueue payload) →
    ∀ job, b.world.jobs.lookup (RetryQueue.jobId payload) = some job → job.bars payload →
      DeliveredFor b.trace payload

/-! ## The points -/

/-- Where a call on the queue is suspended: at its `add`, or where a run of a job is. -/
inductive QueuePoint where
  | enqueueing (payload : TikTokEventsPayload)
  | job (x : DeliveryPoint)

namespace QueuePoint

def view (P : Pipeline) : QueuePoint → View DeliveryCmd DeliveryCmd.Reply JsError Unit QueuePoint
  | .enqueueing payload =>
      .awaits (.addJob (RetryQueue.jobId payload) (RetryQueue.jobData payload)) fun
        | .ok _ => .job (.ended (.ok ()))
        | .error error => .job (.ended (.error error))
  | .job x => (x.view P).map .job

def program (P : Pipeline) : QueuePoint → DeliveryProg Unit
  | .enqueueing payload => P.queueProgram (.enqueue payload)
  | .job x => x.program P

end QueuePoint

def Pipeline.queuePoint : QueueCall → QueuePoint
  | .enqueue payload => .enqueueing payload
  | .runJob id => .job (.taking id)

def Pipeline.queueProtocol (P : Pipeline) :
    System (deliveryRuntime P.env) Unit QueueCall QueuePoint where
  view := QueuePoint.view P
  launch call w := some (Pipeline.queuePoint call, w)

theorem QueuePoint.view_program (P : Pipeline) (x : QueuePoint) :
    (x.program P).view = (x.view P).map (QueuePoint.program P) := by
  cases x with
  | enqueueing payload => exact View.awaits_ext (fun _ => rfl) fun _ => rfl
  | job x =>
      show (x.program P).view = _
      rw [x.view_program P, QueuePoint.view]
      cases x.view P <;> rfl

private theorem queue_refines (P : Pipeline) :
    Refines P.queueProtocol P.queueSystem (QueuePoint.program P) where
  view := QueuePoint.view_program P
  launch call w := by cases call <;> rfl

/-- `QueueTransition P x w r y v`: at point `x` in world `w` the answer `r` leads to point `y` in
world `v`. -/
inductive QueueTransition (P : Pipeline) :
    QueuePoint → DeliveryWorld → DeliveryRecord → QueuePoint → DeliveryWorld → Prop where
  | enqueued {payload w pid} :
      QueueTransition P (.enqueueing payload) w
        ⟨pid, .addJob (RetryQueue.jobId payload) (RetryQueue.jobData payload), .ok,
          .ok (RetryQueue.jobId payload)⟩
        (.job (.ended (.ok ())))
        (w.addJob (RetryQueue.jobId payload) (RetryQueue.jobData payload))
  | enqueueFailed {payload w pid choice error v} (lost : choice ≠ .ok)
      (effect : v = w ∨ v = w.addJob (RetryQueue.jobId payload) (RetryQueue.jobData payload)) :
      QueueTransition P (.enqueueing payload) w
        ⟨pid, .addJob (RetryQueue.jobId payload) (RetryQueue.jobData payload), choice,
          .error error⟩
        (.job (.ended (.error error))) v
  | ran {x w r y v} (t : DeliveryTransition P x w r y v) : QueueTransition P (.job x) w r (.job y) v

theorem QueuePoint.transition {P : Pipeline} {x : QueuePoint} {cmd : DeliveryCmd}
    {resume : Except JsError cmd.Reply → QueuePoint} {choice : DeliveryChoice} {w v : DeliveryWorld}
    {reply : Except JsError cmd.Reply} (pid : Nat) (hv : x.view P = .awaits cmd resume)
    (he : deliveryExec P.env cmd choice w = some (reply, v)) :
    QueueTransition P x w ⟨pid, cmd, choice, reply⟩ (resume reply) v := by
  cases x with
  | enqueueing payload =>
      cases hv
      obtain ⟨rfl, hr⟩ | ⟨error, rfl, ⟨rfl, rfl⟩ | ⟨rfl, rfl⟩⟩ := faulty_cases he
      · cases hr
        exact .enqueued
      · exact .enqueueFailed (by simp) (.inl rfl)
      · exact .enqueueFailed (by simp) (.inr rfl)
  | job x =>
      cases shown : x.view P with
      | ended outcome =>
          rw [view, shown] at hv
          cases hv
      | awaits cmd' resume' =>
          rw [view, shown] at hv
          cases hv
          exact .ran (DeliveryPoint.transition pid shown he)

/-! ## What a run keeps -/

def QueuePoint.running : QueuePoint → Option String
  | .job (.jobAcquiring id _) | .job (.jobPosting id _ _) | .job (.settling id _) => some id
  | _ => none

/-- The job of a run is active, with the data that the run was given; what a successful run
settles was delivered. -/
def QueuePoint.Runs (w : DeliveryWorld) (trace : List DeliveryRecord) : QueuePoint → Prop
  | .enqueueing _ | .job (.taking _) | .job (.ended _) => True
  | .job (.jobAcquiring id data) | .job (.jobPosting id data _) =>
      ∃ job, w.jobs.lookup id = some job ∧ job.state = .active ∧ job.data = data
  | .job (.settling id succeeded) =>
      ∃ job, w.jobs.lookup id = some job ∧ job.state = .active ∧
        (succeeded = true → DeliveredFor trace job.data.payload)
  | _ => False

structure QueueKept (c : QueueConfig QueuePoint) : Prop where
  /-- A job is kept under the id of its payload. -/
  named : ∀ id job, c.world.jobs.lookup id = some job → RetryQueue.jobId job.data.payload = id
  delivered : ∀ id job, c.world.jobs.lookup id = some job → job.state = .completed →
    DeliveredFor c.trace job.data.payload
  called : ∀ p ∈ c.procs, ∀ payload, p.entry = .enqueue payload →
    p.state = .enqueueing payload ∨ ∃ outcome, p.state = .job (.ended outcome)
  runs : ∀ p ∈ c.procs, p.state.Runs c.world c.trace
  /-- No two calls run one job. -/
  alone : ∀ (i j : Nat) (p q : Proc QueueCall QueuePoint) (id : String), c.procs[i]? = some p →
    c.procs[j]? = some q → p.state.running = some id → q.state.running = some id → i = j

theorem DeliveredFor.append {trace : List DeliveryRecord} {payload : TikTokEventsPayload}
    (h : DeliveredFor trace payload) (r : DeliveryRecord) :
    DeliveredFor (trace ++ [r]) payload := by
  obtain ⟨s, step, accepted⟩ := h
  rw [DeliveredFor, deliverySteps_append]
  exact ⟨s, List.mem_append_left _ step, accepted⟩

theorem DeliveredFor.of_append {trace : List DeliveryRecord} {payload : TikTokEventsPayload}
    {r : DeliveryRecord} (h : DeliveredFor (trace ++ [r]) payload)
    (quiet : ∀ s, deliveryStep r = some s → s.accepts payload.eventIds = false) :
    DeliveredFor trace payload := by
  obtain ⟨s, step, accepted⟩ := h
  rw [deliverySteps_append, deliverySteps_single, List.mem_append, Option.mem_toList] at step
  obtain earlier | last := step
  · exact ⟨s, earlier, accepted⟩
  · rw [quiet s last] at accepted
    cases accepted

section

variable {P : Pipeline} {c : QueueConfig QueuePoint} {x : QueuePoint} {w v : DeliveryWorld}
  {trace : List DeliveryRecord} {r : DeliveryRecord}

theorem QueuePoint.Runs.kept {trace' : List DeliveryRecord} (h : x.Runs w trace)
    (same : ∀ id, x.running = some id → v.jobs.lookup id = w.jobs.lookup id)
    (longer : ∀ payload, DeliveredFor trace payload → DeliveredFor trace' payload) :
    x.Runs v trace' := by
  cases x with
  | enqueueing payload => trivial
  | job x =>
      cases x with
      | taking | ended => trivial
      | jobAcquiring id data | jobPosting id data accessToken =>
          obtain ⟨job, found, active, data⟩ := h
          exact ⟨job, by rw [same id rfl, found], active, data⟩
      | settling id succeeded =>
          obtain ⟨job, found, active, delivered⟩ := h
          exact ⟨job, by rw [same id rfl, found], active, fun done => longer _ (delivered done)⟩
      | _ => exact h.elim

theorem QueuePoint.Runs.active (h : x.Runs w trace) {id : String} (running : x.running = some id) :
    ∃ job, w.jobs.lookup id = some job ∧ job.state = .active := by
  cases x with
  | enqueueing payload => cases running
  | job x =>
      cases x with
      | jobAcquiring id data | jobPosting id data accessToken | settling id succeeded =>
          cases running
          obtain ⟨job, found, active, _⟩ := h
          exact ⟨job, found, active⟩
      | _ => cases running

/-- An answer that leaves the jobs of the other runs alone. -/
theorem QueueKept.answered (h : QueueKept c) {pid : Nat} {p : Proc QueueCall QueuePoint}
    (hp : c.procs[pid]? = some p) {y : QueuePoint}
    (named : ∀ id job, v.jobs.lookup id = some job → RetryQueue.jobId job.data.payload = id)
    (delivered : ∀ id job, v.jobs.lookup id = some job → job.state = .completed →
      DeliveredFor (c.trace ++ [r]) job.data.payload)
    (called : ∀ payload, p.entry = .enqueue payload → ∃ outcome, y = .job (.ended outcome))
    (runs : y.Runs v (c.trace ++ [r]))
    (others : ∀ (q : Nat) (other : Proc QueueCall QueuePoint) (id : String), q ≠ pid →
      c.procs[q]? = some other → other.state.running = some id →
        y.running ≠ some id ∧ v.jobs.lookup id = c.world.jobs.lookup id) :
    QueueKept ⟨v, c.procs.set pid ⟨p.entry, y⟩, c.trace ++ [r]⟩ where
  named := named
  delivered := delivered
  called := by
    intro q hq payload entry
    obtain ⟨i, hi⟩ := List.getElem?_of_mem hq
    obtain ⟨rfl, rfl⟩ | ⟨_, hi⟩ := System.get_answered hi
    · exact .inr (called payload entry)
    · exact h.called q (List.mem_of_getElem? hi) payload entry
  runs := by
    intro q hq
    obtain ⟨i, hi⟩ := List.getElem?_of_mem hq
    obtain ⟨rfl, rfl⟩ | ⟨other, hi⟩ := System.get_answered hi
    · exact runs
    · exact (h.runs q (List.mem_of_getElem? hi)).kept
        (fun id running => (others i q id other hi running).2) fun _ sent => sent.append r
  alone := by
    intro i j p' q' id hi hj runsI runsJ
    obtain ⟨rfl, rfl⟩ | ⟨otherI, oldI⟩ := System.get_answered hi
    · obtain ⟨rfl, rfl⟩ | ⟨otherJ, oldJ⟩ := System.get_answered hj
      · rfl
      · exact absurd runsI (others j q' id otherJ oldJ runsJ).1
    · obtain ⟨rfl, rfl⟩ | ⟨otherJ, oldJ⟩ := System.get_answered hj
      · exact absurd runsJ (others i p' id otherI oldI runsI).1
      · exact h.alone i j p' q' id oldI oldJ runsI runsJ

theorem QueueKept.enqueued (h : QueueKept c) {pid : Nat} {p : Proc QueueCall QueuePoint}
    (hp : c.procs[pid]? = some p) {payload : TikTokEventsPayload} (outcome : Except JsError Unit)
    (effect : v = c.world ∨
      v = c.world.addJob (RetryQueue.jobId payload) (RetryQueue.jobData payload)) :
    QueueKept ⟨v, c.procs.set pid ⟨p.entry, .job (.ended outcome)⟩, c.trace ++ [r]⟩ := by
  have found_cases : ∀ id job, v.jobs.lookup id = some job →
      id = RetryQueue.jobId payload ∧ job = ⟨RetryQueue.jobData payload, .waiting, 0⟩ ∨
        c.world.jobs.lookup id = some job := by
    intro id job found
    rcases effect with rfl | rfl
    · exact .inr found
    · exact DeliveryWorld.addJob_cases found
  refine h.answered hp ?_ ?_ (fun _ _ => ⟨outcome, rfl⟩) trivial ?_
  · intro id job found
    obtain ⟨rfl, rfl⟩ | earlier := found_cases id job found
    · rfl
    · exact h.named id job earlier
  · intro id job found completed
    obtain ⟨rfl, rfl⟩ | earlier := found_cases id job found
    · cases completed
    · exact (h.delivered id job earlier completed).append r
  · intro q other id _ hq running
    refine ⟨fun ended => (by cases ended), ?_⟩
    obtain ⟨job, found, _⟩ := (h.runs other (List.mem_of_getElem? hq)).active running
    rcases effect with rfl | rfl
    · rfl
    · rw [found, DeliveryWorld.addJob_keeps found]

theorem QueueKept.went_on (h : QueueKept c) {pid : Nat} {p : Proc QueueCall QueuePoint}
    (hp : c.procs[pid]? = some p) {y : QueuePoint} (same : y.running = p.state.running)
    (called : ∀ payload, p.entry = .enqueue payload → ∃ outcome, y = .job (.ended outcome))
    (runs : y.Runs c.world (c.trace ++ [r])) :
    QueueKept ⟨c.world, c.procs.set pid ⟨p.entry, y⟩, c.trace ++ [r]⟩ := by
  refine h.answered hp h.named (fun id job found completed => ?_) called runs
    fun q other id apart hq running => ⟨fun mine => ?_, rfl⟩
  · exact (h.delivered id job found completed).append r
  · exact apart (h.alone q pid other p id hq hp running (same.symm.trans mine))

theorem QueueKept.replaced (h : QueueKept c) {pid : Nat} {p : Proc QueueCall QueuePoint}
    (hp : c.procs[pid]? = some p) {y : QueuePoint} {id : String} {job job' : Job}
    (found : c.world.jobs.lookup id = some job) (data : job'.data = job.data)
    (put : v.jobs = c.world.jobs.insert id job')
    (delivered : job'.state = .completed → DeliveredFor (c.trace ++ [r]) job.data.payload)
    (called : ∀ payload, p.entry = .enqueue payload → ∃ outcome, y = .job (.ended outcome))
    (runs : y.Runs v (c.trace ++ [r])) (mine : ∀ id', y.running = some id' → id' = id)
    (free : ∀ (q : Nat) (other : Proc QueueCall QueuePoint), q ≠ pid → c.procs[q]? = some other →
      other.state.running ≠ some id) :
    QueueKept ⟨v, c.procs.set pid ⟨p.entry, y⟩, c.trace ++ [r]⟩ := by
  refine h.answered hp ?_ ?_ called runs ?_
  · intro id' job'' found'
    rw [put] at found'
    obtain ⟨rfl, rfl⟩ | earlier := Storage.lookup_insert_cases found'
    · rw [data]
      exact h.named _ job found
    · exact h.named id' job'' earlier
  · intro id' job'' found' completed
    rw [put] at found'
    obtain ⟨rfl, rfl⟩ | earlier := Storage.lookup_insert_cases found'
    · rw [data]
      exact delivered completed
    · exact (h.delivered id' job'' earlier completed).append r
  · intro q other id' apart hq running
    have different : id' ≠ id := by
      rintro rfl
      exact free q other apart hq running
    rw [put]
    exact ⟨fun same => different (mine id' same), AList.lookup_insert_ne different⟩

theorem QueueKept.waits (h : QueueKept c) {id : String} {job : Job}
    (found : c.world.jobs.lookup id = some job) (inactive : job.state ≠ .active)
    {p : Proc QueueCall QueuePoint} (hp : p ∈ c.procs) : p.state.running ≠ some id := by
  intro running
  obtain ⟨job', found', active⟩ := (h.runs p hp).active running
  obtain rfl : job = job' := Option.some.inj (found.symm.trans found')
  exact inactive active

theorem QueueKept.ran (h : QueueKept c) {pid : Nat} {p : Proc QueueCall QueuePoint}
    (hp : c.procs[pid]? = some p) {x y : DeliveryPoint} (state : p.state = .job x)
    (t : DeliveryTransition P x c.world r y v) :
    QueueKept ⟨v, c.procs.set pid ⟨p.entry, .job y⟩, c.trace ++ [r]⟩ := by
  have member := List.mem_of_getElem? hp
  have called : ∀ payload, p.entry = .enqueue payload →
      ∃ outcome, QueuePoint.job y = .job (.ended outcome) := by
    intro payload entry
    obtain enqueueing | ⟨outcome, ended⟩ := h.called p member payload entry
    · rw [state] at enqueueing
      cases enqueueing
    · rw [state] at ended
      cases ended
      cases t
  have runs := h.runs p member
  rw [state] at runs
  cases t with
  | @taken id _ _ data _ picked =>
      obtain ⟨job, found, rfl, rfl⟩ := DeliveryWorld.takeJob_spec picked
      have inactive : job.state ≠ .active := by
        intro active
        have waits := DeliveryWorld.takeJob_waiting picked found
        rw [active] at waits
        simp at waits
      have data : ({ job with state := .active } : Job).data = job.data := rfl
      refine h.replaced hp found data rfl (fun completed => by cases completed) called
        ⟨_, AList.lookup_insert _, rfl, rfl⟩ (fun id' same => (Option.some.inj same).symm)
        fun q other _ hq => ?_
      exact h.waits found inactive (List.mem_of_getElem? hq)
  | jobAcquired token => exact h.went_on hp (by rw [state]; rfl) called runs
  | jobNoToken token | jobPostFailed =>
      obtain ⟨job, found, active, _⟩ := runs
      refine h.went_on hp (by rw [state]; rfl) called
        ⟨job, found, active, fun done => by cases done⟩
  | @jobPosted id data _ _ _ _ response =>
      obtain ⟨job, found, active, rfl⟩ := runs
      refine h.went_on hp (by rw [state]; rfl) called ⟨job, found, active, fun done => ?_⟩
      rw [DeliveredFor, deliverySteps_append, deliverySteps_single]
      refine ⟨.accepted job.data.payload, List.mem_append_right _ ?_, decide_eq_true rfl⟩
      simp [deliveryStep, of_decide_eq_true done]
  | @settled id succeeded =>
      obtain ⟨job, found, active, sent⟩ := runs
      have settled : (c.world.settleJob P.env.TIKTOK_MAX_RETRIES id succeeded).jobs =
          c.world.jobs.insert id (job.settle P.env.TIKTOK_MAX_RETRIES succeeded) := by
        simp [DeliveryWorld.settleJob, found]
      refine h.replaced hp found (Job.settle_data ..) settled (fun completed => ?_) called trivial
        (fun id' same => by cases same) fun q other apart hq running => ?_
      · exact (sent (Job.settle_completed completed)).append _
      · exact apart (h.alone q pid other p id hq hp running (by rw [state]; rfl))
  | _ => exact runs.elim

theorem QueueKept.moved (h : QueueKept c) {event : DeliveryEvent}
    (moved : deliveryEnv event c.world = some v) : QueueKept { c with world := v } := by
  obtain ⟨elapsed, rfl⟩ | ⟨gone, job, found, finished, rfl⟩ := deliveryEnv_spec moved
  · refine ⟨h.named, h.delivered, h.called, fun p hp => ?_, h.alone⟩
    exact (h.runs p hp).kept (fun _ _ => rfl) fun _ sent => sent
  · refine ⟨fun id job' there => h.named id job' (Storage.lookup_of_erase there),
      fun id job' there => h.delivered id job' (Storage.lookup_of_erase there), h.called,
      fun p hp => ?_, h.alone⟩
    refine (h.runs p hp).kept (fun id running => AList.lookup_erase_ne ?_) fun _ sent => sent
    rintro rfl
    obtain ⟨job', there, active⟩ := (h.runs p hp).active running
    obtain rfl : job = job' := Option.some.inj (found.symm.trans there)
    rw [active] at finished
    simp at finished

theorem QueueKept.initial (clock : Int) : QueueKept (.initial (.fresh clock)) where
  named id job found := by cases found
  delivered id job found := by cases found
  called p hp := by cases hp
  runs p hp := by cases hp
  alone i j p q id hi := by cases hi

theorem QueueKept.started (h : QueueKept c) (call : QueueCall) :
    QueueKept { c with procs := c.procs ++ [⟨call, Pipeline.queuePoint call⟩] } where
  named := h.named
  delivered := h.delivered
  called := by
    intro p hp payload entry
    obtain hp | hp := List.mem_append.mp hp
    · exact h.called p hp payload entry
    · obtain rfl := List.mem_singleton.mp hp
      cases entry
      exact .inl rfl
  runs := by
    intro p hp
    obtain hp | hp := List.mem_append.mp hp
    · exact h.runs p hp
    · obtain rfl := List.mem_singleton.mp hp
      cases call <;> trivial
  alone := by
    have fresh : (Pipeline.queuePoint call).running = none := by cases call <;> rfl
    intro i j p q id hi hj runsI runsJ
    obtain oldI | ⟨_, rfl⟩ := System.get_started hi
    · obtain oldJ | ⟨_, rfl⟩ := System.get_started hj
      · exact h.alone i j p q id oldI oldJ runsI runsJ
      · rw [fresh] at runsJ
        cases runsJ
    · rw [fresh] at runsI
      cases runsI

theorem QueueKept.step (h : QueueKept c) {act : QueueAction} {d : QueueConfig QueuePoint}
    (hs : P.queueProtocol.step c act = some d) : QueueKept d := by
  cases act with
  | start call =>
      obtain ⟨x, v, hl, rfl⟩ := System.step_start hs
      cases hl
      exact h.started call
  | resume pid choice =>
      obtain ⟨⟨entry, state⟩, cmd, resume, reply, v, hp, hv, he, rfl⟩ := System.step_resume hs
      have t := QueuePoint.transition pid hv he
      generalize resume reply = y at t ⊢
      generalize (⟨pid, cmd, choice, reply⟩ : DeliveryRecord) = r at t ⊢
      dsimp only at t
      cases t with
      | enqueued => exact h.enqueued hp _ (.inr rfl)
      | enqueueFailed lost effect => exact h.enqueued hp _ effect
      | ran t => exact h.ran hp rfl t
  | env event =>
      obtain ⟨v, moved, rfl⟩ := System.step_env hs
      exact h.moved moved

end

section

variable {P : Pipeline} {b d : QueueConfig QueuePoint}

private theorem entry_of_map {pid : Nat} {p : Proc QueueCall QueuePoint}
    (hp : b.procs[pid]? = some p)
    {call : QueueCall} : (b.map (QueuePoint.program P)).entries[pid]? = some call ↔
      p.entry = call := by
  simp [Config.entries, Config.map, hp]

/-- A retained job that does not bar the payload carries it, or has delivered its events. -/
theorem Job.bars_cases (job : Job) (payload : TikTokEventsPayload) : job.bars payload ∨
    (job.state.isPending = true ∧ job.data.payload = payload) ∨
      (job.state = .completed ∧ job.data.payload.eventIds = payload.eventIds) := by
  obtain ⟨data, state, attemptsMade⟩ := job
  cases state with
  | waiting | delayed | active =>
      by_cases same : data.payload = payload
      · exact .inr (.inl ⟨rfl, same⟩)
      · exact .inl same
  | completed =>
      by_cases same : data.payload.eventIds = payload.eventIds
      · exact .inr (.inr ⟨rfl, same⟩)
      · exact .inl same
  | failed => exact .inl trivial

theorem Job.not_bars {job : Job} (pending : job.state.isPending = true) :
    ¬ job.bars job.data.payload := by
  obtain ⟨data, state, attemptsMade⟩ := job
  cases state with
  | waiting | delayed | active => exact fun bars => bars rfl
  | completed | failed => cases pending

/-- After the `add` of a payload it is pending, or was delivered, exactly if no retained job bars
it before its events are delivered. -/
theorem QueueKept.admits (h : QueueKept b) (payload : TikTokEventsPayload) :
    (b.world.addJob (RetryQueue.jobId payload) (RetryQueue.jobData payload)).Pending payload ∨
        DeliveredFor b.trace payload ↔
      ∀ job, b.world.jobs.lookup (RetryQueue.jobId payload) = some job → job.bars payload →
        DeliveredFor b.trace payload := by
  unfold DeliveryWorld.addJob
  cases found : b.world.jobs.lookup (RetryQueue.jobId payload) with
  | none =>
      refine iff_of_true (.inl ⟨_, _, AList.lookup_insert _, rfl, rfl⟩) fun job none => ?_
      cases none
  | some job =>
      constructor
      · rintro (⟨id, job', found', rfl, pending⟩ | delivered) retained same bars
        · obtain rfl := h.named id job' found'
          obtain rfl : job = job' := Option.some.inj (found.symm.trans found')
          obtain rfl : job = retained := Option.some.inj same
          exact absurd bars (Job.not_bars pending)
        · exact delivered
      · intro admitted
        obtain bars | ⟨pending, same⟩ | ⟨completed, same⟩ := job.bars_cases payload
        · exact .inr (admitted job rfl bars)
        · exact .inl ⟨_, job, found, same, pending⟩
        · rw [DeliveredFor, ← same]
          exact .inr (h.delivered _ job found completed)

private theorem resolves_iff {pid : Nat} {choice : DeliveryChoice} {p : Proc QueueCall QueuePoint}
    (hp : d.procs[pid]? = some p) {payload : TikTokEventsPayload} :
    EnqueueResolves P payload (.resume pid choice) (d.map (QueuePoint.program P)) ↔
      p.entry = .enqueue payload ∧ p.state.view P = .ended (.ok ()) := by
  constructor
  · rintro ⟨pid', choice', same, entry, ended⟩
    cases same
    exact ⟨(entry_of_map hp).mp entry, ((queue_refines P).ended.mp ended).view_eq hp⟩
  · rintro ⟨entry, ended⟩
    exact ⟨pid, choice, rfl, (entry_of_map hp).mpr entry,
      (queue_refines P).ended.mpr ⟨p, hp, ended⟩⟩

/-- A step keeps its resolved payloads pending exactly if the queue admits them. -/
theorem QueueKept.admitted_iff (h : QueueKept b) {act : QueueAction}
    (hs : P.queueProtocol.step b act = some d) :
    EnqueuedPending P (b.map (QueuePoint.program P)) act (d.map (QueuePoint.program P)) ↔
      Admitted (b.map (QueuePoint.program P)) act (d.map (QueuePoint.program P)) := by
  cases act with
  | start call | env event =>
      refine iff_of_true ?_ fun pid payload same => by cases same
      rintro payload ⟨pid, choice, same, _⟩
      cases same
  | resume pid choice =>
      obtain ⟨⟨entry, state⟩, cmd, resume, reply, v, hp, hv, he, rfl⟩ := System.step_resume hs
      have t := QueuePoint.transition pid hv he
      have called := h.called _ (List.mem_of_getElem? hp)
      have bound := (List.getElem?_eq_some_iff.mp hp).choose
      have now : (b.procs.set pid ⟨entry, resume reply⟩)[pid]? = some ⟨entry, resume reply⟩ :=
        List.getElem?_set_self bound
      generalize resume reply = y at t now ⊢
      dsimp only at t called
      cases t with
      | @enqueued asked =>
          have own {payload : TikTokEventsPayload} (entered : entry = .enqueue payload) :
              payload = asked := by
            obtain same | ⟨_, ended⟩ := called payload entered
            · cases same
              rfl
            · cases ended
          have delivered : DeliveredFor (b.trace ++ [⟨pid, .addJob (RetryQueue.jobId asked)
              (RetryQueue.jobData asked), .ok, .ok (RetryQueue.jobId asked)⟩]) asked ↔
                DeliveredFor b.trace asked :=
            ⟨fun sent => sent.of_append (by simp [deliveryStep, DeliveryStep.accepts]),
              fun sent => sent.append _⟩
          constructor
          · intro pending pid' payload same entered job found bars
            cases same
            have entered : entry = .enqueue payload := (entry_of_map hp).mp entered
            obtain rfl := own entered
            have resolved := pending payload ((resolves_iff now).mpr ⟨entered, rfl⟩)
            exact (h.admits payload).mp (resolved.imp_right delivered.mp) job found bars
          · intro admitted payload resolved
            have entered := ((resolves_iff now).mp resolved).1
            obtain rfl := own entered
            refine ((h.admits payload).mpr fun job found bars => ?_).imp_right delivered.mpr
            exact admitted pid payload rfl ((entry_of_map hp).mpr entered) job found bars
      | enqueueFailed lost effect =>
          refine iff_of_true (fun payload resolved => ?_) fun pid' payload same => ?_
          · cases ((resolves_iff now).mp resolved).2
          · cases same
            exact absurd rfl lost
      | ran t =>
          have other (payload : TikTokEventsPayload) : entry ≠ .enqueue payload := by
            intro entered
            obtain same | ⟨_, ended⟩ := called payload entered
            · cases same
            · cases ended
              cases t
          refine iff_of_true (fun payload resolved => ?_) fun pid' payload same entered => ?_
          · exact absurd ((resolves_iff now).mp resolved).1 (other payload)
          · cases same
            exact absurd ((entry_of_map hp).mp entered) (other payload)

end

/-- From freshly installed stores: every payload whose call of `enqueuePayload` resolves is
pending or was delivered, exactly in the runs in which the queue retains no job that bars it. -/
theorem enqueued_pending_iff (P : Pipeline) (clock : Int) (actions : List QueueAction) :
    P.queueSystem.Along (EnqueuedPending P) (.initial (.fresh clock)) actions ↔
      P.queueSystem.Along Admitted (.initial (.fresh clock)) actions := by
  have refines := queue_refines P
  refine (refines.along (c := .initial (.fresh clock))).trans
    (Iff.trans ?_ (refines.along (c := .initial (.fresh clock))).symm)
  exact System.along_congr QueueKept (fun b act d h hs => h.step hs)
    (fun b act d h hs => h.admitted_iff hs) (.initial clock)

/-! ## A job that failed for good -/

namespace Sample

def singleAttempt : Pipeline :=
  { pipeline with env := { pipeline.env with TIKTOK_MAX_RETRIES := 1 } }

/-- The only attempt of the job fails, and the payload is enqueued again. -/
def abandoned : List QueueAction :=
  [.start (.enqueue delivery.payload), .resume 0 .ok, .start (.runJob delivery.eventId),
    .resume 1 .ok, .resume 1 .ok, .resume 1 (.fail lostConnection), .resume 1 .ok,
    .start (.enqueue delivery.payload)]

end Sample

/-- The queue retains the failed job: the call resolves, and the payload is neither pending nor
delivered. -/
theorem failed_payload_not_pending :
    ¬ Sample.singleAttempt.queueSystem.Along (EnqueuedPending Sample.singleAttempt)
      (.initial (.fresh 0)) (Sample.abandoned ++ [.resume 2 .ok]) := by
  intro along
  let S := Sample.singleAttempt.queueSystem
  let d := S.result (.initial (.fresh 0)) Sample.abandoned (by decide)
  let last := S.result d [.resume 2 .ok] (by decide)
  have reached : S.run d [.resume 2 .ok] = some last := System.run_result _
  obtain ⟨e, hs, done⟩ := System.run_cons reached
  have same : e = last := Option.some.inj done
  rw [same] at hs
  have resolved : EnqueueResolves Sample.singleAttempt Sample.delivery.payload (.resume 2 .ok)
      last := ⟨2, .ok, rfl, rfl, _, rfl, rfl⟩
  obtain ⟨id, job, found, _, pending⟩ | delivered :=
    ((along.of_append (System.run_result (by decide))).2 last hs).1 _ resolved
  · have finished : ∀ id job, last.world.jobs.lookup id = some job → job.state.isPending = false :=
      Storage.forall_entries.mp (by decide)
    rw [finished id job found] at pending
    cases pending
  · revert delivered
    decide

end SalesforceTikTok
