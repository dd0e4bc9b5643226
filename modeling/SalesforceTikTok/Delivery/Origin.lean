import SalesforceTikTok.Delivery.EventRow
import SalesforceTikTok.Delivery.Preparation

/-!
# Where payloads come from

A payload is built once, by a `process` call from its message and lead, and from then on
only passed along: into the log, to TikTok, into the queue and from there to the worker.
-/

namespace SalesforceTikTok

open Concurrency Pipeline

/-- A call built this payload from a message that the filter accepts. -/
def BuiltBy {X : Type} (P : Pipeline) (c : DeliveryConfig X) (payload : TikTokEventsPayload)
    (pid : Nat) : Prop :=
  ∃ cdcEvent lead state eventName, c.procs[pid]? = some ⟨.process cdcEvent lead, state⟩ ∧
    EventFilter.accepted P.platform cdcEvent = some eventName ∧
      payload = (P.builtFrom cdcEvent lead eventName (c.own pid)).payload

/-- The call sent the payload itself, and wrote that this failed. -/
def FailedDirectly {X : Type} (c : DeliveryConfig X) (payload : TikTokEventsPayload) (pid : Nat) :
    Prop :=
  .sending payload ∈ callSteps c pid ∧
    ∃ eventId, payload.eventIds = [eventId] ∧ .updated eventId .failed true ∈ callSteps c pid

/-! ## The commands that pass a payload on -/

def PayloadQueued (trace : List DeliveryRecord) (payload : TikTokEventsPayload) : Prop :=
  ∃ r ∈ trace, ∃ id data, r.cmd = .addJob id data ∧ data.payload = payload

def PayloadProposed (trace : List DeliveryRecord) (payload : TikTokEventsPayload) : Prop :=
  ∃ r ∈ trace, ∃ eventId record, r.cmd = .insertLog eventId record ∧ record.tiktokPayload = payload

theorem PayloadQueued.append {trace : List DeliveryRecord} {payload : TikTokEventsPayload}
    (h : PayloadQueued trace payload) (r : DeliveryRecord) : PayloadQueued (trace ++ [r]) payload := by
  obtain ⟨r', mem, rest⟩ := h
  exact ⟨r', List.mem_append_left _ mem, rest⟩

theorem PayloadProposed.append {trace : List DeliveryRecord} {payload : TikTokEventsPayload}
    (h : PayloadProposed trace payload) (r : DeliveryRecord) : PayloadProposed (trace ++ [r]) payload := by
  obtain ⟨r', mem, rest⟩ := h
  exact ⟨r', List.mem_append_left _ mem, rest⟩

def DeliveryPoint.job? : DeliveryPoint → Option RetryJobData
  | .jobAcquiring _ data | .jobPosting _ data _ => some data
  | _ => none

theorem DeliveryPoint.job?_unclaimed {x : DeliveryPoint} (unclaimed : x.isUnclaimed = true) :
    x.job? = none := by
  cases x with
  | jobAcquiring | jobPosting => cases unclaimed
  | _ => rfl

private theorem cmd_of_queued {r : DeliveryRecord} {data : RetryJobData} {reached resolved : Bool}
    (h : deliveryStep r = some (.queued data reached resolved)) :
    ∃ id, r.cmd = .addJob id data := by
  unfold deliveryStep at h
  split at h
  case h_8 id data' choice reply =>
    cases h
    exact ⟨id, rfl⟩
  all_goals simp at h
  split at h <;> cases h

namespace DeliveryTransition

variable {P : Pipeline} {x y : DeliveryPoint} {w v : DeliveryWorld} {r : DeliveryRecord}

/-- The log gets rows by inserts, and an update keeps their payloads. -/
theorem log_write (t : DeliveryTransition P x w r y v) :
    v.log = w.log ∨
      (∃ eventId record, r.cmd = .insertLog eventId record ∧
        v.log = insertRow w.log eventId record) ∨
      ∃ eventId status response error, v.log = updateRow w.log eventId status response error := by
  cases t with
  | markFailed lost effect =>
      obtain rfl | rfl := effect
      · exact .inl rfl
      · exact .inl (by rw [DeliveryWorld.setNx_frame])
  | duplicateLogged | pendingLogged => exact .inr (.inl ⟨_, _, rfl, rfl⟩)
  | duplicateLogFailed lost effect | pendingLogFailed lost effect =>
      obtain rfl | rfl := effect
      · exact .inl rfl
      · exact .inr (.inl ⟨_, _, rfl, rfl⟩)
  | sentLogged | failedLogged => exact .inr (.inr ⟨_, _, _, _, rfl⟩)
  | sentLogFailed lost effect | failedLogFailed lost effect =>
      obtain rfl | rfl := effect
      · exact .inl rfl
      · exact .inr (.inr ⟨_, _, _, _, rfl⟩)
  | enqueued => exact .inl (DeliveryWorld.addJob_log ..)
  | enqueueFailed lost effect =>
      obtain ⟨_, rfl⟩ | ⟨_, rfl⟩ := effect
      · exact .inl rfl
      · exact .inl (DeliveryWorld.addJob_log ..)
  | taken picked =>
      obtain ⟨_, _, _, rfl⟩ := DeliveryWorld.takeJob_spec picked
      exact .inl rfl
  | _ => exact .inl rfl

/-- A retry run gets its job from the queue and passes it on unchanged. -/
theorem job_cases (t : DeliveryTransition P x w r y v) {data : RetryJobData}
    (next : y.job? = some data) :
    x.job? = some data ∨ ∃ id job, w.jobs.lookup id = some job ∧ job.data = data := by
  cases t with
  | resolved => rw [DeliveryPoint.job?_unclaimed (P.timed_isUnclaimed ..)] at next; cases next
  | taken picked =>
      obtain ⟨job, found, rfl, _⟩ := DeliveryWorld.takeJob_spec picked
      cases next
      exact .inr ⟨_, job, found, rfl⟩
  | jobAcquired => exact .inl next
  | _ => cases next

private theorem retry_payload (t : DeliveryTransition P x w r y v) (retry : x.isRetry = true)
    {payload : TikTokEventsPayload} (passed : r.cmd.payload? = some payload) :
    ∃ data, x.job? = some data ∧ data.payload = payload := by
  cases t with
  | jobAcquired | jobNoToken | jobPosted | jobPostFailed =>
      cases passed
      exact ⟨_, rfl, rfl⟩
  | taken | settled => cases passed
  | _ => cases retry

end DeliveryTransition

/-! ## Runs -/

/-- Every payload in the stores and in the calls was passed on by an answered command. -/
structure PayloadsTraced (c : DeliveryConfig DeliveryPoint) : Prop where
  jobs : ∀ id job, c.world.jobs.lookup id = some job → PayloadQueued c.trace job.data.payload
  rows : ∀ eventId row, c.world.log.lookup eventId = some row → PayloadProposed c.trace row.tiktokPayload
  held : ∀ (pid : Nat) p data, c.procs[pid]? = some p → p.state.job? = some data →
    PayloadQueued c.trace data.payload
  retry : ∀ (pid : Nat) p id, c.procs[pid]? = some p → p.entry = .runJob id →
    p.state.isRetry = true
  sends : ∀ r ∈ c.trace, ∀ payload, r.cmd.payload? = some payload →
    (∃ p cdcEvent lead, c.procs[r.pid]? = some p ∧ p.entry = .process cdcEvent lead) ∨
      PayloadQueued c.trace payload

namespace PayloadsTraced

variable {P : Pipeline} {c : DeliveryConfig DeliveryPoint}

theorem started (h : PayloadsTraced c) (call : DeliveryCall) :
    PayloadsTraced { c with procs := c.procs ++ [⟨call, P.startPoint call⟩] } where
  jobs := h.jobs
  rows := h.rows
  held := by
    intro pid p data hp job
    obtain hp | ⟨_, rfl⟩ := System.get_started hp
    · exact h.held pid p data hp job
    · rw [DeliveryPoint.job?_unclaimed (P.startPoint_isUnclaimed call)] at job
      cases job
  retry := by
    intro pid p id hp entry
    obtain hp | ⟨_, rfl⟩ := System.get_started hp
    · exact h.retry pid p id hp entry
    · cases entry
      rfl
  sends := by
    intro r hr payload passed
    obtain ⟨p, cdcEvent, lead, hp, entry⟩ | queued := h.sends r hr payload passed
    · have bound := (List.getElem?_eq_some_iff.mp hp).choose
      exact .inl ⟨p, cdcEvent, lead, by rwa [List.getElem?_append_left bound], entry⟩
    · exact .inr queued

theorem answered (h : PayloadsTraced c) {pid : Nat} {p : Proc DeliveryCall DeliveryPoint}
    (hp : c.procs[pid]? = some p) {r : DeliveryRecord} (own : r.pid = pid) {y : DeliveryPoint}
    {v : DeliveryWorld} (t : DeliveryTransition P p.state c.world r y v) :
    PayloadsTraced ⟨v, c.procs.set pid ⟨p.entry, y⟩, c.trace ++ [r]⟩ where
  jobs := by
    intro id job found
    obtain ⟨_, carried, _⟩ | ⟨data, resolved, eventId, hs, _, rfl⟩ := t.jobs_cases
    · obtain ⟨job', found', same⟩ := carried id job found
      exact same ▸ (h.jobs id job' found').append r
    · obtain ⟨_, rfl⟩ | earlier := DeliveryWorld.addJob_cases found
      · obtain ⟨id', cmd⟩ := cmd_of_queued hs
        exact ⟨r, by simp, id', data, cmd, rfl⟩
      · exact (h.jobs id job earlier).append r
  rows := by
    intro eventId row found
    dsimp only at found
    obtain same | ⟨inserted, record, cmd, same⟩ | ⟨written, status, response, error, same⟩ :=
      t.log_write
    · exact (h.rows eventId row (same ▸ found)).append r
    · rw [same] at found
      obtain found | ⟨_, rfl, rfl⟩ := insertRow_cases found
      · exact (h.rows eventId row found).append r
      · exact ⟨r, by simp, _, _, cmd, rfl⟩
    · rw [same] at found
      by_cases here : eventId = written
      · subst here
        cases present : c.world.log.lookup eventId with
        | none =>
            simp only [updateRow, present] at found
            cases found
        | some old =>
            rw [updateRow_self present] at found
            cases found
            exact (h.rows eventId old present).append r
      · rw [updateRow_of_ne here] at found
        exact (h.rows eventId row found).append r
  held := by
    intro q p' data hq runs
    obtain ⟨_, rfl⟩ | ⟨_, hq⟩ := System.get_answered hq
    · obtain before | ⟨id, job, found, rfl⟩ := t.job_cases runs
      · exact (h.held pid p data hp before).append r
      · exact (h.jobs id job found).append r
    · exact (h.held q p' data hq runs).append r
  retry := by
    intro q p' id hq entry
    obtain ⟨_, rfl⟩ | ⟨_, hq⟩ := System.get_answered hq
    · exact (t.retry (h.retry pid p id hp entry)).1
    · exact h.retry q p' id hq entry
  sends := by
    intro r' hr payload passed
    have kept {q : Nat} {p' : Proc DeliveryCall DeliveryPoint} (hq : c.procs[q]? = some p') :
        ∃ p'', (c.procs.set pid ⟨p.entry, y⟩)[q]? = some p'' ∧ p''.entry = p'.entry := by
      by_cases same : pid = q
      · subst same
        obtain rfl : p = p' := Option.some.inj (hp.symm.trans hq)
        exact ⟨_, List.getElem?_set_self (List.getElem?_eq_some_iff.mp hp).choose, rfl⟩
      · exact ⟨p', by rwa [List.getElem?_set_ne same], rfl⟩
    obtain hr | rfl := by simpa using hr
    · obtain ⟨p', cdcEvent, lead, hq, entry⟩ | queued := h.sends r' hr payload passed
      · obtain ⟨p'', hq', same⟩ := kept hq
        exact .inl ⟨p'', cdcEvent, lead, hq', same.trans entry⟩
      · exact .inr (queued.append r)
    · obtain ⟨p'', hq', same⟩ := kept hp
      cases entry : p.entry with
      | process cdcEvent lead =>
          refine .inl ⟨p'', cdcEvent, lead, ?_, same.trans entry⟩
          dsimp only
          rw [own, ← entry]
          exact hq'
      | runJob id =>
          obtain ⟨data, job, rfl⟩ := t.retry_payload (h.retry pid p id hp entry) passed
          exact .inr ((h.held pid p data hp job).append r')

end PayloadsTraced

theorem payloads_traced {P : Pipeline} {clock : Int} {c : DeliveryConfig DeliveryPoint}
    {actions : List DeliveryAction}
    (h : P.protocol.run (.initial (.fresh clock)) actions = some c) : PayloadsTraced c := by
  refine protocol_invariant (fun _ => True) PayloadsTraced ?_ ?_ ?_ h (fun _ _ => trivial) ?_
  · exact fun c call kept => kept.started call
  · exact fun c pid p r y v kept hp own t _ => kept.answered hp own t
  · intro c event v kept hv
    obtain ⟨elapsed, rfl⟩ | ⟨id, rfl⟩ := deliveryEnv_cases hv
    · exact ⟨kept.jobs, kept.rows, kept.held, kept.retry, kept.sends⟩
    · exact ⟨fun id' job found => kept.jobs id' job (Storage.lookup_of_erase found), kept.rows,
        kept.held, kept.retry, kept.sends⟩
  · constructor <;> simp [Config.initial, DeliveryWorld.fresh]

private theorem built_by_process {P : Pipeline} {w : DeliveryWorld}
    {c : DeliveryConfig (DeliveryProg Unit)} {actions : List DeliveryAction}
    (h : P.system.run (.initial w) actions = some c) {r : DeliveryRecord} (hr : r ∈ c.trace)
    {payload : TikTokEventsPayload} (passed : r.cmd.payload? = some payload)
    {cdcEvent : SalesforceCDCEvent} {lead : SalesforceLead} {state : DeliveryProg Unit}
    (hp : c.procs[r.pid]? = some ⟨.process cdcEvent lead, state⟩) : BuiltBy P c payload r.pid := by
  obtain ⟨eventName, named, owns, _⟩ := process_owns h hp (System.mem_own.mpr ⟨hr, rfl⟩)
  exact ⟨cdcEvent, lead, state, eventName, hp, named, owns.1 payload passed⟩

theorem ProcessHistory.failed_directly {x : DeliveryPoint} {steps : List DeliveryStep}
    (history : ProcessHistory x steps) {data : RetryJobData} {reached resolved : Bool}
    (queued : .queued data reached resolved ∈ steps) :
    .sending data.payload ∈ steps ∧
      ∃ eventId, data.payload.eventIds = [eventId] ∧ .updated eventId .failed true ∈ steps := by
  have attempted {d : Delivery} {attempt : List DeliveryStep} (failed : FailedAttempt d attempt) :
      .queued data reached resolved ∉ attempt := by
    cases failed <;> simp
  cases history with
  | resolving | timing | marking | filtered | loggingDuplicate | duplicate | loggingPending
  | acquiring | dropped => simp at queued
  | posting | loggingSent | sent => simp [Delivery.opening] at queued
  | loggingFailed _ failed | enqueueing _ failed | unlogged _ failed =>
      simp [Delivery.opening, attempted failed] at queued
  | @queued d _ _ _ _ _ _ failed =>
      obtain ⟨rfl, _⟩ : data = RetryQueue.jobData d.payload ∧ _ := by
        simpa [Delivery.opening, attempted failed] using queued
      exact ⟨by simp [Delivery.opening, RetryQueue.jobData], d.eventId, d.single, by simp⟩

/-- A payload of the queue was built by a call that sent it in vain. -/
theorem PayloadQueued.origin {P : Pipeline} {w : DeliveryWorld} {c : DeliveryConfig DeliveryPoint}
    {actions : List DeliveryAction} (h : P.protocol.run (.initial w) actions = some c)
    {payload : TikTokEventsPayload} (queued : PayloadQueued c.trace payload) :
    ∃ pid, BuiltBy P (c.map (DeliveryPoint.program P)) payload pid ∧ FailedDirectly c payload pid := by
  obtain ⟨⟨pid, cmd, choice, reply⟩, hr, id, data, rfl, rfl⟩ := queued
  have own : .queued data (!choice.isFail) (replied reply) ∈ callSteps c pid :=
    mem_callSteps.mpr ⟨_, hr, rfl, rfl⟩
  obtain ⟨⟨entry, state⟩, cdcEvent, lead, hp, rfl⟩ := process_of_step h own rfl
  have run : P.system.run (.initial w) actions = some (c.map (DeliveryPoint.program P)) := by
    have runs := (protocol_refines P).run (.initial w) actions
    rw [h] at runs
    exact runs
  have here : (c.map (DeliveryPoint.program P)).procs[pid]? =
      some ⟨.process cdcEvent lead, state.program P⟩ := by
    rw [Config.map_get, hp]
    rfl
  exact ⟨pid, built_by_process run hr rfl here, (process_history h hp rfl).failed_directly own⟩

/-- Whatever the stores and TikTok answer, every payload that is logged, sent or queued was
built by one of the `process` calls, from its own message and lead. A call passes on what it
built; the worker sends, and the queue keeps, what such a call has sent in vain. -/
theorem payload_origin {P : Pipeline} {clock : Int} {c : DeliveryConfig (DeliveryProg Unit)}
    {actions : List DeliveryAction} (h : P.system.run (.initial (.fresh clock)) actions = some c) :
    (∀ r ∈ c.trace, ∀ payload, r.cmd.payload? = some payload →
      BuiltBy P c payload r.pid ∨ ∃ pid, BuiltBy P c payload pid ∧ FailedDirectly c payload pid) ∧
    (∀ eventId row, c.world.log.lookup eventId = some row →
      ∃ pid, BuiltBy P c row.tiktokPayload pid) ∧
    ∀ id job, c.world.jobs.lookup id = some job →
      ∃ pid, BuiltBy P c job.data.payload pid ∧ FailedDirectly c job.data.payload pid := by
  obtain ⟨c, hc, rfl⟩ := exists_protocol h
  have kept := payloads_traced hc
  have passes : ∀ r ∈ c.trace, ∀ payload, r.cmd.payload? = some payload →
      BuiltBy P (c.map (DeliveryPoint.program P)) payload r.pid ∨
        ∃ pid, BuiltBy P (c.map (DeliveryPoint.program P)) payload pid ∧
          FailedDirectly c payload pid := by
    intro r hr payload passed
    obtain ⟨⟨entry, state⟩, cdcEvent, lead, hp, rfl⟩ | queued := kept.sends r hr payload passed
    · have here : (c.map (DeliveryPoint.program P)).procs[r.pid]? =
          some ⟨.process cdcEvent lead, state.program P⟩ := by
        rw [Config.map_get, hp]
        rfl
      exact .inl (built_by_process h hr passed here)
    · exact .inr (queued.origin hc)
  refine ⟨passes, fun eventId row found => ?_, fun id job found => (kept.jobs id job found).origin hc⟩
  obtain ⟨r, hr, eventId', record, cmd, same⟩ := kept.rows eventId row found
  have passed : r.cmd.payload? = some row.tiktokPayload := by
    rw [cmd, ← same]
    rfl
  obtain built | ⟨pid, built, _⟩ := passes r hr row.tiktokPayload passed
  · exact ⟨r.pid, built⟩
  · exact ⟨pid, built⟩

def retriedByWorker : List DeliveryAction :=
  [.start Sample.call, .resume 0 .ok, .resume 0 .ok, .resume 0 .ok,
    .resume 0 (.fail Sample.lostConnection), .resume 0 .ok, .resume 0 .ok,
    .start (.runJob Sample.delivery.eventId), .resume 1 .ok, .resume 1 .ok,
    .resume 1 (.response Sample.response), .resume 1 .ok]

theorem payload_origin_retried :
    ∃ pid, BuiltBy Sample.pipeline (Sample.after retriedByWorker (by decide))
        Sample.delivery.payload pid ∧
      FailedDirectly (Sample.after retriedByWorker (by decide)) Sample.delivery.payload pid := by
  have found : (Sample.after retriedByWorker (by decide)).world.jobs.lookup
      Sample.delivery.eventId =
        some ⟨RetryQueue.jobData Sample.delivery.payload, .completed, 1⟩ := by decide
  exact (payload_origin (System.run_result (by decide))).2.2 _ _ found

end SalesforceTikTok
