import SalesforceTikTok.Delivery.EventRow
import SalesforceTikTok.Delivery.NoLostEvent

/-!
# Fidelity of the event log

The pipeline writes the rows, but the retry worker delivers as well and writes
nothing, and a row counts one attempt before the first was made. What a row
says at rest is what the direct sends did.
-/

namespace SalesforceTikTok

open Concurrency Pipeline

/-- The step is a `sendEvents` call for the event. -/
def sendOf (eventId : String) : DeliveryStep → Bool
  | .sending payload => eventId ∈ payload.eventIds
  | _ => false

/-- The answered command starts a `sendEvents` call for the event. -/
def sendsFor (eventId : String) (r : DeliveryRecord) : Bool :=
  (deliveryStep r).any (sendOf eventId)

section

variable {X : Type} (c : DeliveryConfig X) (eventId : String)

/-- Call `pid` is a run of a queued job. -/
def isWorker (pid : Nat) : Bool :=
  match c.procs[pid]? with
  | some ⟨.runJob _, _⟩ => true
  | _ => false

private theorem isWorker_iff {pid : Nat} :
    isWorker c pid = true ↔ ∃ p jobId, c.procs[pid]? = some p ∧ p.entry = .runJob jobId := by
  unfold isWorker
  split
  next jobId state hp => simp [hp]
  next other =>
    simp only [Bool.false_eq_true, false_iff]
    rintro ⟨⟨entry, state⟩, jobId, hp, rfl⟩
    exact other jobId state hp

private theorem isWorker_map {Y : Type} (f : X → Y) (pid : Nat) :
    isWorker (c.map f) pid = isWorker c pid := by
  unfold isWorker
  rw [Config.map_get]
  rcases c.procs[pid]? with _ | ⟨_ | _, _⟩ <;> rfl

/-- The `sendEvents` calls made for the event. -/
def sendCount : Nat := c.trace.countP (sendsFor eventId)

def workerSendCount : Nat :=
  c.trace.countP fun r => isWorker c r.pid && sendsFor eventId r

/-- Some `sendEvents` call for the event resolved. -/
def SendResolved : Prop :=
  ∃ payload, eventId ∈ payload.eventIds ∧ .accepted payload ∈ deliverySteps c.trace

def rowWrites : List (Nat × EventLogStatus) :=
  c.trace.filterMap fun r =>
    ((deliveryStep r).bind (updateOf eventId)).map fun status => (r.pid, status)

private theorem rowWrites_map :
    (rowWrites c eventId).map Prod.snd = updatesOf eventId (deliverySteps c.trace) := by
  rw [rowWrites, updatesOf, deliverySteps, List.map_filterMap, List.filterMap_filterMap]
  refine List.filterMap_congr fun r _ => ?_
  simp [Function.comp_def]

variable {c eventId} in
private theorem mem_rowWrites {pid : Nat} {status : EventLogStatus}
    (h : (pid, status) ∈ rowWrites c eventId) :
    ∃ s ∈ callSteps c pid, updateOf eventId s = some status := by
  obtain ⟨r, hr, hw⟩ := List.mem_filterMap.mp h
  obtain ⟨status', hb, he⟩ := Option.map_eq_some_iff.mp hw
  cases he
  obtain ⟨s, hs, hu⟩ := Option.bind_eq_some_iff.mp hb
  exact ⟨s, mem_callSteps.mpr ⟨r, hr, rfl, hs⟩, hu⟩

/-- TikTok accepted the direct send whose outcome was written last. -/
def LastSendResolved : Prop :=
  ∃ pid status, (rowWrites c eventId).getLast? = some (pid, status) ∧
    ∃ payload, eventId ∈ payload.eventIds ∧ .accepted payload ∈ callSteps c pid

def Faithful (row : EventLogRecord) : Prop :=
  (row.status = .sent ↔ SendResolved c eventId) ∧ row.attemptCount = sendCount c eventId

end

/-- No call works on the event and no job for it waits or runs. -/
structure AtRest (P : Pipeline) (c : DeliveryConfig (DeliveryProg Unit)) (eventId : String) :
    Prop where
  processed : ¬ Processing P c eventId
  settled : ∀ id job, c.world.jobs.lookup id = some job → eventId ∈ job.data.payload.eventIds →
    job.state = .completed ∨ job.state = .failed

/-! ## One call at rest -/

theorem Delivery.opening_sends (d : Delivery) (reply : Option SetReply) (eventId : String) :
    (d.opening reply).countP (sendOf eventId) = if d.eventId = eventId then 1 else 0 := by
  by_cases here : d.eventId = eventId
  · simp [Delivery.opening, sendOf, d.single, here]
  · simp [Delivery.opening, sendOf, d.single, here, Ne.symm here]

theorem CompletedCall.sends_eq_updates {steps : List DeliveryStep} (call : CompletedCall steps)
    (eventId : String) :
    steps.countP (sendOf eventId) = (updatesOf eventId steps).length := by
  cases call with
  | filtered | duplicate d => rfl
  | sent d =>
      rw [List.countP_append, d.opening_sends]
      by_cases here : d.eventId = eventId
      · simp [updatesOf, updateOf, sendOf, Delivery.opening, here, List.filterMap_cons]
      · simp [updatesOf, updateOf, sendOf, Delivery.opening, here, List.filterMap_cons]
  | retried d refused =>
      rw [List.append_assoc, List.countP_append, d.opening_sends]
      rcases refused with rfl | rfl <;> by_cases here : d.eventId = eventId
      all_goals simp [updatesOf, updateOf, sendOf, Delivery.opening, here, List.filterMap_cons]

theorem CompletedCall.sent_iff {steps : List DeliveryStep} (call : CompletedCall steps)
    {eventId : String} {status : EventLogStatus} {resolved : Bool}
    (written : .updated eventId status resolved ∈ steps) :
    status = .sent ↔ ∃ payload, eventId ∈ payload.eventIds ∧ .accepted payload ∈ steps := by
  cases call with
  | filtered | duplicate d => simp at written
  | sent d =>
      obtain ⟨rfl, rfl, _⟩ : eventId = d.eventId ∧ status = .sent ∧ _ := by
        simpa [Delivery.opening] using written
      simp [Delivery.opening, d.single]
  | retried d refused =>
      obtain ⟨rfl, rfl, _⟩ : eventId = d.eventId ∧ status = .failed ∧ _ := by
        rcases refused with rfl | rfl <;> simpa [Delivery.opening] using written
      rcases refused with rfl | rfl <;> simp [Delivery.opening]

theorem CompletedCall.writes {steps : List DeliveryStep} (call : CompletedCall steps)
    {eventId : String}
    (first : .marked (DEDUP_KEY_PREFIX ++ eventId) (some .ok) ∈ steps) :
    updatesOf eventId steps ≠ [] := by
  cases call with
  | filtered | duplicate d => simp at first
  | sent d =>
      obtain rfl : eventId = d.eventId := by simpa [Delivery.opening, dedupKey_inj] using first
      simp [Delivery.opening, updatesOf, updateOf]
  | retried d refused =>
      obtain rfl : eventId = d.eventId := by
        rcases refused with rfl | rfl <;> simpa [Delivery.opening, dedupKey_inj] using first
      simp [updatesOf, updateOf]

theorem ProcessHistory.marks {x : DeliveryPoint} {steps : List DeliveryStep}
    (history : ProcessHistory x steps) {s : DeliveryStep} (hs : s ∈ steps) {eventId : String}
    (about : eventId ∈ s.eventIds) :
    ∃ reply, .marked (DEDUP_KEY_PREFIX ++ eventId) reply ∈ steps := by
  obtain rfl | ⟨d, reply, rest, rfl, single⟩ := history.single_event
  · cases hs
  · obtain rfl | hs := List.mem_cons.mp hs
    · cases about
    · rw [single s hs, List.mem_singleton] at about
      exact ⟨reply, by simp [about]⟩

private theorem mem_eventIds_of_sendOf {eventId : String} {s : DeliveryStep}
    (h : sendOf eventId s = true) : eventId ∈ s.eventIds := by
  cases s <;> simp_all [sendOf, DeliveryStep.eventIds]

private theorem updateOf_eq_some {eventId : String} {s : DeliveryStep} {status : EventLogStatus}
    (h : updateOf eventId s = some status) : ∃ resolved, s = .updated eventId status resolved := by
  cases s with
  | updated eventId' status' resolved =>
      obtain ⟨rfl, rfl⟩ : eventId' = eventId ∧ status' = status := by simpa [updateOf] using h
      exact ⟨resolved, rfl⟩
  | _ => cases h

/-! ## Rows at rest -/

section

variable {P : Pipeline} {w : DeliveryWorld} {d : DeliveryConfig DeliveryPoint}
  {actions : List DeliveryAction} {eventId : String}

/-- At rest a call that marked the key of the event is completed. -/
theorem completed_of_mark (h : P.protocol.run (.initial w) actions = some d)
    (working : StoresWorking (deliverySteps d.trace))
    (idle : ¬ Processing P (d.map (DeliveryPoint.program P)) eventId) {pid : Nat}
    {reply : Option SetReply}
    (marked : .marked (DEDUP_KEY_PREFIX ++ eventId) reply ∈ callSteps d pid) :
    CompletedCall (callSteps d pid) := by
  obtain ⟨p, cdcEvent, lead, hp, entry⟩ := process_of_step h marked rfl
  have stopped : ¬ P.protocol.InFlight d pid := fun running =>
    idle ⟨pid, (protocol_refines P).inFlight.mpr running, reply, marked⟩
  obtain ⟨outcome, ended⟩ := ended_of_idle hp stopped
  have history := process_history h hp entry
  rw [ended] at history
  exact (history.completed (working.call pid)).2

private theorem countP_sendsFor (history : List DeliveryRecord) (eventId : String) :
    history.countP (sendsFor eventId) = (deliverySteps history).countP (sendOf eventId) := by
  rw [deliverySteps, List.countP_filterMap]
  refine List.countP_congr fun r _ => ?_
  cases hr : deliveryStep r <;> simp [sendsFor, hr]

private theorem countP_updates (history : List DeliveryRecord) (eventId : String) :
    (history.countP fun r => ((deliveryStep r).bind (updateOf eventId)).isSome) =
      (updatesOf eventId (deliverySteps history)).length := by
  rw [updatesOf, deliverySteps, List.filterMap_filterMap, List.length_filterMap_eq_countP]

private theorem direct_sends_eq_updates (h : P.protocol.run (.initial w) actions = some d)
    (working : StoresWorking (deliverySteps d.trace))
    (idle : ¬ Processing P (d.map (DeliveryPoint.program P)) eventId) :
    (d.trace.countP fun r => !isWorker d r.pid && sendsFor eventId r) =
      (updatesOf eventId (deliverySteps d.trace)).length := by
  rw [← countP_updates]
  apply System.countP_eq_of_own
  intro pid
  rw [countP_updates]
  have numbered : ∀ r ∈ d.own pid, r.pid = pid := fun r hr => (System.mem_own.mp hr).2
  by_cases worker : isWorker d pid = true
  · -- the worker writes no rows
    have noSends : ((d.own pid).countP fun r => !isWorker d r.pid && sendsFor eventId r) = 0 := by
      rw [List.countP_eq_zero]
      intro r hr
      simp [numbered r hr, worker]
    have noUpdates : updatesOf eventId (callSteps d pid) = [] := by
      obtain ⟨p, jobId, hp, entry⟩ := (isWorker_iff d).mp worker
      refine List.filterMap_eq_nil_iff.mpr fun s hs => ?_
      have send := worker_history h hp entry s hs
      cases s <;> simp [DeliveryStep.isSend, updateOf] at send ⊢
    rw [noSends, ← callSteps, noUpdates]
    rfl
  · have sends : ((d.own pid).countP fun r => !isWorker d r.pid && sendsFor eventId r) =
        (callSteps d pid).countP (sendOf eventId) := by
      rw [callSteps, ← countP_sendsFor]
      refine List.countP_congr fun r hr => ?_
      simp [numbered r hr, worker]
    rw [sends, ← callSteps]
    by_cases marked : ∃ reply, .marked (DEDUP_KEY_PREFIX ++ eventId) reply ∈ callSteps d pid
    · obtain ⟨reply, marked⟩ := marked
      exact (completed_of_mark h working idle marked).sends_eq_updates eventId
    · have unconcerned : ∀ s ∈ callSteps d pid, eventId ∉ s.eventIds := by
        intro s hs about
        obtain ⟨p, hp⟩ := exists_proc h hs
        cases entry : p.entry with
        | process cdcEvent lead => exact marked ((process_history h hp entry).marks hs about)
        | runJob jobId => exact worker ((isWorker_iff d).mpr ⟨p, jobId, hp, entry⟩)
      have noSends : (callSteps d pid).countP (sendOf eventId) = 0 :=
        List.countP_eq_zero.mpr fun s hs send => unconcerned s hs (mem_eventIds_of_sendOf send)
      have noUpdates : updatesOf eventId (callSteps d pid) = [] := by
        refine List.filterMap_eq_nil_iff.mpr fun s hs => Option.eq_none_iff_forall_ne_some.mpr ?_
        intro status update
        obtain ⟨resolved, rfl⟩ := updateOf_eq_some update
        exact unconcerned _ hs (by simp [DeliveryStep.eventIds])
      rw [noSends, noUpdates]
      rfl

private theorem row_updated {clock : Int}
    (h : P.protocol.run (.initial (.fresh clock)) actions = some d)
    (working : StoresWorking (deliverySteps d.trace))
    (idle : ¬ Processing P (d.map (DeliveryPoint.program P)) eventId) {row : EventLogRecord}
    (found : d.world.log.lookup eventId = some row) :
    updatesOf eventId (deliverySteps d.trace) ≠ [] := by
  obtain ⟨status, inserted⟩ := (rows_kept h working).origin eventId row rfl found
  obtain ⟨pid, inserted⟩ := mem_steps.mp inserted
  obtain ⟨p, cdcEvent, lead, hp, entry⟩ := process_of_step h inserted rfl
  obtain ⟨reply, marked⟩ :=
    (process_history h hp entry).marks inserted (List.mem_singleton.mpr rfl)
  -- the call itself set the key, or found it set by an earlier one
  have first : .marked (DEDUP_KEY_PREFIX ++ eventId) (some .ok) ∈ deliverySteps d.trace := by
    match reply, marked with
    | some .ok, marked => exact mem_steps.mpr ⟨pid, marked⟩
    | some .null, marked =>
        exact (keys_marked h working.redis).found _ (mem_steps.mpr ⟨pid, marked⟩)
    | none, marked => exact absurd (mem_steps.mpr ⟨pid, marked⟩) (working.redis _)
  obtain ⟨first_pid, first⟩ := mem_steps.mp first
  obtain ⟨status, update⟩ := List.exists_mem_of_ne_nil _
    ((completed_of_mark h working idle first).writes first)
  obtain ⟨s, hs, hu⟩ := List.mem_filterMap.mp update
  exact List.ne_nil_of_mem (List.mem_filterMap.mpr ⟨s, mem_steps.mpr ⟨first_pid, hs⟩, hu⟩)

/-- At rest the row says `sent` exactly when the send written last resolved. -/
theorem row_sent_iff {clock : Int} (h : P.protocol.run (.initial (.fresh clock)) actions = some d)
    (working : StoresWorking (deliverySteps d.trace))
    (idle : ¬ Processing P (d.map (DeliveryPoint.program P)) eventId) {row : EventLogRecord}
    (found : d.world.log.lookup eventId = some row) :
    row.status = .sent ↔ LastSendResolved d eventId := by
  have writes : rowWrites d eventId ≠ [] := fun empty =>
    row_updated h working idle found (by rw [← rowWrites_map, empty]; rfl)
  obtain ⟨⟨pid, status⟩, last⟩ := Option.isSome_iff_exists.mp (List.getLast?_isSome.mpr writes)
  have told : row.status = status := by
    refine (rows_kept h working).status eventId row status found ?_
    rw [← rowWrites_map, List.getLast?_map, last]
    rfl
  obtain ⟨s, hs, hu⟩ := mem_rowWrites (List.mem_of_getLast? last)
  obtain ⟨resolved, rfl⟩ := updateOf_eq_some hu
  obtain ⟨p, cdcEvent, lead, hp, entry⟩ := process_of_step h hs rfl
  obtain ⟨reply, marked⟩ := (process_history h hp entry).marks hs (List.mem_singleton.mpr rfl)
  rw [told, (completed_of_mark h working idle marked).sent_iff hs]
  constructor
  · exact fun accepted => ⟨pid, status, last, accepted⟩
  · rintro ⟨pid', status', last', accepted⟩
    obtain ⟨rfl, rfl⟩ : pid = pid' ∧ status = status' := by simpa [last] using last'
    exact accepted

end

private theorem sendCount_eq {X : Type} (c : DeliveryConfig X) (eventId : String) :
    sendCount c eventId =
      (c.trace.countP fun r => !isWorker c r.pid && sendsFor eventId r) +
        workerSendCount c eventId := by
  unfold sendCount workerSendCount
  induction c.trace with
  | nil => rfl
  | cons r rest ih =>
      simp only [List.countP_cons, ih]
      cases isWorker c r.pid <;> cases sendsFor eventId r <;> simp <;> omega

theorem log_fidelity_iff {P : Pipeline} {clock : Int} {c : DeliveryConfig (DeliveryProg Unit)}
    {actions : List DeliveryAction}
    (h : P.system.run (.initial (.fresh clock)) actions = some c)
    (working : StoresWorking (deliverySteps c.trace)) {eventId : String}
    (rest : AtRest P c eventId) {row : EventLogRecord}
    (found : c.world.log.lookup eventId = some row) :
    Faithful c eventId row ↔
      workerSendCount c eventId = 1 ∧
        (LastSendResolved c eventId ∨ ¬ SendResolved c eventId) := by
  obtain ⟨d, hd, rfl⟩ := exists_protocol h
  have status : row.status = .sent ↔ LastSendResolved d eventId :=
    row_sent_iff hd working rest.processed found
  have count := (rows_kept hd working).count eventId row rfl found
  have direct := direct_sends_eq_updates hd working rest.processed
  have total := sendCount_eq d eventId
  have attempts : row.attemptCount = sendCount d eventId ↔ workerSendCount d eventId = 1 := by
    omega
  have last : LastSendResolved d eventId → SendResolved d eventId := by
    rintro ⟨pid, _, _, payload, ids, accepted⟩
    exact ⟨payload, ids, mem_steps.mpr ⟨pid, accepted⟩⟩
  have workers : workerSendCount (d.map (DeliveryPoint.program P)) eventId =
      workerSendCount d eventId := by
    simp only [workerSendCount, isWorker_map, Config.map_trace]
  rw [workers]
  show (row.status = .sent ↔ SendResolved d eventId) ∧ row.attemptCount = sendCount d eventId ↔
    workerSendCount d eventId = 1 ∧ (LastSendResolved d eventId ∨ ¬ SendResolved d eventId)
  rw [status, attempts]
  tauto

private theorem atRest_of_idle {c : DeliveryConfig (DeliveryProg Unit)} {P : Pipeline}
    {eventId : String} (idle : P.system.idle c = true)
    (done : c.world.jobs.entries.all fun entry =>
      entry.2.state = .completed ∨ entry.2.state = .failed) : AtRest P c eventId where
  processed := fun ⟨pid, running, _⟩ => System.not_inFlight_of_idle idle pid running
  settled := fun id job hj _ => by
    have here := List.all_eq_true.mp done ⟨id, job⟩ (AList.mem_lookup_iff.mp hj)
    exact of_decide_eq_true here

theorem log_fidelity_direct :
    let c := Sample.after directDelivery (by decide)
    ∃ row, c.world.log.lookup Sample.delivery.eventId = some row ∧
      (Faithful c Sample.delivery.eventId row ↔
        workerSendCount c Sample.delivery.eventId = 1 ∧
          (LastSendResolved c Sample.delivery.eventId ∨
            ¬ SendResolved c Sample.delivery.eventId)) :=
  ⟨_, rfl, log_fidelity_iff (System.run_result _) (by unfold StoresWorking; decide)
    (atRest_of_idle (by decide) (by decide)) rfl⟩

def retriedDelivery : List DeliveryAction :=
  [.start Sample.call, .resume 0 .ok, .resume 0 .ok, .resume 0 .ok,
    .resume 0 (.fail Sample.lostConnection), .resume 0 .ok, .resume 0 .ok,
    .start (.runJob Sample.delivery.eventId), .resume 1 .ok, .resume 1 .ok,
    .resume 1 (.response Sample.response), .resume 1 .ok]

/-- A single accepted send leaves an attempt count of two; a row of an event that the
worker delivered still says `failed`. -/
theorem log_unfaithful :
    let direct := Sample.after directDelivery (by decide)
    let retried := Sample.after retriedDelivery (by decide)
    (AtRest Sample.pipeline direct Sample.delivery.eventId ∧
        ∃ row, direct.world.log.lookup Sample.delivery.eventId = some row ∧
          ¬ Faithful direct Sample.delivery.eventId row) ∧
      AtRest Sample.pipeline retried Sample.delivery.eventId ∧
        ∃ row, retried.world.log.lookup Sample.delivery.eventId = some row ∧
          ¬ Faithful retried Sample.delivery.eventId row := by
  intro direct retried
  refine ⟨⟨atRest_of_idle (by decide) (by decide), _, rfl, fun faithful => ?_⟩,
    atRest_of_idle (by decide) (by decide), _, rfl, fun faithful => ?_⟩
  · exact absurd faithful.2 (by decide)
  · have resolved : SendResolved retried Sample.delivery.eventId :=
      ⟨Sample.delivery.payload, by decide, by decide⟩
    exact absurd (faithful.1.mpr resolved) (by decide)

end SalesforceTikTok
