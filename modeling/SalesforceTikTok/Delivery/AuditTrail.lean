import SalesforceTikTok.Delivery.EventRow

/-!
# The event log as an audit trail

Whatever Redis, Postgres, the queue and TikTok answer, a row of the event log is never
removed and keeps the event it was written for. Only its outcome moves, by the updates
in the trace, and it says what its status says.
-/

namespace SalesforceTikTok

open Concurrency Pipeline

/-! ## What a row says -/

inductive Verdict : EventLogStatus → Option TikTokAPIResponse → Option String → Prop where
  | sent {response : TikTokAPIResponse} (code : response.code = 0) :
      Verdict .sent (some response) none
  | failed (message : String) : Verdict .failed none (some message)

/-- The row is about its event, and its columns agree: a row that was never updated has no
outcome, an updated one has the outcome of its status. -/
structure EventLogRecord.WellFormed (eventId : String) (row : EventLogRecord) : Prop where
  single : row.tiktokPayload.eventIds = [eventId]
  outcome : row.attemptCount = 1 ∧ (row.status = .pending ∨ row.status = .duplicate) ∧
      row.tiktokResponse = none ∧ row.error = none ∨
    1 < row.attemptCount ∧ Verdict row.status row.tiktokResponse row.error

def DeliveryStep.confirms (eventId : String) : DeliveryStep → Bool
  | .updated eventId' _ true => eventId' = eventId
  | _ => false

structure EventLogRecord.Continues (eventId : String) (steps : List DeliveryStep)
    (row row' : EventLogRecord) : Prop where
  eventName : row'.eventName = row.eventName
  leadId : row'.leadId = row.leadId
  replayId : row'.salesforceReplayId = row.salesforceReplayId
  payload : row'.tiktokPayload = row.tiktokPayload
  least : row.attemptCount + steps.countP (·.confirms eventId) ≤ row'.attemptCount
  most : row'.attemptCount ≤ row.attemptCount + (updatesOf eventId steps).length
  moved : row' = row ∨ row.attemptCount < row'.attemptCount ∧ row'.status ∈ updatesOf eventId steps

/-! ## One step -/

inductive LogEffect (log : EventLogTable) (step : Option DeliveryStep) : EventLogTable → Prop where
  | quiet (silent : ∀ eventId status resolved, step ≠ some (.updated eventId status resolved)) :
      LogEffect log step log
  | unwritten {eventId status} (lost : step = some (.updated eventId status false)) :
      LogEffect log step log
  | inserted (d : Delivery) {status : EventLogStatus}
      (first : status = .pending ∨ status = .duplicate)
      (silent : ∀ eventId status resolved, step ≠ some (.updated eventId status resolved)) :
      LogEffect log step (insertRow log d.eventId (d.record status))
  | updated {eventId status response error resolved}
      (write : step = some (.updated eventId status resolved))
      (verdict : Verdict status response error) :
      LogEffect log step (updateRow log eventId status response error)

/-- Before the write of `sent` TikTok has answered with code 0. -/
def DeliveryPoint.Sound (x : DeliveryPoint) : Prop :=
  ∀ d response, x = .loggingSent d response → response.code = 0

theorem DeliveryPoint.sound_unclaimed {x : DeliveryPoint} (unclaimed : x.isUnclaimed = true) :
    x.Sound := by
  rintro d response rfl
  cases unclaimed

namespace DeliveryTransition

variable {P : Pipeline} {x y : DeliveryPoint} {w v : DeliveryWorld} {r : DeliveryRecord}

theorem sound (t : DeliveryTransition P x w r y v) : y.Sound := by
  cases t with
  | accepted code =>
      intro d response same
      cases same
      exact code
  | resolved => exact DeliveryPoint.sound_unclaimed (P.timed_isUnclaimed ..)
  | _ => exact fun _ _ same => by cases same

theorem log_effect (t : DeliveryTransition P x w r y v) (sound : x.Sound) :
    LogEffect w.log (deliveryStep r) v.log := by
  cases t with
  | markFailed lost effect =>
      have same : v.log = w.log := by
        obtain rfl | rfl := effect
        · rfl
        · rw [DeliveryWorld.setNx_frame]
      rw [same]
      exact .quiet (by simp [deliveryStep])
  | @duplicateLogged d =>
      exact .inserted d (.inr rfl) (by simp [deliveryStep])
  | @pendingLogged d =>
      exact .inserted d (.inl rfl) (by simp [deliveryStep])
  | @duplicateLogFailed d _ _ _ _ _ lost effect =>
      obtain rfl | rfl := effect
      · exact .quiet (by simp [deliveryStep])
      · exact .inserted d (.inr rfl) (by simp [deliveryStep])
  | @pendingLogFailed d _ _ _ _ _ lost effect =>
      obtain rfl | rfl := effect
      · exact .quiet (by simp [deliveryStep])
      · exact .inserted d (.inl rfl) (by simp [deliveryStep])
  | sentLogged => exact .updated rfl (.sent (sound _ _ rfl))
  | sentLogFailed lost effect =>
      obtain rfl | rfl := effect
      · exact .unwritten rfl
      · exact .updated rfl (.sent (sound _ _ rfl))
  | failedLogged => exact .updated rfl (.failed _)
  | failedLogFailed lost effect =>
      obtain rfl | rfl := effect
      · exact .unwritten rfl
      · exact .updated rfl (.failed _)
  | enqueued =>
      rw [DeliveryWorld.addJob_log]
      exact .quiet (by simp [deliveryStep])
  | enqueueFailed lost effect =>
      have same : v.log = w.log := by
        obtain ⟨_, rfl⟩ | ⟨_, rfl⟩ := effect
        · rfl
        · exact DeliveryWorld.addJob_log ..
      rw [same]
      exact .quiet (by simp [deliveryStep])
  | taken picked =>
      obtain ⟨_, _, _, rfl⟩ := DeliveryWorld.takeJob_spec picked
      exact .quiet (by simp [deliveryStep])
  | accepted code | refused code => exact .quiet (by simp [deliveryStep, code])
  | jobPosted =>
      refine .quiet fun eventId status resolved => ?_
      simp only [deliveryStep]
      split <;> simp
  | _ => exact .quiet (by simp [deliveryStep])

end DeliveryTransition

/-! ## Rows after one step -/

namespace EventLogRecord

variable {eventId : String} {steps : List DeliveryStep} {row row' : EventLogRecord}

theorem Continues.refl (eventId : String) (row : EventLogRecord) : row.Continues eventId
    [] row where
  eventName := rfl
  leadId := rfl
  replayId := rfl
  payload := rfl
  least := Nat.le_refl _
  most := Nat.le_refl _
  moved := .inl rfl

private theorem updatesOf_append (eventId : String) (first second : List DeliveryStep) :
    updatesOf eventId (first ++ second) = updatesOf eventId first ++ updatesOf eventId second := by
  simp [updatesOf]

theorem Continues.kept (h : row.Continues eventId steps row') {step : Option DeliveryStep}
    (quiet : ∀ s, step = some s → s.confirms eventId = false) :
    row.Continues eventId (steps ++ step.toList) row' := by
  have confirmed : (steps ++ step.toList).countP (·.confirms eventId) =
      steps.countP (·.confirms eventId) := by
    cases step with
    | none => simp
    | some s => simp [quiet s rfl]
  refine ⟨h.eventName, h.leadId, h.replayId, h.payload, ?_, ?_, ?_⟩
  · rw [confirmed]
    exact h.least
  · have most := h.most
    simp only [updatesOf_append, List.length_append]
    omega
  · refine h.moved.imp_right fun ⟨more, written⟩ => ⟨more, ?_⟩
    rw [updatesOf_append]
    exact List.mem_append_left _ written

theorem Continues.update (h : row.Continues eventId steps row') (status : EventLogStatus)
    (response : Option TikTokAPIResponse) (error : Option String) (resolved : Bool) :
    row.Continues eventId (steps ++ [.updated eventId status resolved])
      (row'.update status response error) := by
  have least := h.least
  have most := h.most
  have written : updatesOf eventId (steps ++ [.updated eventId status resolved]) =
      updatesOf eventId steps ++ [status] := by
    rw [updatesOf_append]
    simp [updatesOf, updateOf]
  refine ⟨h.eventName, h.leadId, h.replayId, h.payload, ?_, ?_, .inr ⟨?_, ?_⟩⟩
  · have once : [DeliveryStep.updated eventId status resolved].countP (·.confirms eventId) ≤ 1 :=
      List.countP_le_length
    rw [List.countP_append]
    simp only [EventLogRecord.update]
    omega
  · rw [written, List.length_append]
    simp only [EventLogRecord.update, List.length_singleton]
    omega
  · simp only [EventLogRecord.update]
    omega
  · rw [written]
    simp [EventLogRecord.update]

theorem WellFormed.of_insert (d : Delivery) {status : EventLogStatus}
    (first : status = .pending ∨ status = .duplicate) : (d.record status).WellFormed d.eventId where
  single := d.single
  outcome := .inl ⟨rfl, first, rfl, rfl⟩

theorem WellFormed.update (h : row.WellFormed eventId) {status : EventLogStatus}
    {response : Option TikTokAPIResponse} {error : Option String}
    (verdict : Verdict status response error) : (row.update status response error).WellFormed eventId where
  single := h.single
  outcome := by
    right
    refine ⟨?_, verdict⟩
    have counted : 1 ≤ row.attemptCount := by
      obtain ⟨once, _⟩ | ⟨more, _⟩ := h.outcome
      · omega
      · omega
    simp only [EventLogRecord.update]
    omega

end EventLogRecord

namespace LogEffect

variable {log log' : EventLogTable} {step : Option DeliveryStep}

theorem continues (h : LogEffect log step log') {eventId : String} {start row : EventLogRecord}
    {steps : List DeliveryStep} (found : log.lookup eventId = some row)
    (before : start.Continues eventId steps row) :
    ∃ row', log'.lookup eventId = some row' ∧
      start.Continues eventId (steps ++ step.toList) row' := by
  have unconfirmed (silent : ∀ eventId status resolved,
      step ≠ some (.updated eventId status resolved)) :
      ∀ s, step = some s → s.confirms eventId = false := by
    rintro s rfl
    cases s with
    | updated eventId' status resolved => exact absurd rfl (silent eventId' status resolved)
    | _ => rfl
  cases h with
  | quiet silent => exact ⟨row, found, before.kept (unconfirmed silent)⟩
  | unwritten lost =>
      refine ⟨row, found, before.kept fun s hs => ?_⟩
      rw [lost] at hs
      cases hs
      rfl
  | inserted d first silent =>
      exact ⟨row, insertRow_keeps found, before.kept (unconfirmed silent)⟩
  | @updated written status response error resolved write verdict =>
      subst write
      by_cases same : eventId = written
      · subst same
        exact ⟨_, updateRow_self found status response error,
          before.update status response error resolved⟩
      · refine ⟨row, by rwa [updateRow_of_ne same], before.kept fun s hs => ?_⟩
        cases hs
        cases resolved <;> simp [DeliveryStep.confirms, Ne.symm same]

private theorem wellFormed (h : LogEffect log step log')
    (before : ∀ eventId row, log.lookup eventId = some row → row.WellFormed eventId) :
    ∀ eventId row, log'.lookup eventId = some row → row.WellFormed eventId := by
  intro eventId row found
  cases h with
  | quiet | unwritten => exact before eventId row found
  | inserted d first silent =>
      obtain found | ⟨_, rfl, rfl⟩ := insertRow_cases found
      · exact before eventId row found
      · exact .of_insert d first
  | @updated written status response error resolved write verdict =>
      by_cases same : eventId = written
      · subst same
        cases present : log.lookup eventId with
        | none =>
            simp only [updateRow, present] at found
            cases found
        | some old =>
            rw [updateRow_self present] at found
            cases found
            exact (before eventId old present).update verdict
      · rw [updateRow_of_ne same] at found
        exact before eventId row found

end LogEffect

/-! ## Runs -/

/-- The rows of `start` go on in `c`, by the steps made since. -/
structure TrailKept (start c : DeliveryConfig DeliveryPoint) : Prop where
  sound : ∀ (pid : Nat) p, c.procs[pid]? = some p → p.state.Sound
  grown : ∃ more, c.trace = start.trace ++ more ∧
    ∀ eventId row, start.world.log.lookup eventId = some row →
      ∃ row', c.world.log.lookup eventId = some row' ∧
        row.Continues eventId (deliverySteps more) row'

theorem TrailKept.refl {c : DeliveryConfig DeliveryPoint}
    (sound : ∀ (pid : Nat) p, c.procs[pid]? = some p → p.state.Sound) : TrailKept c c where
  sound := sound
  grown := ⟨[], (List.append_nil _).symm, fun eventId row found => ⟨row, found, .refl eventId row⟩⟩

theorem sound_started {P : Pipeline} {c : DeliveryConfig DeliveryPoint}
    (sound : ∀ (pid : Nat) p, c.procs[pid]? = some p → p.state.Sound) (call : DeliveryCall)
    {pid : Nat} {p : Proc DeliveryCall DeliveryPoint}
    (hp : (c.procs ++ [⟨call, P.startPoint call⟩])[pid]? = some p) : p.state.Sound := by
  obtain hp | ⟨_, rfl⟩ := System.get_started hp
  · exact sound pid p hp
  · exact DeliveryPoint.sound_unclaimed (P.startPoint_isUnclaimed call)

theorem sound_answered {P : Pipeline} {c : DeliveryConfig DeliveryPoint} {pid : Nat}
    {p : Proc DeliveryCall DeliveryPoint} {r : DeliveryRecord} {y : DeliveryPoint}
    {v : DeliveryWorld} (sound : ∀ (pid : Nat) p, c.procs[pid]? = some p → p.state.Sound)
    (t : DeliveryTransition P p.state c.world r y v) {q : Nat}
    {p' : Proc DeliveryCall DeliveryPoint}
    (hq : (c.procs.set pid ⟨p.entry, y⟩)[q]? = some p') : p'.state.Sound := by
  obtain ⟨_, rfl⟩ | ⟨_, hq⟩ := System.get_answered hq
  · exact t.sound
  · exact sound q p' hq

theorem trail_kept {P : Pipeline} {start c : DeliveryConfig DeliveryPoint}
    {actions : List DeliveryAction} (h : P.protocol.run start actions = some c)
    (sound : ∀ (pid : Nat) p, start.procs[pid]? = some p → p.state.Sound) : TrailKept start c := by
  refine protocol_invariant (fun _ => True) (TrailKept start) ?_ ?_ ?_ h (fun _ _ => trivial)
    (.refl sound)
  · exact fun d call kept => ⟨fun _ _ => sound_started kept.sound call, kept.grown⟩
  · intro d pid p r y v kept hp _ t _
    refine ⟨fun _ _ => sound_answered kept.sound t, ?_⟩
    obtain ⟨more, grown, rows⟩ := kept.grown
    refine ⟨more ++ [r], by rw [grown, List.append_assoc], fun eventId row found => ?_⟩
    obtain ⟨row', found', before⟩ := rows eventId row found
    rw [deliverySteps_append, deliverySteps_single]
    exact (t.log_effect (kept.sound pid p hp)).continues found' before
  · intro d event v kept hv
    obtain ⟨elapsed, rfl⟩ | ⟨id, rfl⟩ := deliveryEnv_cases hv <;> exact ⟨kept.sound, kept.grown⟩

theorem wellFormed_kept {P : Pipeline} {w : DeliveryWorld} {c : DeliveryConfig DeliveryPoint}
    {actions : List DeliveryAction} (h : P.protocol.run (.initial w) actions = some c)
    (start : ∀ eventId row, w.log.lookup eventId = some row → row.WellFormed eventId) :
    ∀ eventId row, c.world.log.lookup eventId = some row → row.WellFormed eventId := by
  refine (protocol_invariant (fun _ => True) (fun d : DeliveryConfig DeliveryPoint =>
    (∀ (pid : Nat) p, d.procs[pid]? = some p → p.state.Sound) ∧
      ∀ eventId row, d.world.log.lookup eventId = some row → row.WellFormed eventId)
    ?_ ?_ ?_ h (fun _ _ => trivial) ⟨by simp [Config.initial], start⟩).2
  · exact fun d call kept => ⟨fun _ _ => sound_started kept.1 call, kept.2⟩
  · intro d pid p r y v kept hp _ t _
    exact ⟨fun _ _ => sound_answered kept.1 t, (t.log_effect (kept.1 pid p hp)).wellFormed kept.2⟩
  · intro d event v kept hv
    obtain ⟨elapsed, rfl⟩ | ⟨id, rfl⟩ := deliveryEnv_cases hv <;> exact kept

/-- Under every pattern of failures the event log is an audit trail: from any state of a run to
any later one each row is still there, for the same event, lead, message and payload; its
attempts have grown by the updates that Postgres confirmed, at most by those that were sent;
and it is as it was, or has the status of one of them. Every row says what its status says. -/
theorem event_log_audit {P : Pipeline} {w : DeliveryWorld}
    {c d : DeliveryConfig (DeliveryProg Unit)} {first rest : List DeliveryAction}
    (start : ∀ eventId row, w.log.lookup eventId = some row → row.WellFormed eventId)
    (h : P.system.run (.initial w) first = some c) (h' : P.system.run c rest = some d) :
    (∃ more, d.trace = c.trace ++ more ∧
      ∀ eventId row, c.world.log.lookup eventId = some row →
        ∃ row', d.world.log.lookup eventId = some row' ∧
          row.Continues eventId (deliverySteps more) row') ∧
    ∀ eventId row, d.world.log.lookup eventId = some row → row.WellFormed eventId := by
  obtain ⟨c, hc, rfl⟩ := exists_protocol h
  obtain ⟨d, hd, rfl⟩ := (protocol_refines P).lift h'
  have sound : TrailKept (.initial w) c := trail_kept hc (by simp [Config.initial])
  have both : P.protocol.run (.initial w) (first ++ rest) = some d := by
    rw [System.run_append, hc]
    exact hd
  exact ⟨(trail_kept hd sound.sound).grown, wellFormed_kept both start⟩

def rowLogged : List DeliveryAction :=
  [.start Sample.call, .resume 0 .ok, .resume 0 .ok]

/-- The sample event is sent, and the reply to the write of `sent` is lost. -/
def sentReplyLost : List DeliveryAction :=
  [.resume 0 .ok, .resume 0 (.response Sample.response), .resume 0 (.failAfter Sample.lostConnection)]

abbrev afterLostReply : DeliveryConfig (DeliveryProg Unit) :=
  Sample.pipeline.system.result (Sample.after rowLogged (by decide)) sentReplyLost (by decide)

theorem event_log_audit_lost :
    ∃ row, afterLostReply.world.log.lookup Sample.delivery.eventId = some row ∧
      row.tiktokPayload = Sample.delivery.payload ∧ row.WellFormed Sample.delivery.eventId := by
  have fresh : ∀ eventId row, (DeliveryWorld.fresh 0).log.lookup eventId = some row →
      row.WellFormed eventId := fun _ _ found => by simp [DeliveryWorld.fresh] at found
  have first : (Sample.after rowLogged (by decide)).world.log.lookup Sample.delivery.eventId =
      some (Sample.delivery.record .pending) := by decide
  have run : Sample.pipeline.system.run (.initial (.fresh 0)) rowLogged =
      some (Sample.after rowLogged (by decide)) := System.run_result (by decide)
  have run' : Sample.pipeline.system.run (Sample.after rowLogged (by decide)) sentReplyLost =
      some afterLostReply := System.run_result (by decide)
  obtain ⟨⟨more, _, rows⟩, formed⟩ := event_log_audit fresh run run'
  obtain ⟨row, found, goes_on⟩ := rows _ _ first
  exact ⟨row, found, goes_on.payload, formed _ row found⟩

end SalesforceTikTok
