import SalesforceTikTok.Delivery.Effects

/-!
# Lost events

The deduplication key is set before anything else is done for an event, and
nothing takes it back. An event is lost when the call that set the key gives up
on the way: Postgres rejects the pending row, or, after an unsuccessful send,
the write of `failed` or the queue rejects.
-/

namespace SalesforceTikTok

open Concurrency Pipeline

/-- A call that has passed its deduplication step for the event is still running. -/
def Processing (P : Pipeline) (c : DeliveryConfig (DeliveryProg Unit)) (eventId : String) : Prop :=
  ∃ pid, P.system.InFlight c pid ∧
    ∃ reply, .marked (DEDUP_KEY_PREFIX ++ eventId) reply ∈ callSteps c pid

/-- A send of the event resolved, or a retry job with it was added to the queue. -/
def Delivered {X : Type} (c : DeliveryConfig X) (eventId : String) : Prop :=
  (∃ payload, eventId ∈ payload.eventIds ∧ .accepted payload ∈ deliverySteps c.trace) ∨
    ∃ data ∈ c.world.jobsAdded, eventId ∈ data.payload.eventIds

/-- While its key is held and no call works on it, the event has been delivered. -/
def NotLost (P : Pipeline) (c : DeliveryConfig (DeliveryProg Unit)) (eventId : String) : Prop :=
  c.world.holds (DEDUP_KEY_PREFIX ++ eventId) = true → ¬ Processing P c eventId →
    Delivered c eventId

/-- No failure of Postgres or of the queue cut a call for the event short: its pending
row was stored and, unless TikTok accepted its send, so was the write of `failed`, and
the job reached the queue. -/
structure Undisturbed (eventId : String) (steps : List DeliveryStep) : Prop where
  pending : .inserted eventId .pending false ∉ steps
  retried : (∃ payload, eventId ∈ payload.eventIds ∧ .accepted payload ∈ steps) ∨
    .updated eventId .failed false ∉ steps ∧
      ∀ data resolved, eventId ∈ data.payload.eventIds → .queued data false resolved ∉ steps

theorem dedupKey_inj {eventId eventId' : String} :
    DEDUP_KEY_PREFIX ++ eventId = DEDUP_KEY_PREFIX ++ eventId' ↔ eventId = eventId' :=
  String.append_right_inj DEDUP_KEY_PREFIX

def DeliveryWorld.stored (w : DeliveryWorld) (eventId : String) : Bool :=
  w.holds (DEDUP_KEY_PREFIX ++ eventId)

theorem FailedAttempt.not_marked {d : Delivery} {attempt : List DeliveryStep}
    (failed : FailedAttempt d attempt) (key : String) (reply : Option SetReply) :
    .marked key reply ∉ attempt := by
  cases failed <;> simp

/-- An undisturbed call that set the key has sent the event or queued it. -/
theorem ProcessHistory.delivers {outcome : Except JsError Unit} {steps : List DeliveryStep}
    {eventId : String} (history : ProcessHistory (.ended outcome) steps)
    (first : .marked (DEDUP_KEY_PREFIX ++ eventId) (some .ok) ∈ steps)
    (undisturbed : Undisturbed eventId steps) :
    (∃ payload, eventId ∈ payload.eventIds ∧ .accepted payload ∈ steps) ∨
      ∃ data resolved, eventId ∈ data.payload.eventIds ∧ .queued data true resolved ∈ steps := by
  obtain ⟨pending, accepted | ⟨written, queued⟩⟩ := undisturbed
  · exact .inl accepted
  cases history with
  | filtered | duplicate => simp at first
  | @dropped d =>
      obtain ⟨rfl, _⟩ : eventId = d.eventId ∧ _ := by simpa [dedupKey_inj] using first
      exact absurd (by simp) pending
  | @sent d =>
      obtain ⟨rfl, _⟩ : eventId = d.eventId ∧ _ := by
        simpa [Delivery.opening, dedupKey_inj] using first
      exact .inl ⟨d.payload, by simp [d.single], by simp⟩
  | @unlogged d _ _ _ _ failed =>
      obtain ⟨rfl, _⟩ : eventId = d.eventId ∧ _ := by
        simpa [Delivery.opening, dedupKey_inj, failed.not_marked] using first
      exact absurd (by simp) written
  | @queued d _ _ reached resolved _ _ failed =>
      obtain ⟨rfl, _⟩ : eventId = d.eventId ∧ _ := by
        simpa [Delivery.opening, dedupKey_inj, failed.not_marked] using first
      have ids : d.eventId ∈ (RetryQueue.jobData d.payload).payload.eventIds := by
        simp [RetryQueue.jobData, d.single]
      cases reached with
      | true => exact .inr ⟨_, resolved, ids, by simp⟩
      | false => exact absurd (by simp) (queued _ resolved ids)

/-- In every run with Redis working, an event none of whose calls was disturbed is never
lost. -/
theorem no_lost_event {P : Pipeline} {clock : Int} {c : DeliveryConfig (DeliveryProg Unit)}
    {actions : List DeliveryAction}
    (h : P.system.run (.initial (.fresh clock)) actions = some c)
    (redis : RedisWorking (deliverySteps c.trace)) (eventId : String)
    (undisturbed : ∀ pid, Undisturbed eventId (callSteps c pid)) : NotLost P c eventId := by
  intro held idle
  obtain ⟨d, hd, rfl⟩ := exists_protocol h
  -- some call set the key that is held; it is no longer running
  have marked := (keys_marked hd redis).set _ (DeliveryWorld.lookup_of_holds held)
  obtain ⟨pid, first⟩ := mem_steps.mp marked
  obtain ⟨p, cdcEvent, lead, hp, entry⟩ := process_of_step hd first rfl
  have stopped : ¬ P.protocol.InFlight d pid := fun running =>
    idle ⟨pid, (protocol_refines P).inFlight.mpr running, _, first⟩
  obtain ⟨outcome, ended⟩ := ended_of_idle hp stopped
  have history := process_history hd hp entry
  rw [ended] at history
  obtain ⟨payload, ids, accepted⟩ | ⟨data, resolved, ids, queued⟩ :=
    history.delivers first (undisturbed pid)
  · exact .inl ⟨payload, ids, mem_steps.mpr ⟨pid, accepted⟩⟩
  · obtain ⟨data', added, same⟩ :=
      (jobs_kept hd).reached data resolved (mem_steps.mpr ⟨pid, queued⟩)
    exact .inr ⟨data', added, by rwa [same]⟩

def directDelivery : List DeliveryAction :=
  [.start Sample.call, .resume 0 .ok, .resume 0 .ok, .resume 0 .ok,
    .resume 0 (.response Sample.response), .resume 0 .ok]

theorem no_lost_event_direct :
    NotLost Sample.pipeline (Sample.after directDelivery (by decide)) Sample.delivery.eventId := by
  have steps : deliverySteps (Sample.after directDelivery (by decide)).trace =
      Sample.delivery.opening (some .ok) ++
        [.accepted Sample.delivery.payload, .updated Sample.delivery.eventId .sent true] := by
    decide
  refine no_lost_event (System.run_result _) ?_ _ fun pid => ⟨fun lost => ?_, ?_⟩
  · rw [steps]
    simp [RedisWorking, Delivery.opening]
  · have lost := mem_steps.mpr ⟨pid, lost⟩
    rw [steps] at lost
    simp [Delivery.opening] at lost
  · refine .inr ⟨fun lost => ?_, fun data resolved _ lost => ?_⟩
    · have lost := mem_steps.mpr ⟨pid, lost⟩
      rw [steps] at lost
      simp [Delivery.opening] at lost
    · have lost := mem_steps.mpr ⟨pid, lost⟩
      rw [steps] at lost
      simp [Delivery.opening] at lost

/-- The connection to Postgres is lost for the pending row; Salesforce redelivers. -/
def lostPendingRow : List DeliveryAction :=
  [.start Sample.call, .resume 0 .ok, .resume 0 (.fail Sample.lostConnection),
    .start Sample.call, .resume 1 .ok, .resume 1 .ok]

theorem event_lost :
    ¬ NotLost Sample.pipeline (Sample.after lostPendingRow (by decide))
      Sample.delivery.eventId := by
  intro kept
  have steps : deliverySteps (Sample.after lostPendingRow (by decide)).trace =
      [.marked (DEDUP_KEY_PREFIX ++ Sample.delivery.eventId) (some .ok),
        .inserted Sample.delivery.eventId .pending false,
        .marked (DEDUP_KEY_PREFIX ++ Sample.delivery.eventId) (some .null),
        .inserted Sample.delivery.eventId .duplicate true] := by decide
  have idle : Sample.pipeline.system.idle (Sample.after lostPendingRow (by decide)) = true := by
    decide
  obtain ⟨payload, _, accepted⟩ | ⟨data, added, _⟩ :=
    kept (by decide) fun ⟨pid, running, _⟩ => System.not_inFlight_of_idle idle pid running
  · rw [steps] at accepted
    simp at accepted
  · have none : (Sample.after lostPendingRow (by decide)).world.jobsAdded = [] := by decide
    rw [none] at added
    cases added

end SalesforceTikTok
