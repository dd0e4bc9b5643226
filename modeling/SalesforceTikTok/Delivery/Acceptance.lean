import SalesforceTikTok.Delivery.History

/-!
# After TikTok accepted

The `try` of `process` covers the send and the write of `sent`. A rejected write
therefore takes the `catch` branch of an accepted send: the event is logged as
failed and delivered again.
-/

namespace SalesforceTikTok

open Concurrency Pipeline

/-- A call whose `sendEvents` resolved writes no `failed` and queues nothing. -/
def NoDeliveryAfterAcceptance (steps : List DeliveryStep) : Prop :=
  (∃ payload, .accepted payload ∈ steps) →
    (∀ eventId resolved, .updated eventId .failed resolved ∉ steps) ∧
      ∀ data reached resolved, .queued data reached resolved ∉ steps

/-- Postgres rejected the write of `sent`. -/
def SentWriteRejected (steps : List DeliveryStep) : Prop :=
  ∃ eventId, .updated eventId .sent false ∈ steps

theorem ProcessHistory.keeps_acceptance {x : DeliveryPoint} {steps : List DeliveryStep}
    (history : ProcessHistory x steps) (stored : ¬ SentWriteRejected steps) :
    NoDeliveryAfterAcceptance steps := by
  cases history with
  | loggingFailed first failed | enqueueing first failed | unlogged first failed
  | queued first failed ok =>
      cases failed with
      | noToken | refused => simp [NoDeliveryAfterAcceptance, Delivery.opening]
      | unlogged => simp [SentWriteRejected, Delivery.opening] at stored
  | _ => simp [NoDeliveryAfterAcceptance, Delivery.opening]

/-- An ended call whose write of `sent` was rejected wrote `failed` as well. -/
theorem ProcessHistory.redelivers {outcome : Except JsError Unit} {steps : List DeliveryStep}
    (history : ProcessHistory (.ended outcome) steps) (rejected : SentWriteRejected steps) :
    ¬ NoDeliveryAfterAcceptance steps := by
  cases history with
  | unlogged first failed | queued first failed ok =>
      cases failed with
      | noToken | refused => simp [SentWriteRejected, Delivery.opening] at rejected
      | unlogged => simp [NoDeliveryAfterAcceptance, Delivery.opening]
  | _ => simp [SentWriteRejected, Delivery.opening] at rejected

theorem no_delivery_after_acceptance_iff {P : Pipeline} {w : DeliveryWorld}
    {c : DeliveryConfig (DeliveryProg Unit)} {actions : List DeliveryAction}
    (h : P.system.run (.initial w) actions = some c) {pid : Nat} {cdcEvent : SalesforceCDCEvent}
    {lead : SalesforceLead} {state : DeliveryProg Unit}
    (hp : c.procs[pid]? = some ⟨.process cdcEvent lead, state⟩) :
    (¬ SentWriteRejected (callSteps c pid) → NoDeliveryAfterAcceptance (callSteps c pid)) ∧
      ∀ outcome, P.system.Ended c pid outcome →
        (NoDeliveryAfterAcceptance (callSteps c pid) ↔ ¬ SentWriteRejected (callSteps c pid)) := by
  obtain ⟨d, hd, rfl⟩ := exists_protocol h
  rw [Config.map_get, Option.map_eq_some_iff] at hp
  obtain ⟨p, hp, hq⟩ := hp
  have history : ProcessHistory p.state (callSteps d pid) :=
    process_history hd hp (congrArg Proc.entry hq)
  refine ⟨history.keeps_acceptance, fun outcome ended => ?_⟩
  rw [ended_point hp ((protocol_refines P).ended.mp ended)] at history
  exact ⟨fun kept rejected => history.redelivers rejected kept, history.keeps_acceptance⟩

/-- A send that TikTok accepted, with the connection to Postgres lost right after it. -/
def lostAfterAcceptance : List DeliveryAction :=
  [.start Sample.call, .resume 0 .ok, .resume 0 .ok, .resume 0 .ok,
    .resume 0 (.response Sample.response), .resume 0 (.fail Sample.lostConnection),
    .resume 0 .ok, .resume 0 .ok]

theorem no_delivery_after_acceptance_iff_lost :
    let c := Sample.after lostAfterAcceptance (by decide)
    NoDeliveryAfterAcceptance (callSteps c 0) ↔ ¬ SentWriteRejected (callSteps c 0) :=
  have entry : (Sample.after lostAfterAcceptance (by decide)).procs[0]? =
      some ⟨.process Sample.cdcEvent Sample.lead, .done ()⟩ := rfl
  (no_delivery_after_acceptance_iff (System.run_result _) entry).2 (.ok ()) ⟨_, rfl, rfl⟩

theorem accepted_event_enqueued :
    ¬ NoDeliveryAfterAcceptance (callSteps (Sample.after lostAfterAcceptance (by decide)) 0) := by
  have steps : callSteps (Sample.after lostAfterAcceptance (by decide)) 0 =
      Sample.delivery.opening (some .ok) ++
        [.accepted Sample.delivery.payload, .updated Sample.delivery.eventId .sent false,
          .updated Sample.delivery.eventId .failed true,
          .queued (RetryQueue.jobData Sample.delivery.payload) true true] := by decide
  rw [steps]
  intro kept
  exact (kept ⟨Sample.delivery.payload, by simp⟩).1 Sample.delivery.eventId true (by simp)

end SalesforceTikTok
