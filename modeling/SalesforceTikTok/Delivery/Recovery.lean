import SalesforceTikTok.Delivery.AuditTrail
import SalesforceTikTok.Delivery.NoLostEvent

/-!
# Crashes

A crash drops the calls in flight; Redis, Postgres and the queue keep what they have. The
key of an event that was not delivered by then shuts every later call for it out until it
expires, and the event log is what is left to send the event from.
-/

namespace SalesforceTikTok

open Concurrency Pipeline

/-! ## An event that is shut out -/

/-- The call does not work on the event, other than to find it a duplicate. -/
def DeliveryPoint.Spares (eventId : String) : DeliveryPoint → Prop
  | .loggingPending d | .acquiring d | .posting d _ | .loggingSent d _ | .loggingFailed d _
  | .enqueueing d => d.eventId ≠ eventId
  | .jobAcquiring _ data | .jobPosting _ data _ => eventId ∉ data.payload.eventIds
  | _ => True

theorem DeliveryPoint.spares_unclaimed {eventId : String} {x : DeliveryPoint}
    (unclaimed : x.isUnclaimed = true) : x.Spares eventId := by
  cases x with
  | resolving | timing | marking | taking | ended => trivial
  | _ => cases unclaimed

def DeliveryStep.Spares (eventId : String) (s : DeliveryStep) : Prop :=
  eventId ∈ s.eventIds → ∃ resolved, s = .inserted eventId .duplicate resolved

structure DeliveryWorld.Unqueued (eventId : String) (w : DeliveryWorld) : Prop where
  jobs : ∀ id job, w.jobs.lookup id = some job → eventId ∉ job.data.payload.eventIds
  added : ∀ data ∈ w.jobsAdded, eventId ∉ data.payload.eventIds

theorem Delivery.notMem_of_ne {d : Delivery} {eventId : String} (other : d.eventId ≠ eventId) :
    eventId ∉ d.payload.eventIds := by
  rw [d.single, List.mem_singleton]
  exact other.symm

namespace DeliveryTransition

variable {P : Pipeline} {x y : DeliveryPoint} {w v : DeliveryWorld} {r : DeliveryRecord}
  {eventId : String}

/-- While the key is held no answer lets a call begin with the event. -/
theorem spares (t : DeliveryTransition P x w r y v) (spared : x.Spares eventId)
    (held : w.holds (DEDUP_KEY_PREFIX ++ eventId) = true)
    (redis : ∀ key, deliveryStep r ≠ some (.marked key none))
    (unqueued : w.Unqueued eventId) :
    y.Spares eventId ∧ ∀ s, deliveryStep r = some s → s.Spares eventId := by
  -- a step whose events are those of a payload without the event
  have quiet {ids : List String} (none : eventId ∉ ids) {s : DeliveryStep} (same : s.eventIds = ids) :
      s.Spares eventId := fun mem => absurd (same ▸ mem) none
  have other {d : Delivery} (apart : d.eventId ≠ eventId) : eventId ∉ [d.eventId] := by
    simpa using apart.symm
  cases t with
  | resolved => exact ⟨DeliveryPoint.spares_unclaimed (P.timed_isUnclaimed ..), by simp [deliveryStep]⟩
  | timed | settled => exact ⟨trivial, by simp [deliveryStep]⟩
  | @novel d _ _ _ positive free =>
      refine ⟨?_, by simp [deliveryStep, DeliveryStep.Spares, DeliveryStep.eventIds]⟩
      rintro rfl
      rw [held] at free
      cases free
  | duplicate => exact ⟨trivial, by simp [deliveryStep, DeliveryStep.Spares, DeliveryStep.eventIds]⟩
  | markFailed => exact absurd rfl (redis _)
  | duplicateLogged | duplicateLogFailed =>
      refine ⟨trivial, fun s hs mem => ?_⟩
      cases hs
      obtain rfl := List.mem_singleton.mp mem
      exact ⟨_, rfl⟩
  | pendingLogged | failedLogged =>
      exact ⟨spared, fun s hs => quiet (other spared) (by cases hs; rfl)⟩
  | pendingLogFailed | sentLogged | failedLogFailed =>
      exact ⟨trivial, fun s hs => quiet (other spared) (by cases hs; rfl)⟩
  | sentLogFailed => exact ⟨spared, fun s hs => quiet (other spared) (by cases hs; rfl)⟩
  | @acquired d | @noToken d | @postFailed d =>
      exact ⟨spared, fun s hs => quiet (Delivery.notMem_of_ne spared) (by cases hs; rfl)⟩
  | accepted code | refused code =>
      refine ⟨spared, fun s hs => quiet (Delivery.notMem_of_ne spared) ?_⟩
      simp only [deliveryStep, code, if_true, if_false, Option.some.injEq] at hs
      rw [← hs]
      rfl
  | enqueued | enqueueFailed =>
      exact ⟨trivial, fun s hs => quiet (Delivery.notMem_of_ne spared) (by cases hs; rfl)⟩
  | taken picked =>
      obtain ⟨job, found, rfl, _⟩ := DeliveryWorld.takeJob_spec picked
      exact ⟨unqueued.jobs _ job found, by simp [deliveryStep]⟩
  | jobAcquired => exact ⟨spared, fun s hs => quiet spared (by cases hs; rfl)⟩
  | jobNoToken | jobPostFailed => exact ⟨trivial, fun s hs => quiet spared (by cases hs; rfl)⟩
  | jobPosted =>
      refine ⟨trivial, fun s hs => quiet spared ?_⟩
      simp only [deliveryStep, Option.some.injEq] at hs
      rw [← hs]
      split <;> rfl

/-- A queue without the event gets only jobs of other events. -/
theorem unqueued (t : DeliveryTransition P x w r y v) (before : w.Unqueued eventId)
    (spares : ∀ s, deliveryStep r = some s → s.Spares eventId) : v.Unqueued eventId := by
  obtain ⟨added, jobs, _⟩ | ⟨data, resolved, id, hs, _, rfl⟩ := t.jobs_cases
  · refine ⟨fun id job found => ?_, by rw [added]; exact before.added⟩
    obtain ⟨job', found', same⟩ := jobs id job found
    rw [← same]
    exact before.jobs id job' found'
  · have other : eventId ∉ data.payload.eventIds := fun mem => by
      obtain ⟨_, same⟩ := spares _ hs mem
      cases same
    constructor
    · intro id' job found
      obtain ⟨_, rfl⟩ | earlier := DeliveryWorld.addJob_cases found
      · exact other
      · exact before.jobs id' job earlier
    · intro data' mem
      unfold DeliveryWorld.addJob at mem
      split at mem
      next => exact before.added data' mem
      next =>
        obtain mem | rfl := by simpa using mem
        · exact before.added data' mem
        · exact other

end DeliveryTransition
/-- The key of the event is held until `expiry`, and nothing is going on for the event but
calls that find it a duplicate. -/
structure ShutOut (eventId : String) (expiry : Int) (d : DeliveryConfig DeliveryPoint) : Prop where
  key : d.world.dedup.lookup (DEDUP_KEY_PREFIX ++ eventId) = some expiry
  queue : d.world.Unqueued eventId
  calls : ∀ (pid : Nat) p, d.procs[pid]? = some p → p.state.Spares eventId
  steps : ∀ s ∈ deliverySteps d.trace, s.Spares eventId

namespace ShutOut

variable {P : Pipeline} {eventId : String} {expiry : Int} {d : DeliveryConfig DeliveryPoint}

theorem started (h : ShutOut eventId expiry d) (call : DeliveryCall) :
    ShutOut eventId expiry { d with procs := d.procs ++ [⟨call, P.startPoint call⟩] } where
  key := h.key
  queue := h.queue
  calls := by
    intro pid p hp
    obtain hp | ⟨_, rfl⟩ := System.get_started hp
    · exact h.calls pid p hp
    · exact DeliveryPoint.spares_unclaimed (P.startPoint_isUnclaimed call)
  steps := h.steps

theorem answered (h : ShutOut eventId expiry d) (early : d.world.clock < expiry) {pid : Nat}
    {p : Proc DeliveryCall DeliveryPoint} (hp : d.procs[pid]? = some p) {r : DeliveryRecord}
    {y : DeliveryPoint} {v : DeliveryWorld} (t : DeliveryTransition P p.state d.world r y v)
    (redis : ∀ key, deliveryStep r ≠ some (.marked key none)) :
    ShutOut eventId expiry ⟨v, d.procs.set pid ⟨p.entry, y⟩, d.trace ++ [r]⟩ := by
  have held := DeliveryWorld.holds_of_lookup h.key early
  obtain ⟨point, step⟩ := t.spares (h.calls pid p hp) held redis h.queue
  refine ⟨?_, t.unqueued h.queue step, fun q p' hq => ?_, fun s hs => ?_⟩
  · obtain ⟨same, _⟩ | ⟨key, _, _, free, grown⟩ := t.dedup_cases redis
    · exact same ▸ h.key
    · have apart : DEDUP_KEY_PREFIX ++ eventId ≠ key := by
        rintro rfl
        rw [held] at free
        cases free
      rw [grown, AList.lookup_insert_ne apart]
      exact h.key
  · obtain ⟨_, rfl⟩ | ⟨_, hq⟩ := System.get_answered hq
    · exact point
    · exact h.calls q p' hq
  · rw [deliverySteps_append, deliverySteps_single, List.mem_append, Option.mem_toList] at hs
    exact hs.elim (h.steps s) (step s)

end ShutOut

private theorem shut_out {P : Pipeline} {eventId : String} {expiry : Int} {w : DeliveryWorld}
    {d : DeliveryConfig DeliveryPoint} {actions : List DeliveryAction}
    (h : P.protocol.run (.initial w) actions = some d)
    (redis : RedisWorking (deliverySteps d.trace)) (early : d.world.clock < expiry)
    (key : w.dedup.lookup (DEDUP_KEY_PREFIX ++ eventId) = some expiry)
    (queue : w.Unqueued eventId) : ShutOut eventId expiry d := by
  refine protocol_invariant (fun r => ∀ key, deliveryStep r ≠ some (.marked key none))
    (fun d => d.world.clock < expiry → ShutOut eventId expiry d) ?_ ?_ ?_ h redis.answered ?_ early
  · exact fun c call kept early => (kept early).started call
  · intro c pid p r y v kept hp _ t ok early
    dsimp only at early
    rw [t.clock_eq] at early
    exact (kept early).answered early hp t ok
  · intro c event v kept hv early
    obtain ⟨elapsed, rfl⟩ | ⟨id, rfl⟩ := deliveryEnv_cases hv
    · have before := kept (by dsimp only at early; omega)
      exact ⟨before.key, ⟨before.queue.jobs, before.queue.added⟩, before.calls, before.steps⟩
    · have before := kept early
      exact ⟨before.key, ⟨fun id' job found =>
        before.queue.jobs id' job (Storage.lookup_of_erase found), before.queue.added⟩,
        before.calls, before.steps⟩
  · exact fun _ => ⟨key, queue, by simp [Config.initial], by simp [Config.initial]⟩

/-! ## What the log says at a crash -/

/-- A call set the key of the event and awaits the insert of its pending row. -/
def Unlogged (P : Pipeline) (c : DeliveryConfig (DeliveryProg Unit)) (eventId : String) : Prop :=
  ∃ pid, P.system.InFlight c pid ∧
    callSteps c pid = [.marked (DEDUP_KEY_PREFIX ++ eventId) (some .ok)]

/-- A call that set the key is about to write its pending row, or has written it. -/
theorem ProcessHistory.logged {x : DeliveryPoint} {steps : List DeliveryStep} {eventId : String}
    (history : ProcessHistory x steps)
    (first : .marked (DEDUP_KEY_PREFIX ++ eventId) (some .ok) ∈ steps)
    (working : StoresWorking steps) :
    (∃ d, x = .loggingPending d) ∧ steps = [.marked (DEDUP_KEY_PREFIX ++ eventId) (some .ok)] ∨
      .inserted eventId .pending true ∈ steps := by
  cases history with
  | resolving | timing | marking | filtered | loggingDuplicate | duplicate => simp at first
  | @loggingPending d =>
      obtain ⟨rfl, rfl⟩ : eventId = d.eventId ∧ _ := by simpa [dedupKey_inj] using first
      exact .inl ⟨⟨d, rfl⟩, rfl⟩
  | @dropped d =>
      have stored := working (.inserted d.eventId .pending false) (by simp)
      simp [DeliveryStep.rejected] at stored
  | @acquiring d | @posting d | @loggingSent d | @sent d =>
      obtain ⟨rfl, _⟩ : eventId = d.eventId ∧ _ := by
        simpa [Delivery.opening, dedupKey_inj] using first
      exact .inr (by simp [Delivery.opening])
  | @loggingFailed d _ _ _ _ failed | @enqueueing d _ _ _ failed | @unlogged d _ _ _ _ failed
  | @queued d _ _ _ _ _ _ failed =>
      obtain ⟨rfl, _⟩ : eventId = d.eventId ∧ _ := by
        simpa [Delivery.opening, dedupKey_inj, failed.not_marked] using first
      exact .inr (by simp [Delivery.opening])

/-- Before the status `sent` is written TikTok has accepted the event. -/
theorem ProcessHistory.accepted_of_sent {x : DeliveryPoint} {steps : List DeliveryStep}
    {eventId : String} {resolved : Bool} (history : ProcessHistory x steps)
    (sent : .updated eventId .sent resolved ∈ steps) :
    ∃ payload, eventId ∈ payload.eventIds ∧ .accepted payload ∈ steps := by
  have attempted {d : Delivery} {attempt : List DeliveryStep} (failed : FailedAttempt d attempt)
      (sent : .updated eventId .sent resolved ∈ attempt) :
      eventId = d.eventId ∧ .accepted d.payload ∈ attempt := by
    cases failed with
    | noToken | refused => simp at sent
    | unlogged => exact ⟨(by simpa using sent : eventId = d.eventId ∧ _).1, by simp⟩
  cases history with
  | resolving | timing | marking | filtered | loggingDuplicate | duplicate | loggingPending
  | acquiring | dropped => simp at sent
  | posting | loggingSent => simp [Delivery.opening] at sent
  | @sent d =>
      obtain ⟨rfl, _⟩ : eventId = d.eventId ∧ _ := by simpa [Delivery.opening] using sent
      exact ⟨d.payload, by simp [d.single], by simp⟩
  | @loggingFailed d _ _ _ _ failed | @enqueueing d _ _ _ failed | @unlogged d _ _ _ _ failed
  | @queued d _ _ _ _ _ _ failed =>
      obtain ⟨rfl, accepted⟩ := attempted failed (by simpa [Delivery.opening] using sent)
      exact ⟨d.payload, by simp [d.single], by simp [accepted]⟩

theorem DeliveryTransition.row_of_inserted {P : Pipeline} {x y : DeliveryPoint}
    {w v : DeliveryWorld} {r : DeliveryRecord} (t : DeliveryTransition P x w r y v)
    {eventId : String} {status : EventLogStatus}
    (stored : deliveryStep r = some (.inserted eventId status true)) :
    ∃ row, v.log.lookup eventId = some row := by
  cases t with
  | duplicateLogged | pendingLogged =>
      cases stored
      exact insertRow_present ..
  | duplicateLogFailed | pendingLogFailed => simp [deliveryStep, replied] at stored
  | accepted code | refused code => simp [deliveryStep, code] at stored
  | jobPosted =>
      simp only [deliveryStep, Option.some.injEq] at stored
      split at stored <;> cases stored
  | _ => simp [deliveryStep] at stored

private theorem row_present {P : Pipeline} {w : DeliveryWorld} {c : DeliveryConfig DeliveryPoint}
    {actions : List DeliveryAction} (h : P.protocol.run (.initial w) actions = some c)
    {eventId : String} {status : EventLogStatus}
    (stored : .inserted eventId status true ∈ deliverySteps c.trace) :
    ∃ row, c.world.log.lookup eventId = some row := by
  refine (protocol_invariant (fun _ => True) (fun d : DeliveryConfig DeliveryPoint =>
    (∀ (pid : Nat) p, d.procs[pid]? = some p → p.state.Sound) ∧
      ∀ eventId status, .inserted eventId status true ∈ deliverySteps d.trace →
        ∃ row, d.world.log.lookup eventId = some row)
    ?_ ?_ ?_ h (fun _ _ => trivial) ⟨by simp [Config.initial], by simp [Config.initial]⟩).2
    eventId status stored
  · exact fun d call kept => ⟨fun _ _ => sound_started kept.1 call, kept.2⟩
  · intro d pid p r y v kept hp _ t _
    refine ⟨fun _ _ => sound_answered kept.1 t, fun eventId status stored => ?_⟩
    rw [deliverySteps_append, deliverySteps_single, List.mem_append, Option.mem_toList] at stored
    obtain before | now := stored
    · obtain ⟨row, found⟩ := kept.2 eventId status before
      obtain ⟨row', found', _⟩ :=
        (t.log_effect (kept.1 pid p hp)).continues found (.refl eventId row)
      exact ⟨row', found'⟩
    · exact t.row_of_inserted now
  · intro d event v kept hv
    obtain ⟨elapsed, rfl⟩ | ⟨id, rfl⟩ := deliveryEnv_cases hv <;> exact kept

/-- The row of an event that TikTok has not accepted does not say `sent`. -/
theorem unsent_row {P : Pipeline} {clock : Int} {c : DeliveryConfig DeliveryPoint}
    {actions : List DeliveryAction}
    (h : P.protocol.run (.initial (.fresh clock)) actions = some c)
    (working : StoresWorking (deliverySteps c.trace)) {eventId : String} {row : EventLogRecord}
    (found : c.world.log.lookup eventId = some row)
    (unsent : ¬ ∃ payload, eventId ∈ payload.eventIds ∧ .accepted payload ∈ deliverySteps c.trace) :
    row.status ≠ .sent ∧ row.tiktokPayload.eventIds = [eventId] := by
  have fresh : ∀ eventId row, (DeliveryWorld.fresh clock).log.lookup eventId = some row →
      row.WellFormed eventId := fun _ _ found => by simp [DeliveryWorld.fresh] at found
  have formed := wellFormed_kept h fresh eventId row found
  refine ⟨fun sent => unsent ?_, formed.single⟩
  have kept := rows_kept h working
  have counted := kept.count eventId row (by simp [DeliveryWorld.fresh]) found
  -- a row that says `sent` was updated, last to that status
  have updated : updatesOf eventId (deliverySteps c.trace) ≠ [] := by
    intro none
    obtain ⟨_, initial, _⟩ | ⟨more, _⟩ := formed.outcome
    · obtain pending | duplicate := initial
      · rw [sent] at pending; cases pending
      · rw [sent] at duplicate; cases duplicate
    · rw [none] at counted
      simp only [List.length_nil] at counted
      omega
  have last := List.getLast?_eq_some_getLast updated
  rw [← kept.status eventId row _ found last, sent] at last
  obtain ⟨s, hs, write⟩ := List.mem_filterMap.mp (List.mem_of_getLast? last)
  obtain ⟨resolved, rfl⟩ : ∃ resolved, s = .updated eventId .sent resolved := by
    cases s with
    | updated eventId' status resolved =>
        simp only [updateOf, Option.ite_none_right_eq_some, Option.some.injEq] at write
        obtain ⟨rfl, rfl⟩ := write
        exact ⟨resolved, rfl⟩
    | _ => cases write
  obtain ⟨pid, own⟩ := mem_steps.mp hs
  obtain ⟨p, cdcEvent, lead, hp, entry⟩ := process_of_step h own rfl
  obtain ⟨payload, ids, accepted⟩ := (process_history h hp entry).accepted_of_sent own
  exact ⟨payload, ids, mem_steps.mpr ⟨pid, accepted⟩⟩

private theorem unqueued_of_undelivered {P : Pipeline} {clock : Int}
    {c : DeliveryConfig DeliveryPoint} {actions : List DeliveryAction}
    (h : P.protocol.run (.initial (.fresh clock)) actions = some c) {eventId : String}
    (undelivered : ¬ Delivered c eventId) : c.world.Unqueued eventId where
  jobs id job found mem :=
    undelivered (.inr ⟨job.data, ((jobs_kept h).named id job found).1, mem⟩)
  added data added mem := undelivered (.inr ⟨data, added, mem⟩)

/-- The process crashes in any state of a run in which the stores worked, and goes on from
what they hold. An event whose key is held and that was not delivered is not sent, queued or
updated by any call until the key expires: redeliveries are logged as duplicates. Its row
stays as the crash left it, with the payload to send it from and not marked as sent, unless
the crash came between the key and the row. -/
theorem crash_shuts_out {P : Pipeline} {clock expiry : Int}
    {c d : DeliveryConfig (DeliveryProg Unit)} {first rest : List DeliveryAction}
    {eventId : String} (h : P.system.run (.initial (.fresh clock)) first = some c)
    (working : StoresWorking (deliverySteps c.trace))
    (key : c.world.dedup.lookup (DEDUP_KEY_PREFIX ++ eventId) = some expiry)
    (undelivered : ¬ Delivered c eventId)
    (h' : P.system.run (.initial c.world) rest = some d)
    (redis : RedisWorking (deliverySteps d.trace)) (early : d.world.clock < expiry) :
    (∀ s ∈ deliverySteps d.trace, eventId ∈ s.eventIds →
      ∃ resolved, s = .inserted eventId .duplicate resolved) ∧
    ¬ Delivered d eventId ∧
    (Unlogged P c eventId ∨ ∃ row, c.world.log.lookup eventId = some row ∧
      d.world.log.lookup eventId = some row ∧ row.status ≠ .sent ∧
      row.tiktokPayload.eventIds = [eventId]) := by
  obtain ⟨c, hc, rfl⟩ := exists_protocol h
  obtain ⟨d, hd, rfl⟩ := exists_protocol h'
  have out := shut_out hd redis early key (unqueued_of_undelivered hc undelivered)
  refine ⟨out.steps, ?_, ?_⟩
  · rintro (⟨payload, ids, accepted⟩ | ⟨data, added, ids⟩)
    · obtain ⟨_, same⟩ := out.steps _ accepted ids
      cases same
    · exact out.queue.added data added ids
  · have marked := (keys_marked hc working.redis).set _ (Option.isSome_of_eq_some key)
    obtain ⟨pid, own⟩ := mem_steps.mp marked
    obtain ⟨p, cdcEvent, lead, hp, entry⟩ := process_of_step hc own rfl
    obtain ⟨⟨e, point⟩, alone⟩ | stored :=
      (process_history hc hp entry).logged own (working.call pid)
    · have running : P.protocol.InFlight c pid := by
        by_contra idle
        obtain ⟨outcome, ended⟩ := ended_of_idle hp idle
        rw [point] at ended
        cases ended
      exact .inl ⟨pid, (protocol_refines P).inFlight.mpr running, alone⟩
    · obtain ⟨row, found⟩ := row_present hc (mem_steps.mpr ⟨pid, stored⟩)
      obtain ⟨unsent, single⟩ := unsent_row hc working found fun accepted =>
        undelivered (.inl accepted)
      obtain ⟨more, grown, rows⟩ := (trail_kept hd (by simp [Config.initial])).grown
      obtain ⟨row', found', goes_on⟩ := rows eventId row found
      obtain rfl : d.trace = more := grown
      have quiet : updatesOf eventId (deliverySteps d.trace) = [] := by
        refine List.filterMap_eq_nil_iff.mpr fun s hs => ?_
        cases s with
        | updated eventId' status resolved =>
            refine if_neg fun same => ?_
            obtain ⟨_, other⟩ := out.steps _ hs (by simp [DeliveryStep.eventIds, same])
            cases other
        | _ => rfl
      obtain rfl | ⟨_, moved⟩ := goes_on.moved
      · exact .inr ⟨_, found, found', unsent, single⟩
      · rw [quiet] at moved
        cases moved

def redelivered : List DeliveryAction := [.start Sample.call, .resume 0 .ok, .resume 0 .ok]

private theorem rowLogged_possible :
    (Sample.pipeline.system.run (.initial (.fresh 0)) rowLogged).isSome = true := by decide

abbrev afterRedelivery : DeliveryConfig (DeliveryProg Unit) :=
  Sample.pipeline.system.result (.initial (Sample.after rowLogged rowLogged_possible).world)
    redelivered (by decide)

theorem crash_shuts_out_redelivery : ¬ Delivered afterRedelivery Sample.delivery.eventId := by
  have before : deliverySteps (Sample.after rowLogged rowLogged_possible).trace =
      [.marked (DEDUP_KEY_PREFIX ++ Sample.delivery.eventId) (some .ok),
        .inserted Sample.delivery.eventId .pending true] := by decide
  have after : deliverySteps afterRedelivery.trace =
      [.marked (DEDUP_KEY_PREFIX ++ Sample.delivery.eventId) (some .null),
        .inserted Sample.delivery.eventId .duplicate true] := by decide
  have key : (Sample.after rowLogged rowLogged_possible).world.dedup.lookup
      (DEDUP_KEY_PREFIX ++ Sample.delivery.eventId) = some 172800000 := by decide
  refine (crash_shuts_out (System.run_result (by decide)) ?_ key ?_
    (System.run_result (by decide)) ?_ (by decide)).2.1
  · rw [before]
    simp [StoresWorking, DeliveryStep.rejected]
  · rintro (⟨payload, _, accepted⟩ | ⟨data, added, _⟩)
    · rw [before] at accepted
      simp at accepted
    · have none : (Sample.after rowLogged rowLogged_possible).world.jobsAdded = [] := by decide
      rw [none] at added
      cases added
  · rw [after]
    simp [RedisWorking]

end SalesforceTikTok
