import SalesforceTikTok.Delivery.Effects

/-!
# The row of an event

With the stores working, the event log follows the trace: a row appears with
the first insert, and carries the status of the last update.
-/

namespace SalesforceTikTok

open Concurrency Pipeline

/-- The status that a step writes into the row of the event by an update. -/
def updateOf (eventId : String) : DeliveryStep → Option EventLogStatus
  | .updated eventId' status _ => if eventId' = eventId then some status else none
  | _ => none

def updatesOf (eventId : String) (steps : List DeliveryStep) : List EventLogStatus :=
  steps.filterMap (updateOf eventId)

/-- The event whose row the call has to update: it comes after its pending insert. -/
def DeliveryPoint.rowOf : DeliveryPoint → Option String
  | .acquiring d | .posting d _ | .loggingSent d _ | .loggingFailed d _ => some d.eventId
  | _ => none

private theorem rowOf_unclaimed {x : DeliveryPoint} (unclaimed : x.isUnclaimed = true) :
    x.rowOf = none := by
  cases x with
  | acquiring d | posting d accessToken | loggingSent d response | loggingFailed d error =>
      cases unclaimed
  | _ => rfl

namespace DeliveryTransition

variable {P : Pipeline} {x y : DeliveryPoint} {w v : DeliveryWorld} {r : DeliveryRecord}

/-- The event log changes by an insert, or by the update a call owes its row. -/
theorem log_cases (t : DeliveryTransition P x w r y v)
    (working : ∀ s, deliveryStep r = some s → s.rejected = false) :
    (v.log = w.log ∧ (∀ eventId s, deliveryStep r = some s → updateOf eventId s = none) ∧
        ∀ eventId, y.rowOf = some eventId → x.rowOf = some eventId) ∨
      (∃ (d : Delivery) (status : EventLogStatus),
        deliveryStep r = some (.inserted d.eventId status true) ∧
        v.log = insertRow w.log d.eventId (d.record status) ∧
        ∀ eventId, y.rowOf = some eventId → eventId = d.eventId) ∨
      ∃ eventId status response error, deliveryStep r = some (.updated eventId status true) ∧
        x.rowOf = some eventId ∧ y.rowOf = none ∧
        v.log = updateRow w.log eventId status response error := by
  cases t with
  | resolved => exact .inl ⟨rfl, by simp [deliveryStep], by simp [rowOf_unclaimed (P.timed_isUnclaimed ..)]⟩
  | markFailed lost effect => exact absurd (working _ rfl) (by simp [DeliveryStep.rejected])
  | duplicateLogFailed lost effect | pendingLogFailed lost effect | sentLogFailed lost effect
  | failedLogFailed lost effect | enqueueFailed lost effect =>
      exact absurd (working _ rfl) (by simp [DeliveryStep.rejected, replied])
  | @duplicateLogged d | @pendingLogged d =>
      exact .inr (.inl ⟨d, _, rfl, rfl, by simp [DeliveryPoint.rowOf, eq_comm]⟩)
  | sentLogged | failedLogged => exact .inr (.inr ⟨_, _, _, _, rfl, rfl, rfl, rfl⟩)
  | accepted code | refused code =>
      exact .inl ⟨rfl, by simp [deliveryStep, code, updateOf], by simp [DeliveryPoint.rowOf]⟩
  | jobPosted =>
      refine .inl ⟨rfl, fun eventId s hs => ?_, by simp [DeliveryPoint.rowOf]⟩
      simp only [deliveryStep, Option.some.injEq] at hs
      subst hs
      split <;> rfl
  | taken picked =>
      obtain ⟨_, _, _, rfl⟩ := DeliveryWorld.takeJob_spec picked
      exact .inl ⟨rfl, by simp [deliveryStep], by simp [DeliveryPoint.rowOf]⟩
  | _ =>
      exact .inl ⟨by simp [DeliveryWorld.settleJob],
        by simp [deliveryStep, updateOf], by simp [DeliveryPoint.rowOf]⟩

end DeliveryTransition

/-! ## Inserts and updates of one row -/

theorem insertRow_keeps {log : EventLogTable} {eventId eventId' : String}
    {record row : EventLogRecord} (h : log.lookup eventId = some row) :
    (insertRow log eventId' record).lookup eventId = some row := by
  unfold insertRow
  split
  next => exact h
  next free =>
    by_cases same : eventId = eventId'
    · subst same
      rw [free] at h
      cases h
    · rwa [AList.lookup_insert_ne same]

theorem insertRow_present (log : EventLogTable) (eventId : String) (record : EventLogRecord) :
    ∃ row, (insertRow log eventId record).lookup eventId = some row := by
  unfold insertRow
  split
  next row present => exact ⟨row, present⟩
  next => exact ⟨record, AList.lookup_insert _⟩

/-- A row found after an insert was there before, or is the inserted one. -/
theorem insertRow_cases {log : EventLogTable} {eventId eventId' : String}
    {record row : EventLogRecord}
    (h : (insertRow log eventId' record).lookup eventId = some row) :
    log.lookup eventId = some row ∨
      log.lookup eventId = none ∧ eventId = eventId' ∧ row = record := by
  unfold insertRow at h
  split at h
  next => exact .inl h
  next free =>
    obtain ⟨rfl, rfl⟩ | h := Storage.lookup_insert_cases h
    · exact .inr ⟨free, rfl, rfl⟩
    · exact .inl h

theorem updateRow_of_ne {log : EventLogTable} {eventId eventId' : String} (h : eventId ≠ eventId')
    (status : EventLogStatus) (response : Option TikTokAPIResponse) (error : Option String) :
    (updateRow log eventId' status response error).lookup eventId = log.lookup eventId := by
  unfold updateRow
  split
  · exact AList.lookup_insert_ne h
  · rfl

theorem updateRow_self {log : EventLogTable} {eventId : String} {row : EventLogRecord}
    (h : log.lookup eventId = some row) (status : EventLogStatus)
    (response : Option TikTokAPIResponse) (error : Option String) :
    (updateRow log eventId status response error).lookup eventId =
      some (row.update status response error) := by
  simp only [updateRow, h, AList.lookup_insert]

/-! ## Rows over a run -/

/-- What the trace tells about the rows of a log that was `log` at the start. -/
structure RowsKept (log : EventLogTable) (c : DeliveryConfig DeliveryPoint) : Prop where
  present : ∀ (pid : Nat) p eventId, c.procs[pid]? = some p → p.state.rowOf = some eventId →
    ∃ row, c.world.log.lookup eventId = some row
  absent : ∀ eventId, c.world.log.lookup eventId = none →
    updatesOf eventId (deliverySteps c.trace) = []
  status : ∀ eventId row status, c.world.log.lookup eventId = some row →
    (updatesOf eventId (deliverySteps c.trace)).getLast? = some status → row.status = status
  origin : ∀ eventId row, log.lookup eventId = none → c.world.log.lookup eventId = some row →
    ∃ status, .inserted eventId status true ∈ deliverySteps c.trace
  count : ∀ eventId row, log.lookup eventId = none → c.world.log.lookup eventId = some row →
    row.attemptCount = 1 + (updatesOf eventId (deliverySteps c.trace)).length

private theorem updatesOf_append_single (eventId : String) (trace : List DeliveryRecord)
    (r : DeliveryRecord) :
    updatesOf eventId (deliverySteps (trace ++ [r])) =
      updatesOf eventId (deliverySteps trace) ++
        ((deliveryStep r).bind (updateOf eventId)).toList := by
  rw [deliverySteps_append, deliverySteps_single, updatesOf, List.filterMap_append]
  cases hr : deliveryStep r with
  | none => rfl
  | some s => cases hs : updateOf eventId s <;> simp [updatesOf, hs]

section

variable {log : EventLogTable} {c : DeliveryConfig DeliveryPoint} {pid : Nat}
  {p : Proc DeliveryCall DeliveryPoint} {r : DeliveryRecord} {y : DeliveryPoint} {v : DeliveryWorld}

theorem RowsKept.origin_append (kept : RowsKept log c) (r : DeliveryRecord) {eventId : String}
    {row : EventLogRecord} (start : log.lookup eventId = none)
    (found : c.world.log.lookup eventId = some row) :
    ∃ status, .inserted eventId status true ∈ deliverySteps (c.trace ++ [r]) := by
  obtain ⟨status, hs⟩ := kept.origin eventId row start found
  refine ⟨status, ?_⟩
  rw [deliverySteps_append]
  exact List.mem_append_left _ hs

theorem RowsKept.unwritten (kept : RowsKept log c) (hp : c.procs[pid]? = some p)
    (hlog : v.log = c.world.log)
    (quiet : ∀ eventId s, deliveryStep r = some s → updateOf eventId s = none)
    (points : ∀ eventId, y.rowOf = some eventId → p.state.rowOf = some eventId) :
    RowsKept log ⟨v, c.procs.set pid ⟨p.entry, y⟩, c.trace ++ [r]⟩ := by
  have same : ∀ eventId, updatesOf eventId (deliverySteps (c.trace ++ [r])) =
      updatesOf eventId (deliverySteps c.trace) := by
    intro eventId
    rw [updatesOf_append_single]
    cases hr : deliveryStep r with
    | none => simp
    | some s => simp [quiet eventId s hr]
  constructor <;> simp only [same, hlog]
  · intro pid' q eventId hq owes
    obtain ⟨_, rfl⟩ | ⟨_, hq⟩ := System.get_answered hq
    · exact kept.present pid p eventId hp (points eventId owes)
    · exact kept.present pid' q eventId hq owes
  · exact kept.absent
  · exact kept.status
  · exact fun eventId row start found => kept.origin_append r start found
  · exact kept.count

theorem RowsKept.inserted (kept : RowsKept log c) {d : Delivery} {status : EventLogStatus}
    (hs : deliveryStep r = some (.inserted d.eventId status true))
    (hlog : v.log = insertRow c.world.log d.eventId (d.record status))
    (point : ∀ eventId, y.rowOf = some eventId → eventId = d.eventId) :
    RowsKept log ⟨v, c.procs.set pid ⟨p.entry, y⟩, c.trace ++ [r]⟩ := by
  have same : ∀ eventId, updatesOf eventId (deliverySteps (c.trace ++ [r])) =
      updatesOf eventId (deliverySteps c.trace) := by
    intro eventId
    simp [updatesOf_append_single, hs, updateOf]
  constructor <;> simp only [same, hlog]
  · intro pid' q eventId hq owes
    obtain ⟨_, rfl⟩ | ⟨_, hq⟩ := System.get_answered hq
    · rw [point eventId owes]
      exact insertRow_present _ _ _
    · obtain ⟨row, present⟩ := kept.present pid' q eventId hq owes
      exact ⟨row, insertRow_keeps present⟩
  · intro eventId absent
    refine kept.absent eventId ?_
    cases present : c.world.log.lookup eventId with
    | none => rfl
    | some row => rw [insertRow_keeps present] at absent; cases absent
  · intro eventId row last found
    obtain found | ⟨free, rfl, rfl⟩ := insertRow_cases found
    · exact kept.status eventId row last found
    · simp [kept.absent _ free]
  · intro eventId row start found
    obtain found | ⟨free, rfl, rfl⟩ := insertRow_cases found
    · exact kept.origin_append r start found
    · exact ⟨status, by simp [deliverySteps_append, deliverySteps_single, hs]⟩
  · intro eventId row start found
    obtain found | ⟨free, rfl, rfl⟩ := insertRow_cases found
    · exact kept.count eventId row start found
    · simp [kept.absent _ free, Delivery.record]

/-- An answered update, by a call that has inserted the row. -/
theorem RowsKept.updated (kept : RowsKept log c) (hp : c.procs[pid]? = some p) {written : String}
    {status : EventLogStatus} {response : Option TikTokAPIResponse} {error : Option String}
    (hs : deliveryStep r = some (.updated written status true))
    (before : p.state.rowOf = some written) (after : y.rowOf = none)
    (hlog : v.log = updateRow c.world.log written status response error) :
    RowsKept log ⟨v, c.procs.set pid ⟨p.entry, y⟩, c.trace ++ [r]⟩ := by
  obtain ⟨row, present⟩ := kept.present pid p written hp before
  have here := updateRow_self present status response error
  constructor <;> simp only [hlog, updatesOf_append_single, hs, Option.bind_some]
  · intro pid' q eventId hq owes
    obtain ⟨_, rfl⟩ | ⟨_, hq⟩ := System.get_answered hq
    · rw [after] at owes
      cases owes
    · by_cases same : eventId = written
      · exact ⟨_, by rw [same]; exact here⟩
      · rw [updateRow_of_ne same]
        exact kept.present pid' q eventId hq owes
  · intro eventId absent
    have other : eventId ≠ written := by
      rintro rfl
      rw [here] at absent
      cases absent
    rw [updateRow_of_ne other] at absent
    simp [kept.absent eventId absent, updateOf, Ne.symm other]
  · intro eventId row' last found
    by_cases same : eventId = written
    · subst same
      rw [here] at found
      cases found
      simp [updateOf, EventLogRecord.update]
    · rw [updateRow_of_ne same] at found
      simpa [updateOf, Ne.symm same] using kept.status eventId row' last found
  · intro eventId row' start found
    by_cases same : eventId = written
    · subst same
      exact kept.origin_append r start present
    · rw [updateRow_of_ne same] at found
      exact kept.origin_append r start found
  · intro eventId row' start found
    by_cases same : eventId = written
    · subst same
      rw [here] at found
      cases found
      have counted := kept.count _ row start present
      simp [updateOf, EventLogRecord.update, counted, Nat.add_assoc]
    · rw [updateRow_of_ne same] at found
      simpa [updateOf, Ne.symm same] using kept.count eventId row' start found

theorem RowsKept.answered {P : Pipeline} (kept : RowsKept log c) (hp : c.procs[pid]? = some p)
    (t : DeliveryTransition P p.state c.world r y v)
    (working : ∀ s, deliveryStep r = some s → s.rejected = false) :
    RowsKept log ⟨v, c.procs.set pid ⟨p.entry, y⟩, c.trace ++ [r]⟩ := by
  obtain ⟨hlog, quiet, points⟩ | ⟨d, status, hs, hlog, point⟩ |
    ⟨written, status, response, error, hs, before, after, hlog⟩ := t.log_cases working
  · exact kept.unwritten hp hlog quiet points
  · exact kept.inserted hs hlog point
  · exact kept.updated hp hs before after hlog

end

theorem rows_kept {P : Pipeline} {w : DeliveryWorld} {c : DeliveryConfig DeliveryPoint}
    {actions : List DeliveryAction} (h : P.protocol.run (.initial w) actions = some c)
    (working : StoresWorking (deliverySteps c.trace)) : RowsKept w.log c := by
  refine protocol_invariant (fun r => ∀ s, deliveryStep r = some s → s.rejected = false)
    (RowsKept w.log) ?_ ?_ ?_ h working.answered ?_
  · intro c call kept
    refine ⟨fun pid p eventId hp owes => ?_, kept.absent, kept.status, kept.origin, kept.count⟩
    obtain hp | ⟨_, rfl⟩ := System.get_started hp
    · exact kept.present pid p eventId hp owes
    · rw [rowOf_unclaimed (P.startPoint_isUnclaimed call)] at owes
      cases owes
  · exact fun c pid p r y v kept hp _ t working => kept.answered hp t working
  · intro c event v kept hv
    obtain ⟨elapsed, rfl⟩ | ⟨id, rfl⟩ := deliveryEnv_cases hv <;>
      exact ⟨kept.present, kept.absent, kept.status, kept.origin, kept.count⟩
  · have empty : ∀ eventId row, w.log.lookup eventId = none → w.log.lookup eventId ≠ some row :=
      fun eventId row absent => by simp [absent]
    exact ⟨by simp [Config.initial], by simp [Config.initial, updatesOf],
      by simp [Config.initial, updatesOf], fun eventId row absent present =>
        absurd present (empty eventId row absent), fun eventId row absent present =>
        absurd present (empty eventId row absent)⟩

end SalesforceTikTok
