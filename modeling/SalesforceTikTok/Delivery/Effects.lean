import SalesforceTikTok.Delivery.History

/-!
# Effects of the delivery steps on the stores

For each store, what one transition can have done to it, and what a whole run
leaves in it as told by the steps in the trace.
-/

namespace SalesforceTikTok

open Concurrency

namespace DeliveryTransition

variable {P : Pipeline} {x y : DeliveryPoint} {w v : DeliveryWorld} {r : DeliveryRecord}

theorem clock_eq (t : DeliveryTransition P x w r y v) : v.clock = w.clock := by
  cases t with
  | markFailed lost effect =>
      rcases effect with rfl | rfl
      · rfl
      · rw [DeliveryWorld.setNx_frame]
  | duplicateLogFailed lost effect | pendingLogFailed lost effect | sentLogFailed lost effect
  | failedLogFailed lost effect => rcases effect with rfl | rfl <;> rfl
  | enqueued => simp
  | enqueueFailed lost effect => rcases effect with ⟨_, rfl⟩ | ⟨_, rfl⟩ <;> simp
  | taken job =>
      obtain ⟨_, _, _, rfl⟩ := DeliveryWorld.takeJob_spec job
      rfl
  | _ => rfl

/-- With Redis working, only a first marking touches the deduplication keys. -/
theorem dedup_cases (t : DeliveryTransition P x w r y v)
    (redis : ∀ key, deliveryStep r ≠ some (.marked key none)) :
    v.dedup = w.dedup ∧ (∀ key, deliveryStep r ≠ some (.marked key (some .ok))) ∨
      ∃ key, deliveryStep r = some (.marked key (some .ok)) ∧
        0 < P.env.REDIS_DEDUP_TTL_SECONDS ∧ w.holds key = false ∧
        v.dedup = w.dedup.insert key (w.clock + P.env.REDIS_DEDUP_TTL_SECONDS * 1000) := by
  cases t with
  | novel positive free => exact .inr ⟨_, rfl, positive, free, rfl⟩
  | markFailed lost effect => exact absurd rfl (redis _)
  | duplicateLogFailed lost effect | pendingLogFailed lost effect | sentLogFailed lost effect
  | failedLogFailed lost effect =>
      rcases effect with rfl | rfl <;> exact .inl ⟨rfl, by simp [deliveryStep]⟩
  | enqueued => exact .inl ⟨by simp, by simp [deliveryStep]⟩
  | enqueueFailed lost effect =>
      rcases effect with ⟨_, rfl⟩ | ⟨_, rfl⟩ <;> exact .inl ⟨by simp, by simp [deliveryStep]⟩
  | taken job =>
      obtain ⟨_, _, _, rfl⟩ := DeliveryWorld.takeJob_spec job
      exact .inl ⟨rfl, by simp [deliveryStep]⟩
  | accepted code | refused code => exact .inl ⟨rfl, by simp [deliveryStep, code]⟩
  | jobPosted =>
      refine .inl ⟨rfl, fun key => ?_⟩
      simp only [deliveryStep]
      split <;> simp
  | _ => exact .inl ⟨rfl, by simp [deliveryStep]⟩

theorem held_of_null {key : String} (t : DeliveryTransition P x w r y v)
    (h : deliveryStep r = some (.marked key (some .null))) : w.holds key = true := by
  cases t with
  | duplicate held =>
      cases h
      exact held
  | accepted code | refused code => simp [deliveryStep, code] at h
  | jobPosted =>
      simp only [deliveryStep, Option.some.injEq] at h
      split at h <;> cases h
  | _ => simp [deliveryStep] at h

/-- The queue takes a job in, or keeps what its jobs carry. -/
theorem jobs_cases (t : DeliveryTransition P x w r y v) :
    (v.jobsAdded = w.jobsAdded ∧
      (∀ id job, v.jobs.lookup id = some job →
        ∃ job', w.jobs.lookup id = some job' ∧ job'.data = job.data) ∧
      ∀ data resolved, deliveryStep r ≠ some (.queued data true resolved)) ∨
    ∃ data resolved eventId, deliveryStep r = some (.queued data true resolved) ∧
      data.payload.eventIds = [eventId] ∧ v = w.addJob eventId data := by
  cases t with
  | markFailed lost effect =>
      rcases effect with rfl | rfl
      · exact .inl ⟨rfl, fun _ job hj => ⟨job, hj, rfl⟩, by simp [deliveryStep]⟩
      · rw [DeliveryWorld.setNx_frame]
        exact .inl ⟨rfl, fun _ job hj => ⟨job, hj, rfl⟩, by simp [deliveryStep]⟩
  | duplicateLogFailed lost effect | pendingLogFailed lost effect | sentLogFailed lost effect
  | failedLogFailed lost effect =>
      rcases effect with rfl | rfl <;>
        exact .inl ⟨rfl, fun _ job hj => ⟨job, hj, rfl⟩, by simp [deliveryStep]⟩
  | @enqueued d =>
      refine .inr ⟨_, _, d.eventId, rfl, d.single, ?_⟩
      rw [d.jobId_eq]
  | @enqueueFailed d _ _ _ _ _ lost effect =>
      rcases effect with ⟨rfl, rfl⟩ | ⟨rfl, rfl⟩
      · exact .inl ⟨rfl, fun _ job hj => ⟨job, hj, rfl⟩,
          by simp [deliveryStep, DeliveryChoice.isFail]⟩
      · refine .inr ⟨_, _, d.eventId, rfl, d.single, ?_⟩
        rw [d.jobId_eq]
  | taken picked =>
      refine .inl ⟨?_, fun _ _ => DeliveryWorld.takeJob_carried picked, by simp [deliveryStep]⟩
      obtain ⟨job, _, _, rfl⟩ := DeliveryWorld.takeJob_spec picked
      rfl
  | settled =>
      exact .inl ⟨rfl, fun _ _ => DeliveryWorld.settleJob_carried, by simp [deliveryStep]⟩
  | accepted code | refused code =>
      exact .inl ⟨rfl, fun _ job hj => ⟨job, hj, rfl⟩, by simp [deliveryStep, code]⟩
  | jobPosted =>
      refine .inl ⟨rfl, fun _ job hj => ⟨job, hj, rfl⟩, fun data resolved => ?_⟩
      simp only [deliveryStep]
      split <;> simp
  | _ => exact .inl ⟨rfl, fun _ job hj => ⟨job, hj, rfl⟩, by simp [deliveryStep]⟩

end DeliveryTransition

/-! ## What the trace tells about the stores -/

def RedisWorking (steps : List DeliveryStep) : Prop :=
  ∀ key, .marked key none ∉ steps

theorem RedisWorking.answered {trace : List DeliveryRecord}
    (redis : RedisWorking (deliverySteps trace)) :
    ∀ r ∈ trace, ∀ key, deliveryStep r ≠ some (.marked key none) :=
  fun r hr key hs => redis key (List.mem_filterMap.mpr ⟨r, hr, hs⟩)

theorem StoresWorking.redis {steps : List DeliveryStep} (working : StoresWorking steps) :
    RedisWorking steps := fun key hs => by simpa [DeliveryStep.rejected] using working _ hs

/-- The deduplication store holds only keys that some call set first; only those are
found again. -/
structure KeysMarked (c : DeliveryConfig DeliveryPoint) : Prop where
  set : ∀ key, (c.world.dedup.lookup key).isSome = true →
    .marked key (some .ok) ∈ deliverySteps c.trace
  found : ∀ key, .marked key (some .null) ∈ deliverySteps c.trace →
    .marked key (some .ok) ∈ deliverySteps c.trace

/-- The queue holds jobs under their event id, and took in every payload that reached it. -/
structure JobsKept (c : DeliveryConfig DeliveryPoint) : Prop where
  named : ∀ id job, c.world.jobs.lookup id = some job →
    job.data ∈ c.world.jobsAdded ∧ job.data.payload.eventIds = [id]
  reached : ∀ data resolved, .queued data true resolved ∈ deliverySteps c.trace →
    ∃ data' ∈ c.world.jobsAdded, data'.payload.eventIds = data.payload.eventIds

theorem JobsKept.answered {P : Pipeline} {c : DeliveryConfig DeliveryPoint}
    {p : Proc DeliveryCall DeliveryPoint} {r : DeliveryRecord} {y : DeliveryPoint} {v : DeliveryWorld}
    {procs : List (Proc DeliveryCall DeliveryPoint)} (kept : JobsKept c)
    (t : DeliveryTransition P p.state c.world r y v) : JobsKept ⟨v, procs, c.trace ++ [r]⟩ := by
  have earlier : ∀ {data resolved}, .queued data true resolved ∈ deliverySteps (c.trace ++ [r]) →
      .queued data true resolved ∈ deliverySteps c.trace ∨
        deliveryStep r = some (.queued data true resolved) := by
    intro data resolved hs
    simpa [deliverySteps_append, deliverySteps_single, Option.mem_toList, eq_comm] using hs
  obtain ⟨added, jobs, quiet⟩ | ⟨data, resolved, eventId, hs, single, rfl⟩ := t.jobs_cases
  · constructor
    · intro id job hj
      obtain ⟨job', hj', hd⟩ := jobs id job hj
      simp only [added, ← hd]
      exact kept.named id job' hj'
    · intro data resolved hd
      rw [added]
      exact kept.reached data resolved ((earlier hd).resolve_right (quiet data resolved))
  · cases present : c.world.jobs.lookup eventId with
    | some job =>
        -- the queue retains a job of that event: the call is absorbed
        have absorbed : c.world.addJob eventId data = c.world := by
          simp only [DeliveryWorld.addJob, present]
        rw [absorbed]
        refine ⟨kept.named, fun data' resolved' hd => ?_⟩
        obtain hd | hd := earlier hd
        · exact kept.reached data' resolved' hd
        · obtain ⟨added, ids⟩ := kept.named eventId job present
          rw [hs] at hd
          cases hd
          exact ⟨job.data, added, by rw [ids, single]⟩
    | none =>
        have taken : c.world.addJob eventId data =
            { c.world with
              jobs := c.world.jobs.insert eventId ⟨data, .waiting, 0⟩
              jobsAdded := c.world.jobsAdded ++ [data] } := by
          simp only [DeliveryWorld.addJob, present]
        rw [taken]
        constructor
        · intro id job hj
          obtain ⟨rfl, rfl⟩ | hj := Storage.lookup_insert_cases hj
          · exact ⟨by simp, single⟩
          · obtain ⟨added, ids⟩ := kept.named id job hj
            exact ⟨by simp [added], ids⟩
        · intro data' resolved' hd
          obtain hd | hd := earlier hd
          · obtain ⟨data'', added, ids⟩ := kept.reached data' resolved' hd
            exact ⟨data'', by simp [added], ids⟩
          · rw [hs] at hd
            cases hd
            exact ⟨data, by simp, rfl⟩

namespace Pipeline

variable {P : Pipeline}

theorem keys_marked {clock : Int} {c : DeliveryConfig DeliveryPoint}
    {actions : List DeliveryAction}
    (h : P.protocol.run (.initial (.fresh clock)) actions = some c)
    (redis : RedisWorking (deliverySteps c.trace)) : KeysMarked c := by
  refine protocol_invariant (fun r => ∀ key, deliveryStep r ≠ some (.marked key none)) KeysMarked
    ?_ ?_ ?_ h redis.answered ?_
  · exact fun _ _ hc => ⟨hc.set, hc.found⟩
  · intro c pid p r y v hc _ _ t ok
    constructor
    · intro key held
      simp only at held
      rw [deliverySteps_append, List.mem_append]
      obtain ⟨same, _⟩ | ⟨key', hs, _, _, grown⟩ := t.dedup_cases ok
      · rw [same] at held
        exact .inl (hc.set key held)
      · by_cases here : key = key'
        · subst here
          exact .inr (by simp [deliverySteps, hs])
        · rw [grown, AList.lookup_insert_ne here] at held
          exact .inl (hc.set key held)
    · intro key again
      rw [deliverySteps_append, deliverySteps_single, List.mem_append, Option.mem_toList] at again
      rw [deliverySteps_append, List.mem_append]
      obtain earlier | here := again
      · exact .inl (hc.found key earlier)
      · exact .inl (hc.set key (DeliveryWorld.lookup_of_holds (t.held_of_null here)))
  · intro c event v hc hv
    obtain ⟨elapsed, rfl⟩ | ⟨id, rfl⟩ := deliveryEnv_cases hv <;> exact ⟨hc.set, hc.found⟩
  · exact ⟨by simp [Config.initial, DeliveryWorld.fresh], by simp [Config.initial]⟩

theorem jobs_kept {clock : Int} {c : DeliveryConfig DeliveryPoint}
    {actions : List DeliveryAction}
    (h : P.protocol.run (.initial (.fresh clock)) actions = some c) : JobsKept c := by
  refine protocol_invariant (fun _ => True) JobsKept ?_ ?_ ?_ h (fun _ _ => trivial) ?_
  · exact fun _ _ hc => ⟨hc.named, hc.reached⟩
  · exact fun c pid p r y v hc _ _ t _ => hc.answered t
  · intro c event v hc hv
    obtain ⟨elapsed, rfl⟩ | ⟨id, rfl⟩ := deliveryEnv_cases hv
    · exact ⟨hc.named, hc.reached⟩
    · exact ⟨fun id' job hj => hc.named id' job (Storage.lookup_of_erase hj), hc.reached⟩
  · exact ⟨by simp [Config.initial, DeliveryWorld.fresh], by simp [Config.initial]⟩

end Pipeline
end SalesforceTikTok
