import Mathlib.Data.List.Infix
import SalesforceTikTok.EventSet.Transitions

/-!
# The cached id and the stored row

`store` writes the row and then its copy, and a failure to write the copy is
swallowed; `resolve` copies the id it read. From a store's return on the two
agree if they agree then and no call is about to write another id.
-/

namespace SalesforceTikTok

open Concurrency

namespace EventSetCache

open CRMEventSetManager

/-- An id that a lookup of the cache takes for a miss, or this one. -/
def Agrees (found id : String) : Prop := found = "" ∨ found = id

instance (found id : String) : Decidable (Agrees found id) :=
  inferInstanceAs (Decidable (found = "" ∨ found = id))

def stores (a : String) : EventSetPoint → Bool
  | .upserting b _ _ => b = a
  | _ => false

/-- An id that the call is about to copy to Redis for this advertiser is this one. -/
def Copies (a id : String) : EventSetPoint → Prop
  | .caching b eventSet _ => b = a → Agrees eventSet.eventSetId id
  | .warming b found => b = a → Agrees found id
  | _ => True

theorem cacheKey_injective {a b : String} (h : cacheKey a = cacheKey b) : a = b :=
  (String.append_right_inj _).mp h

/-- When the `SET` of a store is answered so: Postgres holds the id it stored, the `SET` takes
effect or replaces no other id, and every id that a call is about to copy is that one. -/
structure Coherent (a id : String) (b : EventSetConfig EventSetPoint) (choice : EventSetChoice) :
    Prop where
  stored : b.world.selectId a = some id
  copied : (∃ e, choice = .fail e) → ∀ found,
    b.world.cache.get b.world.clock (cacheKey a) = some found → Agrees found id
  held : ∀ p ∈ b.procs, Copies a id p.state

structure Serves (a id : String) (w : EventSetWorld) : Prop where
  stored : w.selectId a = some id
  copy : ∀ found, w.cache.get w.clock (cacheKey a) = some found → Agrees found id

/-! ## What keeps the id served -/

section

variable {a id : String} {w : EventSetWorld}

theorem Serves.cacheSet (h : Serves a id w) {b found : String} (same : b = a → Agrees found id) :
    Serves a id (w.cacheSet (cacheKey b) found EVENT_SET_CACHE_TTL) where
  stored := h.stored
  copy := by
    intro read copy
    obtain ⟨key, rfl⟩ | earlier := Storage.Expiring.get_set_cases copy
    · exact same (cacheKey_injective key).symm
    · exact h.copy read earlier

theorem Serves.upsertSet (h : Serves a id w) {row : AdvertiserEventSet}
    (other : row.advertiserId ≠ a) : Serves a id (w.upsertSet row) where
  stored := by
    have same : (w.upsertSet row).selectId a = w.selectId a := by
      unfold EventSetWorld.selectId EventSetWorld.upsertSet
      rw [AList.lookup_insert_ne other.symm]
    rw [same]
    exact h.stored
  copy := h.copy

theorem Serves.create (h : Serves a id w) (b : String) (response : CRMCreateResponse) :
    Serves a id (w.create b response) := by
  unfold EventSetWorld.create
  split
  · exact ⟨h.stored, h.copy⟩
  · exact h

theorem Serves.tick (h : Serves a id w) (elapsed : Nat) :
    Serves a id { w with clock := w.clock + elapsed } where
  stored := h.stored
  copy found copy := by
    have order : w.clock ≤ w.clock + elapsed := by omega
    exact h.copy found (Storage.Expiring.get_earlier order copy)

/-- One answer to a call that stores no row of the advertiser. -/
theorem Serves.answered {M : CRMEventSetManager} {x y : EventSetPoint} {v : EventSetWorld}
    {r : EventSetRecord} (h : Serves a id w) (t : EventSetTransition M x w r y v)
    (copies : Copies a id x) (quiet : stores a x = false) : Serves a id v := by
  cases t with
  | setCreated | createUnseen => exact h.create _ _
  | rowStored => exact h.upsertSet (of_decide_eq_false quiet)
  | rowLost effect =>
      rcases effect with rfl | rfl
      · exact h
      · exact h.upsertSet (of_decide_eq_false quiet)
  | copied effect | warmed effect =>
      rcases effect with rfl | rfl
      · exact h
      · exact h.cacheSet copies
  | _ => exact h

private theorem copies_of_start (call : EventSetCall) : Copies a id call.startPoint := by
  cases call with
  | create b accessToken name => cases name <;> trivial
  | _ => trivial

private theorem copies_of_stored (source : EventSetSource) (eventSet : CRMEventSet) :
    Copies a id (source.stored eventSet) := by
  cases source <;> trivial

private theorem copies_of_failed (source : EventSetSource) (error : JsError) :
    Copies a id (source.failed error) := by
  cases source <;> trivial

private theorem copies_of_lister (k : Lister) (error : JsError) : Copies a id (k.failed error) := by
  cases k <;> trivial

private theorem copies_of_creator (k : Creator) (error : JsError) : Copies a id
    (k.failed error) := by
  cases k <;> trivial

private theorem copies_of_listed (k : Lister) (b accessToken : String) (sets : List CRMEventSet) :
    Copies a id (k.listed b accessToken sets) := by
  unfold Lister.listed
  split
  · trivial
  · next name =>
    split
    · cases name <;> trivial
    · trivial
    · trivial
  · split <;> trivial

theorem Serves.copies {M : CRMEventSetManager} {x y : EventSetPoint} {v : EventSetWorld}
    {r : EventSetRecord} (h : Serves a id w) (t : EventSetTransition M x w r y v)
    (quiet : stores a x = false) : Copies a id y := by
  cases t with
  | setsListed => exact copies_of_listed _ _ _ _
  | listRefused | listFailed => exact copies_of_lister _ _
  | createRefused | createUnseen | createFailed => exact copies_of_creator _ _
  | @updatedTimed k => cases k <;> trivial
  | rowStored => exact fun same => absurd same (of_decide_eq_false quiet)
  | rowLost effect => exact copies_of_failed _ _
  | copied effect => exact copies_of_stored _ _
  | rowSelected found =>
      rintro rfl
      rw [h.stored] at found
      exact .inr (Option.some.inj found).symm
  | rowMissing missing =>
      unfold fallbackPoint
      split
      · split <;> trivial
      · trivial
  | _ => trivial

end

/-! ## Lookups after the store -/

/-- The `SELECT` of this call for the advertiser's row was rejected. -/
def SelectRejected (trace : List EventSetRecord) (pid : Nat) (a : String) : Prop :=
  ∃ r ∈ trace, r.pid = pid ∧ r.cmd = .selectId a ∧ r.choice ≠ .ok

/-- Where a `resolve` that is served this id can be, and after how many answers. -/
inductive Served (trace : List EventSetRecord) (pid : Nat) (a id : String) :
    EventSetPoint → Nat → Prop where
  | getting : Served trace pid a id (.gettingCache a) 0
  | selecting : Served trace pid a id (.selecting a) 1
  | warming : Served trace pid a id (.warming a id) 2
  | found {n} : Served trace pid a id (.ended (.ok (.resolved id))) n
  | failed {n} (e : JsError) (rejected : SelectRejected trace pid a) :
      Served trace pid a id (.ended (.error e)) n

theorem Served.append {trace : List EventSetRecord} {pid n : Nat} {a id : String}
    {x : EventSetPoint} (h : Served trace pid a id x n) (more : List EventSetRecord) :
    Served (trace ++ more) pid a id x n := by
  cases h with
  | getting => exact .getting
  | selecting => exact .selecting
  | warming => exact .warming
  | found => exact .found
  | failed e rejected =>
      obtain ⟨r, hr, rest⟩ := rejected
      exact .failed e ⟨r, List.mem_append_left more hr, rest⟩

theorem Served.step {M : CRMEventSetManager} {trace : List EventSetRecord} {n : Nat}
    {a id : String} {x y : EventSetPoint} {w v : EventSetWorld} {r : EventSetRecord}
    (h : Served trace r.pid a id x n) (t : EventSetTransition M x w r y v)
    (serves : Serves a id w) : Served (trace ++ [r]) r.pid a id y (n + 1) := by
  cases h with
  | getting =>
      cases t with
      | cacheHit copy full =>
          obtain empty | rfl := serves.copy _ copy
          · exact absurd empty full
          · exact .found
      | cacheMiss => exact .selecting
  | selecting =>
      cases t with
      | rowSelected found =>
          rw [serves.stored] at found
          obtain rfl := Option.some.inj found
          exact .warming
      | rowMissing missing =>
          rw [serves.stored] at missing
          cases missing
      | selectFailed lost =>
          exact .failed _ ⟨_, List.mem_append_right _ List.mem_cons_self, rfl, rfl, lost⟩
  | warming =>
      cases t with
      | warmed effect => exact .found
  | found => cases t
  | failed e rejected => cases t

/-- What holds after a store from whose return on calls are numbered `n`. -/
structure AfterStore (a id : String) (n : Nat) (c : EventSetConfig EventSetPoint) : Prop where
  serves : Serves a id c.world
  copies : ∀ p ∈ c.procs, Copies a id p.state
  quiet : ∀ p ∈ c.procs, stores a p.state = false
  earlier : n ≤ c.procs.length
  bounded : ∀ r ∈ c.trace, r.pid < c.procs.length
  served : ∀ pid p, n ≤ pid → c.procs[pid]? = some p → p.entry = .resolve a →
    Served c.trace pid a id p.state (c.own pid).length

theorem AfterStore.run {M : CRMEventSetManager} {a id : String} {n : Nat}
    {c c' : EventSetConfig EventSetPoint} {rest : List EventSetAction}
    (hr : M.protocol.run c rest = some c')
    (along : M.protocol.Along (fun _ _ d => ∀ p ∈ d.procs, stores a p.state = false) c rest)
    (h : AfterStore a id n c) : AfterStore a id n c' := by
  refine protocol_invariant (fun _ _ d => ∀ p ∈ d.procs, stores a p.state = false)
    (AfterStore a id n) ?_ ?_ ?_ hr along h
  · intro c call h quiet
    refine ⟨h.serves, ?_, quiet, ?_, ?_, ?_⟩
    · intro p hp
      rcases List.mem_append.mp hp with hp | hp
      · exact h.copies p hp
      · obtain rfl := List.mem_singleton.mp hp
        exact copies_of_start call
    · have := h.earlier
      simp only [List.length_append]
      omega
    · intro r hr
      have := h.bounded r hr
      simp only [List.length_append]
      omega
    · intro pid p later hp entry
      obtain hp | ⟨rfl, rfl⟩ := System.get_started hp
      · exact h.served pid p later hp entry
      · have entry : call = .resolve a := entry
        have fresh : c.own c.procs.length = [] := by
          apply List.filter_eq_nil_iff.mpr
          intro r hr
          have := h.bounded r hr
          simp only [decide_eq_true_eq]
          omega
        show Served c.trace c.procs.length a id call.startPoint (c.own c.procs.length).length
        rw [entry, fresh]
        exact .getting
  · intro c pid p r y v h hp hpid t quiet
    have member := List.mem_of_getElem? hp
    have bound := (List.getElem?_eq_some_iff.mp hp).choose
    refine ⟨h.serves.answered t (h.copies p member) (h.quiet p member), ?_, quiet,
      by simpa using h.earlier, ?_, ?_⟩
    · intro q hq
      rcases List.mem_or_eq_of_mem_set hq with hq | rfl
      · exact h.copies q hq
      · exact h.serves.copies t (h.quiet p member)
    · intro q hq
      rcases List.mem_append.mp hq with hq | hq
      · simpa using h.bounded q hq
      · obtain rfl := List.mem_singleton.mp hq
        simpa [hpid] using bound
    · intro q p' later hp' entry
      obtain ⟨rfl, rfl⟩ | ⟨other, hp'⟩ := System.get_answered hp'
      · subst hpid
        rw [System.own_append_self, List.length_append]
        exact (h.served _ p later hp entry).step t h.serves
      · have elsewhere : r.pid ≠ q := by
          rw [hpid]
          exact Ne.symm other
        rw [System.own_append_of_ne c elsewhere]
        exact (h.served q p' later hp' entry).append [r]
  · intro c elapsed h quiet
    exact ⟨h.serves.tick elapsed, h.copies, quiet, h.earlier, h.bounded, h.served⟩

/-- The last answer of a store leaves stores that serve its id. -/
theorem Coherent.returned {M : CRMEventSetManager} {a : String} {eventSet : CRMEventSet}
    {b c : EventSetConfig EventSetPoint} {pid : Nat} {entry : EventSetCall}
    {source : EventSetSource} {choice : EventSetChoice}
    (coherent : Coherent a eventSet.eventSetId b choice)
    (store : b.procs[pid]? = some ⟨entry, .caching a eventSet source⟩)
    (returned : M.protocol.step b (.resume pid choice) = some c) :
    Serves a eventSet.eventSetId c.world ∧
      ∀ p ∈ c.procs, Copies a eventSet.eventSetId p.state := by
  obtain ⟨p, cmd, resume, reply, v, hp, hv, he, rfl⟩ := System.step_resume returned
  obtain rfl : p = ⟨entry, .caching a eventSet source⟩ := by simpa [store] using hp.symm
  cases hv
  constructor
  · show Serves a eventSet.eventSetId v
    have written : Serves a eventSet.eventSetId
        (b.world.cacheSet (cacheKey a) eventSet.eventSetId EVENT_SET_CACHE_TTL) := by
      refine ⟨coherent.stored, fun found copy => ?_⟩
      obtain ⟨expiry, present⟩ := Storage.Expiring.lookup_of_get copy
      have set : (b.world.cacheSet (cacheKey a) eventSet.eventSetId
          EVENT_SET_CACHE_TTL).cache.lookup (cacheKey a) =
            some (eventSet.eventSetId, b.world.clock + EVENT_SET_CACHE_TTL * 1000) :=
        AList.lookup_insert _
      rw [set] at present
      cases present
      exact .inr rfl
    cases choice <;> cases he
    · exact written
    · next e => exact ⟨coherent.stored, coherent.copied ⟨e, rfl⟩⟩
    · exact written
  · intro q hq
    rcases List.mem_or_eq_of_mem_set hq with hq | rfl
    · exact coherent.held q hq
    · exact copies_of_stored source eventSet

theorem Served.outcome {M : CRMEventSetManager} {trace : List EventSetRecord} {pid n : Nat}
    {a id : String} {x : EventSetPoint} (h : Served trace pid a id x n)
    {outcome : Except JsError EventSetResult} (ended : x.view M = .ended outcome) :
    outcome = .ok (.resolved id) ∨ SelectRejected trace pid a := by
  cases h with
  | found => cases ended; exact .inl rfl
  | failed e rejected => exact .inr rejected
  | _ => cases ended

theorem Served.progress {M : CRMEventSetManager} {trace : List EventSetRecord} {pid n : Nat}
    {a id : String} {x : EventSetPoint} (h : Served trace pid a id x n) {cmd : EventSetCmd}
    {resume : Except JsError cmd.Reply → EventSetPoint} (hv : x.view M = .awaits cmd resume)
    (w : EventSetWorld) : n < 3 ∧ ∃ reply v, eventSetExec cmd .ok w = some (reply, v) := by
  cases h with
  | getting => cases hv; exact ⟨by omega, _, _, rfl⟩
  | selecting => cases hv; exact ⟨by omega, _, _, rfl⟩
  | warming => cases hv; exact ⟨by omega, _, _, rfl⟩
  | found => cases hv
  | failed e rejected => cases hv

end EventSetCache

open EventSetCache

/-- A store that returns in a coherent state, after which no call stores a row of the
advertiser: every later `resolve` ends, and unless Postgres rejects its `SELECT` it returns
the id that was stored, however Redis fails. -/
theorem resolve_coherent {M : CRMEventSetManager} {w : EventSetWorld} {a : String}
    {eventSet : CRMEventSet} {before rest : List EventSetAction}
    {b c : EventSetConfig EventSetPoint} {c' : EventSetConfig (EventSetProg EventSetResult)}
    {pid : Nat} {entry : EventSetCall} {source : EventSetSource} {choice : EventSetChoice}
    (h : M.protocol.run (.initial w) before = some b)
    (store : b.procs[pid]? = some ⟨entry, .caching a eventSet source⟩)
    (returned : M.protocol.step b (.resume pid choice) = some c)
    (coherent : EventSetCache.Coherent a eventSet.eventSetId b choice)
    (hr : M.system.run (c.map (EventSetPoint.program M)) rest = some c')
    (undisturbed : ∀ first more d, rest = first ++ more → M.protocol.run c first = some d →
      ∀ p ∈ d.procs, stores a p.state = false) :
    ∀ q p, c.procs.length ≤ q → c'.procs[q]? = some p → p.entry = .resolve a →
      (∀ outcome, M.system.Ended c' q outcome →
        outcome = .ok (.resolved eventSet.eventSetId) ∨
          EventSetCache.SelectRejected c'.trace q a) ∧
      (M.system.InFlight c' q → (c'.own q).length < 3 ∧
        (M.system.step c' (.resume q .ok)).isSome = true) := by
  obtain ⟨d, hd, rfl⟩ := M.protocol_refines.lift hr
  obtain ⟨serves, copies⟩ := coherent.returned store returned
  have reached : M.protocol.run (.initial w) (before ++ [.resume pid choice]) = some c := by
    simp [System.run_append, h, System.run, returned]
  have now : AfterStore a eventSet.eventSetId c.procs.length c := by
    refine ⟨serves, copies, undisturbed [] rest c rfl rfl, Nat.le_refl _,
      System.run_pid_bound reached, fun q p later hq => ?_⟩
    have bound := (List.getElem?_eq_some_iff.mp hq).choose
    exact absurd bound (Nat.not_lt.mpr later)
  have after := now.run hd (System.along_of_prefixes _ undisturbed)
  intro q p later hp lookup
  rw [Config.map_get, Option.map_eq_some_iff] at hp
  obtain ⟨p', hp', rfl⟩ := hp
  have served := after.served q p' later hp' lookup
  refine ⟨fun outcome ended => ?_, fun running => ?_⟩
  · have hv := (M.protocol_refines.ended.mp ended).view_eq hp'
    exact served.outcome hv
  · obtain ⟨p'', cmd, resume, hp'', hv⟩ := M.protocol_refines.inFlight.mp running
    obtain rfl : p' = p'' := by simpa [hp'] using hp''
    obtain ⟨few, reply, v, he⟩ := served.progress hv d.world
    refine ⟨few, ?_⟩
    rw [M.protocol_refines.step, System.step_answer hp' hv he]
    rfl

/-! ## A copy that outlives its row -/

namespace EventSetSample

def both : EventSetChoice :=
  .listed { code := 0, message := "OK", list := some [eventSet "es-1", eventSet "es-2"] }

def reselecting : List EventSetAction :=
  [.start (.select "adv-001" "es-1" "token"), .resume 0 both, .resume 0 .ok, .resume 0 .ok,
    .start (.select "adv-001" "es-2" "token"), .resume 1 both, .resume 1 .ok]

abbrev points (actions : List EventSetAction)
    (possible : (manager.protocol.run (.initial (.fresh 0)) actions).isSome = true) :
    EventSetConfig EventSetPoint :=
  manager.protocol.result (.initial (.fresh 0)) actions possible

def reselected : EventSetConfig EventSetPoint :=
  points (reselecting ++ [.resume 1 .ok]) (by decide)

def resolveUncached : List EventSetAction :=
  [.start (.resolve "adv-001"), .resume 2 (.fail redisDown), .resume 2 .ok,
    .resume 2 (.fail redisDown)]

end EventSetSample

theorem resolve_coherent_uncached :
    ∃ c', EventSetSample.manager.system.run
        (EventSetSample.reselected.map (EventSetPoint.program EventSetSample.manager))
        EventSetSample.resolveUncached = some c' ∧
      ∀ outcome, EventSetSample.manager.system.Ended c' 2 outcome →
        outcome = .ok (.resolved "es-2") ∨ EventSetCache.SelectRejected c'.trace 2 "adv-001" := by
  have h : EventSetSample.manager.protocol.run (.initial (.fresh 0)) EventSetSample.reselecting =
      some (EventSetSample.points EventSetSample.reselecting (by decide)) := System.run_result _
  have store : (EventSetSample.points EventSetSample.reselecting (by decide)).procs[1]? =
      some ⟨.select "adv-001" "es-2" "token",
        .caching "adv-001" (EventSetSample.eventSet "es-2") .manuallySelected⟩ := rfl
  have returned : EventSetSample.manager.protocol.step
      (EventSetSample.points EventSetSample.reselecting (by decide)) (.resume 1 .ok) =
      some EventSetSample.reselected := rfl
  have coherent : EventSetCache.Coherent "adv-001" "es-2"
      (EventSetSample.points EventSetSample.reselecting (by decide)) .ok := by
    have procs : (EventSetSample.points EventSetSample.reselecting (by decide)).procs =
        [⟨.select "adv-001" "es-1" "token",
            .ended (.ok (.selected (EventSetSample.eventSet "es-1")))⟩,
          ⟨.select "adv-001" "es-2" "token",
            .caching "adv-001" (EventSetSample.eventSet "es-2") .manuallySelected⟩] := rfl
    refine ⟨rfl, fun lost => by simp at lost, fun p hp => ?_⟩
    rw [procs] at hp
    obtain rfl | rfl : _ ∨ _ := by simpa using hp
    · trivial
    · exact fun _ => .inr rfl
  have hr : EventSetSample.manager.system.run
      (EventSetSample.reselected.map (EventSetPoint.program EventSetSample.manager))
      EventSetSample.resolveUncached = some (EventSetSample.manager.system.result
        (EventSetSample.reselected.map (EventSetPoint.program EventSetSample.manager))
        EventSetSample.resolveUncached (by decide)) :=
    System.run_result _
  have undisturbed : ∀ first ∈ EventSetSample.resolveUncached.inits,
      ∀ d ∈ EventSetSample.manager.protocol.run EventSetSample.reselected first,
        ∀ p ∈ d.procs, stores "adv-001" p.state = false := by
    decide
  have served := resolve_coherent h store returned coherent hr
    (fun first more d split => undisturbed first ((List.mem_inits _ _).mpr ⟨more, split.symm⟩) d)
  exact ⟨_, hr, (served 2 _ (by decide) rfl rfl).1⟩

/-- The second store has returned; Redis failed its `SET`, and a `resolve` begun afterwards
returns the first one's id. -/
theorem stale_event_set_resolved :
    ∃ c c', EventSetSample.manager.system.run (.initial (.fresh 0))
        (EventSetSample.reselecting ++ [.resume 1 (.fail EventSetSample.redisDown)]) = some c ∧
      EventSetSample.manager.system.Ended c 1
        (.ok (.selected (EventSetSample.eventSet "es-2"))) ∧ c.procs.length = 2 ∧
      EventSetSample.manager.system.run c [.start (.resolve "adv-001"), .resume 2 .ok] = some c' ∧
      EventSetSample.manager.system.Ended c' 2 (.ok (.resolved "es-1")) :=
  ⟨_, _, System.run_result (by decide), ⟨_, rfl, rfl⟩, rfl, System.run_result (by decide),
    ⟨_, rfl, rfl⟩⟩

end SalesforceTikTok
