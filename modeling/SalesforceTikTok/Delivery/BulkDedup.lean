import SalesforceTikTok.Concurrency.Gather
import SalesforceTikTok.Delivery.NoLostEvent

/-!
# Bulk deduplication

`filterDuplicates` checks all ids of a list at once, and each check marks the id
it looks up. So an id that occurs twice is found by its second check even if no
call before ever marked it.
-/

namespace SalesforceTikTok

open Concurrency

namespace EventDeduplicator

/-- One check of `filterDuplicates`; its value is what it adds to the set. -/
def check (env : Env) (eventId : String) : DeliveryProg (Option String) := do
  if ← isDuplicate env eventId then
    return some eventId
  else
    return none

def checks (env : Env) :
    System (deliveryRuntime env) (Option String) String (DeliveryProg (Option String)) where
  view := Prog.view
  launch eventId w := some (check env eventId, w)

def filterDuplicates (env : Env) (w : DeliveryWorld) (eventIds : List String)
    (schedule : List (Action String DeliveryChoice DeliveryEvent)) : List String :=
  (checks env).gathered id w eventIds schedule

end EventDeduplicator

open EventDeduplicator

abbrev CheckConfig :=
  Config DeliveryCmd DeliveryCmd.Reply JsError DeliveryWorld DeliveryChoice String
    (DeliveryProg (Option String))

/-- The call returns the ids that were in the store before it, and all are in it afterwards. -/
structure LosesNothing (env : Env) (w : DeliveryWorld) (eventIds : List String)
    (schedule : List (Action String DeliveryChoice DeliveryEvent)) (c : CheckConfig) : Prop where
  returned : ∀ eventId, eventId ∈ filterDuplicates env w eventIds schedule ↔
    eventId ∈ eventIds ∧ w.stored eventId = true
  marked : ∀ eventId ∈ eventIds, c.world.stored eventId = true

/-- Up to `last` no key of the list runs out, neither one held at `w` nor one set since. -/
structure OutlastsChecks (env : Env) (w : DeliveryWorld) (eventIds : List String) (last : Int) :
    Prop where
  held : ∀ eventId ∈ eventIds, ∀ expiry,
    w.dedup.lookup (DEDUP_KEY_PREFIX ++ eventId) = some expiry → w.clock < expiry → last < expiry
  set : last < w.clock + env.REDIS_DEDUP_TTL_SECONDS * 1000

/-! ## One check -/

/-- A check awaits its one command, or has ended and adds its id or nothing. -/
inductive CheckState (env : Env) (eventId : String) : DeliveryProg (Option String) → Prop where
  | waiting : CheckState env eventId (check env eventId)
  | found : CheckState env eventId (.done (some eventId))
  | novel : CheckState env eventId (.done none)

private theorem check_view (env : Env) (eventId : String) :
    ∃ resume, (check env eventId).view =
        .awaits (.setNx (DEDUP_KEY_PREFIX ++ eventId) env.REDIS_DEDUP_TTL_SECONDS) resume ∧
      resume (.ok .null) = .done (some eventId) ∧ resume (.ok .ok) = .done none :=
  ⟨_, rfl, rfl, rfl⟩

def checked (eventId : String) (p : Proc String (DeliveryProg (Option String))) : Bool :=
  match p.state with
  | .done _ => p.entry = eventId
  | _ => false

def foundNovel (eventId : String) (p : Proc String (DeliveryProg (Option String))) : Bool :=
  match p.state with
  | .done none => p.entry = eventId
  | _ => false

def foundHeld (eventId : String) (p : Proc String (DeliveryProg (Option String))) : Bool :=
  match p.state with
  | .done (some _) => p.entry = eventId
  | _ => false

private theorem checked_count (eventId : String)
    (procs : List (Proc String (DeliveryProg (Option String)))) :
    procs.countP (checked eventId) =
      procs.countP (foundNovel eventId) + procs.countP (foundHeld eventId) := by
  induction procs with
  | nil => rfl
  | cons p rest ih =>
      obtain ⟨entry, state⟩ := p
      simp only [List.countP_cons, ih]
      cases state with
      | done value =>
          by_cases same : entry = eventId
          · cases value <;> simp [checked, foundNovel, foundHeld, same] <;> omega
          · cases value <;> simp [checked, foundNovel, foundHeld, same]
      | fail error => rfl
      | await cmd resume => rfl

/-! ## The checks of one id -/

/-- What the store and the ended checks say about one id: the first check of an id that was not
in the store marks it, and every other finds it. -/
structure CheckedOnce (w : DeliveryWorld) (last : Int) (eventId : String) (c : CheckConfig) :
    Prop where
  free : w.stored eventId = false → c.procs.countP (checked eventId) = 0 →
    c.world.stored eventId = false
  kept : w.stored eventId = true ∨ 0 < c.procs.countP (checked eventId) →
    ∃ expiry, c.world.dedup.lookup (DEDUP_KEY_PREFIX ++ eventId) = some expiry ∧ last < expiry
  novel : w.stored eventId = false → 0 < c.procs.countP (checked eventId) →
    c.procs.countP (foundNovel eventId) = 1
  known : w.stored eventId = true → c.procs.countP (foundNovel eventId) = 0

namespace CheckedOnce

variable {env : Env} {w : DeliveryWorld} {last : Int} {eventId : String} {c : CheckConfig}

/-- The store says whether the id was in it, or has been checked since. -/
theorem stored_iff (h : CheckedOnce w last eventId c) (early : c.world.clock ≤ last) :
    c.world.stored eventId = true ↔
      w.stored eventId = true ∨ 0 < c.procs.countP (checked eventId) := by
  constructor
  · intro here
    by_contra none
    rw [not_or, Bool.not_eq_true, Nat.not_lt, Nat.le_zero] at none
    rw [h.free none.1 none.2] at here
    cases here
  · intro before
    obtain ⟨expiry, present, live⟩ := h.kept before
    exact DeliveryWorld.holds_of_lookup present (by omega)

/-- A step that leaves the key and the checks of the id alone. -/
theorem quiet (h : CheckedOnce w last eventId c) {v : DeliveryWorld}
    {procs : List (Proc String (DeliveryProg (Option String)))}
    {trace : List DeliveryRecord}
    (entry : v.dedup.lookup (DEDUP_KEY_PREFIX ++ eventId) =
      c.world.dedup.lookup (DEDUP_KEY_PREFIX ++ eventId))
    (later : c.world.stored eventId = false → v.stored eventId = false)
    (checkedSame : procs.countP (checked eventId) = c.procs.countP (checked eventId))
    (novelSame : procs.countP (foundNovel eventId) = c.procs.countP (foundNovel eventId)) :
    CheckedOnce w last eventId ⟨v, procs, trace⟩ := by
  constructor
  · intro absent none
    exact later (h.free absent (checkedSame.symm.trans none))
  · intro before
    rw [checkedSame] at before
    rw [entry]
    exact h.kept before
  · intro absent some
    rw [checkedSame] at some
    exact novelSame.trans (h.novel absent some)
  · exact fun before => novelSame.trans (h.known before)

theorem answered (h : CheckedOnce w last eventId c) (began : w.clock ≤ c.world.clock)
    (early : c.world.clock ≤ last) (set : last < w.clock + env.REDIS_DEDUP_TTL_SECONDS * 1000)
    {pid : Nat} (hp : c.procs[pid]? = some ⟨eventId, check env eventId⟩) {v : DeliveryWorld}
    {added : Option String} {trace : List DeliveryRecord}
    (outcome : (c.world.stored eventId = true ∧ added = some eventId ∧ v = c.world) ∨
      (c.world.stored eventId = false ∧ added = none ∧
        v = { c.world with
          dedup := c.world.dedup.insert (DEDUP_KEY_PREFIX ++ eventId)
            (c.world.clock + env.REDIS_DEDUP_TTL_SECONDS * 1000) })) :
    CheckedOnce w last eventId ⟨v, c.procs.set pid ⟨eventId, .done added⟩, trace⟩ := by
  have grown : (c.procs.set pid ⟨eventId, .done added⟩).countP (checked eventId) =
      c.procs.countP (checked eventId) + 1 := by
    have counted := System.countP_answered hp (checked eventId) ⟨eventId, .done added⟩
    have before : checked eventId ⟨eventId, check env eventId⟩ = false := rfl
    have after : checked eventId ⟨eventId, .done added⟩ = true := by simp [checked]
    rw [before, after] at counted
    exact counted
  have novelties := System.countP_answered hp (foundNovel eventId) ⟨eventId, .done added⟩
  have before : foundNovel eventId ⟨eventId, check env eventId⟩ = false := rfl
  rw [before] at novelties
  have earlier := h.stored_iff early
  obtain ⟨here, rfl, rfl⟩ | ⟨absent, rfl, rfl⟩ := outcome
  · -- the id is there: in the store before, or marked by an earlier check
    have same : foundNovel eventId ⟨eventId, .done (some eventId)⟩ = false := rfl
    rw [same] at novelties
    constructor
    · exact fun _ none => absurd (grown.symm.trans none) (Nat.succ_ne_zero _)
    · exact fun _ => h.kept (earlier.mp here)
    · intro free _
      have checks : 0 < c.procs.countP (checked eventId) := by
        rcases earlier.mp here with before | checks
        · rw [free] at before
          cases before
        · exact checks
      exact novelties.trans (h.novel free checks)
    · exact fun before => novelties.trans (h.known before)
  · -- the id is not there, so that this is its first check
    have unmarked : ¬ (w.stored eventId = true ∨ 0 < c.procs.countP (checked eventId)) := by
      rw [← earlier, absent]
      exact Bool.false_ne_true
    rw [not_or, Nat.not_lt, Nat.le_zero] at unmarked
    have first : foundNovel eventId ⟨eventId, .done none⟩ = true := by simp [foundNovel]
    have none : c.procs.countP (foundNovel eventId) = 0 := by
      have split := checked_count eventId c.procs
      omega
    rw [first, none] at novelties
    constructor
    · exact fun _ none => absurd (grown.symm.trans none) (Nat.succ_ne_zero _)
    · exact fun _ => ⟨_, AList.lookup_insert _, by omega⟩
    · exact fun _ _ => novelties
    · exact fun before => absurd before unmarked.1

end CheckedOnce

/-! ## Runs of checks -/

section

variable {env : Env} {w : DeliveryWorld} {eventIds : List String} {last : Int}

private theorem check_answered (positive : 0 < env.REDIS_DEDUP_TTL_SECONDS) {b : CheckConfig}
    {pid : Nat} {choice : DeliveryChoice} {d : CheckConfig}
    (hs : (checks env).step b (.resume pid choice) = some d)
    (states : ∀ p ∈ b.procs, CheckState env p.entry p.state)
    (redis : ∀ r ∈ d.trace, r.choice = .ok) :
    ∃ eventId added v trace, b.procs[pid]? = some ⟨eventId, check env eventId⟩ ∧
      d = ⟨v, b.procs.set pid ⟨eventId, .done added⟩, trace⟩ ∧
      ((b.world.stored eventId = true ∧ added = some eventId ∧ v = b.world) ∨
        (b.world.stored eventId = false ∧ added = none ∧
          v = { b.world with
            dedup := b.world.dedup.insert (DEDUP_KEY_PREFIX ++ eventId)
              (b.world.clock + env.REDIS_DEDUP_TTL_SECONDS * 1000) })) := by
  obtain ⟨p, cmd, resume, reply, v, hp, hv, he, rfl⟩ := System.step_resume hs
  have chosen : choice = .ok := redis ⟨pid, cmd, choice, reply⟩ (by simp)
  obtain ⟨eventId, state⟩ := p
  have here := states _ (List.mem_of_getElem? hp)
  dsimp only at here hv
  cases here with
  | found => cases hv
  | novel => cases hv
  | waiting =>
      obtain ⟨resume', shown, null, ok⟩ := check_view env eventId
      have asked := hv.symm.trans shown
      cases asked
      rw [chosen] at he
      change some (b.world.setNx _ _) = some (reply, v) at he
      obtain ⟨held, found⟩ | ⟨free, set⟩ :=
        b.world.setNx_cases positive (DEDUP_KEY_PREFIX ++ eventId)
      · rw [found] at he
        cases he
        exact ⟨eventId, some eventId, b.world, _, hp, by rw [null], .inl ⟨held, rfl, rfl⟩⟩
      · rw [set] at he
        cases he
        exact ⟨eventId, none, _, _, hp, by rw [ok], .inr ⟨free, rfl, rfl⟩⟩

/-- The checks of a run, as long as no key of the list has run out. -/
structure CheckRun (env : Env) (w : DeliveryWorld) (eventIds : List String) (last : Int)
    (c : CheckConfig) : Prop where
  states : ∀ p ∈ c.procs, CheckState env p.entry p.state
  began : w.clock ≤ c.world.clock
  once : c.world.clock ≤ last → ∀ eventId ∈ eventIds, CheckedOnce w last eventId c

theorem CheckRun.step (positive : 0 < env.REDIS_DEDUP_TTL_SECONDS)
    (outlasts : OutlastsChecks env w eventIds last) {b d : CheckConfig}
    {a : Action String DeliveryChoice DeliveryEvent} (h : CheckRun env w eventIds last b)
    (hs : (checks env).step b a = some d) (redis : ∀ r ∈ d.trace, r.choice = .ok) :
    CheckRun env w eventIds last d := by
  cases a with
  | start eventId =>
      obtain ⟨x, v, hl, rfl⟩ := System.step_start hs
      cases hl
      refine ⟨?_, h.began, fun early id listed => ?_⟩
      · intro p hp
        rcases List.mem_append.mp hp with hp | hp
        · exact h.states p hp
        · obtain rfl := List.mem_singleton.mp hp
          exact .waiting
      · have running (f : Proc String (DeliveryProg (Option String)) → Bool)
            (idle : f ⟨eventId, check env eventId⟩ = false) :
            (b.procs ++ [Proc.mk eventId (check env eventId)]).countP f = b.procs.countP f := by
          rw [List.countP_append, List.countP_singleton, idle]
          rfl
        exact (h.once early id listed).quiet rfl (fun free => free) (running _ rfl) (running _ rfl)
  | resume pid choice =>
      obtain ⟨eventId, added, v, trace, hp, rfl, outcome⟩ :=
        check_answered positive hs h.states redis
      have clock : v.clock = b.world.clock := by
        obtain ⟨_, _, rfl⟩ | ⟨_, _, rfl⟩ := outcome <;> rfl
      refine ⟨?_, by rw [clock]; exact h.began, fun early id listed => ?_⟩
      · intro p hp'
        rcases List.mem_or_eq_of_mem_set hp' with hp' | rfl
        · exact h.states p hp'
        · obtain ⟨_, rfl, _⟩ | ⟨_, rfl, _⟩ := outcome
          · exact .found
          · exact .novel
      · rw [clock] at early
        have once := h.once early id listed
        by_cases same : id = eventId
        · subst same
          exact once.answered h.began early outlasts.set hp outcome
        · -- a check of another id
          have other (f : Proc String (DeliveryProg (Option String)) → Bool)
              (before : f ⟨eventId, check env eventId⟩ = false)
              (after : f ⟨eventId, .done added⟩ = false) :
              (b.procs.set pid ⟨eventId, .done added⟩).countP f = b.procs.countP f := by
            have counted := System.countP_answered hp f ⟨eventId, .done added⟩
            rw [before, after] at counted
            exact counted
          have entry : v.dedup.lookup (DEDUP_KEY_PREFIX ++ id) =
              b.world.dedup.lookup (DEDUP_KEY_PREFIX ++ id) := by
            obtain ⟨_, _, rfl⟩ | ⟨_, _, rfl⟩ := outcome
            · rfl
            · exact AList.lookup_insert_ne fun keys => same (dedupKey_inj.mp keys)
          have different : eventId ≠ id := fun ids => same ids.symm
          refine once.quiet entry (fun free => (DeliveryWorld.holds_congr clock entry).trans free)
            (other _ rfl (by simp [checked, different])) (other _ rfl ?_)
          cases added <;> simp [foundNovel, different]
  | env event =>
      obtain ⟨v, hv, rfl⟩ := System.step_env hs
      obtain ⟨elapsed, rfl⟩ | ⟨jobId, rfl⟩ := deliveryEnv_cases hv
      · refine ⟨h.states, by have began := h.began; simp only; omega, fun early id listed => ?_⟩
        have once := h.once (by simp only at early; omega) id listed
        exact once.quiet rfl (fun free => DeliveryWorld.free_later free elapsed) rfl rfl
      · exact ⟨h.states, h.began, fun early id listed =>
          (h.once early id listed).quiet rfl (fun free => free) rfl rfl⟩

theorem CheckRun.initial (outlasts : OutlastsChecks env w eventIds last) :
    CheckRun env w eventIds last (.initial w) := by
  refine ⟨by simp [Config.initial], Int.le_refl _, fun _ eventId listed => ?_⟩
  constructor
  · exact fun free _ => free
  · rintro (held | checks)
    · unfold DeliveryWorld.stored DeliveryWorld.holds at held
      split at held
      next expiry present =>
        exact ⟨expiry, present, outlasts.held eventId listed expiry present (by simpa using held)⟩
      next => cases held
    · cases checks
  · exact fun _ checks => absurd checks (Nat.lt_irrefl 0)
  · exact fun _ => rfl

/-! ## What the call returns -/

theorem CheckRun.of_gathers (positive : 0 < env.REDIS_DEDUP_TTL_SECONDS)
    {schedule : List (Action String DeliveryChoice DeliveryEvent)} {c : CheckConfig}
    (h : (checks env).Gathers w eventIds schedule c) (redis : ∀ r ∈ c.trace, r.choice = .ok)
    (outlasts : OutlastsChecks env w eventIds c.world.clock) :
    CheckRun env w eventIds c.world.clock c :=
  System.run_invariant_of_trace (fun r => r.choice = .ok) (CheckRun env w eventIds c.world.clock)
    (fun _ _ _ run hs redis => run.step positive outlasts hs redis) h.run redis
    (.initial outlasts)

/-- Once all checks have ended, each id was checked as often as it is listed. -/
theorem checked_listed {schedule : List (Action String DeliveryChoice DeliveryEvent)}
    {c : CheckConfig} (h : (checks env).Gathers w eventIds schedule c)
    (states : ∀ p ∈ c.procs, CheckState env p.entry p.state) (eventId : String) :
    c.procs.countP (checked eventId) = eventIds.count eventId := by
  rw [← h.entries_eq, Config.entries, List.count_eq_countP, List.countP_map]
  refine List.countP_congr fun p hp => ?_
  obtain ⟨pid, here⟩ := List.mem_iff_getElem?.mp hp
  obtain ⟨outcome, ended⟩ := h.ended here
  have view := ended.view_eq here
  obtain ⟨entry, state⟩ := p
  have shape := states _ hp
  dsimp only at shape view
  cases shape with
  | waiting => cases view
  | found => simp [checked]
  | novel => simp [checked]

private theorem mem_filterDuplicates {schedule : List (Action String DeliveryChoice DeliveryEvent)}
    {c : CheckConfig} (h : (checks env).Gathers w eventIds schedule c)
    (states : ∀ p ∈ c.procs, CheckState env p.entry p.state) (eventId : String) :
    eventId ∈ filterDuplicates env w eventIds schedule ↔
      0 < c.procs.countP (foundHeld eventId) := by
  unfold filterDuplicates
  rw [h.mem_gathered, List.countP_pos_iff]
  constructor
  · rintro ⟨pid, value, ⟨p, hp, hv⟩, rfl⟩
    have listed := List.mem_of_getElem? hp
    have shape := states p listed
    refine ⟨p, listed, ?_⟩
    obtain ⟨entry, state⟩ := p
    dsimp only at shape hv
    cases shape <;> cases hv
    simp [foundHeld]
  · rintro ⟨p, listed, found⟩
    obtain ⟨pid, hp⟩ := List.mem_iff_getElem?.mp listed
    have shape := states p listed
    obtain ⟨entry, state⟩ := p
    dsimp only at shape
    cases shape with
    | waiting => cases found
    | novel => cases found
    | found =>
        have same : entry = eventId := by simpa [foundHeld] using found
        exact ⟨pid, some eventId, ⟨_, hp, by rw [same]; rfl⟩, rfl⟩

end

/-- Bulk deduplication loses nothing exactly for the lists without a repeated novel id. -/
theorem loses_nothing_iff {env : Env} (positive : 0 < env.REDIS_DEDUP_TTL_SECONDS)
    {w : DeliveryWorld} {eventIds : List String}
    {schedule : List (Action String DeliveryChoice DeliveryEvent)} {c : CheckConfig}
    (h : (checks env).Gathers w eventIds schedule c) (redis : ∀ r ∈ c.trace, r.choice = .ok)
    (outlasts : OutlastsChecks env w eventIds c.world.clock) :
    LosesNothing env w eventIds schedule c ↔
      ∀ eventId, w.stored eventId = false → eventIds.count eventId ≤ 1 := by
  have run := CheckRun.of_gathers positive h redis outlasts
  have split (eventId : String) : eventIds.count eventId =
      c.procs.countP (foundNovel eventId) + c.procs.countP (foundHeld eventId) := by
    rw [← checked_listed h run.states, checked_count]
  have returned (eventId : String) := mem_filterDuplicates h run.states eventId
  constructor
  · intro loses eventId absent
    by_cases listed : eventId ∈ eventIds
    · have once := run.once (Int.le_refl _) eventId listed
      have checks : 0 < c.procs.countP (checked eventId) := by
        rw [checked_listed h run.states]
        exact List.count_pos_iff.mpr listed
      have unreturned : ¬ 0 < c.procs.countP (foundHeld eventId) := by
        rw [← returned, loses.returned, absent]
        exact fun both => Bool.false_ne_true both.2
      have parts := split eventId
      have novel := once.novel absent checks
      omega
    · rw [List.count_eq_zero.mpr listed]
      exact Nat.zero_le 1
  · intro unrepeated
    constructor
    · intro eventId
      rw [returned]
      by_cases listed : eventId ∈ eventIds
      · have once := run.once (Int.le_refl _) eventId listed
        have counted := List.count_pos_iff.mpr listed
        have parts := split eventId
        cases stored : w.stored eventId with
        | true =>
            have none := once.known stored
            exact iff_of_true (by omega) ⟨listed, rfl⟩
        | false =>
            have novel := once.novel stored (by rwa [checked_listed h run.states])
            have single := unrepeated eventId stored
            exact iff_of_false (by omega) fun both => Bool.false_ne_true both.2
      · have parts := split eventId
        rw [List.count_eq_zero.mpr listed] at parts
        exact iff_of_false (by omega) fun both => listed both.1
    · intro eventId listed
      have once := run.once (Int.le_refl _) eventId listed
      refine (once.stored_iff (Int.le_refl _)).mpr (.inr ?_)
      rw [checked_listed h run.states]
      exact List.count_pos_iff.mpr listed

/-! ## A batch of each kind -/

/-- A store that holds the key of `e2` for a day. -/
def holdingE2 : DeliveryWorld :=
  { DeliveryWorld.fresh 0 with
    dedup := AList.insert (DEDUP_KEY_PREFIX ++ "e2") 86400000 ∅ }

theorem loses_nothing_distinct :
    let schedule := [.resume 1 .ok, .resume 0 .ok]
    let c := (checks {}).result (.initial holdingE2) (["e1", "e2"].map .start ++ schedule)
      (by decide)
    LosesNothing {} holdingE2 ["e1", "e2"] schedule c := by
  intro schedule c
  have gathers : (checks {}).Gathers holdingE2 ["e1", "e2"] schedule c :=
    ⟨System.run_result _, by simp [schedule], by decide⟩
  have outlasts : OutlastsChecks {} holdingE2 ["e1", "e2"] c.world.clock := by
    refine ⟨fun eventId listed expiry present _ => ?_, by decide⟩
    obtain ⟨_, rfl⟩ | absent := Storage.lookup_insert_cases present
    · decide
    · cases absent
  refine (loses_nothing_iff (by decide) gathers ?_ outlasts).mpr fun eventId _ => ?_
  · intro r hr
    have records : c.trace.map (·.choice) = [.ok, .ok] := rfl
    have choice := List.mem_map_of_mem (f := fun r : DeliveryRecord => r.choice) hr
    simpa [records] using choice
  · exact List.nodup_iff_count_le_one.mp (by decide) eventId

/-- A novel id that is listed twice is returned, and so dropped from the batch altogether. -/
theorem repeated_id_returned :
    let schedule := [.resume 0 .ok, .resume 1 .ok]
    let c := (checks {}).result (.initial (.fresh 0)) (["e1", "e1"].map .start ++ schedule)
      (by decide)
    (checks {}).Gathers (.fresh 0) ["e1", "e1"] schedule c ∧
      filterDuplicates {} (.fresh 0) ["e1", "e1"] schedule = ["e1"] ∧
      (DeliveryWorld.fresh 0).stored "e1" = false ∧
      ¬ LosesNothing {} (.fresh 0) ["e1", "e1"] schedule c := by
  intro schedule c
  have returned : filterDuplicates {} (.fresh 0) ["e1", "e1"] schedule = ["e1"] := by decide
  have absent : (DeliveryWorld.fresh 0).stored "e1" = false := by decide
  refine ⟨⟨System.run_result _, by simp [schedule], by decide⟩, returned, absent, fun loses => ?_⟩
  have stored := ((loses.returned "e1").mp (by rw [returned]; simp)).2
  rw [absent] at stored
  cases stored

end SalesforceTikTok
