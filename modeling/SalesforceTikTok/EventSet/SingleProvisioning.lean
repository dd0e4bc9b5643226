import SalesforceTikTok.EventSet.Transitions

/-!
# Provisioning at most once

`provision` lists, creates and stores in three remote steps. While no two calls
for an advertiser are between an empty list and their creation at once, at most
one set is created, and every call that names a set names that one.
-/

namespace SalesforceTikTok

open Concurrency

namespace EventSetPoint

/-- The call has listed no set and is about to create one for this advertiser. -/
def pending (a : String) : EventSetPoint → Bool
  | .naming .provision b _ | .creating .provision b _ _ => b = a
  | _ => false

def mayCreate? : EventSetPoint → Option String
  | .listing (.provision _) b _ | .naming _ b _ | .creating _ b _ _ => some b
  | _ => none

end EventSetPoint

def EventSetCall.provisions (a : String) : EventSetCall → Bool
  | .provision b _ _ => b = a
  | _ => false

/-- The call creates a set for this advertiser without listing first. -/
def EventSetCall.createsDirectly (a : String) : EventSetCall → Bool
  | .create b _ _ => b = a
  | _ => false

/-- TikTok resolves a listing for this advertiser to sets of its own making. -/
def listsOtherwise (a : String) (r : EventSetRecord) : Bool :=
  match r.cmd, r.choice with
  | .listSets b _, .listed response => b = a ∧ response.code = 0
  | _, _ => false

/-- When this step creates a set for the advertiser, no other call is about to. -/
def CreatesAlone (a : String) (b : EventSetConfig EventSetPoint) (action : EventSetAction)
    (d : EventSetConfig EventSetPoint) : Prop :=
  ∀ pid choice, action = .resume pid choice → d.world.setsOf a ≠ b.world.setsOf a →
    ∀ q p, b.procs[q]? = some p → q ≠ pid → p.state.pending a = false

instance (a : String) (b : EventSetConfig EventSetPoint) (action : EventSetAction)
    (d : EventSetConfig EventSetPoint) : Decidable (CreatesAlone a b action d) :=
  match action with
  | .resume pid choice =>
      decidable_of_iff (d.world.setsOf a ≠ b.world.setsOf a → ∀ q < b.procs.length, q ≠ pid →
          ∀ p ∈ b.procs[q]?, p.state.pending a = false)
        ⟨fun h pid' choice' same created q p hq other => by
          cases same
          exact h created q (List.getElem?_eq_some_iff.mp hq).choose other p hq,
        fun h created q _ other p hq => h pid choice rfl created q p hq other⟩
  | .start _ => isTrue fun _ _ same => by cases same
  | .env _ => isTrue fun _ _ same => by cases same

/-! ## Where a provisioning can be -/

def Only (sets : List CRMEventSet) (id : String) : Prop :=
  sets.map (·.eventSetId) = [id]

/-- Where a provisioning of `a` can be when these are the advertiser's sets. -/
inductive Provisioning (a : String) (sets : List CRMEventSet) : EventSetPoint → Prop where
  | listing {accessToken name} : Provisioning a sets (.listing (.provision name) a accessToken)
  | naming {accessToken} (none : sets = []) :
      Provisioning a sets (.naming .provision a accessToken)
  | creating {accessToken name} (none : sets = []) :
      Provisioning a sets (.creating .provision a accessToken name)
  | timingCreated {response} (only : Only sets response.eventSetId) :
      Provisioning a sets (.timingCreated .provision a response)
  | timingUpdated {response created} (only : Only sets response.eventSetId) :
      Provisioning a sets (.timingUpdated .provision a response created)
  | upserting {eventSet source} (auto : source = .autoCreated ∨ source = .autoSelected)
      (only : Only sets eventSet.eventSetId) : Provisioning a sets (.upserting a eventSet source)
  | caching {eventSet source} (auto : source = .autoCreated ∨ source = .autoSelected)
      (only : Only sets eventSet.eventSetId) : Provisioning a sets (.caching a eventSet source)
  | ended {result} (named : ∀ eventSet, result = .createdNew eventSet ∨
      result = .selectedExisting eventSet → Only sets eventSet.eventSetId) :
      Provisioning a sets (.ended (.ok (.provisioned result)))

namespace Provisioning

variable {a : String} {sets : List CRMEventSet} {x y : EventSetPoint}

theorem failed (error : JsError) :
    Provisioning a sets (.ended (.ok (.provisioned (.error error.message)))) :=
  .ended (by simp)

/-- A provisioning that is not about to create does not mind the first set. -/
theorem of_none (h : Provisioning a [] x) (idle : x.pending a = false) :
    Provisioning a sets x := by
  cases h with
  | listing => exact .listing
  | naming | creating => simp [EventSetPoint.pending] at idle
  | timingCreated only | timingUpdated only | upserting auto only | caching auto only =>
      cases only
  | ended named => exact .ended fun eventSet result => by cases named eventSet result

theorem listed (name : Option String) (accessToken : String) (few : sets.length ≤ 1) :
    Provisioning a sets ((Lister.provision name).listed a accessToken sets) := by
  match sets, few with
  | [], _ =>
      cases name with
      | none => exact .naming rfl
      | some name => exact .creating rfl
  | [eventSet], _ => exact .upserting (.inr rfl) rfl

private theorem sets_created {w : EventSetWorld} (none : w.setsOf a = [])
    (response : CRMCreateResponse) :
    (w.create a response).setsOf a = w.setsOf a ∨
      w.setsOf a = [] ∧ ((w.create a response).setsOf a).length ≤ 1 := by
  rw [EventSetWorld.setsOf_create]
  split
  · exact .inr ⟨none, by simp [none]⟩
  · exact .inl rfl

/-- What one answer makes of a provisioning and of the advertiser's sets. -/
theorem answered {M : CRMEventSetManager} {w v : EventSetWorld} {r : EventSetRecord}
    (h : Provisioning a (w.setsOf a) x) (t : EventSetTransition M x w r y v)
    (exact : listsOtherwise a r = false) (few : (w.setsOf a).length ≤ 1) :
    Provisioning a (v.setsOf a) y ∧
      (v.setsOf a = w.setsOf a ∨ w.setsOf a = [] ∧ (v.setsOf a).length ≤ 1) := by
  cases h with
  | listing =>
      refine ⟨?_, .inl ?_⟩ <;> cases t
      · next code answer =>
          obtain sets | asked := answer
          · rw [sets]
            exact listed _ _ few
          · simp [listsOtherwise, asked, code] at exact
      · exact failed _
      · exact failed _
      · rfl
      · rfl
      · rfl
  | naming none =>
      cases t with
      | named => exact ⟨.creating none, .inl rfl⟩
  | creating none =>
      cases t with
      | @setCreated _ _ _ _ _ _ response code =>
          refine ⟨.timingCreated ?_, sets_created none response⟩
          rw [EventSetWorld.setsOf_create, if_pos ⟨code, rfl⟩, none]
          rfl
      | createRefused code => exact ⟨failed _, .inl rfl⟩
      | createUnseen => exact ⟨failed _, sets_created none _⟩
      | createFailed => exact ⟨failed _, .inl rfl⟩
  | timingCreated only =>
      cases t with
      | createdTimed => exact ⟨.timingUpdated only, .inl rfl⟩
  | timingUpdated only =>
      cases t with
      | updatedTimed => exact ⟨.upserting (.inl rfl) only, .inl rfl⟩
  | upserting auto only =>
      cases t with
      | rowStored => exact ⟨.caching auto only, .inl rfl⟩
      | rowLost effect =>
          have sets : v.setsOf a = w.setsOf a := by rcases effect with rfl | rfl <;> rfl
          refine ⟨?_, .inl sets⟩
          rcases auto with rfl | rfl <;> exact failed _
  | @caching eventSet _ auto only =>
      cases t with
      | copied effect =>
          have sets : v.setsOf a = w.setsOf a := by rcases effect with rfl | rfl <;> rfl
          refine ⟨?_, .inl sets⟩
          rw [sets]
          rcases auto with rfl | rfl
          · exact .ended fun set result => by
              obtain rfl : eventSet = set := by simpa using result
              exact only
          · exact .ended fun set result => by
              obtain rfl : eventSet = set := by simpa using result
              exact only
  | ended named => cases t

end Provisioning

/-! ## The other calls -/

private theorem mayCreate_of_start {a : String} {call : EventSetCall}
    (other : call.provisions a = false)
    (indirect : call.createsDirectly a = false) : call.startPoint.mayCreate? ≠ some a := by
  cases call with
  | provision b accessToken name =>
      have distinct : b ≠ a := of_decide_eq_false other
      simpa [EventSetCall.startPoint, EventSetPoint.mayCreate?] using distinct
  | create b accessToken name =>
      have distinct : b ≠ a := of_decide_eq_false indirect
      cases name <;>
        simpa [EventSetCall.startPoint, Creator.start, EventSetPoint.mayCreate?] using distinct
  | _ => simp [EventSetCall.startPoint, EventSetPoint.mayCreate?]

section

variable (a : String) (error : JsError)

@[simp] theorem Lister.failed_mayCreate (k : Lister) : (k.failed error).mayCreate? = none := by
  cases k <;> rfl

@[simp] theorem Creator.failed_mayCreate (k : Creator) : (k.failed error).mayCreate? = none := by
  cases k <;> rfl

@[simp] theorem Creator.created_mayCreate (k : Creator) (eventSet : CRMEventSet) :
    (k.created a eventSet).mayCreate? = none := by
  cases k <;> rfl

@[simp] theorem EventSetSource.failed_mayCreate (source : EventSetSource) :
    (source.failed error).mayCreate? = none := by
  cases source <;> rfl

@[simp] theorem EventSetSource.stored_mayCreate (source : EventSetSource)
    (eventSet : CRMEventSet) : (source.stored eventSet).mayCreate? = none := by
  cases source <;> rfl

@[simp] theorem CRMEventSetManager.fallback_mayCreate (M : CRMEventSetManager) :
    (M.fallbackPoint a).mayCreate? = none := by
  unfold fallbackPoint
  split
  · split <;> rfl
  · rfl

theorem Lister.listed_mayCreate (k : Lister) (b accessToken : String) (sets : List CRMEventSet) :
    (k.listed b accessToken sets).mayCreate? = none ∨
      (k.listed b accessToken sets).mayCreate? =
        (EventSetPoint.listing k b accessToken).mayCreate? := by
  unfold Lister.listed
  split
  · exact .inl rfl
  · next name =>
    split
    · cases name <;> exact .inr rfl
    · exact .inl rfl
    · exact .inl rfl
  · split <;> exact .inl rfl

end

/-- A call that cannot create a set for the advertiser never can, and leaves its sets. -/
theorem EventSetTransition.bystander {M : CRMEventSetManager} {a : String} {x y : EventSetPoint}
    {w v : EventSetWorld} {r : EventSetRecord} (t : EventSetTransition M x w r y v)
    (cannot : x.mayCreate? ≠ some a) : y.mayCreate? ≠ some a ∧ v.setsOf a = w.setsOf a := by
  have elsewhere (b : String) (response : CRMCreateResponse) (other : b ≠ a) :
      (w.create b response).setsOf a = w.setsOf a := by
    rw [EventSetWorld.setsOf_create, if_neg fun h => other h.2]
  cases t with
  | @setsListed k b accessToken _ _ _ response =>
      refine ⟨?_, rfl⟩
      obtain none | same := k.listed_mayCreate b accessToken (response.list.getD [])
      · rw [none]
        simp
      · rwa [same]
  | named => exact ⟨cannot, rfl⟩
  | @setCreated _ b =>
      have other : b ≠ a := fun same => cannot (congrArg some same)
      exact ⟨by simp [EventSetPoint.mayCreate?], elsewhere b _ other⟩
  | @createUnseen _ b =>
      have other : b ≠ a := fun same => cannot (congrArg some same)
      exact ⟨by simp, elsewhere b _ other⟩
  | rowLost effect | copied effect =>
      refine ⟨by simp, ?_⟩
      rcases effect with rfl | rfl <;> rfl
  | warmed effect =>
      refine ⟨by simp [EventSetPoint.mayCreate?], ?_⟩
      rcases effect with rfl | rfl <;> rfl
  | listRefused | listFailed | createRefused | createFailed | updatedTimed | rowMissing =>
      exact ⟨by simp, rfl⟩
  | _ => exact ⟨by simp [EventSetPoint.mayCreate?], rfl⟩

/-! ## The invariant -/

/-- The advertiser has at most one set, and every call agrees with that. -/
structure ProvisionedOnce (a : String) (c : EventSetConfig EventSetPoint) : Prop where
  few : (c.world.setsOf a).length ≤ 1
  provisions : ∀ p ∈ c.procs, p.entry.provisions a = true →
    Provisioning a (c.world.setsOf a) p.state
  others : ∀ p ∈ c.procs, p.entry.provisions a = false → p.state.mayCreate? ≠ some a

theorem ProvisionedOnce.answered {M : CRMEventSetManager} {a : String}
    {c : EventSetConfig EventSetPoint} {pid : Nat} {p : Proc EventSetCall EventSetPoint}
    {r : EventSetRecord} {y : EventSetPoint} {v : EventSetWorld} (h : ProvisionedOnce a c)
    (hp : c.procs[pid]? = some p) (t : EventSetTransition M p.state c.world r y v)
    (exact : listsOtherwise a r = false)
    (alone : CreatesAlone a c (.resume pid r.choice)
      ⟨v, c.procs.set pid ⟨p.entry, y⟩, c.trace ++ [r]⟩) :
    ProvisionedOnce a ⟨v, c.procs.set pid ⟨p.entry, y⟩, c.trace ++ [r]⟩ := by
  have member := List.mem_of_getElem? hp
  -- where the calls are, once the sets after the answer are known
  have assemble (few : (v.setsOf a).length ≤ 1)
      (actor : p.entry.provisions a = true → Provisioning a (v.setsOf a) y)
      (bystander : p.entry.provisions a = false → y.mayCreate? ≠ some a)
      (rest : ∀ i q, c.procs[i]? = some q → i ≠ pid → q.entry.provisions a = true →
        Provisioning a (v.setsOf a) q.state) :
      ProvisionedOnce a ⟨v, c.procs.set pid ⟨p.entry, y⟩, c.trace ++ [r]⟩ := by
    refine ⟨few, fun q hq entry => ?_, fun q hq entry => ?_⟩
    · obtain ⟨i, hi⟩ := List.mem_iff_getElem?.mp hq
      obtain ⟨rfl, rfl⟩ | ⟨other, hi⟩ := System.get_answered hi
      · exact actor entry
      · exact rest i q hi other entry
    · rcases List.mem_or_eq_of_mem_set hq with hq | rfl
      · exact h.others q hq entry
      · exact bystander entry
  cases entry : p.entry.provisions a with
  | false =>
      obtain ⟨cannot, same⟩ := t.bystander (h.others p member entry)
      refine assemble (by rw [same]; exact h.few) (by simp [entry]) (fun _ => cannot) ?_
      intro i q hi _ own
      rw [same]
      exact h.provisions q (List.mem_of_getElem? hi) own
  | true =>
      obtain ⟨actor, same | ⟨none, few⟩⟩ := (h.provisions p member entry).answered t exact h.few
      · refine assemble (by rw [same]; exact h.few) (fun _ => actor) (by simp [entry]) ?_
        intro i q hi _ own
        rw [same]
        exact h.provisions q (List.mem_of_getElem? hi) own
      · refine assemble few (fun _ => actor) (by simp [entry]) fun i q hi other own => ?_
        have before := h.provisions q (List.mem_of_getElem? hi) own
        by_cases same : v.setsOf a = c.world.setsOf a
        · rwa [same]
        · rw [none] at before
          exact before.of_none (alone pid r.choice rfl same i q hi other)

private theorem provisioned_once {M : CRMEventSetManager} {a : String} {w : EventSetWorld}
    {c : EventSetConfig EventSetPoint} {actions : List EventSetAction}
    (h : M.protocol.run (.initial w) actions = some c) (none : w.setsOf a = [])
    (exact : ∀ r ∈ c.trace, listsOtherwise a r = false)
    (indirect : ∀ call ∈ c.entries, call.createsDirectly a = false)
    (alone : M.protocol.Along (CreatesAlone a) (.initial w) actions) : ProvisionedOnce a c := by
  -- answers and calls only accumulate, so both conditions held all along
  have conditions : M.protocol.Along (fun _ _ d => (∀ r ∈ d.trace, listsOtherwise a r = false) ∧
      ∀ p ∈ d.procs, p.entry.createsDirectly a = false) (.initial w) actions := by
    refine System.along_of_prefixes _ fun first rest d split reached => ?_
    have later : M.protocol.run d rest = some c := by
      rw [split, System.run_append, reached] at h
      exact h
    refine ⟨fun r hr => exact r ((System.run_trace later).subset hr), fun p hp => ?_⟩
    obtain ⟨i, hi⟩ := List.mem_iff_getElem?.mp hp
    obtain ⟨p', hp', same⟩ := System.run_entry later hi
    rw [← same]
    exact indirect _ (List.mem_map_of_mem (List.mem_of_getElem? hp'))
  refine CRMEventSetManager.protocol_invariant _ (ProvisionedOnce a) ?_ ?_ ?_ h
    (alone.and conditions) ?_
  · intro c call hc ⟨_, _, direct⟩
    refine ⟨hc.few, fun p hp entry => ?_, fun p hp entry => ?_⟩
    · rcases List.mem_append.mp hp with hp | hp
      · exact hc.provisions p hp entry
      · obtain rfl := List.mem_singleton.mp hp
        cases call with
        | provision b accessToken name =>
            obtain rfl : b = a := of_decide_eq_true entry
            exact .listing
        | _ => cases entry
    · rcases List.mem_append.mp hp with old | fresh
      · exact hc.others p old entry
      · obtain rfl := List.mem_singleton.mp fresh
        exact mayCreate_of_start entry (direct _ hp)
  · intro c pid p r y v hc hp _ t ⟨alone, exact, _⟩
    exact hc.answered hp t (exact r (by simp)) alone
  · exact fun c elapsed hc _ => ⟨hc.few, hc.provisions, hc.others⟩
  · exact ⟨by simp [Config.initial, none], by simp [Config.initial], by simp [Config.initial]⟩

/-- At most one set is created, and every provisioning that names a set names that one. -/
theorem single_provisioning {M : CRMEventSetManager} {a : String} {w : EventSetWorld}
    {c : EventSetConfig (EventSetProg EventSetResult)} {actions : List EventSetAction}
    (h : M.system.run (.initial w) actions = some c) (none : w.setsOf a = [])
    (exact : ∀ r ∈ c.trace, listsOtherwise a r = false)
    (indirect : ∀ call ∈ c.entries, call.createsDirectly a = false)
    (alone : M.protocol.Along (CreatesAlone a) (.initial w) actions) :
    (c.world.setsOf a).length ≤ 1 ∧
      ∀ pid p accessToken name eventSet, c.procs[pid]? = some p →
        p.entry = .provision a accessToken name →
          M.system.Ended c pid (.ok (.provisioned (.createdNew eventSet))) ∨
              M.system.Ended c pid (.ok (.provisioned (.selectedExisting eventSet))) →
            (c.world.setsOf a).map (·.eventSetId) = [eventSet.eventSetId] := by
  obtain ⟨d, hd, rfl⟩ := CRMEventSetManager.exists_protocol h
  have entries : d.entries = (d.map (EventSetPoint.program M)).entries := by
    simp [Config.entries, Config.map, Function.comp_def]
  have once := provisioned_once hd none exact (by rwa [entries]) alone
  refine ⟨once.few, fun pid p accessToken name eventSet hp entry ended => ?_⟩
  rw [Config.map_get, Option.map_eq_some_iff] at hp
  obtain ⟨q, hq, rfl⟩ := hp
  have own : q.entry = .provision a accessToken name := entry
  have place := once.provisions q (List.mem_of_getElem? hq) (by
    simp [own, EventSetCall.provisions])
  have outcome (result : ProvisionResult)
      (ended : M.system.Ended (d.map (EventSetPoint.program M)) pid (.ok (.provisioned result))) :
      q.state = .ended (.ok (.provisioned result)) := by
    have hv := (M.protocol_refines.ended.mp ended).view_eq hq
    cases hs : q.state <;> rw [hs] at hv <;> cases hv
    rfl
  rcases ended with ended | ended
  · rw [outcome _ ended] at place
    cases place with
    | ended named => exact named eventSet (.inl rfl)
  · rw [outcome _ ended] at place
    cases place with
    | ended named => exact named eventSet (.inr rfl)

/-! ## Two calls about to create -/

theorem EventSetTransition.sets_cases {M : CRMEventSetManager} {x y : EventSetPoint}
    {w v : EventSetWorld} {r : EventSetRecord} (t : EventSetTransition M x w r y v) (a : String) :
    v.setsOf a = w.setsOf a ∨ ∃ eventSet, v.setsOf a = w.setsOf a ++ [eventSet] := by
  have create (b : String) (response : CRMCreateResponse) :
      (w.create b response).setsOf a = w.setsOf a ∨
        ∃ eventSet, (w.create b response).setsOf a = w.setsOf a ++ [eventSet] := by
    rw [EventSetWorld.setsOf_create]
    split
    · exact .inr ⟨_, rfl⟩
    · exact .inl rfl
  cases t with
  | setCreated | createUnseen => exact create _ _
  | rowLost effect | copied effect | warmed effect =>
      rcases effect with rfl | rfl <;> exact .inl rfl
  | _ => exact .inl rfl

def CRMCreateResponse.fresh (eventSetId name : String) : CRMCreateResponse where
  code := 0
  message := "OK"
  eventSetId := eventSetId
  name := name

private theorem pending_creates {M : CRMEventSetManager} {a : String}
    {c : EventSetConfig EventSetPoint}
    {q : Nat} {p : Proc EventSetCall EventSetPoint} (hq : c.procs[q]? = some p)
    (pending : p.state.pending a = true) :
    ∃ rest d, M.protocol.run c rest = some d ∧
      (d.world.setsOf a).length = (c.world.setsOf a).length + 1 := by
  have creating {c : EventSetConfig EventSetPoint} {entry : EventSetCall}
      {accessToken name : String}
      (hq : c.procs[q]? = some ⟨entry, .creating .provision a accessToken name⟩) :
      ∃ d, M.protocol.step c (.resume q (.created (.fresh "" name))) = some d ∧
        (d.world.setsOf a).length = (c.world.setsOf a).length + 1 := by
    refine ⟨_, System.step_answer hq rfl rfl, ?_⟩
    show ((c.world.create a _).setsOf a).length = _
    rw [EventSetWorld.setsOf_create, if_pos ⟨rfl, rfl⟩, List.length_append]
    rfl
  obtain ⟨entry, state⟩ := p
  cases state with
  | naming k b accessToken =>
      cases k with
      | create => cases pending
      | provision =>
          obtain rfl : b = a := of_decide_eq_true pending
          have bound := (List.getElem?_eq_some_iff.mp hq).choose
          obtain ⟨e, name, he, same, there⟩ : ∃ e name,
              M.protocol.step c (.resume q .ok) = some e ∧ e.world = c.world ∧
                e.procs[q]? = some ⟨entry, .creating .provision b accessToken name⟩ := by
            refine ⟨⟨c.world, c.procs.set q ⟨entry, .creating .provision b accessToken
              (M.defaultName c.world.clock)⟩, c.trace ++ [⟨q, .now, .ok, .ok c.world.clock⟩]⟩,
              M.defaultName c.world.clock, ?_, rfl, List.getElem?_set_self bound⟩
            simp only [System.step, hq]
            rfl
          obtain ⟨d, hd, more⟩ := creating there
          rw [same] at more
          exact ⟨[.resume q .ok, .resume q (.created (.fresh "" name))], d,
            by simp [System.run, he, hd], more⟩
  | creating k b accessToken name =>
      cases k with
      | create => cases pending
      | provision =>
          obtain rfl : b = a := of_decide_eq_true pending
          obtain ⟨d, hd, more⟩ := creating hq
          exact ⟨[.resume q (.created (.fresh "" name))], d, by simp [System.run, hd], more⟩
  | _ => cases pending

/-- The condition is needed: where a call creates a set while another is about to, the run can
go on to a second set. -/
theorem second_set_follows {M : CRMEventSetManager} {a : String}
    {b d : EventSetConfig EventSetPoint} {pid q : Nat} {choice : EventSetChoice}
    {p : Proc EventSetCall EventSetPoint}
    (step : M.protocol.step b (.resume pid choice) = some d)
    (created : d.world.setsOf a ≠ b.world.setsOf a) (hq : b.procs[q]? = some p) (other : q ≠ pid)
    (pending : p.state.pending a = true) :
    ∃ rest c, M.protocol.run d rest = some c ∧ 2 ≤ (c.world.setsOf a).length := by
  obtain ⟨p', cmd, resume, reply, v, hp, hv, he, rfl⟩ := System.step_resume step
  obtain same | ⟨eventSet, grown⟩ := (EventSetPoint.transition pid hv he).sets_cases a
  · exact absurd same created
  · have still : (b.procs.set pid ⟨p'.entry, resume reply⟩)[q]? = some p := by
      rwa [List.getElem?_set_ne (Ne.symm other)]
    obtain ⟨rest, c, hc, more⟩ := pending_creates (M := M) (c := ⟨v, _, b.trace ++ [_]⟩) still
      pending
    refine ⟨rest, c, hc, ?_⟩
    rw [more]
    simp [grown]

/-! ## Two overlapping provisionings -/

namespace EventSetSample

def created (eventSetId : String) : EventSetChoice :=
  .created (.fresh eventSetId "Salesforce CRM Events — 2024-03-15")

/-- One call after the other, the reply to the first one's creation being lost. -/
def provisionTwice : List EventSetAction :=
  [.start (.provision "adv-001" "token" none), .resume 0 .ok, .resume 0 .ok,
    .resume 0 (.createdUnseen (.fresh "es-1" "Salesforce CRM Events — 2024-03-15")
      connectionLost),
    .start (.provision "adv-001" "token" none), .resume 1 .ok, .resume 1 .ok, .resume 1 .ok]

def provisionBoth : List EventSetAction :=
  [.start (.provision "adv-001" "token" none), .start (.provision "adv-001" "token" none),
    .resume 0 .ok, .resume 1 .ok, .resume 0 .ok, .resume 1 .ok, .resume 0 (created "es-1"),
    .resume 1 (created "es-2"), .resume 0 .ok, .resume 0 .ok, .resume 0 .ok, .resume 0 .ok,
    .resume 1 .ok, .resume 1 .ok, .resume 1 .ok, .resume 1 .ok]

end EventSetSample

theorem single_provisioning_twice :
    let c := EventSetSample.manager.system.result (.initial (.fresh 0))
      EventSetSample.provisionTwice (by decide)
    (c.world.setsOf "adv-001").length ≤ 1 ∧
      ∀ eventSet, EventSetSample.manager.system.Ended c 1
          (.ok (.provisioned (.selectedExisting eventSet))) →
        (c.world.setsOf "adv-001").map (·.eventSetId) = [eventSet.eventSetId] := by
  intro c
  have h : EventSetSample.manager.system.run (.initial (.fresh 0))
      EventSetSample.provisionTwice = some c := System.run_result _
  have empty : (EventSetWorld.fresh 0).setsOf "adv-001" = [] := rfl
  have single := single_provisioning h empty (by decide) (by decide) (by decide)
  obtain ⟨p, hp, entry⟩ : ∃ p, c.procs[1]? = some p ∧
      p.entry = .provision "adv-001" "token" none := ⟨_, rfl, rfl⟩
  exact ⟨single.1, fun eventSet ended => single.2 1 p _ _ eventSet hp entry (.inr ended)⟩

/-- Both calls succeed, each with a set of its own. -/
theorem provisioned_twice :
    let c := EventSetSample.manager.system.result (.initial (.fresh 0))
      EventSetSample.provisionBoth (by decide)
    (∀ r ∈ c.trace, listsOtherwise "adv-001" r = false) ∧
      (c.world.setsOf "adv-001").map (·.eventSetId) = ["es-1", "es-2"] ∧
      (∃ eventSet, eventSet.eventSetId = "es-1" ∧
        EventSetSample.manager.system.Ended c 0
          (.ok (.provisioned (.createdNew eventSet)))) ∧
      ∃ eventSet, eventSet.eventSetId = "es-2" ∧
        EventSetSample.manager.system.Ended c 1
          (.ok (.provisioned (.createdNew eventSet))) := by
  refine ⟨by decide, by decide, ⟨_, rfl, _, rfl, rfl⟩, ⟨_, rfl, _, rfl, rfl⟩⟩

end SalesforceTikTok
