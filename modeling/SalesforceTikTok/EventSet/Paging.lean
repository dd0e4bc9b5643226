import SalesforceTikTok.Concurrency.Solo
import SalesforceTikTok.EventSet.Transitions

/-!
# Event sets listed page by page

`list` sends one request that names no page and takes what comes for the whole
list. When TikTok answers page by page it sees the first page, and `select` and
`provision` decide on that.
-/

namespace SalesforceTikTok

open Concurrency CRMEventSetManager

/-! ## TikTok's pages -/

/-- A page of a listing, with its `page_info`. -/
structure EventSetPage where
  list : List CRMEventSet
  totalNumber : Nat
  page : Nat
  pageSize : Nat

def pageOf (sets : List CRMEventSet) (pageSize page : Nat) : EventSetPage where
  list := (sets.drop ((page - 1) * pageSize)).take pageSize
  totalNumber := sets.length
  page := page
  pageSize := pageSize

/-- The response that carries the page; the code does not read `page_info`. -/
def EventSetPage.response (page : EventSetPage) : CRMListResponse where
  code := 0
  message := "OK"
  list := some page.list

def EventSetWorld.firstPage (w : EventSetWorld) (pageSize : Nat) (advertiserId : String) :
    EventSetPage :=
  pageOf (w.setsOf advertiserId) pageSize 1

private theorem firstPage_list (w : EventSetWorld) (pageSize : Nat) (a : String) :
    (w.firstPage pageSize a).list = (w.setsOf a).take pageSize := by
  simp [EventSetWorld.firstPage, pageOf]

/-- The first page is the last one exactly if the sets fit on it. -/
theorem firstPage_whole (w : EventSetWorld) (pageSize : Nat) (a : String) :
    (w.firstPage pageSize a).list = w.setsOf a ↔ (w.setsOf a).length ≤ pageSize := by
  rw [firstPage_list]
  constructor
  · intro whole
    have short := congrArg List.length whole
    rw [List.length_take] at short
    omega
  · exact List.take_of_length_le

/-- The regular answers: TikTok's first page, a created set, a working store. -/
def regular (pageSize : Nat) (w : EventSetWorld) : EventSetCmd → EventSetChoice → Bool
  | .listSets a _, .listed response => response = (w.firstPage pageSize a).response
  | .createSet _ _ _, .created response => response.code = 0
  | .listSets _ _, _ | .createSet _ _ _, _ => false
  | _, choice => choice = .ok

abbrev pagedRuntime (pageSize : Nat) :
    Runtime EventSetCmd EventSetCmd.Reply JsError EventSetWorld EventSetChoice EventSetEvent where
  exec cmd choice w := if regular pageSize w cmd choice then eventSetExec cmd choice w else none
  env := eventSetEnv

section

variable {pageSize : Nat} {w v : EventSetWorld}

/-! ## What the operations come to -/

private theorem call_yields {cmd : EventSetCmd} {outcome : Except JsError cmd.Reply} :
    (manage cmd).Yields (pagedRuntime pageSize) outcome v w ↔
      ∃ choice, regular pageSize w cmd choice = true ∧
        eventSetExec cmd choice w = some (outcome, v) :=
  Prog.yields_call.trans (by simp)

theorem plain_comes {cmd : EventSetCmd} {value : cmd.Reply}
    (plain : ∀ choice, regular pageSize w cmd choice = decide (choice = .ok))
    (he : eventSetExec cmd .ok w = some (.ok value, v)) :
    (manage cmd).Comes (pagedRuntime pageSize) w (.ok value) v := by
  intro outcome u
  rw [call_yields]
  constructor
  · rintro ⟨choice, accepted, he'⟩
    rw [plain choice] at accepted
    obtain rfl : choice = .ok := of_decide_eq_true accepted
    rw [he] at he'
    cases he'
    exact ⟨rfl, rfl⟩
  · rintro ⟨rfl, rfl⟩
    exact ⟨.ok, by rw [plain]; rfl, he⟩

private theorem listSets_comes (a accessToken : String) :
    (manage (.listSets a accessToken)).Comes (pagedRuntime pageSize) w
      (.ok (w.firstPage pageSize a).response) w := by
  intro outcome u
  rw [call_yields]
  constructor
  · rintro ⟨choice, accepted, he⟩
    cases choice <;> try cases accepted
    obtain rfl := of_decide_eq_true accepted
    cases he
    exact ⟨rfl, rfl⟩
  · rintro ⟨rfl, rfl⟩
    exact ⟨.listed _, decide_eq_true rfl, rfl⟩

private theorem list_comes (a accessToken : String) :
    (list a accessToken).Comes (pagedRuntime pageSize) w (.ok (w.firstPage pageSize a).list) w :=
  .bind (listSets_comes a accessToken) fun _ _ => Iff.rfl

/-- The stores after `store`. -/
def EventSetWorld.stored (w : EventSetWorld) (advertiserId : String) (eventSet : CRMEventSet)
    (source : EventSetSource) : EventSetWorld :=
  (w.upsertSet (storedRow advertiserId eventSet source)).cacheSet (cacheKey advertiserId)
    eventSet.eventSetId EVENT_SET_CACHE_TTL

private theorem store_comes (a : String) (eventSet : CRMEventSet) (source : EventSetSource) :
    (store a eventSet source).Comes (pagedRuntime pageSize) w (.ok ())
      (w.stored a eventSet source) :=
  .bind (plain_comes (fun _ => rfl) rfl) (.catch (plain_comes (fun _ => rfl) rfl))

private theorem createNamed_yields {a accessToken name : String}
    {outcome : Except JsError CRMEventSet} :
    (createNamed a accessToken name).Yields (pagedRuntime pageSize) outcome v w ↔
      ∃ response, response.code = 0 ∧ outcome = .ok (w.createdSet a response) ∧
        v = w.create a response := by
  have rest (response : CRMCreateResponse) (code : response.code = 0) :
      (do
        assertSuccess response.code response.message "CRM event set create"
        let created : Int ← manage .now
        let updated : Int ← manage .now
        return {
          eventSetId := response.eventSetId, name := response.name, advertiserId := a,
          createTime := created / 1000, updateTime := updated / 1000 } :
        EventSetProg CRMEventSet).Comes (pagedRuntime pageSize) (w.create a response)
          (.ok (w.createdSet a response)) (w.create a response) := by
    unfold assertSuccess
    rw [if_neg (by omega)]
    refine .bind (fun _ _ => Iff.rfl) (.bind (plain_comes (fun _ => rfl) rfl)
      (.bind (plain_comes (fun _ => rfl) rfl) ?_))
    rw [EventSetWorld.createdSet, EventSetWorld.clock_create]
    exact fun _ _ => Iff.rfl
  constructor
  · intro h
    rcases Prog.yields_bind.mp h with ⟨response, u, created, ended⟩ | ⟨error, lost, _⟩
    · obtain ⟨choice, accepted, he⟩ := call_yields.mp created
      cases choice <;> try cases accepted
      have code := of_decide_eq_true accepted
      cases he
      exact ⟨response, code, (rest response code _ _).mp ended⟩
    · obtain ⟨choice, accepted, he⟩ := call_yields.mp lost
      cases choice <;> try cases accepted
      cases he
  · rintro ⟨response, code, ended⟩
    refine Prog.yields_bind.mpr (.inl ⟨response, _, ?_, (rest response code _ _).mpr ended⟩)
    exact call_yields.mpr ⟨.created response, decide_eq_true code, rfl⟩

private theorem create_yields {M : CRMEventSetManager} {a accessToken : String}
    {name : Option String} {outcome : Except JsError CRMEventSet} :
    (M.create a accessToken name).Yields (pagedRuntime pageSize) outcome v w ↔
      ∃ response, response.code = 0 ∧ outcome = .ok (w.createdSet a response) ∧
        v = w.create a response := by
  cases name with
  | some name => exact createNamed_yields
  | none => exact (plain_comes (fun _ => rfl) rfl).bind_yields.trans createNamed_yields

private theorem select_comes (a eventSetId accessToken : String) :
    (∃ eventSet ∈ (w.firstPage pageSize a).list, eventSet.eventSetId = eventSetId ∧
      (select a eventSetId accessToken).Comes (pagedRuntime pageSize) w (.ok eventSet)
        (w.stored a eventSet .manuallySelected)) ∨
    (∀ eventSet ∈ (w.firstPage pageSize a).list, eventSet.eventSetId ≠ eventSetId) ∧
      (select a eventSetId accessToken).Comes (pagedRuntime pageSize) w
        (.error (notFound a eventSetId)) w := by
  cases found : (w.firstPage pageSize a).list.find? fun eventSet =>
      eventSet.eventSetId = eventSetId with
  | none =>
      refine .inr ⟨by simpa using found, .bind (list_comes a accessToken) ?_⟩
      rw [found]
      exact fun _ _ => Iff.rfl
  | some selected =>
      have asked : selected.eventSetId = eventSetId := by simpa using List.find?_some found
      refine .inl ⟨selected, List.mem_of_find?_eq_some found, asked,
        .bind (list_comes a accessToken) ?_⟩
      rw [found]
      exact .bind (store_comes a selected .manuallySelected) fun _ _ => Iff.rfl

inductive Counted : List CRMEventSet → ProvisionResult → Prop where
  | none (created : CRMEventSet) : Counted [] (.createdNew created)
  | one (eventSet : CRMEventSet) : Counted [eventSet] (.selectedExisting eventSet)
  | several {sets : List CRMEventSet} (many : 2 ≤ sets.length) :
      Counted sets (.multipleFound sets)

private theorem created_yields {M : CRMEventSetManager} {a accessToken : String}
    {name : Option String} {outcome : Except JsError ProvisionResult} :
    (do
      let created ← M.create a accessToken name
      store a created .autoCreated
      return .createdNew created : EventSetProg ProvisionResult).Yields (pagedRuntime pageSize)
        outcome v w ↔
      ∃ response, response.code = 0 ∧ outcome = .ok (.createdNew (w.createdSet a response)) ∧
        v = (w.create a response).stored a (w.createdSet a response) .autoCreated := by
  constructor
  · intro h
    rcases Prog.yields_bind.mp h with ⟨created, u, made, rest⟩ | ⟨error, lost, _⟩
    · obtain ⟨response, code, same, rfl⟩ := create_yields.mp made
      cases same
      exact ⟨response, code, (store_comes _ _ _).bind_yields.mp rest⟩
    · obtain ⟨response, _, same, _⟩ := create_yields.mp lost
      cases same
  · rintro ⟨response, code, ended⟩
    refine Prog.yields_bind.mpr (.inl ⟨_, _, create_yields.mpr ⟨response, code, rfl, rfl⟩, ?_⟩)
    exact (store_comes _ _ _).bind_yields.mpr ended

private theorem provision_counts (M : CRMEventSetManager) (a accessToken : String)
    (eventSetName : Option String) :
    (∃ outcome v, (M.provision a accessToken eventSetName).Yields (pagedRuntime pageSize) outcome
      v w) ∧
    ∀ outcome v, (M.provision a accessToken eventSetName).Yields (pagedRuntime pageSize) outcome v
      w → ∃ result, outcome = .ok result ∧ Counted (w.firstPage pageSize a).list result := by
  have listed : (list a accessToken).Comes (pagedRuntime pageSize) w
      (.ok (w.firstPage pageSize a).list) w := list_comes a accessToken
  generalize (w.firstPage pageSize a).list = sets at listed ⊢
  match sets with
  | [] =>
      constructor
      · let response : CRMCreateResponse := ⟨0, "OK", "", ""⟩
        refine ⟨.ok (.createdNew (w.createdSet a response)),
          (w.create a response).stored a (w.createdSet a response) .autoCreated,
          Prog.yields_catch.mpr (.inl ⟨_, listed.bind_yields.mpr ?_, rfl⟩)⟩
        exact created_yields.mpr ⟨response, rfl, rfl, rfl⟩
      · intro outcome v h
        rcases Prog.yields_catch.mp h with ⟨result, ended, same⟩ | ⟨error, u, failed, _⟩
        · obtain ⟨response, _, created, _⟩ := created_yields.mp (listed.bind_yields.mp ended)
          cases created
          exact ⟨_, same, .none _⟩
        · obtain ⟨response, _, created, _⟩ := created_yields.mp (listed.bind_yields.mp failed)
          cases created
  | [eventSet] =>
      have comes : (M.provision a accessToken eventSetName).Comes (pagedRuntime pageSize) w
          (.ok (.selectedExisting eventSet)) (w.stored a eventSet .autoSelected) :=
        .catch (.bind listed (.bind (store_comes a eventSet .autoSelected) fun _ _ => Iff.rfl))
      exact ⟨⟨_, _, (comes _ _).mpr ⟨rfl, rfl⟩⟩,
        fun outcome v h => ⟨_, ((comes _ _).mp h).1, .one eventSet⟩⟩
  | first :: second :: rest =>
      have comes : (M.provision a accessToken eventSetName).Comes (pagedRuntime pageSize) w
          (.ok (.multipleFound (first :: second :: rest))) w :=
        .catch (.bind listed fun _ _ => Iff.rfl)
      exact ⟨⟨_, _, (comes _ _).mpr ⟨rfl, rfl⟩⟩,
        fun outcome v h => ⟨_, ((comes _ _).mp h).1, .several (by simp)⟩⟩

/-! ## Completeness -/

def EndsIn {α : Type} (pageSize : Nat) (w : EventSetWorld) (program : EventSetProg α)
    (Q : Except JsError α → Prop) : Prop :=
  (∃ outcome v, program.Yields (pagedRuntime pageSize) outcome v w) ∧
    ∀ outcome v, program.Yields (pagedRuntime pageSize) outcome v w → Q outcome

private theorem endsIn_of_comes {α : Type} {program : EventSetProg α} {outcome : Except JsError α}
    {Q : Except JsError α → Prop} (h : program.Comes (pagedRuntime pageSize) w outcome v) :
    EndsIn pageSize w program Q ↔ Q outcome := by
  constructor
  · exact fun ends => ends.2 _ _ ((h _ _).mpr ⟨rfl, rfl⟩)
  · intro holds
    refine ⟨⟨_, _, (h _ _).mpr ⟨rfl, rfl⟩⟩, fun outcome' v' ended => ?_⟩
    rw [((h _ _).mp ended).1]
    exact holds

/-- The manager works on all sets that the advertiser owns. -/
structure ListsAll (M : CRMEventSetManager) (pageSize : Nat) (w : EventSetWorld) (a : String) :
    Prop where
  listed : ∀ accessToken, EndsIn pageSize w (list a accessToken) fun outcome =>
    outcome = .ok (w.setsOf a)
  selectable : ∀ accessToken eventSetId, EndsIn pageSize w (select a eventSetId accessToken)
    fun outcome => (∃ eventSet, outcome = .ok eventSet) ↔
      ∃ owned ∈ w.setsOf a, owned.eventSetId = eventSetId
  counted : ∀ accessToken eventSetName, EndsIn pageSize w (M.provision a accessToken eventSetName)
    fun outcome => ∃ result, outcome = .ok result ∧ Counted (w.setsOf a) result

/-- The manager works on all sets of an advertiser exactly if they fit on one page. -/
theorem lists_all_iff (M : CRMEventSetManager) (pageSize : Nat) (w : EventSetWorld) (a : String) :
    ListsAll M pageSize w a ↔ (w.setsOf a).length ≤ pageSize := by
  rw [← firstPage_whole]
  constructor
  · intro all
    have first := (endsIn_of_comes (list_comes a "")).mp (all.listed "")
    exact Except.ok.inj first
  · intro whole
    refine ⟨fun accessToken => ?_, fun accessToken eventSetId => ?_,
      fun accessToken eventSetName => ?_⟩
    · rw [endsIn_of_comes (list_comes a accessToken), whole]
    · rcases @select_comes pageSize w a eventSetId accessToken with
        ⟨eventSet, owned, asked, comes⟩ | ⟨other, comes⟩
      · rw [endsIn_of_comes comes]
        exact ⟨fun _ => ⟨eventSet, whole ▸ owned, asked⟩, fun _ => ⟨eventSet, rfl⟩⟩
      · rw [endsIn_of_comes comes]
        refine ⟨nofun, fun ⟨owned, mem, asked⟩ => ?_⟩
        exact absurd asked (other owned (whole ▸ mem))
    · rw [← whole]
      exact provision_counts M a accessToken eventSetName

end

namespace EventSetSample

def crowded : EventSetWorld :=
  { EventSetWorld.fresh 0 with
    sets :=
      ["es-01", "es-02", "es-03", "es-04", "es-05", "es-06", "es-07", "es-08", "es-09", "es-10",
        "es-11"].map eventSet }

end EventSetSample

open EventSetSample in
/-- With ten sets on a page, the eleventh is not found. -/
theorem eleventh_set_not_found :
    eventSet "es-11" ∈ crowded.setsOf "adv-001" ∧
      (select "adv-001" "es-11" "token").Comes (pagedRuntime 10) crowded
        (.error (notFound "adv-001" "es-11")) crowded ∧
      ¬ ListsAll manager 10 crowded "adv-001" := by
  have owned : eventSet "es-11" ∈ crowded.setsOf "adv-001" := by decide
  have unlisted : ∀ listed ∈ (crowded.firstPage 10 "adv-001").list,
      listed.eventSetId ≠ "es-11" := by decide
  rcases @select_comes 10 crowded "adv-001" "es-11" "token" with
    ⟨found, listed, asked, _⟩ | ⟨_, rejects⟩
  · exact absurd asked (unlisted found listed)
  · refine ⟨owned, rejects, fun all => ?_⟩
    have selects := (endsIn_of_comes rejects).mp (all.selectable "token" "es-11")
    obtain ⟨found, resolved⟩ := selects.mpr ⟨_, owned, rfl⟩
    cases resolved

end SalesforceTikTok
