import SalesforceTikTok.EventSet.CacheCoherence

/-!
# Whose event set is stored

The event set manager writes an id for an advertiser only after TikTok returned
it for that advertiser, or after it read it from the advertiser's row. The
contract is one of every program of the manager, wherever it is started.
-/

namespace SalesforceTikTok

open Concurrency

def EventSetCmd.Returns (a id : String) : (cmd : EventSetCmd) → Except JsError cmd.Reply → Prop
  | .listSets b _, .ok response =>
      b = a ∧ response.code = 0 ∧ ∃ eventSet ∈ response.list.getD [], eventSet.eventSetId = id
  | .createSet b _ _, .ok response => b = a ∧ response.code = 0 ∧ response.eventSetId = id
  | _, _ => False

def Obtained (history : List EventSetAnswer) (a id : String) : Prop :=
  ∃ answer ∈ history, answer.cmd.Returns a id answer.reply

def ReadBack (history : List EventSetAnswer) (a id : String) : Prop :=
  ⟨.cacheGet (CRMEventSetManager.cacheKey a), .ok (some id)⟩ ∈ history ∨
    ⟨.selectId a, .ok (some id)⟩ ∈ history

theorem Obtained.mono {first second : List EventSetAnswer} (sub : first ⊆ second) {a id : String}
    (h : Obtained first a id) : Obtained second a id := by
  obtain ⟨answer, mem, returns⟩ := h
  exact ⟨answer, sub mem, returns⟩

theorem ReadBack.mono {first second : List EventSetAnswer} (sub : first ⊆ second) {a id : String}
    (h : ReadBack first a id) : ReadBack second a id :=
  h.imp (fun copy => sub copy) fun row => sub row

/-- What may be written after these answers: a row with an id that TikTok returned, a copy of
such an id or of one that the row holds. -/
def EventSetCmd.Justified (history : List EventSetAnswer) : EventSetCmd → Prop
  | .upsertSet row => Obtained history row.advertiserId row.eventSetId
  | .cacheSet key id _ =>
      ∃ a, key = CRMEventSetManager.cacheKey a ∧
        (Obtained history a id ∨ ⟨.selectId a, .ok (some id)⟩ ∈ history)
  | _ => True

/-! ## What the stores name -/

open CRMEventSetManager in
def EventSetWorld.Names (w : EventSetWorld) (a id : String) : Prop :=
  w.selectId a = some id ∨ ∃ expiry, w.cache.lookup (cacheKey a) = some (id, expiry)

open CRMEventSetManager in
def EventSetCmd.Writes (a id : String) : EventSetCmd → Prop
  | .upsertSet row => row.advertiserId = a ∧ row.eventSetId = id
  | .cacheSet key eventSetId _ => key = cacheKey a ∧ eventSetId = id
  | _ => False

/-- What a justified command writes is an id that TikTok or the row named. -/
theorem EventSetCmd.Justified.written {history : List EventSetAnswer} {cmd : EventSetCmd}
    (h : cmd.Justified history) {a id : String} (writes : cmd.Writes a id) :
    Obtained history a id ∨ ReadBack history a id := by
  cases cmd with
  | upsertSet row =>
      obtain ⟨rfl, rfl⟩ := writes
      exact .inl h
  | cacheSet key eventSetId ttl =>
      obtain ⟨rfl, rfl⟩ := writes
      obtain ⟨b, same, obtained | row⟩ := h
      · obtain rfl := EventSetCache.cacheKey_injective same
        exact .inl obtained
      · obtain rfl := EventSetCache.cacheKey_injective same
        exact .inr (.inr row)
  | _ => cases writes

/-- A row or copy that names an id after a command named it before, or was written by it. -/
theorem eventSetExec_names {cmd : EventSetCmd} {choice : EventSetChoice} {w v : EventSetWorld}
    {reply : Except JsError cmd.Reply} (h : eventSetExec cmd choice w = some (reply, v))
    {a id : String} (names : v.Names a id) : w.Names a id ∨ cmd.Writes a id := by
  obtain ⟨_, rows, cache⟩ | ⟨key, eventSetId, ttl, rfl, rfl⟩ | ⟨row, rfl, rfl⟩ :=
    eventSetExec_effect h
  · refine .inl (names.imp (fun selected => ?_) fun copy => ?_)
    · rwa [EventSetWorld.selectId, rows] at selected
    · rwa [cache] at copy
  · rcases names with selected | ⟨expiry, copy⟩
    · exact .inl (.inl selected)
    · rcases Storage.Expiring.lookup_set_cases copy with ⟨same, rfl⟩ | kept
      · exact .inr ⟨same.symm, rfl⟩
      · exact .inl (.inr ⟨expiry, kept⟩)
  · rcases names with selected | copy
    · by_cases same : row.advertiserId = a
      · subst same
        rw [EventSetWorld.selectId, EventSetWorld.upsertSet, AList.lookup_insert] at selected
        exact .inr ⟨rfl, Option.some.inj selected⟩
      · rw [EventSetWorld.selectId, EventSetWorld.upsertSet,
          AList.lookup_insert_ne (Ne.symm same)] at selected
        exact .inl (.inl selected)
    · exact .inl (.inr copy)

/-- What a store returns for an advertiser it names for it. -/
theorem eventSetExec_reads {cmd : EventSetCmd} {choice : EventSetChoice} {w v : EventSetWorld}
    {reply : Except JsError cmd.Reply} (h : eventSetExec cmd choice w = some (reply, v))
    {a id : String} (read : ReadBack [⟨cmd, reply⟩] a id) : w.Names a id := by
  rcases read with copy | row
  · cases List.mem_singleton.mp copy
    obtain ⟨_, same, _⟩ | ⟨_, same, _⟩ := EventSetChoice.apply_cases h
    · exact .inr (Storage.Expiring.lookup_of_get (Except.ok.inj same).symm)
    · cases same
  · cases List.mem_singleton.mp row
    obtain ⟨_, same, _⟩ | ⟨_, same, _⟩ := EventSetChoice.apply_cases h
    · exact .inl (Except.ok.inj same).symm
    · cases same

/-! ## What the manager writes -/

namespace CRMEventSetManager

abbrev Keeps {α : Type} (program : EventSetProg α)
    (ends : List EventSetAnswer → Except JsError α → Prop) : Prop :=
  ∀ history, program.Meets (fun _ _ => True) EventSetCmd.Justified ends history

private theorem assertSuccess_keeps (code : Int) (message context : String)
    (history : List EventSetAnswer) :
    (assertSuccess code message context).Meets (fun _ _ => True) EventSetCmd.Justified
      (fun final outcome => final = history ∧ (outcome = .ok () → code = 0)) history := by
  unfold assertSuccess
  split
  · exact ⟨rfl, nofun⟩
  · exact ⟨rfl, fun _ => by omega⟩

theorem list_keeps (a accessToken : String) :
    Keeps (list a accessToken) fun final outcome =>
      ∀ sets, outcome = .ok sets → ∀ eventSet ∈ sets, Obtained final a eventSet.eventSetId := by
  intro history
  refine .call_bind trivial (fun response _ => ?_) fun _ _ _ => nofun
  refine .bind (assertSuccess_keeps _ _ _ _) (fun final _ ended => ?_) fun _ _ _ _ => nofun
  obtain ⟨rfl, succeeded⟩ := ended
  intro sets same eventSet mem
  cases same
  exact ⟨⟨.listSets a accessToken, .ok response⟩, by simp, rfl, succeeded rfl, eventSet, mem, rfl⟩

private theorem createNamed_keeps (a accessToken name : String) :
    Keeps (createNamed a accessToken name) fun final outcome =>
      ∀ eventSet, outcome = .ok eventSet → Obtained final a eventSet.eventSetId := by
  intro history
  refine .call_bind trivial (fun response _ => ?_) fun _ _ _ => nofun
  refine .bind (assertSuccess_keeps _ _ _ _) (fun final _ ended => ?_) fun _ _ _ _ => nofun
  obtain ⟨rfl, succeeded⟩ := ended
  refine .call_bind trivial (fun created _ => ?_) fun _ _ _ => nofun
  refine .call_bind trivial (fun updated _ => ?_) fun _ _ _ => nofun
  intro eventSet same
  cases same
  exact ⟨⟨.createSet a accessToken name, .ok response⟩, by simp, rfl, succeeded rfl, rfl⟩

theorem create_keeps (M : CRMEventSetManager) (a accessToken : String) (name : Option String) :
    Keeps (M.create a accessToken name) fun final outcome =>
      ∀ eventSet, outcome = .ok eventSet → Obtained final a eventSet.eventSetId := by
  intro history
  cases name with
  | some name => exact createNamed_keeps a accessToken name history
  | none =>
      exact .call_bind trivial (fun now _ => createNamed_keeps a accessToken (M.defaultName now) _)
        fun _ _ _ => nofun

private theorem warmCache_keeps {a id : String} {history : List EventSetAnswer}
    (justified : Obtained history a id ∨ ⟨.selectId a, .ok (some id)⟩ ∈ history) :
    (warmCache a id).Meets (fun _ _ => True) EventSetCmd.Justified (fun final _ =>
      history ⊆ final) history := by
  have longer (more : List EventSetAnswer) : history ⊆ history ++ more :=
    List.subset_append_left history more
  refine ⟨⟨a, rfl, justified⟩, fun reply _ => ?_⟩
  cases reply <;> exact longer _

private theorem store_keeps {a : String} {eventSet : CRMEventSet} {source : EventSetSource}
    {history : List EventSetAnswer} (obtained : Obtained history a eventSet.eventSetId) :
    (store a eventSet source).Meets (fun _ _ => True) EventSetCmd.Justified (fun _ _ => True)
      history := by
  refine .call_bind obtained (fun _ _ => ?_) fun _ _ => trivial
  refine (warmCache_keeps (.inl (obtained.mono ?_))).imp fun _ _ _ => trivial
  exact List.subset_append_left history _

/-- Storing what TikTok returned, with anything after it that writes nothing. -/
theorem store_bind_keeps {α : Type} {a : String} {eventSet : CRMEventSet}
    {source : EventSetSource} {history : List EventSetAnswer}
    (obtained : Obtained history a eventSet.eventSetId) (value : α) :
    (do
      store a eventSet source
      return value : EventSetProg α).Meets (fun _ _ => True) EventSetCmd.Justified
        (fun _ _ => True) history :=
  .bind (store_keeps obtained) (fun _ _ _ => trivial) fun _ _ _ => trivial

theorem provision_keeps (M : CRMEventSetManager) (a accessToken : String)
    (eventSetName : Option String) :
    Keeps (M.provision a accessToken eventSetName) fun _ _ => True := by
  intro history
  refine .caught ?_ (fun _ _ => trivial) fun _ _ => trivial
  refine .bind (list_keeps a accessToken history) (fun final existing listed => ?_)
    fun _ _ _ => trivial
  match existing with
  | [] =>
      refine .bind (create_keeps M a accessToken eventSetName final)
        (fun final created obtained => ?_) fun _ _ _ => trivial
      exact store_bind_keeps (obtained created rfl) _
  | [eventSet] => exact store_bind_keeps (listed _ rfl eventSet List.mem_cons_self) _
  | _ :: _ :: _ => trivial

theorem select_keeps (a eventSetId accessToken : String) :
    Keeps (select a eventSetId accessToken) fun _ _ => True := by
  intro history
  refine .bind (list_keeps a accessToken history) (fun final sets listed => ?_)
    fun _ _ _ => trivial
  cases found : sets.find? fun eventSet => eventSet.eventSetId = eventSetId with
  | none => trivial
  | some selected =>
      have obtained := listed sets rfl selected (List.mem_of_find?_eq_some found)
      exact store_bind_keeps obtained _

private theorem fromCache_keeps (a : String) :
    Keeps (fromCache a) fun final outcome => ∀ id, outcome = .ok (some id) → ReadBack final a id := by
  intro history
  refine Prog.meets_catch.mpr (.call_bind trivial (fun cached _ => ?_) fun _ _ => nofun)
  split
  · intro id same
    cases same
    exact .inl (by simp)
  · exact fun _ => nofun

private theorem fallback_keeps (M : CRMEventSetManager) (a : String) :
    Keeps (M.fallback a) fun _ outcome =>
      ∀ id, outcome = .ok id → M.env.TIKTOK_CRM_EVENT_SET_ID = some id := by
  intro history
  unfold fallback
  split
  next id configured =>
    split
    · exact fun _ => nofun
    · intro _ same
      cases same
      exact configured
  next => exact fun _ => nofun

/-- `resolve` returns what a store returned for the advertiser, or the configured id. -/
theorem resolve_keeps (M : CRMEventSetManager) (a : String) :
    Keeps (M.resolve a) fun final outcome => ∀ id, outcome = .ok id →
      ReadBack final a id ∨ M.env.TIKTOK_CRM_EVENT_SET_ID = some id := by
  intro history
  refine .bind (fromCache_keeps a history) (fun final cached read => ?_) fun _ _ _ _ => nofun
  cases cached with
  | some cached =>
      intro id same
      cases same
      exact .inl (read _ rfl)
  | none =>
      refine .call_bind trivial (fun row _ => ?_) fun _ _ _ => nofun
      cases row with
      | none => exact (fallback_keeps M a _).imp fun _ _ env id same => .inr (env id same)
      | some id =>
          refine .bind (warmCache_keeps (.inr (by simp))) (fun final _ sub => ?_)
            fun _ _ _ _ => nofun
          intro id' same
          cases same
          exact .inl (.inr (sub (by simp)))

end CRMEventSetManager
end SalesforceTikTok
