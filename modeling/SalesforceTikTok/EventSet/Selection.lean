import SalesforceTikTok.EventSet.CacheCoherence

/-!
# What an operation leaves of a selection

When a failed store command has no effect, an advertiser's row and copy are what
the last answered writes made of them. `provision` and `select` write when they
report success and nothing otherwise: the row first, then its copy, whose failure
is swallowed.
-/

namespace SalesforceTikTok

open Concurrency

/-! ## The last writes -/

def EventSetAnswer.row (a : String) : EventSetAnswer → Option String
  | ⟨.upsertSet row, .ok _⟩ => if row.advertiserId = a then some row.eventSetId else none
  | _ => none

open CRMEventSetManager in
def EventSetAnswer.copy (a : String) : EventSetAnswer → Option String
  | ⟨.cacheSet key eventSetId _, .ok _⟩ => if key = cacheKey a then some eventSetId else none
  | _ => none

def lastWritten (written : EventSetAnswer → Option String) (history : List EventSetAnswer) :
    Option String :=
  history.reverse.findSome? written

private theorem lastWritten_append (written : EventSetAnswer → Option String)
    (history : List EventSetAnswer) (answer : EventSetAnswer) :
    lastWritten written (history ++ [answer]) = (written answer).or (lastWritten written history) := by
  simp only [lastWritten, List.reverse_append, List.reverse_singleton, List.singleton_append,
    List.findSome?_cons]
  cases written answer <;> rfl

def Silent (a : String) (history : List EventSetAnswer) : Prop :=
  lastWritten (EventSetAnswer.row a) history = none ∧
    lastWritten (EventSetAnswer.copy a) history = none

open CRMEventSetManager in
/-- The row was written last with this id, and so was its copy, unless Redis rejected that. -/
def Selected (a id : String) (history : List EventSetAnswer) : Prop :=
  lastWritten (EventSetAnswer.row a) history = some id ∧
    (lastWritten (EventSetAnswer.copy a) history = some id ∨
      lastWritten (EventSetAnswer.copy a) history = none ∧
        ∃ error ttl, ⟨.cacheSet (cacheKey a) id ttl, .error error⟩ ∈ history)

def Leaves (a : String) : Option String → List EventSetAnswer → Prop
  | some id => Selected a id
  | none => Silent a

def EventSetCmd.Reading : EventSetCmd → Prop
  | .upsertSet _ | .cacheSet _ _ _ => False
  | _ => True

theorem EventSetCmd.Reading.writes_nothing {answer : EventSetAnswer} (h : answer.cmd.Reading)
    (a : String) : answer.row a = none ∧ answer.copy a = none := by
  obtain ⟨cmd, reply⟩ := answer
  cases cmd <;> first | exact ⟨rfl, rfl⟩ | cases h

theorem Silent.append {a : String} {history more : List EventSetAnswer} (h : Silent a history)
    (reads : ∀ answer ∈ more, answer.cmd.Reading) : Silent a (history ++ more) := by
  induction more generalizing history with
  | nil => rwa [List.append_nil]
  | cons answer more ih =>
      obtain ⟨row, copy⟩ := (reads answer List.mem_cons_self).writes_nothing a
      rw [List.append_cons]
      refine ih ⟨?_, ?_⟩ fun answer mem => reads answer (List.mem_cons_of_mem _ mem)
      · rw [lastWritten_append, row, h.1]
        rfl
      · rw [lastWritten_append, copy, h.2]
        rfl

/-! ## What the manager writes -/

def ProvisionResult.selected : ProvisionResult → Option CRMEventSet
  | .selectedExisting eventSet => some eventSet
  | .createdNew eventSet => some eventSet
  | .multipleFound _ => none
  | .error _ => none

namespace CRMEventSetManager

section

variable {can : (cmd : EventSetCmd) → Except JsError cmd.Reply → Prop}

theorem silent_of_within {α : Type} {a : String} {program : EventSetProg α}
    {Q : Except JsError α → Prop}
    (h : program.Within EventSetCmd.Reading Q) {history : List EventSetAnswer}
    (silent : Silent a history) :
    program.Meets can (fun _ _ => True) (fun final outcome => Silent a final ∧ Q outcome)
      history :=
  h.meets (fun _ _ _ _ => trivial) fun _ _ reads ends => ⟨silent.append reads, ends⟩

private theorem list_reads (a accessToken : String) :
    (list a accessToken).Within EventSetCmd.Reading fun _ => True := by
  refine .bind (.call trivial) fun response => .bind ?_ fun _ => trivial
  unfold assertSuccess
  split <;> trivial

private theorem createNamed_reads (a accessToken name : String) :
    (createNamed a accessToken name).Within EventSetCmd.Reading fun _ => True := by
  refine .bind (.call trivial) fun response => .bind ?_ fun _ => .bind (.call trivial) fun _ =>
    .bind (.call trivial) fun _ => trivial
  unfold assertSuccess
  split <;> trivial

theorem create_reads (M : CRMEventSetManager) (a accessToken : String) (name : Option String) :
    (M.create a accessToken name).Within EventSetCmd.Reading fun _ => True := by
  cases name with
  | none => exact .bind (.call trivial) fun _ => createNamed_reads _ _ _
  | some name => exact createNamed_reads _ _ _

/-- `store` selects the set, or Postgres rejected its row and nothing was written. -/
theorem store_selects {a : String} {eventSet : CRMEventSet} {source : EventSetSource}
    {history : List EventSetAnswer} (silent : Silent a history) :
    (store a eventSet source).Meets can (fun _ _ => True) (fun final outcome =>
      Leaves a (outcome.toOption.map fun _ => eventSet.eventSetId) final) history := by
  obtain ⟨row, copy⟩ := silent
  refine .call_bind trivial (fun _ _ => ⟨trivial, fun reply _ => ?_⟩) fun error _ => ?_
  · cases reply with
    | ok _ =>
        refine ⟨?_, .inl ?_⟩
        · rw [lastWritten_append, lastWritten_append]
          simp [EventSetAnswer.row, storedRow]
        · rw [lastWritten_append]
          simp [EventSetAnswer.copy]
    | error error =>
        refine ⟨?_, .inr ⟨?_, error, EVENT_SET_CACHE_TTL, by simp⟩⟩
        · rw [lastWritten_append, lastWritten_append]
          simp [EventSetAnswer.row, storedRow]
        · rw [lastWritten_append, lastWritten_append, copy]
          rfl
  · constructor
    · rw [lastWritten_append, row]
      rfl
    · rw [lastWritten_append, copy]
      rfl

/-- How the `try` of `provision` ends: with what its result selects, or having written nothing. -/
def Tried (a : String) (final : List EventSetAnswer) (outcome : Except JsError ProvisionResult) :
    Prop :=
  (∃ result, outcome = .ok result ∧ Leaves a (result.selected.map (·.eventSetId)) final) ∨
    (∃ error, outcome = .error error) ∧ Silent a final

private theorem store_result {a : String} {eventSet : CRMEventSet} {result : ProvisionResult}
    (selected : result.selected = some eventSet) (source : EventSetSource)
    {history : List EventSetAnswer} (silent : Silent a history) :
    (do
      store a eventSet source
      return result : EventSetProg ProvisionResult).Meets can (fun _ _ => True) (Tried a)
        history := by
  refine .bind (store_selects silent) (fun final _ leaves => ?_) fun final error leaves => ?_
  · exact .inl ⟨result, rfl, by rw [selected]; exact leaves⟩
  · exact .inr ⟨⟨error, rfl⟩, leaves⟩

/-- A provisioning selects the set it reports as created or selected, and none else. -/
theorem provision_selects (M : CRMEventSetManager) (a accessToken : String)
    (eventSetName : Option String) {history : List EventSetAnswer} (silent : Silent a history) :
    (M.provision a accessToken eventSetName).Meets can (fun _ _ => True) (fun final outcome =>
      ∃ result, outcome = .ok result ∧
        Leaves a (result.selected.map (·.eventSetId)) final) history := by
  suffices tried : Prog.Meets can (fun _ _ => True) (Tried a) _ history by
    refine tried.catch ?_ ?_
    · rintro final result (ended | ⟨⟨error, failed⟩, _⟩)
      · exact ended
      · cases failed
    · rintro final error (⟨result, ended, _⟩ | ⟨_, quiet⟩)
      · cases ended
      · exact ⟨.error error.message, rfl, quiet⟩
  refine .bind (silent_of_within (list_reads a accessToken) silent)
    (fun final existing listed => ?_) fun final error listed => .inr ⟨⟨error, rfl⟩, listed.1⟩
  match existing with
  | [] =>
      refine .bind (silent_of_within (create_reads M a accessToken eventSetName) listed.1)
        (fun final created kept => ?_) fun final error kept => .inr ⟨⟨error, rfl⟩, kept.1⟩
      exact store_result rfl .autoCreated kept.1
  | [eventSet] => exact store_result rfl .autoSelected listed.1
  | first :: second :: rest =>
      exact .inl ⟨.multipleFound (first :: second :: rest), rfl, listed.1⟩

/-- `select` selects the set it returns, and it was asked for that id. -/
theorem select_selects (a eventSetId accessToken : String) {history : List EventSetAnswer}
    (silent : Silent a history) :
    (select a eventSetId accessToken).Meets can (fun _ _ => True) (fun final outcome =>
      Leaves a (outcome.toOption.map (·.eventSetId)) final ∧
        ∀ eventSet, outcome = .ok eventSet → eventSet.eventSetId = eventSetId) history := by
  refine .bind (silent_of_within (list_reads a accessToken) silent) (fun final sets listed => ?_)
    fun final error listed => ⟨listed.1, fun _ => nofun⟩
  cases found : sets.find? fun eventSet => eventSet.eventSetId = eventSetId with
  | none => exact ⟨listed.1, fun _ => nofun⟩
  | some selected =>
      have asked : selected.eventSetId = eventSetId := by
        simpa using List.find?_some found
      refine .bind (store_selects listed.1) (fun final _ leaves => ?_)
        fun final error leaves => ⟨leaves, fun _ => nofun⟩
      refine ⟨leaves, fun eventSet same => ?_⟩
      cases same
      exact asked

end

end CRMEventSetManager

/-! ## What the writes make of the stores -/

open CRMEventSetManager in
/-- The stores hold for an advertiser what they held before, up to the last writes. -/
structure Replayed (a : String) (w : EventSetWorld) (history : List EventSetAnswer)
    (v : EventSetWorld) : Prop where
  row : v.selectId a = (lastWritten (EventSetAnswer.row a) history).or (w.selectId a)
  whole : lastWritten (EventSetAnswer.row a) history = none → v.rows.lookup a = w.rows.lookup a
  kept : lastWritten (EventSetAnswer.copy a) history = none →
    v.cache.lookup (cacheKey a) = w.cache.lookup (cacheKey a)
  copied : ∀ id, lastWritten (EventSetAnswer.copy a) history = some id →
    ∃ expiry, v.cache.lookup (cacheKey a) = some (id, expiry)

namespace Replayed

variable {a : String} {w u v : EventSetWorld} {history : List EventSetAnswer}

theorem refl (a : String) (w : EventSetWorld) : Replayed a w [] w :=
  ⟨rfl, fun _ => rfl, fun _ => rfl, nofun⟩

private theorem of_quiet {answer : EventSetAnswer} (row : answer.row a = none)
    (copy : answer.copy a = none)
    (rows : v.rows = w.rows) (cache : v.cache = w.cache) : Replayed a w [answer] v where
  row := by simp [lastWritten, row, EventSetWorld.selectId, rows]
  whole _ := by rw [rows]
  kept _ := by rw [cache]
  copied id written := by simp [lastWritten, copy] at written

theorem append {answer : EventSetAnswer} (h : Replayed a w history u)
    (h' : Replayed a u [answer] v) : Replayed a w (history ++ [answer]) v where
  row := by
    rw [lastWritten_append, h'.row, h.row]
    cases same : answer.row a <;> simp [lastWritten, same]
  whole written := by
    rw [lastWritten_append, Option.or_eq_none_iff] at written
    exact (h'.whole (by simp [lastWritten, written.1])).trans (h.whole written.2)
  kept written := by
    rw [lastWritten_append, Option.or_eq_none_iff] at written
    exact (h'.kept (by simp [lastWritten, written.1])).trans (h.kept written.2)
  copied id written := by
    rw [lastWritten_append] at written
    cases now : answer.copy a with
    | none =>
        rw [now] at written
        obtain ⟨expiry, found⟩ := h.copied id written
        exact ⟨expiry, (h'.kept (by simp [lastWritten, now])).trans found⟩
    | some id' =>
        rw [now] at written
        cases written
        exact h'.copied id (by simp [lastWritten, now])

theorem upsertSet (a : String) (w : EventSetWorld) (row : AdvertiserEventSet) (reply : Unit) :
    Replayed a w [⟨.upsertSet row, .ok reply⟩] (w.upsertSet row) where
  row := by
    by_cases same : row.advertiserId = a
    · subst same
      simp [lastWritten, EventSetAnswer.row, EventSetWorld.selectId, EventSetWorld.upsertSet]
    · simp [lastWritten, EventSetAnswer.row, EventSetWorld.selectId, EventSetWorld.upsertSet, same,
        AList.lookup_insert_ne (Ne.symm same)]
  whole written := by
    have other : row.advertiserId ≠ a := by simpa [lastWritten, EventSetAnswer.row] using written
    exact AList.lookup_insert_ne (Ne.symm other)
  kept _ := rfl
  copied id written := by simp [lastWritten, EventSetAnswer.copy] at written

open CRMEventSetManager in
theorem cacheSet (a : String) (w : EventSetWorld) (key eventSetId : String) (ttl : Int)
    (reply : Unit) :
    Replayed a w [⟨.cacheSet key eventSetId ttl, .ok reply⟩] (w.cacheSet key eventSetId ttl) := by
  by_cases same : key = cacheKey a
  · subst same
    refine ⟨rfl, fun _ => rfl, fun written => ?_, fun id written => ?_⟩
    · simp [lastWritten, EventSetAnswer.copy] at written
    · obtain rfl : eventSetId = id := by simpa [lastWritten, EventSetAnswer.copy] using written
      exact ⟨_, AList.lookup_insert _⟩
  · refine ⟨rfl, fun _ => rfl, fun _ => Storage.Expiring.lookup_set_ne (Ne.symm same) _ _,
      fun id written => ?_⟩
    simp [lastWritten, EventSetAnswer.copy, same] at written

end Replayed

theorem eventSetExec_replayed {cmd : EventSetCmd} {choice : EventSetChoice} {w v : EventSetWorld}
    {reply : Except JsError cmd.Reply} (h : eventSetExec cmd choice w = some (reply, v))
    (effectless : ∀ error, choice ≠ .failAfter error) (a : String) :
    Replayed a w [⟨cmd, reply⟩] v := by
  have stored {α : Type} {value : α} {reply : Except JsError α} {effect : EventSetWorld}
      (h : choice.apply w value effect = some (reply, v)) :
      reply = .ok value ∧ v = effect ∨ ∃ error, reply = .error error ∧ v = w := by
    cases choice with
    | ok => cases h; exact .inl ⟨rfl, rfl⟩
    | fail error => cases h; exact .inr ⟨error, rfl, rfl⟩
    | failAfter error => exact absurd rfl (effectless error)
    | _ => cases h
  cases cmd with
  | now =>
      cases choice <;> cases h
      exact .of_quiet rfl rfl rfl rfl
  | listSets b accessToken => cases choice <;> cases h <;> exact .of_quiet rfl rfl rfl rfl
  | createSet b accessToken name =>
      cases choice <;> cases h
      · exact .of_quiet rfl rfl rfl rfl
      · exact .of_quiet rfl rfl (w.rows_create b _) (w.cache_create b _)
      · exact .of_quiet rfl rfl (w.rows_create b _) (w.cache_create b _)
  | cacheGet key =>
      obtain ⟨rfl, rfl⟩ | ⟨error, rfl, rfl⟩ := stored h <;> exact .of_quiet rfl rfl rfl rfl
  | selectId b =>
      obtain ⟨rfl, rfl⟩ | ⟨error, rfl, rfl⟩ := stored h <;> exact .of_quiet rfl rfl rfl rfl
  | cacheSet key eventSetId ttl =>
      obtain ⟨rfl, rfl⟩ | ⟨error, rfl, rfl⟩ := stored h
      · exact .cacheSet a w key eventSetId ttl ()
      · exact .of_quiet rfl rfl rfl rfl
  | upsertSet row =>
      obtain ⟨rfl, rfl⟩ | ⟨error, rfl, rfl⟩ := stored h
      · exact .upsertSet a w row ()
      · exact .of_quiet rfl rfl rfl rfl

end SalesforceTikTok
