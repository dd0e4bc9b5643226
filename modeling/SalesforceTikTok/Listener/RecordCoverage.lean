import Mathlib.Data.List.Dedup
import Mathlib.Data.List.Perm.Basic
import SalesforceTikTok.Listener.Protocol

/-!
# Which records of a message reach `onEvent`

A CDC message names the records that one transaction changed alike. The handler
fetches the Lead of the first of them only. Against any fixed answers of
Salesforce, attempt by attempt, `onEvent_per_record_iff` says when that is every
record whose Lead can be fetched.
-/

namespace SalesforceTikTok

open Concurrency
open SalesforceCDCListener (isNetwork retries)

/-- How Salesforce answers the attempts (counted from 0) to retrieve each Lead. -/
abbrev LeadAnswers := String → Nat → Except JsError (Option SalesforceLead)

namespace LeadAnswers

/-- The Lead that the attempts from this one on yield: a network error is worth
another attempt while one remains. -/
def fetched (answers : LeadAnswers) (leadId : String) (attempt : Nat) : Nat → Option SalesforceLead
  | 0 => none
  | remaining + 1 =>
      match answers leadId attempt with
      | .ok lead => lead
      | .error err => if isNetwork err then answers.fetched leadId (attempt + 1) remaining else none

def lead (answers : LeadAnswers) (leadId : String) : Option SalesforceLead :=
  answers.fetched leadId 0 retries

end LeadAnswers

/-! ## What a handler's history shows -/

def retrievals (leadId : String) (history : List ListenerRecord) :
    List (Except JsError (Option SalesforceLead)) :=
  history.filterMap fun
    | ⟨_, .retrieve id, _, reply⟩ => if id = leadId then some reply else none
    | _ => none

/-- The calls of `onEvent`. -/
def eventCalls (history : List ListenerRecord) : List (SalesforceCDCEvent × SalesforceLead) :=
  history.filterMap fun
    | ⟨_, .onEvent cdcEvent lead, _, _⟩ => some (cdcEvent, lead)
    | _ => none

private theorem retrievals_append_self {history : List ListenerRecord} {pid : Nat} {leadId : String}
    {choice : ListenerChoice} {reply : Except JsError (Option SalesforceLead)} :
    retrievals leadId (history ++ [⟨pid, .retrieve leadId, choice, reply⟩]) =
      retrievals leadId history ++ [reply] := by
  simp [retrievals]

private theorem retrievals_append_of_ne {history : List ListenerRecord} {pid : Nat}
    {leadId id : String} (other : leadId ≠ id) {choice : ListenerChoice}
    {reply : Except JsError (Option SalesforceLead)} :
    retrievals id (history ++ [⟨pid, .retrieve leadId, choice, reply⟩]) =
      retrievals id history := by
  simp [retrievals, other]

/-- The handler was answered as `answers` says. -/
def LeadAnswers.Follows (answers : LeadAnswers) (history : List ListenerRecord) : Prop :=
  ∀ leadId attempt reply, (retrievals leadId history)[attempt]? = some reply →
    reply = answers leadId attempt

theorem LeadAnswers.Follows.initial {answers : LeadAnswers} {history rest : List ListenerRecord}
    (h : answers.Follows (history ++ rest)) : answers.Follows history := by
  intro leadId attempt reply found
  have bound := (List.getElem?_eq_some_iff.mp found).choose
  apply h leadId attempt reply
  unfold retrievals at bound found ⊢
  rw [List.filterMap_append, List.getElem?_append_left bound, found]

theorem LeadAnswers.Follows.latest {answers : LeadAnswers} {history : List ListenerRecord}
    {pid : Nat} {leadId : String} {choice : ListenerChoice}
    {reply : Except JsError (Option SalesforceLead)}
    (h : answers.Follows (history ++ [⟨pid, .retrieve leadId, choice, reply⟩])) :
    answers leadId (retrievals leadId history).length = reply := by
  refine (h leadId _ reply ?_).symm
  simp [retrievals_append_self]

theorem LeadAnswers.Follows.retrieve {answers : LeadAnswers} {history : List ListenerRecord}
    (h : answers.Follows history) (leadId : String) (pid : Nat) (choice : ListenerChoice) :
    answers.Follows (history ++ [⟨pid, .retrieve leadId, choice,
      answers leadId (retrievals leadId history).length⟩]) := by
  intro id attempt reply found
  by_cases same : leadId = id
  · subst same
    rw [retrievals_append_self] at found
    by_cases old : attempt < (retrievals leadId history).length
    · rw [List.getElem?_append_left old] at found
      exact h leadId attempt reply found
    · have bound := (List.getElem?_eq_some_iff.mp found).choose
      rw [List.length_append, List.length_singleton] at bound
      have here : attempt = (retrievals leadId history).length := by omega
      subst here
      simpa [eq_comm] using found
  · rw [retrievals_append_of_ne same] at found
    exact h id attempt reply found

def RawMessage.record (rawMessage : RawMessage) : Option (SalesforceCDCEvent × String) := do
  let cdcEvent ← rawMessage.cdcEvent
  let recordId ← cdcEvent.payload.changeEventHeader.firstRecordId
  return (cdcEvent, recordId)

theorem RawMessage.record_eq_some {rawMessage : RawMessage} {cdcEvent : SalesforceCDCEvent}
    {recordId : String} : rawMessage.record = some (cdcEvent, recordId) ↔
      rawMessage.cdcEvent = some cdcEvent ∧
        cdcEvent.payload.changeEventHeader.firstRecordId = some recordId := by
  constructor
  · intro h
    obtain ⟨message, read, rest⟩ := Option.bind_eq_some_iff.mp h
    obtain ⟨id, first, same⟩ := Option.bind_eq_some_iff.mp rest
    cases same
    exact ⟨read, first⟩
  · rintro ⟨message, first⟩
    simp [RawMessage.record, message, first]

namespace SalesforceCDCListener

private theorem startPoint_of_record {rawMessage : RawMessage} {cdcEvent : SalesforceCDCEvent}
    {recordId : String} (h : rawMessage.record = some (cdcEvent, recordId)) :
    startPoint rawMessage = .retrieving cdcEvent recordId (retries - 1) := by
  obtain ⟨message, first⟩ := RawMessage.record_eq_some.mp h
  simp [startPoint, message, first]

private theorem startPoint_of_no_record {rawMessage : RawMessage} (h : rawMessage.record = none) :
    startPoint rawMessage = .ended := by
  unfold RawMessage.record at h
  unfold startPoint
  cases message : rawMessage.cdcEvent with
  | none => rfl
  | some e =>
      cases first : e.payload.changeEventHeader.firstRecordId with
      | none => simp [first]
      | some id => simp [message, first] at h

end SalesforceCDCListener

/-- What the answers to a handler so far tell at each of its points. -/
inductive HandlerHistory (answers : LeadAnswers) (cdcEvent : SalesforceCDCEvent)
    (recordId : String) : ListenerPoint → List ListenerRecord → Prop where
  | retrieving {remaining history}
      (undecided : answers.fetched recordId (retrievals recordId history).length (remaining + 1) =
        answers.lead recordId) (silent : eventCalls history = []) :
      HandlerHistory answers cdcEvent recordId (.retrieving cdcEvent recordId remaining) history
  | waiting {remaining history}
      (undecided : answers.fetched recordId (retrievals recordId history).length (remaining + 1) =
        answers.lead recordId) (silent : eventCalls history = []) :
      HandlerHistory answers cdcEvent recordId (.waiting cdcEvent recordId remaining) history
  | handling {lead history} (found : answers.lead recordId = some lead)
      (silent : eventCalls history = []) :
      HandlerHistory answers cdcEvent recordId (.handling cdcEvent lead) history
  | ended {history}
      (calls : eventCalls history = (answers.lead recordId).toList.map (Prod.mk cdcEvent)) :
      HandlerHistory answers cdcEvent recordId .ended history

theorem HandlerHistory.step {answers : LeadAnswers} {cdcEvent : SalesforceCDCEvent}
    {recordId : String} {x y : ListenerPoint} {history : List ListenerRecord} {pid : Nat}
    {r : ListenerRecord} (h : HandlerHistory answers cdcEvent recordId x history)
    (t : ListenerTransition pid x r y) (follows : answers.Follows (history ++ [r])) :
    HandlerHistory answers cdcEvent recordId y (history ++ [r]) := by
  cases t with
  | retrieved =>
      cases h with
      | retrieving undecided silent =>
          have due := follows.latest
          refine .handling ?_ (by simpa [eventCalls] using silent)
          rw [← undecided, LeadAnswers.fetched, due]
  | missing =>
      cases h with
      | retrieving undecided silent =>
          have due := follows.latest
          have lost : answers.lead recordId = none := by
            rw [← undecided, LeadAnswers.fetched, due]
          exact .ended (by rw [lost]; simpa [eventCalls] using silent)
  | unreachable network =>
      cases h with
      | retrieving undecided silent =>
          have due := follows.latest
          refine .waiting ?_ (by simpa [eventCalls] using silent)
          rw [← undecided, LeadAnswers.fetched.eq_2 _ _ _ (_ + 1), due]
          simp [network, retrievals]
  | failed final =>
      cases h with
      | retrieving undecided silent =>
          have due := follows.latest
          have lost : answers.lead recordId = none := by
            rw [← undecided, LeadAnswers.fetched, due]
            rcases final with rfl | final
            · simp [LeadAnswers.fetched]
            · simp [final]
          exact .ended (by rw [lost]; simpa [eventCalls] using silent)
  | slept =>
      cases h with
      | waiting undecided silent =>
          exact .retrieving (by simpa [retrievals] using undecided)
            (by simpa [eventCalls] using silent)
  | handled =>
      cases h with
      | handling found silent =>
          exact .ended (by rw [found]; simpa [eventCalls] using silent)
  | rejected =>
      cases h with
      | handling found silent =>
          exact .ended (by rw [found]; simpa [eventCalls] using silent)

namespace SalesforceCDCListener

/-- The history of every handler that Salesforce answered as `answers` says. -/
theorem handler_history {w : ListenerWorld} {c : ListenerConfig ListenerPoint}
    {actions : List ListenerAction} (h : protocol.run (.initial w) actions = some c) {pid : Nat}
    {p : Proc RawMessage ListenerPoint} (hp : c.procs[pid]? = some p) {answers : LeadAnswers}
    (follows : answers.Follows (c.own pid)) :
    match p.entry.record with
    | none => p.state = .ended ∧ c.own pid = []
    | some (cdcEvent, recordId) =>
        HandlerHistory answers cdcEvent recordId p.state (c.own pid) := by
  refine protocol_own (fun rawMessage x history => answers.Follows history →
    match rawMessage.record with
    | none => x = .ended ∧ history = []
    | some (cdcEvent, recordId) => HandlerHistory answers cdcEvent recordId x history)
    ?_ ?_ h hp follows
  · intro rawMessage _
    cases record : rawMessage.record with
    | none => exact ⟨startPoint_of_no_record record, rfl⟩
    | some named =>
        obtain ⟨cdcEvent, recordId⟩ := named
        rw [startPoint_of_record record]
        exact .retrieving rfl rfl
  · intro rawMessage x history pid r y own t follows
    have own := own follows.initial
    cases record : rawMessage.record with
    | none =>
        rw [record] at own
        obtain ⟨rfl, _⟩ := own
        cases t
    | some named =>
        rw [record] at own
        exact own.step t follows

def answersLeft : ListenerPoint → Nat
  | .retrieving _ _ remaining => 2 * remaining + 2
  | .waiting _ _ remaining => 2 * remaining + 3
  | .handling _ _ => 1
  | .ended => 0

theorem answers_bounded {w : ListenerWorld} {c : ListenerConfig ListenerPoint}
    {actions : List ListenerAction} (h : protocol.run (.initial w) actions = some c) {pid : Nat}
    {p : Proc RawMessage ListenerPoint} (hp : c.procs[pid]? = some p) :
    (c.own pid).length + answersLeft p.state ≤ 10 := by
  refine protocol_own (fun _ x history => history.length + answersLeft x ≤ 10) ?_ ?_ h hp
  · intro rawMessage
    cases record : rawMessage.record with
    | none => simp [startPoint_of_no_record record, answersLeft]
    | some named => simp [startPoint_of_record record, answersLeft, retries]
  · intro rawMessage x history pid r y own t
    have longer : (history ++ [r]).length = history.length + 1 := by simp
    cases t <;> simp only [longer, answersLeft] at own ⊢ <;> omega

theorem answerable {answers : LeadAnswers} {history : List ListenerRecord}
    (follows : answers.Follows history) {x : ListenerPoint} {cmd : ListenerCmd}
    {resume : Except JsError cmd.Reply → ListenerPoint} (hv : x.view = .awaits cmd resume)
    (w : ListenerWorld) (pid : Nat) :
    ∃ choice reply, listenerExec cmd choice w = some (reply, w) ∧
      answers.Follows (history ++ [⟨pid, cmd, choice, reply⟩]) := by
  cases x with
  | retrieving cdcEvent recordId remaining =>
      cases hv
      have follows := follows.retrieve recordId pid
      cases due : answers recordId (retrievals recordId history).length with
      | ok lead => exact ⟨.retrieved lead, .ok lead, rfl, due ▸ follows _⟩
      | error err => exact ⟨.fail err, .error err, rfl, due ▸ follows _⟩
  | waiting cdcEvent recordId remaining =>
      cases hv
      refine ⟨.completed, .ok (), rfl, ?_⟩
      simpa [LeadAnswers.Follows, retrievals] using follows
  | handling cdcEvent lead =>
      cases hv
      refine ⟨.completed, .ok (), rfl, ?_⟩
      simpa [LeadAnswers.Follows, retrievals] using follows
  | ended => cases hv

theorem ended_of_idle {c : ListenerConfig ListenerPoint} {pid : Nat}
    {p : Proc RawMessage ListenerPoint} (hp : c.procs[pid]? = some p)
    (idle : ¬ protocol.InFlight c pid) : p.state = .ended := by
  cases hx : p.state with
  | ended => rfl
  | _ => exact absurd ⟨p, _, _, hp, by rw [hx]; rfl⟩ idle

end SalesforceCDCListener

/-! ## One call for each record -/

def SalesforceCDCEvent.recordIds (cdcEvent : SalesforceCDCEvent) : List String :=
  cdcEvent.payload.changeEventHeader.recordIds.getD []

private theorem firstRecordId_mem {cdcEvent : SalesforceCDCEvent} {recordId : String}
    (h : cdcEvent.payload.changeEventHeader.firstRecordId = some recordId) :
    recordId ∈ cdcEvent.recordIds := by
  unfold SalesforceCDCHeader.firstRecordId at h
  cases first : (cdcEvent.payload.changeEventHeader.recordIds.getD []).head? with
  | none => rw [first] at h; cases h
  | some id =>
      rw [first] at h
      have same : id = recordId := by
        by_cases empty : id = ""
        · simp [empty] at h
        · simpa [empty] using h
      exact same ▸ List.mem_of_head? first

/-- The calls of `onEvent` are one for each named record whose Lead can be fetched,
with that Lead. -/
def EveryRecordHandled (answers : LeadAnswers) (cdcEvent : SalesforceCDCEvent)
    (calls : List (SalesforceCDCEvent × SalesforceLead)) : Prop :=
  calls.Perm ((cdcEvent.recordIds.dedup.filterMap answers.lead).map (Prod.mk cdcEvent))

/-- Fetching the first of distinct records alone is fetching them all exactly when no
other can be fetched. -/
theorem perm_filterMap_iff {α β γ : Type} [DecidableEq α] {ids : List α} (distinct : ids.Nodup)
    {f : α → Option β} {g : β → γ} (injective : g.Injective) {first : Option α}
    (named : ∀ id ∈ first, id ∈ ids) :
    ((first.bind f).toList.map g).Perm ((ids.filterMap f).map g) ↔
      ∀ id ∈ ids, f id ≠ none → first = some id := by
  rw [List.map_perm_map_iff injective]
  constructor
  · intro perm id member found
    obtain ⟨b, hb⟩ := Option.ne_none_iff_exists'.mp found
    have fetched : b ∈ (first.bind f).toList :=
      perm.mem_iff.mpr (List.mem_filterMap.mpr ⟨id, member, hb⟩)
    cases first with
    | none => simp at fetched
    | some id' =>
        by_contra other
        have other : id' ≠ id := fun same => other (congrArg some same)
        have hb' : f id' = some b := by simpa using fetched
        -- two of the records are fetched, but one call is made
        have rest : (ids.filterMap f).Perm (b :: ((ids.erase id').filterMap f)) := by
          have split := (List.perm_cons_erase (named id' rfl)).filterMap f
          simpa [hb'] using split
        have none_left : (ids.erase id').filterMap f = [] := by
          have alone : [b].Perm (b :: ((ids.erase id').filterMap f)) := by
            have here := perm.trans rest
            simpa [hb'] using here
          exact List.length_eq_zero_iff.mp (by simpa using alone.length_eq)
        have left : id ∈ ids.erase id' := (List.mem_erase_of_ne other.symm).mpr member
        have := List.filterMap_eq_nil_iff.mp none_left id left
        rw [hb] at this
        cases this
  · intro only
    cases first with
    | none =>
        have nothing : ids.filterMap f = [] := by
          apply List.filterMap_eq_nil_iff.mpr
          intro id member
          by_contra found
          cases only id member found
        simp [nothing]
    | some id' =>
        have nothing : (ids.erase id').filterMap f = [] := by
          apply List.filterMap_eq_nil_iff.mpr
          intro id member
          by_contra found
          obtain ⟨other, member⟩ := distinct.mem_erase_iff.mp member
          exact other (Option.some.inj (only id member found)).symm
        have split := (List.perm_cons_erase (named id' rfl)).filterMap f
        refine List.Perm.trans ?_ split.symm
        cases hb : f id' <;> simp [hb, nothing]

/-- A handler in flight has got less than ten answers, and the next one can be given. -/
theorem handler_progress {w : ListenerWorld} {d : ListenerConfig ListenerPoint}
    {actions : List ListenerAction}
    (h : SalesforceCDCListener.protocol.run (.initial w) actions = some d) {pid : Nat}
    {answers : LeadAnswers} (follows : answers.Follows (d.own pid))
    (running : SalesforceCDCListener.protocol.InFlight d pid) :
    (d.own pid).length < 10 ∧
      ∃ choice d', SalesforceCDCListener.protocol.step d (.resume pid choice) = some d' ∧
        answers.Follows (d'.own pid) := by
  obtain ⟨q, cmd, resume, hq, hv⟩ := running
  have bound := SalesforceCDCListener.answers_bounded h hq
  have left : 0 < SalesforceCDCListener.answersLeft q.state := by
    cases hx : q.state with
    | ended => rw [hx] at hv; cases hv
    | _ => simp [SalesforceCDCListener.answersLeft]
  obtain ⟨choice, reply, he, answered⟩ :=
    SalesforceCDCListener.answerable follows hv d.world pid
  refine ⟨by omega, choice, _, System.step_answer hq hv he, ?_⟩
  rw [System.own_append_self]
  exact answered

/-- A handler that has ended called `onEvent` for the first record, if that can be fetched. -/
theorem eventCalls_of_ended {w : ListenerWorld} {d : ListenerConfig ListenerPoint}
    {actions : List ListenerAction}
    (h : SalesforceCDCListener.protocol.run (.initial w) actions = some d) {pid : Nat}
    {q : Proc RawMessage ListenerPoint} (hq : d.procs[pid]? = some q) (ended : q.state = .ended)
    {cdcEvent : SalesforceCDCEvent} (message : q.entry.cdcEvent = some cdcEvent)
    {answers : LeadAnswers} (follows : answers.Follows (d.own pid)) :
    eventCalls (d.own pid) =
      ((cdcEvent.payload.changeEventHeader.firstRecordId.bind answers.lead).toList).map
        (Prod.mk cdcEvent) := by
  have history := SalesforceCDCListener.handler_history h hq follows
  cases first : cdcEvent.payload.changeEventHeader.firstRecordId with
  | none =>
      have none_named : q.entry.record = none := by simp [RawMessage.record, message, first]
      rw [none_named] at history
      rw [history.2]
      rfl
  | some recordId =>
      have named : q.entry.record = some (cdcEvent, recordId) := by
        simp [RawMessage.record, message, first]
      rw [named, ended] at history
      cases history with
      | ended calls => exact calls

/-- A handler answered as `answers` says ends after at most ten answers. Its calls of
`onEvent` are one for each record that can be fetched exactly when the first record, not
empty, is the only one that can. -/
theorem onEvent_per_record_iff {w : ListenerWorld} {c : ListenerConfig (ListenerProg Unit)}
    {actions : List ListenerAction}
    (h : SalesforceCDCListener.system.run (.initial w) actions = some c) {pid : Nat}
    {p : Proc RawMessage (ListenerProg Unit)} (hp : c.procs[pid]? = some p)
    {cdcEvent : SalesforceCDCEvent} (message : p.entry.cdcEvent = some cdcEvent)
    {answers : LeadAnswers} (follows : answers.Follows (c.own pid)) :
    (SalesforceCDCListener.system.InFlight c pid → (c.own pid).length < 10 ∧
      ∃ choice c', SalesforceCDCListener.system.step c (.resume pid choice) = some c' ∧
        answers.Follows (c'.own pid)) ∧
    (¬ SalesforceCDCListener.system.InFlight c pid →
      (EveryRecordHandled answers cdcEvent (eventCalls (c.own pid)) ↔
        ∀ recordId ∈ cdcEvent.recordIds, answers.lead recordId ≠ none →
          cdcEvent.payload.changeEventHeader.firstRecordId = some recordId)) := by
  obtain ⟨d, hd, rfl⟩ := SalesforceCDCListener.protocol_refines.lift (c := .initial w) h
  have refines := SalesforceCDCListener.protocol_refines
  rw [Config.map_get, Option.map_eq_some_iff] at hp
  obtain ⟨q, hq, rfl⟩ := hp
  rw [Config.map_own] at follows ⊢
  constructor
  · intro running
    obtain ⟨bound, choice, d', stepped, answered⟩ :=
      handler_progress hd follows (refines.inFlight.mp running)
    refine ⟨bound, choice, d'.map ListenerPoint.program, ?_, answered⟩
    rw [refines.step, stepped]
    rfl
  · intro idle
    have ended := SalesforceCDCListener.ended_of_idle hq fun running =>
      idle (refines.inFlight.mpr running)
    have same : ∀ id, id ∈ cdcEvent.recordIds.dedup ↔ id ∈ cdcEvent.recordIds := fun _ =>
      List.mem_dedup
    rw [EveryRecordHandled, eventCalls_of_ended hd hq ended message follows,
      perm_filterMap_iff (List.nodup_dedup _) (fun _ _ => by simp)
        fun id first => (same id).mpr (firstRecordId_mem first)]
    simp only [same]

/-! ## A message with two records -/

namespace TwoRecords

def cdcEvent : SalesforceCDCEvent where
  payload :=
    { changeEventHeader :=
        { changeType := .update, changedFields := some ["Status"], entityName := "Lead",
          recordIds := some ["lead-001", "lead-002"] } }
  replayId := 100

def rawMessage : RawMessage :=
  .object (some ⟨some cdcEvent.payload.changeEventHeader, []⟩) (some 100)

def lead (id : String) : SalesforceLead where
  id := id
  status := "Qualified"
  createdDate := "2024-01-01T00:00:00Z"

def actions : List ListenerAction :=
  [.start rawMessage, .resume 0 (.retrieved (some (lead "lead-001"))), .resume 0 .completed]

def after : ListenerConfig (ListenerProg Unit) :=
  SalesforceCDCListener.system.result (.initial {}) actions rfl

def everyLead : LeadAnswers := fun id _ => .ok (some (lead id))

def firstLead : LeadAnswers := fun id _ =>
  .ok (if id = "lead-001" then some (lead id) else none)

private theorem follows {answers : LeadAnswers}
    (first : answers "lead-001" 0 = .ok (some (lead "lead-001"))) :
    answers.Follows (after.own 0) := by
  intro id attempt reply found
  by_cases same : "lead-001" = id
  · subst same
    have answered : retrievals "lead-001" (after.own 0) = [.ok (some (lead "lead-001"))] := rfl
    rw [answered] at found
    cases attempt with
    | zero => exact (Option.some.inj found).symm.trans first.symm
    | succ attempt => cases found
  · have silent : retrievals id (after.own 0) =
        if "lead-001" = id then [.ok (some (lead "lead-001"))] else [] := by
      rw [if_neg same]
      show List.filterMap _ [_, _] = []
      simp [same]
    rw [silent, if_neg same] at found
    cases found

end TwoRecords

theorem onEvent_per_record_two :
    EveryRecordHandled TwoRecords.firstLead TwoRecords.cdcEvent
      (eventCalls (TwoRecords.after.own 0)) := by
  refine ((onEvent_per_record_iff (System.run_result _) rfl rfl (TwoRecords.follows rfl)).2
    (System.not_inFlight_of_idle rfl 0)).mpr ?_
  decide

/-- Both Leads can be fetched; the second is dropped. -/
theorem record_dropped :
    SalesforceCDCListener.system.run (.initial {}) TwoRecords.actions = some TwoRecords.after ∧
      SalesforceCDCListener.system.idle TwoRecords.after = true ∧
      TwoRecords.everyLead.Follows (TwoRecords.after.own 0) ∧
      ¬ EveryRecordHandled TwoRecords.everyLead TwoRecords.cdcEvent
        (eventCalls (TwoRecords.after.own 0)) := by
  refine ⟨System.run_result _, rfl, TwoRecords.follows rfl, fun all => ?_⟩
  have once : (eventCalls (TwoRecords.after.own 0)).length = 1 := rfl
  have twice := all.length_eq
  rw [once] at twice
  exact absurd twice (by decide)

end SalesforceTikTok
