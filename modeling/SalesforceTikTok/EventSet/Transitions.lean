import SalesforceTikTok.Concurrency.Invariant
import SalesforceTikTok.EventSet.Protocol

/-!
# Transitions of the event set protocol

What one answered command can do, as a table with one entry for each outcome,
and the invariant rule that follows from it.
-/

namespace SalesforceTikTok

open Concurrency
open CRMEventSetManager

/-! ## The transition table -/

/-- `EventSetTransition M x w r y v`: at point `x` in world `w` the answer `r` leads to point
`y` in world `v`. A rejected write may or may not have taken effect. -/
inductive EventSetTransition (M : CRMEventSetManager) :
    EventSetPoint → EventSetWorld → EventSetRecord → EventSetPoint → EventSetWorld → Prop where
  | setsListed {k a accessToken w pid choice} {response : CRMListResponse}
      (code : response.code = 0)
      (answer : response.list = some (w.setsOf a) ∨ choice = .listed response) :
      EventSetTransition M (.listing k a accessToken) w
        ⟨pid, .listSets a accessToken, choice, .ok response⟩
        (k.listed a accessToken (response.list.getD [])) w
  | listRefused {k a accessToken w pid choice} {response : CRMListResponse}
      (code : response.code ≠ 0) :
      EventSetTransition M (.listing k a accessToken) w
        ⟨pid, .listSets a accessToken, choice, .ok response⟩
        (k.failed (refused response.code response.message "CRM event set list")) w
  | listFailed {k a accessToken w pid e} :
      EventSetTransition M (.listing k a accessToken) w
        ⟨pid, .listSets a accessToken, .fail e, .error e⟩ (k.failed e) w
  | named {k a accessToken w pid} :
      EventSetTransition M (.naming k a accessToken) w ⟨pid, .now, .ok, .ok w.clock⟩
        (.creating k a accessToken (M.defaultName w.clock)) w
  | setCreated {k a accessToken name w pid response} (code : response.code = 0) :
      EventSetTransition M (.creating k a accessToken name) w
        ⟨pid, .createSet a accessToken name, .created response, .ok response⟩
        (.timingCreated k a response) (w.create a response)
  | createRefused {k a accessToken name w pid response}
      (code : CRMCreateResponse.code response ≠ 0) :
      EventSetTransition M (.creating k a accessToken name) w
        ⟨pid, .createSet a accessToken name, .created response, .ok response⟩
        (k.failed (refused response.code response.message "CRM event set create")) w
  | createUnseen {k a accessToken name w pid response e} :
      EventSetTransition M (.creating k a accessToken name) w
        ⟨pid, .createSet a accessToken name, .createdUnseen response e, .error e⟩
        (k.failed e) (w.create a response)
  | createFailed {k a accessToken name w pid e} :
      EventSetTransition M (.creating k a accessToken name) w
        ⟨pid, .createSet a accessToken name, .fail e, .error e⟩ (k.failed e) w
  | createdTimed {k a response w pid} :
      EventSetTransition M (.timingCreated k a response) w ⟨pid, .now, .ok, .ok w.clock⟩
        (.timingUpdated k a response w.clock) w
  | updatedTimed {k a response created w pid} :
      EventSetTransition M (.timingUpdated k a response created) w ⟨pid, .now, .ok, .ok w.clock⟩
        (k.created a (createdSet a response created w.clock)) w
  | rowStored {a eventSet source w pid} :
      EventSetTransition M (.upserting a eventSet source) w
        ⟨pid, .upsertSet (storedRow a eventSet source), .ok, .ok ()⟩
        (.caching a eventSet source) (w.upsertSet (storedRow a eventSet source))
  | rowLost {a eventSet} {source : EventSetSource} {w pid choice e v}
      (effect : v = w ∨ v = w.upsertSet (storedRow a eventSet source)) :
      EventSetTransition M (.upserting a eventSet source) w
        ⟨pid, .upsertSet (storedRow a eventSet source), choice, .error e⟩ (source.failed e) v
  | copied {a eventSet} {source : EventSetSource} {w pid choice reply v}
      (effect : v = w ∨ v = w.cacheSet (cacheKey a) eventSet.eventSetId EVENT_SET_CACHE_TTL) :
      EventSetTransition M (.caching a eventSet source) w
        ⟨pid, .cacheSet (cacheKey a) eventSet.eventSetId EVENT_SET_CACHE_TTL, choice, reply⟩
        (source.stored eventSet) v
  | cacheHit {a w pid id} (copy : w.cache.get w.clock (cacheKey a) = some id) (full : id ≠ "") :
      EventSetTransition M (.gettingCache a) w ⟨pid, .cacheGet (cacheKey a), .ok, .ok (some id)⟩
        (.ended (.ok (.resolved id))) w
  | cacheMiss {a w pid choice reply} :
      EventSetTransition M (.gettingCache a) w ⟨pid, .cacheGet (cacheKey a), choice, reply⟩
        (.selecting a) w
  | rowSelected {a w pid id} (found : w.selectId a = some id) :
      EventSetTransition M (.selecting a) w ⟨pid, .selectId a, .ok, .ok (some id)⟩
        (.warming a id) w
  | rowMissing {a w pid} (missing : w.selectId a = none) :
      EventSetTransition M (.selecting a) w ⟨pid, .selectId a, .ok, .ok none⟩
        (M.fallbackPoint a) w
  | selectFailed {a w pid choice e} (lost : choice ≠ .ok) :
      EventSetTransition M (.selecting a) w ⟨pid, .selectId a, choice, .error e⟩
        (.ended (.error e)) w
  | warmed {a id w pid choice reply v}
      (effect : v = w ∨ v = w.cacheSet (cacheKey a) id EVENT_SET_CACHE_TTL) :
      EventSetTransition M (.warming a id) w
        ⟨pid, .cacheSet (cacheKey a) id EVENT_SET_CACHE_TTL, choice, reply⟩
        (.ended (.ok (.resolved id))) v

theorem EventSetChoice.apply_cases {α : Type} {choice : EventSetChoice}
    {w v effect : EventSetWorld} {value : α} {reply : Except JsError α}
    (h : choice.apply w value effect = some (reply, v)) :
    (choice = .ok ∧ reply = .ok value ∧ v = effect) ∨
      ∃ error, reply = .error error ∧ choice ≠ .ok ∧ (v = w ∨ v = effect) := by
  cases choice with
  | ok => cases h; exact .inl ⟨rfl, rfl, rfl⟩
  | fail error => cases h; exact .inr ⟨error, rfl, by simp, .inl rfl⟩
  | failAfter error => cases h; exact .inr ⟨error, rfl, by simp, .inr rfl⟩
  | listed response => cases h
  | created response => cases h
  | createdUnseen response error => cases h

/-- What one answered command can do to the row and the copy. -/
theorem eventSetExec_effect {cmd : EventSetCmd} {choice : EventSetChoice} {w v : EventSetWorld}
    {reply : Except JsError cmd.Reply} (h : eventSetExec cmd choice w = some (reply, v)) :
    (v.clock = w.clock ∧ v.rows = w.rows ∧ v.cache = w.cache) ∨
      (∃ key eventSetId ttl, cmd = .cacheSet key eventSetId ttl ∧
        v = w.cacheSet key eventSetId ttl) ∨
      ∃ row, cmd = .upsertSet row ∧ v = w.upsertSet row := by
  cases cmd with
  | now =>
      cases choice <;> cases h
      exact .inl ⟨rfl, rfl, rfl⟩
  | listSets a accessToken => cases choice <;> cases h <;> exact .inl ⟨rfl, rfl, rfl⟩
  | createSet a accessToken name =>
      cases choice <;> cases h
      · exact .inl ⟨rfl, rfl, rfl⟩
      · exact .inl ⟨w.clock_create a _, w.rows_create a _, w.cache_create a _⟩
      · exact .inl ⟨w.clock_create a _, w.rows_create a _, w.cache_create a _⟩
  | cacheGet key =>
      obtain ⟨_, _, rfl⟩ | ⟨_, _, _, rfl | rfl⟩ := EventSetChoice.apply_cases h <;>
        exact .inl ⟨rfl, rfl, rfl⟩
  | selectId a =>
      obtain ⟨_, _, rfl⟩ | ⟨_, _, _, rfl | rfl⟩ := EventSetChoice.apply_cases h <;>
        exact .inl ⟨rfl, rfl, rfl⟩
  | cacheSet key eventSetId ttl =>
      obtain ⟨_, _, rfl⟩ | ⟨_, _, _, rfl | rfl⟩ := EventSetChoice.apply_cases h
      · exact .inr (.inl ⟨key, eventSetId, ttl, rfl, rfl⟩)
      · exact .inl ⟨rfl, rfl, rfl⟩
      · exact .inr (.inl ⟨key, eventSetId, ttl, rfl, rfl⟩)
  | upsertSet row =>
      obtain ⟨_, _, rfl⟩ | ⟨_, _, _, rfl | rfl⟩ := EventSetChoice.apply_cases h
      · exact .inr (.inr ⟨row, rfl, rfl⟩)
      · exact .inl ⟨rfl, rfl, rfl⟩
      · exact .inr (.inr ⟨row, rfl, rfl⟩)

/-- Every answered command of the protocol is an entry of the table. -/
theorem EventSetPoint.transition {M : CRMEventSetManager} {x : EventSetPoint} {cmd : EventSetCmd}
    {resume : Except JsError cmd.Reply → EventSetPoint} {choice : EventSetChoice}
    {w v : EventSetWorld} {reply : Except JsError cmd.Reply} (pid : Nat)
    (hv : x.view M = .awaits cmd resume) (he : eventSetExec cmd choice w = some (reply, v)) :
    EventSetTransition M x w ⟨pid, cmd, choice, reply⟩ (resume reply) v := by
  cases x with
  | listing k a accessToken =>
      cases hv
      have answered (response : CRMListResponse)
          (answer : response.list = some (w.setsOf a) ∨ choice = .listed response) :
          EventSetTransition M (.listing k a accessToken) w
            ⟨pid, .listSets a accessToken, choice, .ok response⟩
            (if response.code ≠ 0 then
              k.failed (refused response.code response.message "CRM event set list")
            else k.listed a accessToken (response.list.getD [])) w := by
        by_cases code : response.code = 0
        · rw [if_neg (not_not.mpr code)]
          exact .setsListed code answer
        · rw [if_pos code]
          exact .listRefused code
      cases choice <;> cases he
      · exact answered _ (.inl rfl)
      · exact .listFailed
      · exact answered _ (.inr rfl)
  | naming k a accessToken =>
      cases hv
      cases choice <;> cases he
      exact .named
  | creating k a accessToken name =>
      cases hv
      cases choice with
      | created response =>
          cases he
          by_cases code : response.code = 0
          · simp only [code, ne_eq, not_true_eq_false, if_false]
            exact .setCreated code
          · have same : w.create a response = w := if_neg code
            simp only [ne_eq, code, not_false_eq_true, if_true, same]
            exact .createRefused code
      | createdUnseen response e => cases he; exact .createUnseen
      | fail e => cases he; exact .createFailed
      | ok => cases he
      | failAfter e => cases he
      | listed response => cases he
  | timingCreated k a response =>
      cases hv
      cases choice <;> cases he
      exact .createdTimed
  | timingUpdated k a response created =>
      cases hv
      cases choice <;> cases he
      exact .updatedTimed
  | upserting a eventSet source =>
      cases hv
      obtain ⟨rfl, rfl, rfl⟩ | ⟨e, rfl, _, effect⟩ := EventSetChoice.apply_cases he
      · exact .rowStored
      · exact .rowLost effect
  | caching a eventSet source =>
      cases hv
      obtain ⟨rfl, rfl, rfl⟩ | ⟨e, rfl, _, effect⟩ := EventSetChoice.apply_cases he
      · exact .copied (.inr rfl)
      · exact .copied effect
  | gettingCache a =>
      cases hv
      obtain ⟨rfl, rfl, rfl⟩ | ⟨e, rfl, _, rfl | rfl⟩ := EventSetChoice.apply_cases he
      · cases copy : v.cache.get v.clock (cacheKey a) with
        | none => exact .cacheMiss
        | some id =>
            by_cases empty : id = ""
            · simp only [if_pos empty]
              exact .cacheMiss
            · simp only [if_neg empty]
              exact .cacheHit copy empty
      · exact .cacheMiss
      · exact .cacheMiss
  | selecting a =>
      cases hv
      obtain ⟨rfl, rfl, rfl⟩ | ⟨e, rfl, lost, rfl | rfl⟩ := EventSetChoice.apply_cases he
      · cases found : v.selectId a with
        | none => exact .rowMissing found
        | some id => exact .rowSelected found
      · exact .selectFailed lost
      · exact .selectFailed lost
  | warming a id =>
      cases hv
      obtain ⟨rfl, rfl, rfl⟩ | ⟨e, rfl, _, effect⟩ := EventSetChoice.apply_cases he
      · exact .warmed (.inr rfl)
      · exact .warmed effect
  | ended outcome => cases hv

/-! ## The invariant rule -/

abbrev EventSetConfig (X : Type) :=
  Config EventSetCmd EventSetCmd.Reply JsError EventSetWorld EventSetChoice EventSetCall X

abbrev EventSetAction := Action EventSetCall EventSetChoice EventSetEvent

namespace CRMEventSetManager

variable {M : CRMEventSetManager}

/-- A fact about whole configurations: enough to check it for a started call, for every
entry of the table and for the passing of time, under a condition on the steps. -/
theorem protocol_invariant
    (Step : EventSetConfig EventSetPoint → EventSetAction → EventSetConfig EventSetPoint → Prop)
    (I : EventSetConfig EventSetPoint → Prop)
    (started : ∀ c call, I c →
      Step c (.start call) ⟨c.world, c.procs ++ [⟨call, call.startPoint⟩], c.trace⟩ →
      I ⟨c.world, c.procs ++ [⟨call, call.startPoint⟩], c.trace⟩)
    (answered : ∀ c pid p r y v, I c → c.procs[pid]? = some p → r.pid = pid →
      EventSetTransition M p.state c.world r y v →
      Step c (.resume pid r.choice) ⟨v, c.procs.set pid ⟨p.entry, y⟩, c.trace ++ [r]⟩ →
      I ⟨v, c.procs.set pid ⟨p.entry, y⟩, c.trace ++ [r]⟩)
    (ticked : ∀ c (elapsed : Nat), I c →
      Step c (.env (.tick elapsed))
        { c with world := { c.world with clock := c.world.clock + elapsed } } →
      I { c with world := { c.world with clock := c.world.clock + elapsed } })
    {c c' : EventSetConfig EventSetPoint} {actions : List EventSetAction}
    (h : M.protocol.run c actions = some c') (along : M.protocol.Along Step c actions)
    (initial : I c) : I c' := by
  refine System.run_invariant_along Step I ?_ h along initial
  intro c a c' hc hs hstep
  cases a with
  | start call =>
      obtain ⟨x, v, hl, rfl⟩ := System.step_start hs
      cases hl
      exact started c call hc hstep
  | resume pid choice =>
      obtain ⟨p, cmd, resume, reply, v, hp, hv, he, rfl⟩ := System.step_resume hs
      exact answered c pid p _ _ _ hc hp rfl (EventSetPoint.transition pid hv he) hstep
  | env event =>
      obtain ⟨v, hw, rfl⟩ := System.step_env hs
      cases event with
      | tick elapsed =>
          cases hw
          exact ticked c elapsed hc hstep

theorem exists_protocol {w : EventSetWorld} {d : EventSetConfig (EventSetProg EventSetResult)}
    {actions : List EventSetAction} (h : M.system.run (.initial w) actions = some d) :
    ∃ c, M.protocol.run (.initial w) actions = some c ∧ d = c.map (EventSetPoint.program M) :=
  M.protocol_refines.lift (c := .initial w) h

end CRMEventSetManager

/-! ## A sample manager -/

namespace EventSetSample

def manager : CRMEventSetManager where
  env := {}
  isoDate := fun _ => "2024-03-15"

def redisDown : JsError where
  message := "connect ECONNREFUSED 127.0.0.1:6379"

def eventSet (eventSetId : String) : CRMEventSet where
  eventSetId := eventSetId
  name := "Salesforce CRM Events — 2024-03-15"
  advertiserId := "adv-001"
  createTime := 0
  updateTime := 0

def connectionLost : JsError where
  message := "socket hang up"

end EventSetSample
end SalesforceTikTok
