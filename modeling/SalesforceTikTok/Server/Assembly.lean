import SalesforceTikTok.Concurrency.Hosting
import SalesforceTikTok.Delivery.DedupWindow
import SalesforceTikTok.Server.Keyspace

/-!
# The components as the server uses them

The programs of the server are made of calls of the token store, of the event-set
manager, of the delivery path and of the listener. For each component: by which programs
of the server its commands are carried out, what of the stores and of the trace is its
own, and that the other commands leave this alone.
-/

namespace SalesforceTikTok

open Concurrency Storage
open TokenStore (stateKey)

/-! ## Keys that are not the component's -/

private theorem erase_absent {β : Type} {table : AList fun _ : String => β} {key : String}
    (absent : table.lookup key = none) : table.erase key = table := by
  apply AList.ext
  exact List.kerase_of_notMem_keys (AList.lookup_eq_none.mp absent)

def ServerCmd.Keyed : ServerCmd → Prop
  | .setState key _ _ | .getDelState key => ∃ state, key = stateKey state
  | _ => True

def TokenCmd.Prefixed : TokenCmd → Prop
  | .cacheSet key _ _ => ∃ advertiserId, key = TokenStore.cacheKey advertiserId
  | _ => True

theorem TokenCmd.Orderly.prefixed {cmd : TokenCmd} (h : cmd.Orderly) : cmd.Prefixed := by
  cases cmd with
  | cacheSet key value ttl => exact h
  | _ => trivial

/-- No key of an OAuth state among the copies of tokens. -/
def TokenWorld.Unstated (w : TokenWorld) : Prop := ∀ state, w.cache.lookup (stateKey state) = none

def EventSetWorld.Unstated (w : EventSetWorld) : Prop :=
  ∀ state, w.cache.lookup (stateKey state) = none

def DeliveryWorld.Unstated (w : DeliveryWorld) : Prop :=
  ∀ state, w.dedup.lookup (stateKey state) = none

private theorem tokenExec_unstated {cmd : TokenCmd} {choice : TokenChoice} {w v : TokenWorld}
    {reply : Except JsError cmd.Reply} (prefixed : cmd.Prefixed) (unstated : w.Unstated)
    (h : tokenExec cmd choice w = some (reply, v)) : v.Unstated := by
  rcases tokenExec_effect h with rfl | rfl
  · exact unstated
  · intro state
    cases cmd with
    | cacheSet key value ttl =>
        obtain ⟨a, rfl⟩ := prefixed
        exact (Expiring.lookup_set_ne (stateKey_ne_token state a) _ _).trans (unstated state)
    | cacheDel key =>
        by_cases same : stateKey state = key
        · subst same
          exact Expiring.lookup_del _ _
        · exact (AList.lookup_erase_ne same).trans (unstated state)
    | _ => exact unstated state

private theorem eventSetExec_unstated {cmd : EventSetCmd} {choice : EventSetChoice}
    {w v : EventSetWorld}
    {reply : Except JsError cmd.Reply} (orderly : cmd.Orderly) (unstated : w.Unstated)
    (h : eventSetExec cmd choice w = some (reply, v)) : v.Unstated := by
  intro state
  obtain ⟨_, _, cache⟩ | ⟨key, eventSetId, ttl, rfl, rfl⟩ | ⟨row, rfl, rfl⟩ := eventSetExec_effect h
  · rw [cache]
    exact unstated state
  · obtain ⟨a, rfl⟩ := orderly
    exact (Expiring.lookup_set_ne (stateKey_ne_eventSet state a) _ _).trans (unstated state)
  · exact unstated state

private theorem deliveryExec_unstated {env : Env} {worker : Bool} {cmd : DeliveryCmd}
    {choice : DeliveryChoice} {w v : DeliveryWorld} {reply : Except JsError cmd.Reply}
    (orderly : cmd.Orderly env worker) (unstated : w.Unstated)
    (h : deliveryExec env cmd choice w = some (reply, v)) : v.Unstated := by
  have kept {v : DeliveryWorld} (dedup : v.dedup = w.dedup) : v.Unstated := by
    intro state
    rw [dedup]
    exact unstated state
  cases cmd with
  | setNx key ttl =>
      obtain ⟨eventId, rfl⟩ := orderly
      have written : (w.setNx (DEDUP_KEY_PREFIX ++ eventId) ttl).2.Unstated := by
        obtain same | ⟨_, _, grown⟩ := w.setNx_dedup (DEDUP_KEY_PREFIX ++ eventId) ttl
        · exact kept same
        · intro state
          rw [grown, AList.lookup_insert_ne (stateKey_ne_dedup state eventId)]
          exact unstated state
      obtain ⟨_, same⟩ | ⟨_, _, ⟨_, rfl⟩ | ⟨_, rfl⟩⟩ := faulty_cases h
      · rw [same] at written
        exact written
      · exact unstated
      · exact written
  | insertLog eventId record =>
      obtain ⟨_, _, rfl⟩ | ⟨_, _, _, rfl | rfl⟩ := faulty_unit h <;> exact kept rfl
  | updateLog eventId status response error =>
      obtain ⟨_, _, rfl⟩ | ⟨_, _, _, rfl | rfl⟩ := faulty_unit h <;> exact kept rfl
  | addJob jobId data =>
      obtain ⟨_, same⟩ | ⟨_, _, ⟨_, rfl⟩ | ⟨_, rfl⟩⟩ := faulty_cases h
      · cases same
        exact kept (w.addJob_dedup jobId data)
      · exact unstated
      · exact kept (w.addJob_dedup jobId data)
  | takeJob jobId =>
      cases choice with
      | ok =>
          obtain ⟨⟨data, v'⟩, taken, same⟩ := Option.map_eq_some_iff.mp h
          cases same
          obtain ⟨job, _, _, rfl⟩ := DeliveryWorld.takeJob_spec taken
          exact kept rfl
      | _ => cases h
  | _ =>
      cases choice <;> cases h <;> exact kept rfl

/-! ## What the other commands leave alone -/

namespace ServerWorld

variable {w v : ServerWorld}

/-- The removal of a state leaves the copies of the tokens alone. -/
theorem redisDel_token (unstated : w.token.Unstated) (state : String) :
    (w.redisDel (stateKey state)).token = w.token := by
  have absent := erase_absent (unstated state)
  show { w.token with cache := w.token.cache.erase (stateKey state) } = w.token
  rw [absent]

private theorem redisDel_eventSet (unstated : w.eventSet.Unstated) (state : String) :
    (w.redisDel (stateKey state)).eventSet = w.eventSet := by
  have absent := erase_absent (unstated state)
  show { w.eventSet with cache := w.eventSet.cache.erase (stateKey state) } = w.eventSet
  rw [absent]

private theorem redisDel_delivery (unstated : w.delivery.Unstated) (state : String) :
    (w.redisDel (stateKey state)).delivery = w.delivery := by
  have absent := erase_absent (unstated state)
  show { w.delivery with dedup := w.delivery.dedup.erase (stateKey state) } = w.delivery
  rw [absent]

structure Unstated (w : ServerWorld) : Prop where
  token : w.token.Unstated
  eventSet : w.eventSet.Unstated
  delivery : w.delivery.Unstated

theorem unstated_fresh (clock : Int) : (ServerWorld.fresh clock).Unstated :=
  ⟨fun _ => rfl, fun _ => rfl, fun _ => rfl⟩

end ServerWorld

/-! ## Interfaces -/

def tokenPart : ServerRecord → Option TokenRecord
  | ⟨pid, .token cmd, .token choice, reply⟩ => some ⟨pid, cmd, choice, reply⟩
  | _ => none

def eventSetPart : ServerRecord → Option EventSetRecord
  | ⟨pid, .eventSet cmd, .eventSet choice, reply⟩ => some ⟨pid, cmd, choice, reply⟩
  | _ => none

def deliveryPart : ServerRecord → Option DeliveryRecord
  | ⟨pid, .delivery cmd, .delivery choice, reply⟩ => some ⟨pid, cmd, choice, reply⟩
  | _ => none

def listenerPart : ServerRecord → Option ListenerRecord
  | ⟨pid, .listener cmd, .listener choice, reply⟩ => some ⟨pid, cmd, choice, reply⟩
  | _ => none

namespace Server

variable (S : Server)

def tokens : Interface (serverRuntime S.env S.copyText) tokenRuntime where
  handler cmd := serve (.token cmd)
  alike w u := w.token = u ∧ u.Unstated
  foreign cmd := (∀ own, cmd ≠ .token own) ∧ cmd.Keyed
  asks := TokenCmd.Prefixed
  direct _ := true
  part := tokenPart

def eventSets : Interface (serverRuntime S.env S.copyText) eventSetRuntime where
  handler cmd := serve (.eventSet cmd)
  alike w u := w.eventSet = u ∧ u.Unstated
  foreign cmd := (∀ own, cmd ≠ .eventSet own) ∧ cmd.Keyed
  asks := EventSetCmd.Orderly
  direct _ := true
  part := eventSetPart

/-- The delivery path in the server. What the event-set manager answers it is the manager's
business. -/
def deliveries : Interface (serverRuntime S.env S.copyText) (deliveryRuntime S.env) where
  handler := S.delivery
  alike w u := w.delivery = u ∧ u.Unstated
  foreign cmd := (∀ own, cmd ≠ .delivery own) ∧ cmd.Keyed
  asks := DeliveryCmd.Orderly S.env true
  direct
    | .resolveEventSet _ => false
    | _ => true
  part := deliveryPart

/-- The listener in the server. How the pipeline handles an event is the pipeline's business. -/
def messages : Interface (serverRuntime S.env S.copyText) listenerRuntime where
  handler := S.listener
  alike w u := w.listener = u
  foreign cmd := ∀ own, cmd ≠ .listener own
  asks _ := True
  direct
    | .onEvent _ _ => false
    | _ => true
  part := listenerPart

variable {S}

/-! ## What is whose -/

@[simp] theorem foreign_token (cmd : TokenCmd) : S.eventSets.foreign (.token cmd) ∧
    S.deliveries.foreign (.token cmd) ∧ S.messages.foreign (.token cmd) := by
  simp [eventSets, deliveries, messages, ServerCmd.Keyed]

@[simp] theorem foreign_eventSet (cmd : EventSetCmd) : S.tokens.foreign (.eventSet cmd) ∧
    S.deliveries.foreign (.eventSet cmd) ∧ S.messages.foreign (.eventSet cmd) := by
  simp [tokens, deliveries, messages, ServerCmd.Keyed]

@[simp] theorem foreign_delivery (cmd : DeliveryCmd) : S.tokens.foreign (.delivery cmd) ∧
    S.eventSets.foreign (.delivery cmd) ∧ S.messages.foreign (.delivery cmd) := by
  simp [tokens, eventSets, messages, ServerCmd.Keyed]

@[simp] theorem foreign_listener (cmd : ListenerCmd) : S.tokens.foreign (.listener cmd) ∧
    S.eventSets.foreign (.listener cmd) ∧ S.deliveries.foreign (.listener cmd) := by
  simp [tokens, eventSets, deliveries, ServerCmd.Keyed]

/-! ## Commands that are carried out -/

theorem tokens_carries {cmd : TokenCmd} (prefixed : cmd.Prefixed) :
    S.tokens.Carries cmd (serve (.token cmd)) := by
  refine .here ⟨rfl, fun {choice w u reply v} alike he => ?_⟩
  obtain ⟨rfl, unstated⟩ := alike
  cases serverExec_effect he with
  | @token _ choice _ part answered =>
      refine ⟨reply, choice, part, ?_, answered, ⟨rfl, ?_⟩, fun pid => rfl⟩
      · cases reply <;> rfl
      · exact tokenExec_unstated prefixed unstated answered

theorem eventSets_carries {cmd : EventSetCmd} (orderly : cmd.Orderly) :
    S.eventSets.Carries cmd (serve (.eventSet cmd)) := by
  refine .here ⟨rfl, fun {choice w u reply v} alike he => ?_⟩
  obtain ⟨rfl, unstated⟩ := alike
  cases serverExec_effect he with
  | @eventSet _ choice _ part answered =>
      refine ⟨reply, choice, part, ?_, answered, ⟨rfl, ?_⟩, fun pid => rfl⟩
      · cases reply <;> rfl
      · exact eventSetExec_unstated orderly unstated answered

private theorem deliveries_does {cmd : DeliveryCmd} (direct : S.deliveries.direct cmd = true)
    (orderly : cmd.Orderly S.env true) : S.deliveries.Carries cmd (serve (.delivery cmd)) := by
  refine .here ⟨direct, fun {choice w u reply v} alike he => ?_⟩
  obtain ⟨rfl, unstated⟩ := alike
  cases serverExec_effect he with
  | @delivery _ choice _ part answered =>
      refine ⟨reply, choice, part, ?_, answered, ⟨rfl, ?_⟩, fun pid => rfl⟩
      · cases reply <;> rfl
      · exact deliveryExec_unstated orderly unstated answered

private theorem messages_does {cmd : ListenerCmd} (direct : S.messages.direct cmd = true) :
    S.messages.Carries cmd (serve (.listener cmd)) := by
  refine .here ⟨direct, fun {choice w u reply v} alike he => ?_⟩
  obtain rfl := alike
  cases serverExec_effect he with
  | @listener _ choice _ part answered =>
      refine ⟨reply, choice, part, ?_, answered, rfl, fun pid => rfl⟩
      cases reply <;> rfl

private theorem resolve_foreign (a : String) :
    (onEventSets (S.manager.resolve a)).Within S.deliveries.foreign fun _ => True :=
  (CRMEventSetManager.resolve_within S.manager a).handle fun _ _ =>
    .call (by simp)

/-- The pipeline is given an id, or an error, by the manager. -/
theorem deliveries_carries {cmd : DeliveryCmd} (orderly : cmd.Orderly S.env true) :
    S.deliveries.Carries cmd (S.delivery cmd) := by
  cases cmd with
  | resolveEventSet a =>
      refine S.deliveries.carries_of_within ((resolve_foreign a).imp (fun _ foreign => foreign) ?_)
      intro outcome _
      refine ⟨rfl, fun u => ?_⟩
      cases outcome with
      | ok eventSetId => exact ⟨.eventSet eventSetId, rfl⟩
      | error error => exact ⟨.fail error, rfl⟩
  | _ => exact deliveries_does rfl orderly

theorem onDeliveries_foreign {α : Type} (program : DeliveryProg α) :
    (S.onDeliveries program).Within S.messages.foreign fun _ => True := by
  refine (Prog.within_any program).handle fun cmd _ => ?_
  cases cmd with
  | resolveEventSet a =>
      exact (Prog.within_any _).handle fun _ _ => .call (by simp)
  | _ => exact .call (by simp)

theorem messages_carries (cmd : ListenerCmd) : S.messages.Carries cmd (S.listener cmd) := by
  cases cmd with
  | onEvent cdcEvent lead =>
      refine S.messages.carries_of_within
        ((onDeliveries_foreign _).imp (fun _ foreign => foreign) ?_)
      intro outcome _
      refine ⟨rfl, fun u => ?_⟩
      cases outcome with
      | ok _ => exact ⟨.completed, rfl⟩
      | error error => exact ⟨.fail error, rfl⟩
  | _ => exact messages_does rfl

/-! ## Commands of others -/

variable {cmd : ServerCmd} {choice : ServerChoice} {w v : ServerWorld}
  {reply : Except JsError cmd.Reply}

theorem tokens_foreign {u : TokenWorld} (foreign : S.tokens.foreign cmd)
    (alike : S.tokens.alike w u)
    (he : serverExec S.env S.copyText cmd choice w = some (reply, v)) : S.tokens.alike v u := by
  obtain ⟨rfl, unstated⟩ := alike
  obtain ⟨others, keyed⟩ := foreign
  refine ⟨?_, unstated⟩
  cases serverExec_effect he with
  | token => exact (others _ rfl).elim
  | setState effect | getDelState effect =>
      obtain ⟨state, rfl⟩ := keyed
      obtain rfl | rfl := effect
      · rfl
      · exact ServerWorld.redisDel_token unstated state
  | _ => rfl

theorem eventSets_foreign {u : EventSetWorld} (foreign : S.eventSets.foreign cmd)
    (alike : S.eventSets.alike w u)
    (he : serverExec S.env S.copyText cmd choice w = some (reply, v)) : S.eventSets.alike v u := by
  obtain ⟨rfl, unstated⟩ := alike
  obtain ⟨others, keyed⟩ := foreign
  refine ⟨?_, unstated⟩
  cases serverExec_effect he with
  | eventSet => exact (others _ rfl).elim
  | setState effect | getDelState effect =>
      obtain ⟨state, rfl⟩ := keyed
      obtain rfl | rfl := effect
      · rfl
      · exact ServerWorld.redisDel_eventSet unstated state
  | _ => rfl

theorem deliveries_foreign {u : DeliveryWorld} (foreign : S.deliveries.foreign cmd)
    (alike : S.deliveries.alike w u)
    (he : serverExec S.env S.copyText cmd choice w = some (reply, v)) : S.deliveries.alike v u := by
  obtain ⟨rfl, unstated⟩ := alike
  obtain ⟨others, keyed⟩ := foreign
  refine ⟨?_, unstated⟩
  cases serverExec_effect he with
  | delivery => exact (others _ rfl).elim
  | setState effect | getDelState effect =>
      obtain ⟨state, rfl⟩ := keyed
      obtain rfl | rfl := effect
      · rfl
      · exact ServerWorld.redisDel_delivery unstated state
  | _ => rfl

theorem messages_foreign {u : ListenerWorld} (foreign : S.messages.foreign cmd)
    (alike : S.messages.alike w u)
    (he : serverExec S.env S.copyText cmd choice w = some (reply, v)) : S.messages.alike v u := by
  obtain rfl := alike
  show v.listener = w.listener
  cases serverExec_effect he with
  | listener => exact (foreign _ rfl).elim
  | setState effect | getDelState effect => obtain rfl | rfl := effect <;> rfl
  | _ => rfl

end Server
end SalesforceTikTok
