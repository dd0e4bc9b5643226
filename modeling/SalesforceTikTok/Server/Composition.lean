import SalesforceTikTok.Server.Assembly
import SalesforceTikTok.Server.Ownership

/-!
# The server as the composition of its components

A run of the server contains, for each component, a run of the component by itself, on the
component's own stores: what the calls of the server do inside is what calls of the
component do, interleaved as they are, and nothing else touches these stores
(`Server.composed`). So whatever holds of all runs of a component holds of what the server
does with it.
-/

namespace SalesforceTikTok

open Concurrency
open TokenStore (stateKey)

/-! ## Which calls are made -/

def ServerCall.Tokens : ServerCall → TokenCall → Prop
  | .callback _, .exchangeAuthCode _ | .status, .refreshAll | .refreshAll, .refreshAll => True
  | .refresh a, .refreshAccessToken b | .revoke a, .revoke b | .provision a _, .getValidToken b
  | .listSets a, .getValidToken b | .createSet a _, .getValidToken b
  | .selectSet a _, .getValidToken b | .refreshOne a, .refreshOne b => b = a
  | _, _ => False

/-- The calls of the event-set manager that a call of the server makes. -/
def ServerCall.EventSets : ServerCall → EventSetCall → Prop
  | .provision a _, .provision b _ _ | .listSets a, .list b _ | .createSet a _, .create b _ _
  | .createSet a _, .select b _ _ | .selectSet a _, .select b _ _
  | .activeSet a, .resolve b => b = a
  | .message _, .resolve _ => True
  | _, _ => False

def ServerCall.Deliveries : ServerCall → DeliveryCall → Prop
  | .message rawMessage, .process cdcEvent _ => rawMessage.cdcEvent = some cdcEvent
  | .runJob jobId, .runJob jobId' => jobId' = jobId
  | _, _ => False

def ServerCall.Messages : ServerCall → RawMessage → Prop
  | .message rawMessage, rawMessage' => rawMessage' = rawMessage
  | _, _ => False

/-! ## Programs -/

def ServerCmd.IsRoute : ServerCmd → Prop
  | .randomState | .respond _ => True
  | .setState key _ _ | .getDelState key => ∃ state, key = stateKey state
  | _ => False

/-- A program made of what the routes ask and of calls of the token store and the event-set
manager. -/
inductive Server.Assembled (S : Server) (call : ServerCall) : {α : Type} → ServerProg α → Prop where
  | pure {α : Type} (value : α) : Assembled S call (pure value)
  | fail {α : Type} (error : JsError) : Assembled S call (.fail error : ServerProg α)
  | serve {cmd : ServerCmd} (own : cmd.IsRoute) : Assembled S call (serve cmd)
  | token {γ : Type} (entry : TokenCall) {f : γ → TokenResult} {q : TokenProg γ}
      (makes : call.Tokens entry) (launched : ∀ u, tokenSystem.launch entry u = some (f <$> q, u))
      (prefixed : q.Within TokenCmd.Prefixed fun _ => True) : Assembled S call (onTokens q)
  | eventSet {γ : Type} (entry : EventSetCall) {f : γ → EventSetResult} {q : EventSetProg γ}
      (makes : call.EventSets entry)
      (launched : ∀ u, S.manager.system.launch entry u = some (f <$> q, u))
      (orderly : q.Within EventSetCmd.Orderly fun _ => True) : Assembled S call (onEventSets q)
  | bind {α β : Type} {p : ServerProg α} {next : α → ServerProg β} (first : Assembled S call p)
      (later : ∀ value, Assembled S call (next value)) : Assembled S call (p >>= next)
  | catch {α : Type} {p : ServerProg α} {handler : JsError → ServerProg α}
      (first : Assembled S call p) (later : ∀ error, Assembled S call (handler error)) :
      Assembled S call (tryCatch p handler)

namespace Server

variable {S : Server} {call : ServerCall}

private theorem respond_assembled (response : HttpResponse) : S.Assembled call (respond response) :=
  .serve trivial

private theorem exchangeAuthCode_prefixed (authCode : String) :
    (TikTokOAuthClient.exchangeAuthCode authCode).Within TokenCmd.Prefixed fun _ => True :=
  .bind (.call trivial) fun response =>
    (TikTokOAuthClient.fromGrant_within response).imp (fun _ orderly => orderly.prefixed)
      fun _ _ => trivial

private theorem prefixed_of_orderly {α : Type} {q : TokenProg α}
    (h : q.Within TokenCmd.Orderly fun _ => True) : q.Within TokenCmd.Prefixed fun _ => True :=
  h.imp (fun _ orderly => orderly.prefixed) fun _ _ => trivial

private theorem getValidToken_assembled {a : String} (makes : call.Tokens (.getValidToken a)) :
    S.Assembled call (onTokens (TikTokOAuthClient.getValidToken a)) :=
  .token _ makes (fun _ => rfl) (prefixed_of_orderly (TikTokOAuthClient.getValidToken_within a))

private theorem initiate_assembled : S.Assembled call S.initiate := by
  refine .catch (.bind (.serve trivial) fun state => ?_) fun _ => respond_assembled _
  exact .bind (.serve ⟨state, rfl⟩) fun _ => respond_assembled _

private theorem callback_assembled (query : CallbackQuery) :
    S.Assembled (.callback query) (S.callback query) := by
  obtain ⟨_, response, same⟩ | ⟨authCode, state, _, same⟩ := S.callback_cases query
  · rw [same]
    exact respond_assembled response
  · rw [same]
    refine .bind ?_ fun stored => ?_
    · unfold TokenStore.getAndDeleteState
      split
      · exact .fail _
      · exact .bind (.serve ⟨_, rfl⟩) fun _ => .pure _
    · unfold verify
      split
      · exact respond_assembled _
      · split
        · exact respond_assembled _
        · refine .catch (.bind ?_ fun _ => respond_assembled _) fun _ => respond_assembled _
          exact .token (.exchangeAuthCode _) trivial (fun _ => rfl)
            (exchangeAuthCode_prefixed _)

private theorem provision_assembled (a : String) (body : RequestBody) :
    S.Assembled (.provision a body) (S.provision a body) := by
  refine .catch (.bind (getValidToken_assembled rfl) fun token => ?_) fun error => ?_
  · refine .bind ?_ fun _ => respond_assembled _
    exact .eventSet (.provision a token _) rfl (fun _ => rfl)
      (CRMEventSetManager.provision_within _ _ _ _)
  · split <;> exact respond_assembled _

private theorem createSet_assembled (a : String) (body : RequestBody) :
    S.Assembled (.createSet a body) (S.createSet a body) := by
  unfold createSet
  split
  · exact respond_assembled _
  · split
    · exact respond_assembled _
    · refine .catch (.bind (getValidToken_assembled rfl) fun token => ?_) fun _ =>
        respond_assembled _
      refine .bind (.eventSet (.create a token _) rfl (fun _ => rfl)
        (CRMEventSetManager.create_within _ _ _ _)) fun created => ?_
      refine .bind (.eventSet (.select a _ token) rfl (fun _ => rfl)
        (CRMEventSetManager.select_within _ _ _)) fun _ => respond_assembled _

private theorem selectSet_assembled (a : String) (body : RequestBody) :
    S.Assembled (.selectSet a body) (selectSet a body) := by
  unfold selectSet
  split
  · exact respond_assembled _
  · refine .catch (.bind (getValidToken_assembled rfl) fun token => ?_) fun error => ?_
    · exact .bind (.eventSet (.select a _ token) rfl (fun _ => rfl)
        (CRMEventSetManager.select_within _ _ _)) fun _ => respond_assembled _
    · split <;> exact respond_assembled _

private theorem program_assembled (lastReplayId : Int) (delivers : call.delivers = false)
    (task : ∀ a, call ≠ .refreshOne a) : S.Assembled call (S.program lastReplayId call) := by
  cases call with
  | initiate => exact initiate_assembled
  | callback query => exact callback_assembled query
  | status =>
      refine .catch (.bind (.token .refreshAll trivial (fun _ => rfl) (.call trivial))
        fun _ => respond_assembled _) fun _ => respond_assembled _
  | refresh a =>
      refine .catch (.bind ?_ fun _ => respond_assembled _) fun _ => respond_assembled _
      exact .token (.refreshAccessToken a) rfl (fun _ => rfl)
        (prefixed_of_orderly (TikTokOAuthClient.refreshAccessToken_within a))
  | revoke a =>
      refine .catch (.bind ?_ fun _ => respond_assembled _) fun _ => respond_assembled _
      exact .token (.revoke a) rfl (fun _ => rfl)
        (prefixed_of_orderly (TokenStore.revoke_within a))
  | provision a body => exact provision_assembled a body
  | listSets a =>
      refine .catch (.bind (getValidToken_assembled rfl) fun token => ?_) fun _ =>
        respond_assembled _
      exact .bind (.eventSet (.list a token) rfl (fun _ => rfl)
        (CRMEventSetManager.list_within _ _)) fun _ => respond_assembled _
  | createSet a body => exact createSet_assembled a body
  | selectSet a body => exact selectSet_assembled a body
  | activeSet a =>
      refine .catch (.bind ?_ fun _ => respond_assembled _) fun _ => respond_assembled _
      exact .eventSet (.resolve a) rfl (fun _ => rfl) (CRMEventSetManager.resolve_within _ a)
  | refreshAll =>
      exact .bind (.token .refreshAll trivial (fun _ => rfl) (.call trivial))
        fun _ => .pure _
  | refreshOne a => exact (task a rfl).elim
  | message rawMessage => cases delivers
  | runJob jobId => cases delivers

end Server

/-! ## What each component sees of the programs -/

theorem ServerCmd.IsRoute.keyed {cmd : ServerCmd} (h : cmd.IsRoute) : cmd.Keyed := by
  cases cmd with
  | setState key value ttl => exact h
  | getDelState key => exact h
  | _ => trivial

theorem ServerCmd.IsRoute.others {cmd : ServerCmd} (h : cmd.IsRoute) :
    (∀ own, cmd ≠ .token own) ∧ (∀ own, cmd ≠ .eventSet own) ∧ (∀ own, cmd ≠ .delivery own) ∧
      ∀ own, cmd ≠ .listener own := by
  refine ⟨?_, ?_, ?_, ?_⟩ <;>
  · rintro own rfl
    exact h

def DeliveryCmd.IsDirect : DeliveryCmd → Prop
  | .resolveEventSet _ => False
  | _ => True

theorem RetryQueue.runJob_direct (env : Env) (id : String) :
    (runJob env id).Within DeliveryCmd.IsDirect fun _ => True := by
  refine .bind (.call trivial) fun data => .bind ?_ fun succeeded => .call trivial
  refine .catch (.bind ?_ fun _ => trivial) (fun _ => trivial) fun _ => trivial
  exact TikTokAPIClient.sendEvents_within env data.payload trivial fun _ _ => trivial

def ListenerCmd.Hands (rawMessage : RawMessage) : ListenerCmd → Prop
  | .onEvent cdcEvent _ => rawMessage.cdcEvent = some cdcEvent
  | _ => True

namespace Server

variable {S : Server} {call : ServerCall} {P : ServerCmd → Prop}

private theorem onTokens_any {α : Type} (program : TokenProg α) (token : ∀ cmd, P (.token cmd)) :
    (onTokens program).Within P fun _ => True :=
  (Prog.within_any program).handle fun cmd _ => .call (token cmd)

theorem onEventSets_any {α : Type} (program : EventSetProg α)
    (eventSet : ∀ cmd, P (.eventSet cmd)) : (onEventSets program).Within P fun _ => True :=
  (Prog.within_any program).handle fun cmd _ => .call (eventSet cmd)

private theorem onDeliveries_any {α : Type} (program : DeliveryProg α)
    (eventSet : ∀ cmd, P (.eventSet cmd)) (delivery : ∀ cmd, P (.delivery cmd)) :
    (S.onDeliveries program).Within P fun _ => True := by
  refine (Prog.within_any program).handle fun cmd _ => ?_
  cases cmd with
  | resolveEventSet a => exact onEventSets_any _ eventSet
  | _ => exact .call (delivery _)

private theorem onMessages_any {α : Type} (program : ListenerProg α)
    (eventSet : ∀ cmd, P (.eventSet cmd))
    (delivery : ∀ cmd, P (.delivery cmd)) (listener : ∀ cmd, P (.listener cmd)) :
    (S.onMessages program).Within P fun _ => True := by
  refine (Prog.within_any program).handle fun cmd _ => ?_
  cases cmd with
  | onEvent cdcEvent lead => exact onDeliveries_any _ eventSet delivery
  | _ => exact .call (listener _)

theorem Assembled.within {α : Type} {p : ServerProg α} (h : S.Assembled call p)
    (token : ∀ cmd, P (.token cmd)) (eventSet : ∀ cmd, P (.eventSet cmd))
    (route : ∀ cmd, cmd.IsRoute → P cmd) : p.Within P fun _ => True := by
  induction h with
  | pure value => trivial
  | fail error => trivial
  | serve own => exact .call (route _ own)
  | token _ _ _ _ => exact onTokens_any _ token
  | eventSet _ _ _ _ => exact onEventSets_any _ eventSet
  | bind _ _ first later => exact .bind first later
  | «catch» _ _ first later => exact .catch first (fun _ => trivial) later

theorem Assembled.tokens {α : Type} {p : ServerProg α} (h : S.Assembled call p) :
    S.tokens.Hosts tokenSystem call.Tokens p := by
  induction h with
  | pure value => exact .pure value
  | fail error => exact .fail error
  | serve own => exact .foreign ⟨own.others.1, own.keyed⟩
  | token entry makes launched prefixed => exact .inner entry makes launched prefixed
  | eventSet _ _ _ _ =>
      exact .of_within (onEventSets_any _ fun cmd => by simp)
  | bind _ _ first later => exact first.bind later
  | «catch» _ _ first later => exact first.catch later

theorem Assembled.eventSets {α : Type} {p : ServerProg α} (h : S.Assembled call p) :
    S.eventSets.Hosts S.manager.system call.EventSets p := by
  induction h with
  | pure value => exact .pure value
  | fail error => exact .fail error
  | serve own => exact .foreign ⟨own.others.2.1, own.keyed⟩
  | token _ _ _ _ =>
      exact .of_within (onTokens_any _ fun cmd => by simp)
  | eventSet entry makes launched orderly => exact .inner entry makes launched orderly
  | bind _ _ first later => exact first.bind later
  | «catch» _ _ first later => exact first.catch later

private theorem fetchLead_hands (rawMessage : RawMessage) (leadId : String) (attempts : Nat) :
    (SalesforceCDCListener.fetchLead leadId attempts).Within (ListenerCmd.Hands rawMessage)
      fun _ => True := by
  induction attempts with
  | zero => trivial
  | succ remaining ih =>
      refine .catch (.call trivial) (fun _ => trivial) fun err => ?_
      split
      · exact .bind (.call trivial) fun _ => ih
      · trivial

private theorem handleRawMessage_hands (rawMessage : RawMessage) (lastReplayId : Int) :
    (SalesforceCDCListener.handleRawMessage rawMessage lastReplayId).2.Within
      (ListenerCmd.Hands rawMessage) fun _ => True := by
  unfold SalesforceCDCListener.handleRawMessage
  split
  · trivial
  next cdcEvent found =>
    unfold SalesforceCDCListener.handleRecord
    split
    · trivial
    · refine .catch (.bind (fetchLead_hands rawMessage _ _) fun lead => ?_) (fun _ => trivial)
        fun _ => trivial
      cases lead with
      | none => trivial
      | some lead => exact .call found

private theorem message_eventSets {rawMessage : RawMessage} (program : ListenerProg Unit) :
    S.eventSets.Hosts S.manager.system (ServerCall.message rawMessage).EventSets
      (S.onMessages program) := by
  refine .handle (Prog.within_any program) fun cmd _ => ?_
  cases cmd with
  | onEvent cdcEvent lead =>
      refine .handle (Prog.within_any _) fun cmd _ => ?_
      cases cmd with
      | resolveEventSet a =>
          have makes : (ServerCall.message rawMessage).EventSets (.resolve a) := trivial
          exact .inner _ makes (fun _ => rfl) (CRMEventSetManager.resolve_within _ a)
      | _ => exact .foreign (by simp)
  | _ => exact .foreign (by simp)

private theorem message_deliveries {rawMessage : RawMessage} (lastReplayId : Int) :
    S.deliveries.Hosts S.pipeline.system (ServerCall.message rawMessage).Deliveries
      (S.onMessages (SalesforceCDCListener.handleRawMessage rawMessage lastReplayId).2) := by
  refine .handle (handleRawMessage_hands rawMessage lastReplayId) fun cmd hands => ?_
  cases cmd with
  | onEvent cdcEvent lead =>
      have makes : (ServerCall.message rawMessage).Deliveries (.process cdcEvent lead) := hands
      have launched (u : DeliveryWorld) : S.pipeline.system.launch (.process cdcEvent lead) u =
          some (id <$> S.pipeline.process cdcEvent lead, u) := by
        rw [Prog.map_id]
        rfl
      refine .inner _ makes launched ((S.pipeline.process_within cdcEvent lead).imp ?_ fun _ _ =>
        trivial)
      intro cmd orderly
      cases cmd with
      | takeJob jobId => cases orderly
      | _ => exact orderly
  | _ => exact .foreign (by simp)

private theorem runJob_deliveries (jobId : String) :
    S.deliveries.Hosts S.pipeline.system (ServerCall.runJob jobId).Deliveries
      (S.onDeliveries (RetryQueue.runJob S.env jobId)) := by
  have launched (u : DeliveryWorld) : S.pipeline.system.launch (.runJob jobId) u =
      some (id <$> RetryQueue.runJob S.env jobId, u) := by
    rw [Prog.map_id]
    rfl
  have makes : (ServerCall.runJob jobId).Deliveries (.runJob jobId) := rfl
  exact .inner _ makes launched (RetryQueue.runJob_within S.env jobId)

/-! ## Embeddings -/

/-- What a start changes of the stores, and the program that starts. -/
theorem launch_cases {call : ServerCall} {w v : ServerWorld} {x : ServerProg Unit}
    (h : S.system.launch call w = some (x, v)) :
    x = S.program w.listener.lastReplayId call ∧ enter call w = some v := by
  obtain ⟨v', entered, same⟩ := Option.map_eq_some_iff.mp h
  cases same
  exact ⟨rfl, entered⟩

/-- A start leaves the event sets and the deliveries alone. -/
theorem enter_kept {w v : ServerWorld} (h : enter call w = some v) :
    v.eventSet = w.eventSet ∧ v.delivery = w.delivery := by
  cases call with
  | message rawMessage =>
      cases h
      exact ⟨rfl, rfl⟩
  | refreshOne a =>
      obtain ⟨token, _, rfl⟩ := Option.map_eq_some_iff.mp h
      exact ⟨rfl, rfl⟩
  | _ =>
      cases h
      exact ⟨rfl, rfl⟩

/-- Only a task of the refresher takes something from the token store when it starts. -/
theorem enter_token {w v : ServerWorld} (h : enter call w = some v)
    (task : ∀ a, call ≠ .refreshOne a) : v.token = w.token := by
  cases call with
  | message rawMessage =>
      cases h
      rfl
  | refreshOne a => exact (task a rfl).elim
  | _ =>
      cases h
      rfl

private theorem enter_listener {w v : ServerWorld} (h : enter call w = some v)
    (message : ∀ rawMessage, call ≠ .message rawMessage) : v.listener = w.listener := by
  cases call with
  | message rawMessage => exact (message rawMessage rfl).elim
  | refreshOne a =>
      obtain ⟨token, _, rfl⟩ := Option.map_eq_some_iff.mp h
      rfl
  | _ =>
      cases h
      rfl

private theorem program_tokens (lastReplayId : Int) (task : ∀ a, call ≠ .refreshOne a) :
    S.tokens.Hosts tokenSystem call.Tokens (S.program lastReplayId call) := by
  have foreign (cmd : ServerCmd) (other : ∀ own, cmd ≠ .token own) (keyed : cmd.Keyed) :
      S.tokens.foreign cmd := ⟨other, keyed⟩
  cases delivers : call.delivers with
  | false => exact (program_assembled lastReplayId delivers task).tokens
  | true =>
      cases call with
      | message rawMessage =>
          exact .of_within (onMessages_any _ (by simp) (by simp) (by simp))
      | runJob jobId =>
          exact .of_within (onDeliveries_any _ (by simp) (by simp))
      | _ => cases delivers

private theorem program_eventSets (lastReplayId : Int) :
    S.eventSets.Hosts S.manager.system call.EventSets (S.program lastReplayId call) := by
  cases delivers : call.delivers with
  | false =>
      by_cases task : ∃ a, call = .refreshOne a
      · obtain ⟨a, rfl⟩ := task
        exact .of_within (onTokens_any _ fun cmd => by simp)
      · refine (program_assembled lastReplayId delivers fun a same => ?_).eventSets
        exact task ⟨a, same⟩
  | true =>
      cases call with
      | message rawMessage => exact message_eventSets _
      | runJob jobId =>
          refine .handle (RetryQueue.runJob_direct S.env jobId) fun cmd direct => ?_
          cases cmd with
          | resolveEventSet a => exact direct.elim
          | _ => exact .foreign (by simp)
      | _ => cases delivers

private theorem program_deliveries (lastReplayId : Int) :
    S.deliveries.Hosts S.pipeline.system call.Deliveries (S.program lastReplayId call) := by
  cases delivers : call.delivers with
  | false =>
      by_cases task : ∃ a, call = .refreshOne a
      · obtain ⟨a, rfl⟩ := task
        exact .of_within (onTokens_any _ fun cmd => by simp)
      · refine .of_within ((program_assembled lastReplayId delivers
          fun a same => task ⟨a, same⟩).within ?_ ?_ fun cmd route => ?_)
        · simp
        · simp
        · exact ⟨route.others.2.2.1, route.keyed⟩
  | true =>
      cases call with
      | message rawMessage => exact message_deliveries lastReplayId
      | runJob jobId => exact runJob_deliveries jobId
      | _ => cases delivers

private theorem program_messages (lastReplayId : Int)
    (message : ∀ rawMessage, call ≠ .message rawMessage) :
    S.messages.Hosts SalesforceCDCListener.system call.Messages
      (S.program lastReplayId call) := by
  cases delivers : call.delivers with
  | false =>
      by_cases task : ∃ a, call = .refreshOne a
      · obtain ⟨a, rfl⟩ := task
        exact .of_within (onTokens_any _ fun cmd => by simp)
      · refine .of_within ((program_assembled lastReplayId delivers
          fun a same => task ⟨a, same⟩).within ?_ ?_ fun cmd route => route.others.2.2.2)
        · simp
        · simp
  | true =>
      cases call with
      | message rawMessage => exact (message rawMessage rfl).elim
      | runJob jobId => exact .of_within (onDeliveries_foreign _)
      | _ => cases delivers

theorem tokens_embeds : S.tokens.Embeds S.system tokenSystem ServerCall.Tokens where
  view := rfl
  view' := rfl
  carries := tokens_carries
  foreign := tokens_foreign
  unnoted {pid cmd choice reply} foreign := by
    cases cmd with
    | token cmd => exact (foreign.1 cmd rfl).elim
    | _ => rfl
  launched {call w u x v} alike hl := by
    obtain ⟨rfl, entered⟩ := launch_cases hl
    obtain ⟨rfl, unstated⟩ := alike
    by_cases task : ∃ a, call = .refreshOne a
    · obtain ⟨a, rfl⟩ := task
      obtain ⟨token, he, rfl⟩ := Option.map_eq_some_iff.mp entered
      refine .inr ⟨Unit, fun _ => .done, ProactiveRefresher.refreshOne a, .settled, .refreshOne a,
        token, rfl, ?_, ⟨rfl, ?_⟩, ?_, .settled, ?_⟩
      · simp only [tokenSystem, he, Option.map_some]
        rfl
      · simp only [TokenCall.enter] at he
        split at he <;> cases he
        exact unstated
      · exact (ProactiveRefresher.refreshOne_within a).imp (fun _ orderly => orderly.prefixed)
          fun _ _ => trivial
      · exact (Prog.attempt_bind_settled _).symm
    · have plain : ∀ a, call ≠ .refreshOne a := fun a same => task ⟨a, same⟩
      exact .inl ⟨⟨enter_token entered plain, unstated⟩, program_tokens _ plain⟩
  moved {event w u v} alike he := by
    obtain ⟨rfl, unstated⟩ := alike
    cases event with
    | tick elapsed =>
        cases he
        exact .inr ⟨.tick elapsed, _, rfl, rfl, unstated⟩
    | evict jobId =>
        obtain ⟨delivery, _, rfl⟩ := Option.map_eq_some_iff.mp he
        exact .inl ⟨rfl, unstated⟩

private theorem eventSets_embeds :
    S.eventSets.Embeds S.system S.manager.system ServerCall.EventSets where
  view := rfl
  view' := rfl
  carries := eventSets_carries
  foreign := eventSets_foreign
  unnoted {pid cmd choice reply} foreign := by
    cases cmd with
    | eventSet cmd => exact (foreign.1 cmd rfl).elim
    | _ => rfl
  launched {call w u x v} alike hl := by
    obtain ⟨rfl, entered⟩ := launch_cases hl
    obtain ⟨rfl, unstated⟩ := alike
    exact .inl ⟨⟨(enter_kept entered).1, unstated⟩, program_eventSets _⟩
  moved {event w u v} alike he := by
    obtain ⟨rfl, unstated⟩ := alike
    cases event with
    | tick elapsed =>
        cases he
        exact .inr ⟨.tick elapsed, _, rfl, rfl, unstated⟩
    | evict jobId =>
        obtain ⟨delivery, _, rfl⟩ := Option.map_eq_some_iff.mp he
        exact .inl ⟨rfl, unstated⟩

theorem deliveries_embeds :
    S.deliveries.Embeds S.system S.pipeline.system ServerCall.Deliveries where
  view := rfl
  view' := rfl
  carries := deliveries_carries
  foreign := deliveries_foreign
  unnoted {pid cmd choice reply} foreign := by
    cases cmd with
    | delivery cmd => exact (foreign.1 cmd rfl).elim
    | _ => rfl
  launched {call w u x v} alike hl := by
    obtain ⟨rfl, entered⟩ := launch_cases hl
    obtain ⟨rfl, unstated⟩ := alike
    exact .inl ⟨⟨(enter_kept entered).2, unstated⟩, program_deliveries _⟩
  moved {event w u v} alike he := by
    obtain ⟨rfl, unstated⟩ := alike
    cases event with
    | tick elapsed =>
        cases he
        exact .inr ⟨.tick elapsed, _, rfl, rfl, unstated⟩
    | evict jobId =>
        obtain ⟨delivery, evicted, rfl⟩ := Option.map_eq_some_iff.mp he
        refine .inr ⟨.evict jobId, delivery, evicted, rfl, ?_⟩
        obtain ⟨elapsed, rfl⟩ | ⟨_, _, _, _, rfl⟩ := deliveryEnv_spec evicted
        · exact unstated
        · exact unstated

private theorem messages_embeds :
    S.messages.Embeds S.system SalesforceCDCListener.system ServerCall.Messages where
  view := rfl
  view' := rfl
  carries _ := messages_carries _
  foreign := messages_foreign
  unnoted {pid cmd choice reply} foreign := by
    cases cmd with
    | listener cmd => exact (foreign cmd rfl).elim
    | _ => rfl
  launched {call w u x v} alike hl := by
    obtain ⟨rfl, entered⟩ := launch_cases hl
    obtain rfl := alike
    by_cases message : ∃ rawMessage, call = .message rawMessage
    · obtain ⟨rawMessage, rfl⟩ := message
      cases entered
      refine .inr ⟨Unit, id, (SalesforceCDCListener.handleRawMessage rawMessage
        w.listener.lastReplayId).2, .settled, rawMessage,
        ⟨(SalesforceCDCListener.handleRawMessage rawMessage w.listener.lastReplayId).1⟩, rfl, ?_,
        rfl, Prog.within_any _, .settled, ?_⟩
      · rw [Prog.map_id]
        rfl
      · exact (Prog.attempt_bind_settled _).symm
    · have other : ∀ rawMessage, call ≠ .message rawMessage :=
        fun rawMessage same => message ⟨rawMessage, same⟩
      exact .inl ⟨enter_listener entered other, program_messages _ other⟩
  moved {event w u v} alike he := by
    obtain rfl := alike
    cases event with
    | tick elapsed =>
        cases he
        exact .inl rfl
    | evict jobId =>
        obtain ⟨delivery, _, rfl⟩ := Option.map_eq_some_iff.mp he
        exact .inl rfl

/-! ## Runs -/

/-- A run of the server contains a run of each component, from the component's own stores, in
which every call was made in a call of the server that makes such calls. -/
theorem composed {S : Server} {w : ServerWorld} (unstated : w.Unstated)
    {actions : List ServerAction} {c : ServerConfig}
    (h : S.system.run (.initial w) actions = some c) :
    (∃ d owners, S.tokens.Part tokenSystem ServerCall.Tokens w.token c d owners) ∧
    (∃ d owners,
      S.eventSets.Part S.manager.system ServerCall.EventSets w.eventSet c d owners) ∧
    (∃ d owners,
      S.deliveries.Part S.pipeline.system ServerCall.Deliveries w.delivery c d owners) ∧
    ∃ d owners,
      S.messages.Part SalesforceCDCListener.system ServerCall.Messages w.listener c d owners := by
  refine ⟨?_, ?_, ?_, ?_⟩
  · exact Interface.run_hosted tokens_embeds ⟨rfl, unstated.token⟩ h
  · exact Interface.run_hosted eventSets_embeds ⟨rfl, unstated.eventSet⟩ h
  · exact Interface.run_hosted deliveries_embeds ⟨rfl, unstated.delivery⟩ h
  · exact Interface.run_hosted messages_embeds rfl h

end Server

open ServerSample in
/-- The manager's own run has the set that the authorised advertiser created. -/
theorem composed_created :
    ∃ d taken, server.manager.system.run (.initial (.fresh 0)) taken = some d ∧
      d.world.selectId "adv-001" = some "set-1" := by
  have created : (after creating (by decide)).world.eventSet.selectId "adv-001" =
      some "set-1" := by decide
  have run : server.system.run (.initial (.fresh 0)) creating =
      some (after creating (by decide)) := System.run_result _
  obtain ⟨-, ⟨d, owners, part⟩, -, -⟩ := server.composed (ServerWorld.unstated_fresh 0) run
  obtain ⟨taken, reached⟩ := part.reached
  refine ⟨d, taken, reached, ?_⟩
  rw [← part.world.1]
  exact created

end SalesforceTikTok
