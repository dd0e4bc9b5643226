import SalesforceTikTok.Server.Routes

/-!
# What the components ask

For every component the commands it may await, whatever it is answered: under
which keys it writes to Redis, who posts an authorization code, and with which
token an event is posted.
-/

namespace SalesforceTikTok

open Concurrency

/-! ## Tokens -/

/-- Copies are written under the keys of advertisers; codes are posted by the exchange only. -/
def TokenCmd.Orderly : TokenCmd → Prop
  | .cacheSet key _ _ => ∃ advertiserId, key = TokenStore.cacheKey advertiserId
  | .postExchange _ => False
  | _ => True

namespace TokenStore

private theorem cacheToken_within (token : StoredToken) :
    (cacheToken token).Within TokenCmd.Orderly fun _ => True :=
  .catch (.call ⟨_, rfl⟩) (fun _ => trivial) fun _ => trivial

private theorem upsert_within (params : StoredToken) :
    (upsert params).Within TokenCmd.Orderly fun _ => True :=
  .bind (.call trivial) fun token => .bind (cacheToken_within token) fun _ => trivial

private theorem getFromCache_within (a : String) :
    (getFromCache a).Within TokenCmd.Orderly fun _ => True := by
  refine .catch (.bind (.call trivial) fun raw => ?_) (fun _ => trivial) fun _ => trivial
  cases raw with
  | none => trivial
  | some token =>
      refine .bind (.call trivial) fun now => ?_
      split
      · exact .bind (.call trivial) fun _ => trivial
      · trivial

private theorem getActiveToken_within (a : String) :
    (getActiveToken a).Within TokenCmd.Orderly fun _ => True := by
  refine .bind (getFromCache_within a) fun cached => ?_
  cases cached with
  | some cached => trivial
  | none =>
      refine .bind (.call trivial) fun found => ?_
      cases found with
      | none => trivial
      | some token =>
          refine .bind (.call trivial) fun now => ?_
          dsimp only
          split
          · exact .bind (cacheToken_within token) fun _ => trivial
          · trivial

theorem revoke_within (a : String) : (revoke a).Within TokenCmd.Orderly fun _ => True :=
  .bind (.call trivial) fun _ => .call trivial

end TokenStore

namespace TikTokOAuthClient

private theorem assertSuccess_within (code : Int) (message context : String) :
    (assertSuccess code message context).Within TokenCmd.Orderly fun _ => True := by
  unfold assertSuccess
  split <;> trivial

private theorem storeGrant_within (data : TokenData) (now : Int) (advertiserIds : List String)
    (stored : List StoredToken) :
    (storeGrant data now advertiserIds stored).Within TokenCmd.Orderly fun _ => True := by
  induction advertiserIds generalizing stored with
  | nil => trivial
  | cons a rest ih => exact .bind (TokenStore.upsert_within _) fun token => ih _

theorem fromGrant_within (response : TikTokTokenResponse) :
    (do
      assertSuccess response.code response.message "Token exchange"
      let now : Int ← authorize .now
      storeGrant response.data now response.advertiserIds []).Within TokenCmd.Orderly
      fun _ => True :=
  .bind (assertSuccess_within _ _ _) fun _ =>
    .bind (.call trivial) fun _ => storeGrant_within _ _ _ _

theorem refreshAccessToken_within (a : String) :
    (refreshAccessToken a).Within TokenCmd.Orderly fun _ => True := by
  refine .bind (.call trivial) fun found => ?_
  cases found with
  | none => trivial
  | some stored =>
      refine .bind (.call trivial) fun now => ?_
      split
      · trivial
      · exact .bind (.call trivial) fun response => .bind (assertSuccess_within _ _ _) fun _ =>
          TokenStore.upsert_within _

theorem getValidToken_within (a : String) :
    (getValidToken a).Within TokenCmd.Orderly fun _ => True := by
  refine .bind (TokenStore.getActiveToken_within a) fun active => ?_
  cases active with
  | none => trivial
  | some active =>
      refine .bind (.call trivial) fun now => ?_
      split
      · exact .bind (refreshAccessToken_within a) fun _ => trivial
      · trivial

end TikTokOAuthClient

theorem ProactiveRefresher.refreshOne_within (a : String) :
    (refreshOne a).Within TokenCmd.Orderly fun outcome => outcome = .ok () := by
  refine .catch (.bind (TokenStore.getActiveToken_within a) fun active => ?_) (fun _ => rfl)
    fun _ => rfl
  cases active with
  | none => trivial
  | some active =>
      refine .bind (.call trivial) fun now => ?_
      split
      · trivial
      · exact .bind (TikTokOAuthClient.refreshAccessToken_within a) fun _ => trivial

/-! ## Event sets -/

def EventSetCmd.Orderly : EventSetCmd → Prop
  | .cacheSet key _ _ => ∃ advertiserId, key = CRMEventSetManager.cacheKey advertiserId
  | _ => True

namespace CRMEventSetManager

private theorem assertSuccess_within (code : Int) (message context : String) :
    (assertSuccess code message context).Within EventSetCmd.Orderly fun _ => True := by
  unfold assertSuccess
  split <;> trivial

theorem list_within (a accessToken : String) :
    (list a accessToken).Within EventSetCmd.Orderly fun _ => True :=
  .bind (.call trivial) fun _ => .bind (assertSuccess_within _ _ _) fun _ => trivial

private theorem createNamed_within (a accessToken name : String) :
    (createNamed a accessToken name).Within EventSetCmd.Orderly fun _ => True :=
  .bind (.call trivial) fun _ => .bind (assertSuccess_within _ _ _) fun _ =>
    .bind (.call trivial) fun _ => .bind (.call trivial) fun _ => trivial

theorem create_within (M : CRMEventSetManager) (a accessToken : String) (name : Option String) :
    (M.create a accessToken name).Within EventSetCmd.Orderly fun _ => True := by
  cases name with
  | none => exact .bind (.call trivial) fun _ => createNamed_within _ _ _
  | some name => exact createNamed_within _ _ _

private theorem warmCache_within (a eventSetId : String) :
    (warmCache a eventSetId).Within EventSetCmd.Orderly fun _ => True :=
  .catch (.call ⟨_, rfl⟩) (fun _ => trivial) fun _ => trivial

private theorem store_within (a : String) (eventSet : CRMEventSet) (source : EventSetSource) :
    (store a eventSet source).Within EventSetCmd.Orderly fun _ => True :=
  .bind (.call trivial) fun _ => warmCache_within _ _

theorem provision_within (M : CRMEventSetManager) (a accessToken : String)
    (eventSetName : Option String) :
    (M.provision a accessToken eventSetName).Within EventSetCmd.Orderly fun _ => True := by
  refine .catch (.bind (list_within a accessToken) fun existing => ?_) (fun _ => trivial)
    fun _ => trivial
  match existing with
  | [] =>
      exact .bind (create_within M _ _ _) fun _ => .bind (store_within _ _ _) fun _ => trivial
  | [eventSet] => exact .bind (store_within _ _ _) fun _ => trivial
  | _ :: _ :: _ => trivial

theorem select_within (a eventSetId accessToken : String) :
    (select a eventSetId accessToken).Within EventSetCmd.Orderly fun _ => True := by
  refine .bind (list_within a accessToken) fun sets => ?_
  split
  · trivial
  · exact .bind (store_within _ _ _) fun _ => trivial

private theorem fromCache_within (a : String) :
    (fromCache a).Within EventSetCmd.Orderly fun _ => True := by
  refine .catch (.bind (.call trivial) fun cached => ?_) (fun _ => trivial) fun _ => trivial
  split <;> trivial

private theorem fallback_within (M : CRMEventSetManager) (a : String) :
    (M.fallback a).Within EventSetCmd.Orderly fun _ => True := by
  unfold fallback
  split
  · split <;> trivial
  · trivial

theorem resolve_within (M : CRMEventSetManager) (a : String) :
    (M.resolve a).Within EventSetCmd.Orderly fun _ => True := by
  refine .bind (fromCache_within a) fun cached => ?_
  cases cached with
  | some cached => trivial
  | none =>
      refine .bind (.call trivial) fun row => ?_
      cases row with
      | some id => exact .bind (warmCache_within _ _) fun _ => trivial
      | none => exact fallback_within M a

end CRMEventSetManager

/-! ## Deliveries -/

/-- Events are posted with the static token, and deduplicated under keys of their own; only
a worker picks jobs. -/
def DeliveryCmd.Orderly (env : Env) (worker : Bool) : DeliveryCmd → Prop
  | .setNx key _ => ∃ eventId, key = DEDUP_KEY_PREFIX ++ eventId
  | .postEvents _ accessToken => TikTokAPIClient.staticToken env = .ok accessToken
  | .takeJob _ => worker = true
  | _ => True

/-- `sendEvents` asks for a slot and posts the payload it was given. -/
theorem TikTokAPIClient.sendEvents_within {P : DeliveryCmd → Prop} (env : Env)
    (payload : TikTokEventsPayload) (acquire : P (.acquire payload))
    (post : ∀ token, staticToken env = .ok token → P (.postEvents payload token)) :
    (sendEvents env payload).Within P fun _ => True := by
  refine .bind (.call acquire) fun _ => ?_
  unfold resolveToken
  split
  next token static =>
    show Prog.Within _ _ (deliver (.postEvents payload token) >>= _)
    refine .bind (.call (post token static)) fun result => ?_
    split <;> trivial
  next => trivial

/-- The payload that `process` builds for the message and the lead. -/
def Pipeline.Builds (P : Pipeline) (cdcEvent : SalesforceCDCEvent) (lead : SalesforceLead)
    (payload : TikTokEventsPayload) : Prop :=
  ∃ eventName eventSetId eventTime, EventFilter.accepted P.platform cdcEvent = some eventName ∧
    payload = TikTokEventBuilder.buildPayload P.platform P.env
      [P.canonicalEvent lead eventName eventTime] eventSetId

/-- What `process` may ask for the message and the lead. -/
inductive Pipeline.Awaited (P : Pipeline) (cdcEvent : SalesforceCDCEvent) (lead : SalesforceLead) :
    DeliveryCmd → Prop where
  | now : Awaited P cdcEvent lead .now
  | resolveEventSet (advertiserId) : Awaited P cdcEvent lead (.resolveEventSet advertiserId)
  | setNx (eventId ttl) : Awaited P cdcEvent lead (.setNx (DEDUP_KEY_PREFIX ++ eventId) ttl)
  | insertLog (eventId record) : Awaited P cdcEvent lead (.insertLog eventId record)
  | updateLog (eventId status response error) :
      Awaited P cdcEvent lead (.updateLog eventId status response error)
  | acquire (payload) : Awaited P cdcEvent lead (.acquire payload)
  | postEvents {payload accessToken} (built : P.Builds cdcEvent lead payload)
      (static : TikTokAPIClient.staticToken P.env = .ok accessToken) :
      Awaited P cdcEvent lead (.postEvents payload accessToken)
  | addJob {payload} (built : P.Builds cdcEvent lead payload) :
      Awaited P cdcEvent lead (.addJob (RetryQueue.jobId payload) (RetryQueue.jobData payload))

namespace Pipeline

variable (P : Pipeline) (cdcEvent : SalesforceCDCEvent) (lead : SalesforceLead)

private theorem resolveEventSetId_within (campaignId : Option String) :
    (P.resolveEventSetId campaignId).Within (P.Awaited cdcEvent lead) fun _ => True := by
  cases campaignId with
  | none => trivial
  | some advertiserId =>
      simp only [resolveEventSetId]
      split
      · trivial
      · exact .catch (.bind (.call (.resolveEventSet _)) fun _ => trivial) (fun _ => trivial)
          fun _ => trivial

private theorem eventTime_within (commitTimestamp : Option String) :
    (P.eventTime commitTimestamp).Within (P.Awaited cdcEvent lead) fun _ => True := by
  cases commitTimestamp with
  | none => exact .bind (.call .now) fun _ => trivial
  | some text =>
      simp only [eventTime]
      split
      · exact .bind (.call .now) fun _ => trivial
      · trivial

private theorem isDuplicate_within (eventId : String) :
    (EventDeduplicator.isDuplicate P.env eventId).Within (P.Awaited cdcEvent lead) fun _ => True :=
  .catch (.bind (.call (.setNx _ _)) fun _ => trivial) (fun _ => trivial) fun _ => trivial

theorem process_awaited :
    (P.process cdcEvent lead).Within (P.Awaited cdcEvent lead) fun _ => True := by
  unfold process
  split
  next => trivial
  next eventName accepted =>
    refine .bind (P.resolveEventSetId_within cdcEvent lead _) fun eventSetId => ?_
    refine .bind (P.eventTime_within cdcEvent lead _) fun eventTime => ?_
    refine .bind (P.isDuplicate_within cdcEvent lead _) fun isDuplicate => ?_
    split
    · exact .call (.insertLog _ _)
    · have built : P.Builds cdcEvent lead (TikTokEventBuilder.buildPayload P.platform P.env
          [P.canonicalEvent lead eventName eventTime] eventSetId) := ⟨_, _, _, accepted, rfl⟩
      refine .bind (.call (.insertLog _ _)) fun _ => .catch ?_ (fun _ => trivial) fun error => ?_
      · refine .bind ?_ fun _ => .call (.updateLog _ _ _ _)
        exact TikTokAPIClient.sendEvents_within P.env _ (.acquire _) fun _ => .postEvents built
      · exact .bind (.call (.updateLog _ _ _ _)) fun _ => .bind (.call (.addJob built)) fun _ =>
          trivial

theorem process_within :
    (P.process cdcEvent lead).Within (DeliveryCmd.Orderly P.env false) fun _ => True := by
  refine (P.process_awaited cdcEvent lead).imp (fun cmd asked => ?_) fun _ _ => trivial
  cases asked with
  | setNx eventId ttl => exact ⟨eventId, rfl⟩
  | postEvents built static => exact static
  | _ => trivial

end Pipeline

theorem RetryQueue.runJob_within (env : Env) (id : String) :
    (runJob env id).Within (DeliveryCmd.Orderly env true) fun _ => True := by
  refine .bind (.call rfl) fun data => .bind ?_ fun succeeded => .call trivial
  refine .catch (.bind ?_ fun _ => trivial) (fun _ => trivial) fun _ => trivial
  exact TikTokAPIClient.sendEvents_within env data.payload trivial fun _ static => static

/-! ## Messages -/

theorem SalesforceCDCListener.handleRawMessage_within (rawMessage : RawMessage)
    (lastReplayId : Int) :
    (handleRawMessage rawMessage lastReplayId).2.Within (fun _ => True) fun outcome =>
      outcome = .ok () := by
  unfold handleRawMessage
  split
  · exact rfl
  · unfold handleRecord
    split
    · exact rfl
    · exact .catch (Prog.within_any _) (fun _ => rfl) fun _ => rfl

/-! ## Inside the server -/

def ServerCmd.Component (env : Env) (worker : Bool) : ServerCmd → Prop
  | .token cmd => cmd.Orderly
  | .eventSet cmd => cmd.Orderly
  | .delivery cmd => cmd.Orderly env worker
  | .listener _ => True
  | .randomState | .setState _ _ _ | .getDelState _ | .respond _ => False

section

variable {α : Type} {Q : Except JsError α → Prop} {env : Env} {worker : Bool}

theorem onTokens_within {program : TokenProg α} (h : program.Within TokenCmd.Orderly Q) :
    (onTokens program).Within (ServerCmd.Component env worker) Q :=
  h.handle fun _ orderly => Prog.within_call.mpr ⟨orderly, fun _ => trivial⟩

theorem onEventSets_within {program : EventSetProg α} (h : program.Within EventSetCmd.Orderly Q) :
    (onEventSets program).Within (ServerCmd.Component env worker) Q :=
  h.handle fun _ orderly => Prog.within_call.mpr ⟨orderly, fun _ => trivial⟩

theorem Server.onDeliveries_within (S : Server) {program : DeliveryProg α}
    (h : program.Within (DeliveryCmd.Orderly S.env worker) Q) :
    (S.onDeliveries program).Within (ServerCmd.Component S.env worker) Q := by
  refine h.handle fun cmd orderly => ?_
  cases cmd with
  | resolveEventSet a => exact onEventSets_within (CRMEventSetManager.resolve_within _ a)
  | _ => exact Prog.within_call.mpr ⟨orderly, fun _ => trivial⟩

theorem Server.onMessages_within (S : Server) {program : ListenerProg α}
    (h : program.Within (fun _ => True) Q) :
    (S.onMessages program).Within (ServerCmd.Component S.env false) Q := by
  refine h.handle fun cmd _ => ?_
  cases cmd with
  | onEvent cdcEvent lead => exact S.onDeliveries_within (S.pipeline.process_within cdcEvent lead)
  | _ => exact Prog.within_call.mpr ⟨trivial, fun _ => trivial⟩

end

/-! ## Answers to the event set manager -/

/-- The answers a call of the server got to commands of the event set manager. -/
def eventSetAnswers (history : List ServerAnswer) : List EventSetAnswer :=
  history.filterMap fun
    | ⟨.eventSet cmd, reply⟩ => some ⟨cmd, reply⟩
    | _ => none

theorem eventSetAnswers_append (first second : List ServerAnswer) :
    eventSetAnswers (first ++ second) = eventSetAnswers first ++ eventSetAnswers second :=
  List.filterMap_append

theorem eventSetAnswers_sub {first second : List ServerAnswer} (sub : first ⊆ second) :
    eventSetAnswers first ⊆ eventSetAnswers second := by
  intro answer mem
  obtain ⟨whole, here, same⟩ := List.mem_filterMap.mp mem
  exact List.mem_filterMap.mpr ⟨whole, sub here, same⟩

/-- What the manager meets over its own answers it meets inside the server. -/
theorem onEventSets_meets {α : Type} {program : EventSetProg α}
    {asks : List EventSetAnswer → EventSetCmd → Prop}
    {asks' : List ServerAnswer → ServerCmd → Prop}
    {can : (cmd : ServerCmd) → Except JsError cmd.Reply → Prop}
    {ends : List EventSetAnswer → Except JsError α → Prop}
    (asked : ∀ history cmd, asks (eventSetAnswers history) cmd → asks' history (.eventSet cmd))
    {history : List ServerAnswer}
    (h : program.Meets (fun _ _ => True) asks ends (eventSetAnswers history)) :
    (onEventSets program).Meets can asks'
      (fun final outcome => ends (eventSetAnswers final) outcome) history := by
  have carried : ∀ outer inner cmd, inner = eventSetAnswers outer → asks inner cmd →
      (serve (.eventSet cmd)).Meets can asks' (fun final outcome =>
        True ∧ inner ++ [⟨cmd, outcome⟩] = eventSetAnswers final) outer := by
    rintro outer _ cmd rfl here
    refine ⟨asked outer cmd here, fun reply _ => ?_⟩
    have grown := eventSetAnswers_append outer [⟨.eventSet cmd, reply⟩]
    cases reply with
    | ok _ => exact ⟨trivial, grown.symm⟩
    | error _ => exact ⟨trivial, grown.symm⟩
  refine (Prog.Meets.handle carried h rfl).imp ?_
  rintro final outcome ⟨_, rfl, ended⟩
  exact ended

end SalesforceTikTok
