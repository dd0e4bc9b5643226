import SalesforceTikTok.Server.Responses

/-!
# Who asks for what

Which call of the server may await which command, and after what. The two OAuth
routes are pinned down to their history: a state is stored by the request that
generated it, a callback consumes the state of its query first of all, and posts
its code only when it got a value for it.
-/

namespace SalesforceTikTok

open Concurrency Concurrency.System

def Server.Asks (S : Server) (call : ServerCall) (history : List ServerAnswer) :
    ServerCmd → Prop
  | .randomState => call = .initiate ∧ history = []
  | .setState key value ttlSeconds =>
      call = .initiate ∧ history = [⟨.randomState, .ok value⟩] ∧
        key = TokenStore.stateKey value ∧ ttlSeconds = OAUTH_STATE_TTL_SECONDS
  | .getDelState key =>
      ∃ query state text, call = .callback query ∧ history = [] ∧ query.lookedUp = some state ∧
        state.toText = .ok text ∧ key = TokenStore.stateKey text
  | .token (.postExchange _) =>
      ∃ query state value, call = .callback query ∧ query.lookedUp = some (.text state) ∧
        history = [⟨.getDelState (TokenStore.stateKey state), .ok (some value)⟩]
  | .token (.cacheSet key _ _) => ∃ advertiserId, key = TokenStore.cacheKey advertiserId
  | .eventSet (.cacheSet key _ _) => ∃ advertiserId, key = CRMEventSetManager.cacheKey advertiserId
  | .delivery (.setNx key _) => ∃ eventId, key = DEDUP_KEY_PREFIX ++ eventId
  | .delivery (.postEvents _ accessToken) =>
      TikTokAPIClient.staticToken S.env = .ok accessToken
  | _ => True

theorem ServerCmd.Component.asks {S : Server} {worker : Bool} {cmd : ServerCmd}
    (h : cmd.Component S.env worker) (call : ServerCall) (history : List ServerAnswer) :
    S.Asks call history cmd := by
  cases cmd with
  | token cmd =>
      cases cmd with
      | cacheSet key value ttl => exact h
      | postExchange authCode => cases h
      | _ => trivial
  | eventSet cmd =>
      cases cmd with
      | cacheSet key eventSetId ttl => exact h
      | _ => trivial
  | delivery cmd =>
      cases cmd with
      | setNx key ttl => exact h
      | postEvents payload accessToken => exact h
      | _ => trivial
  | listener cmd => trivial
  | _ => cases h

abbrev Server.Orderly (S : Server) (call : ServerCall) (program : ServerProg Unit)
    (history : List ServerAnswer) : Prop :=
  program.Meets canAnswer (S.Asks call) (fun _ _ => True) history

theorem Responds.orderly {S : Server} {program : ServerProg Unit}
    (h : Responds (ServerCmd.Component S.env false) program) (call : ServerCall)
    (history : List ServerAnswer) : S.Orderly call program history := by
  refine (h history).mono (fun history cmd asked => ?_) fun _ _ _ => trivial
  rcases asked with asked | sending
  · exact asked.asks call history
  · cases cmd with
    | respond response => trivial
    | _ => cases sending

private theorem respond_orderly (S : Server) (response : HttpResponse) (call : ServerCall)
    (history : List ServerAnswer) : S.Orderly call (respond response) history :=
  ⟨trivial, fun reply _ => by cases reply <;> trivial⟩

private theorem orderly_of_within {S : Server} {worker : Bool} {program : ServerProg Unit}
    {Q : Except JsError Unit → Prop} (h : program.Within (ServerCmd.Component S.env worker) Q)
    (call : ServerCall) (history : List ServerAnswer) : S.Orderly call program history :=
  h.meets (fun _ _ _ asked => asked.asks call _) fun _ _ _ _ => trivial

namespace Server

variable (S : Server)

private theorem initiate_orderly : S.Orderly .initiate S.initiate [] := by
  have failed (history : List ServerAnswer) : S.Orderly .initiate
      (respond (.json 500 (errorBody "Failed to initiate OAuth flow"))) history :=
    respond_orderly S _ _ _
  refine ⟨⟨rfl, rfl⟩, fun reply _ => ?_⟩
  cases reply with
  | error error => exact failed _
  | ok state =>
      refine ⟨⟨rfl, rfl, rfl, rfl⟩, fun reply _ => ?_⟩
      cases reply with
      | error error => exact failed _
      | ok _ =>
          refine Prog.meets_catch.mpr ((respond_orderly S _ .initiate _).imp fun _ outcome _ => ?_)
          cases outcome with
          | ok _ => trivial
          | error error => exact failed _

/-- The exchange follows the lookup of a text state that found a value. -/
theorem exchange_orderly {query : CallbackQuery} {state value : String}
    (looked : query.lookedUp = some (.text state)) (authCode : QueryValue)
    (stored : StoredState) :
    S.Orderly (.callback query) (S.exchange authCode stored)
      [⟨.getDelState (TokenStore.stateKey state), .ok (some value)⟩] := by
  have failed (history : List ServerAnswer) : S.Orderly (.callback query)
      (respond (.json 500 (errorBody "Token exchange failed"))) history :=
    respond_orderly S _ _ _
  refine ⟨⟨query, state, value, rfl, looked, rfl⟩, fun reply _ => ?_⟩
  cases reply with
  | error error => exact failed _
  | ok response =>
      have storing : (onTokens (do
          TikTokOAuthClient.assertSuccess response.code response.message "Token exchange"
          let now : Int ← authorize .now
          TikTokOAuthClient.storeGrant response.data now response.advertiserIds [])).Within
          (ServerCmd.Component S.env false) fun _ => True :=
        onTokens_within (TikTokOAuthClient.fromGrant_within response)
      refine Prog.meets_catch.mpr (Prog.meets_bind.mpr (storing.meets
        (fun _ _ _ asked => asked.asks _ _) fun more outcome _ _ => ?_))
      cases outcome with
      | error error => exact failed _
      | ok tokens =>
          refine (respond_orderly S _ (.callback query) _).imp fun _ outcome _ => ?_
          cases outcome with
          | ok _ => trivial
          | error error => exact failed _

private theorem verify_orderly {query : CallbackQuery} {state : QueryValue} {text : String}
    (looked : query.lookedUp = some state) (read : state.toText = .ok text)
    (authCode : QueryValue) (value : Option String) :
    S.Orderly (.callback query) (S.verify authCode state (TokenStore.storedState value))
      [⟨.getDelState (TokenStore.stateKey text), .ok value⟩] := by
  cases found : TokenStore.storedState value with
  | none => exact respond_orderly S _ _ _
  | some stored =>
      simp only [verify]
      cases verified : S.verifyState state stored.value with
      | error error => exact respond_orderly S _ _ _
      | ok _ =>
          cases state with
          | text received =>
              cases read
              cases value with
              | none => cases found
              | some value => exact S.exchange_orderly looked authCode stored
          | array items => cases verified
          | object fields => cases verified

private theorem callback_orderly (query : CallbackQuery) :
    S.Orderly (.callback query) (S.callback query) [] := by
  rcases S.callback_cases query with ⟨_, response, same⟩ | ⟨authCode, state, looked, same⟩
  · rw [same]
    exact respond_orderly S _ _ _
  · rw [same]
    cases read : state.toText with
    | error error =>
        rw [TokenStore.getAndDeleteState_unreadable read]
        trivial
    | ok text =>
        rw [TokenStore.getAndDeleteState_bind read]
        refine ⟨⟨query, state, text, rfl, rfl, looked, read, rfl⟩, fun reply _ => ?_⟩
        cases reply with
        | error error => trivial
        | ok value => exact S.verify_orderly looked read authCode value

private theorem program_orderly (lastReplayId : Int) (call : ServerCall) :
    S.Orderly call (S.program lastReplayId call) [] := by
  by_cases plain : routine call = true
  · exact (S.routine_responds lastReplayId plain).orderly call []
  · cases call with
    | initiate => exact S.initiate_orderly
    | callback query => exact S.callback_orderly query
    | message rawMessage =>
        exact orderly_of_within (S.onMessages_within
          (SalesforceCDCListener.handleRawMessage_within rawMessage lastReplayId)) _ _
    | runJob jobId =>
        exact orderly_of_within (S.onDeliveries_within (RetryQueue.runJob_within S.env jobId)) _ _
    | refreshAll =>
        have listing : (onTokens TokenStore.listActiveAdvertiserIds).Within
            (ServerCmd.Component S.env false) fun _ => True :=
          onTokens_within (.call trivial)
        exact orderly_of_within (listing.bind fun _ => Prog.within_pure ()) _ _
    | refreshOne a =>
        have task : (onTokens (ProactiveRefresher.refreshOne a)).Within
            (ServerCmd.Component S.env false) fun outcome => outcome = .ok () :=
          onTokens_within (ProactiveRefresher.refreshOne_within a)
        exact orderly_of_within task _ _
    | _ => exact absurd rfl plain

/-! ## Over runs -/

/-- Every call of a run awaits only what it may, and has awaited only such commands. -/
theorem run_orderly {S : Server} {w : ServerWorld} {actions : List ServerAction} {c : ServerConfig}
    (h : S.system.run (.initial w) actions = some c) {pid : Nat}
    {p : Proc ServerCall (ServerProg Unit)} (hp : c.procs[pid]? = some p) :
    S.Orderly p.entry p.state ((c.own pid).map Record.answer) ∧
      ∀ first r rest, c.own pid = first ++ r :: rest →
        S.Asks p.entry (first.map Record.answer) r.cmd :=
  run_meets S.program_orderly h hp

theorem awaits_asked {S : Server} {w : ServerWorld} {actions : List ServerAction}
    {c : ServerConfig} (h : S.system.run (.initial w) actions = some c) {pid : Nat}
    {p : Proc ServerCall (ServerProg Unit)} (hp : c.procs[pid]? = some p) {cmd : ServerCmd}
    {resume : Except JsError cmd.Reply → ServerProg Unit}
    (hv : S.system.view p.state = .awaits cmd resume) :
    S.Asks p.entry ((c.own pid).map Record.answer) cmd :=
  (run_orderly h hp).1.awaited hv

end Server
end SalesforceTikTok
