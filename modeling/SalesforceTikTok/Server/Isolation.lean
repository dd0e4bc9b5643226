import SalesforceTikTok.Concurrency.Slicing
import SalesforceTikTok.Server.Authorisation
import SalesforceTikTok.Server.Parts

/-!
# Requests of one advertiser among those of others

The routes with an advertiser id in their path keep to the part of the stores that
belongs to it. What all other calls do, in whatever interleaving and with whatever
failures, makes no difference to them: without the others they run the same, and send
the same responses (`advertiser_isolated`). Only an OAuth grant for the advertiser, a
lead of its campaign and a task of the refresher come from elsewhere to its part.
-/

namespace SalesforceTikTok

open Concurrency Concurrency.System

def ServerCall.advertiser : ServerCall → Option String
  | .refresh a | .revoke a | .provision a _ | .listSets a | .createSet a _ | .selectSet a _
  | .activeSet a => some a
  | _ => none

def ServerCall.isFor (b : String) (call : ServerCall) : Bool := call.advertiser = some b

/-- Time is the same for all; a finished job is no advertiser's. -/
def ServerEvent.isTick : ServerEvent → Bool
  | .tick _ => true
  | .evict _ => false

def Elsewhere (b : String) (lead : SalesforceLead) : Prop :=
  (IdentityEnrichmentLayer.extractAttribution lead).campaignId ≠ some b

/-- No grant of this action covers the advertiser, no lead is of its campaign, and no task
refreshes its token. -/
def ServerCall.Avoids (b : String) : ServerAction → Prop
  | .start (.refreshOne a) => a ≠ b
  | .resume _ (.token (.exchanged response _)) => b ∉ response.advertiserIds
  | .resume _ (.listener (.retrieved (some lead))) => Elsewhere b lead
  | _ => True

/-! ## Answers -/

def TokenCmd.Omits (b : String) : (cmd : TokenCmd) → Except JsError cmd.Reply → Prop
  | .postExchange _, .ok response => b ∉ response.advertiserIds
  | _, _ => True

def ListenerCmd.Omits (b : String) : (cmd : ListenerCmd) → Except JsError cmd.Reply → Prop
  | .retrieve _, .ok (some lead) => Elsewhere b lead
  | _, _ => True

/-- What a command can be answered along actions that avoid the advertiser. -/
def ServerCmd.Answers (b : String) : (cmd : ServerCmd) → Except JsError cmd.Reply → Prop
  | .token cmd, reply => cmd.Answers reply ∧ cmd.Omits b reply
  | .listener cmd, reply => cmd.Omits b reply
  | _, _ => True

private theorem serverExec_answers {env : Env} {copyText : ActiveToken → String} {b : String}
    {cmd : ServerCmd} {choice : ServerChoice} {w v : ServerWorld} {reply : Except JsError cmd.Reply}
    (keyed : w.token.Keyed) {pid : Nat} (avoids : ServerCall.Avoids b (.resume pid choice))
    (he : serverExec env copyText cmd choice w = some (reply, v)) : cmd.Answers b reply := by
  have effect := serverExec_effect he
  clear he
  cases effect with
  | @token cmd choice reply part he =>
      refine ⟨tokenExec_answer keyed he, ?_⟩
      cases cmd with
      | postExchange authCode =>
          cases choice with
          | exchanged response issuedAt =>
              simp only [tokenExec] at he
              split at he <;> cases he
              exact avoids
          | fail error =>
              cases he
              trivial
          | _ => cases he
      | _ => cases reply <;> trivial
  | @listener cmd choice reply part he =>
      cases cmd with
      | retrieve leadId =>
          cases choice with
          | retrieved lead =>
              cases he
              cases lead with
              | none => trivial
              | some lead => exact avoids
          | fail error =>
              cases he
              trivial
          | completed => cases he
      | _ => cases reply <;> trivial
  | _ => trivial

/-! ## Contracts -/

/-- Answered as along actions that avoid `b`, the program awaits only commands of `P`. -/
abbrev Confined {α : Type} (b : String) (P : ServerCmd → Prop) (program : ServerProg α) : Prop :=
  program.Throughout (ServerCmd.Answers b) fun _ cmd => P cmd

section

variable {α : Type} {b : String} {P : ServerCmd → Prop}

private theorem serve_confined {cmd : ServerCmd} (asked : P cmd) : Confined b P (serve cmd) :=
  .call fun _ => asked

private theorem onTokens_confined {program : TokenProg α} {Q : TokenCmd → Prop}
    (h : program.Throughout TokenCmd.Answers fun _ cmd => Q cmd)
    (asked : ∀ cmd, Q cmd → P (.token cmd)) : Confined b P (onTokens program) := by
  refine h.handled fun cmd here history => ⟨asked cmd here, fun reply answered => ?_⟩
  cases reply <;> exact answered.1

private theorem onEventSets_asks {program : EventSetProg α} {Q : EventSetCmd → Prop}
    (h : program.Within Q fun _ => True) (asked : ∀ cmd, Q cmd → P (.eventSet cmd)) :
    (onEventSets program).Within P fun _ => True :=
  h.handle fun cmd here => .call (asked cmd here)

end

/-! ## Programs of one advertiser -/

section

variable {a : String}

theorem TokenProg.serves {α : Type} {program : TokenProg α}
    (h : program.Throughout TokenCmd.Answers fun _ cmd => cmd.Concerns a) :
    program.Throughout TokenCmd.Answers fun _ cmd => cmd.Serves a :=
  fun history => (h history).mono (fun _ _ concerns => .inl concerns) fun _ _ _ => trivial

private theorem getValidToken_concerns (a : String) : (TikTokOAuthClient.getValidToken a).Throughout
    TokenCmd.Answers fun _ cmd => cmd.Concerns a := by
  refine .bind (getActiveToken_concerns a) fun active => ?_
  cases active with
  | none => exact Prog.throughout_fail _
  | some active =>
      refine .bind (.call fun _ => trivial) fun now => ?_
      split
      · exact .bind (refreshAccessToken_concerns a) fun _ => Prog.throughout_pure _
      · exact Prog.throughout_pure _

private theorem revoke_serves (a : String) :
    (TokenStore.revoke a).Throughout TokenCmd.Answers fun _ cmd => cmd.Serves a :=
  .bind (.call fun _ => .inr rfl) fun _ => .call fun _ => .inl rfl

namespace CRMEventSetManager

private theorem assertSuccess_serves (a : String) (code : Int) (message context : String) :
    (assertSuccess code message context).Within (EventSetCmd.Serves a) fun _ => True := by
  unfold assertSuccess
  split <;> trivial

private theorem list_serves (a accessToken : String) :
    (list a accessToken).Within (EventSetCmd.Serves a) fun _ => True :=
  .bind (.call rfl) fun _ => .bind (assertSuccess_serves _ _ _ _) fun _ => trivial

private theorem createNamed_serves (a accessToken name : String) :
    (createNamed a accessToken name).Within (EventSetCmd.Serves a) fun _ => True :=
  .bind (.call rfl) fun _ => .bind (assertSuccess_serves _ _ _ _) fun _ =>
    .bind (.call trivial) fun _ => .bind (.call trivial) fun _ => trivial

private theorem create_serves (M : CRMEventSetManager) (a accessToken : String)
    (name : Option String) :
    (M.create a accessToken name).Within (EventSetCmd.Serves a) fun _ => True := by
  cases name with
  | none => exact .bind (.call trivial) fun _ => createNamed_serves _ _ _
  | some name => exact createNamed_serves _ _ _

private theorem warmCache_serves (a eventSetId : String) :
    (warmCache a eventSetId).Within (EventSetCmd.Serves a) fun _ => True :=
  .catch (.call rfl) (fun _ => trivial) fun _ => trivial

private theorem store_serves (a : String) (eventSet : CRMEventSet) (source : EventSetSource) :
    (store a eventSet source).Within (EventSetCmd.Serves a) fun _ => True :=
  .bind (.call rfl) fun _ => warmCache_serves _ _

private theorem provision_serves (M : CRMEventSetManager) (a accessToken : String)
    (eventSetName : Option String) :
    (M.provision a accessToken eventSetName).Within (EventSetCmd.Serves a) fun _ => True := by
  refine .catch (.bind (list_serves a accessToken) fun existing => ?_) (fun _ => trivial)
    fun _ => trivial
  match existing with
  | [] =>
      exact .bind (create_serves M _ _ _) fun _ => .bind (store_serves _ _ _) fun _ => trivial
  | [eventSet] => exact .bind (store_serves _ _ _) fun _ => trivial
  | _ :: _ :: _ => trivial

private theorem select_serves (a eventSetId accessToken : String) :
    (select a eventSetId accessToken).Within (EventSetCmd.Serves a) fun _ => True := by
  refine .bind (list_serves a accessToken) fun sets => ?_
  split
  · trivial
  · exact .bind (store_serves _ _ _) fun _ => trivial

private theorem resolve_serves (M : CRMEventSetManager) (a : String) :
    (M.resolve a).Within (EventSetCmd.Serves a) fun _ => True := by
  refine .bind ?_ fun cached => ?_
  · refine .catch (.bind (.call rfl) fun cached => ?_) (fun _ => trivial) fun _ => trivial
    split <;> trivial
  · cases cached with
    | some cached => trivial
    | none =>
        refine .bind (.call rfl) fun row => ?_
        cases row with
        | some id => exact .bind (warmCache_serves _ _) fun _ => trivial
        | none =>
            show Prog.Within _ _ (M.fallback a)
            unfold fallback
            split
            · split <;> trivial
            · trivial

end CRMEventSetManager

/-- A request awaits only what serves the advertiser in its path. -/
theorem Server.request_confined (S : Server) (b : String) (lastReplayId : Int) {call : ServerCall}
    (request : call.advertiser = some a) :
    Confined b (ServerCmd.Serves a) (S.program lastReplayId call) := by
  have sends (response : HttpResponse) : Confined b (ServerCmd.Serves a) (respond response) :=
    serve_confined trivial
  have tokens {α : Type} {program : TokenProg α}
      (h : program.Throughout TokenCmd.Answers fun _ cmd => cmd.Concerns a) :
      Confined b (ServerCmd.Serves a) (onTokens program) :=
    onTokens_confined (TokenProg.serves h) fun _ serves => serves
  have sets {α : Type} {program : EventSetProg α}
      (h : program.Within (EventSetCmd.Serves a) fun _ => True) :
      Confined b (ServerCmd.Serves a) (onEventSets program) :=
    (onEventSets_asks h fun _ serves => serves).throughout
  have valid := tokens (getValidToken_concerns a)
  cases call with
  | refresh c =>
      cases request
      exact .catch (.bind (tokens (refreshAccessToken_concerns a)) fun _ => sends _) fun _ =>
        sends _
  | revoke c =>
      cases request
      have revokes : Confined b (ServerCmd.Serves a) (onTokens (TokenStore.revoke a)) :=
        onTokens_confined (revoke_serves a) fun _ serves => serves
      exact .catch (.bind revokes fun _ => sends _) fun _ => sends _
  | provision c body =>
      cases request
      refine .catch (.bind valid fun token => ?_) fun error => ?_
      · exact .bind (sets (CRMEventSetManager.provision_serves _ _ _ _)) fun _ => sends _
      · split <;> exact sends _
  | listSets c =>
      cases request
      exact .catch (.bind valid fun token => .bind (sets (CRMEventSetManager.list_serves _ _))
        fun _ => sends _) fun _ => sends _
  | createSet c body =>
      cases request
      have creating (name : String) : Confined b (ServerCmd.Serves a) (S.createNamedSet a name) :=
        .catch (.bind valid fun token =>
          .bind (sets (CRMEventSetManager.create_serves _ _ _ _)) fun created =>
            .bind (sets (CRMEventSetManager.select_serves _ _ _)) fun _ => sends _) fun _ => sends _
      simp only [program, createSet]
      split
      · exact sends _
      · split
        · exact sends _
        · exact creating _
  | selectSet c body =>
      cases request
      simp only [program, selectSet]
      split
      · exact sends _
      · refine .catch (.bind valid fun token => ?_) fun error => ?_
        · exact .bind (sets (CRMEventSetManager.select_serves _ _ _)) fun _ => sends _
        · split <;> exact sends _
  | activeSet c =>
      cases request
      exact .catch (.bind (sets (CRMEventSetManager.resolve_serves _ a)) fun _ => sends _) fun _ =>
        sends _
  | _ => cases request

end

/-! ## Programs of other calls -/

def DeliveryCmd.Spares (b : String) : DeliveryCmd → Prop
  | .resolveEventSet a => a ≠ b
  | _ => True

private theorem sendEvents_spares (b : String) (env : Env) (payload : TikTokEventsPayload) :
    (TikTokAPIClient.sendEvents env payload).Within (DeliveryCmd.Spares b) fun _ => True :=
  TikTokAPIClient.sendEvents_within env payload trivial fun _ _ => trivial

theorem Pipeline.process_spares (P : Pipeline) {b : String} (cdcEvent : SalesforceCDCEvent)
    {lead : SalesforceLead}
    (campaign : Elsewhere b lead) :
    (P.process cdcEvent lead).Within (DeliveryCmd.Spares b) fun _ => True := by
  unfold process
  split
  next => trivial
  next eventName _ =>
    refine .bind ?_ fun eventSetId => .bind ?_ fun eventTime => .bind ?_ fun isDuplicate => ?_
    · unfold resolveEventSetId
      split
      next => trivial
      next a here =>
        split
        · trivial
        · have other : a ≠ b := fun same => campaign (by rw [here, same])
          exact .catch (.bind (.call other) fun _ => trivial) (fun _ => trivial) fun _ => trivial
    · unfold eventTime
      split
      · exact .bind (.call trivial) fun _ => trivial
      · split
        · exact .bind (.call trivial) fun _ => trivial
        · trivial
    · exact .catch (.bind (.call trivial) fun _ => trivial) (fun _ => trivial) fun _ => trivial
    · split
      · exact .call trivial
      · refine .bind (.call trivial) fun _ => .catch ?_ (fun _ => trivial) fun error => ?_
        · exact .bind (sendEvents_spares b _ _) fun _ => .call trivial
        · exact .bind (.call trivial) fun _ => .bind (.call trivial) fun _ => trivial

theorem RetryQueue.runJob_spares (b : String) (env : Env) (id : String) :
    (runJob env id).Within (DeliveryCmd.Spares b) fun _ => True := by
  refine .bind (.call trivial) fun data => .bind ?_ fun succeeded => .call trivial
  exact .catch (.bind (sendEvents_spares b _ _) fun _ => trivial) (fun _ => trivial) fun _ =>
    trivial

def ListenerCmd.Spares (b : String) : ListenerCmd → Prop
  | .onEvent _ lead => Elsewhere b lead
  | _ => True

namespace SalesforceCDCListener

private theorem fetchLead_omits (b : String) (leadId : String) (attempts : Nat)
    (history : List (Answer ListenerCmd ListenerCmd.Reply JsError)) :
    (fetchLead leadId attempts).Meets (ListenerCmd.Omits b) (fun _ cmd => cmd.Spares b)
      (fun _ outcome => ∀ lead, outcome = .ok (some lead) → Elsewhere b lead) history := by
  induction attempts generalizing history with
  | zero => rintro lead ⟨⟩
  | succ remaining ih =>
      refine Prog.meets_catch.mpr ⟨trivial, fun reply answered => ?_⟩
      cases reply with
      | ok found =>
          rintro lead ⟨⟩
          exact answered
      | error err =>
          show Prog.Meets _ _ _ (if _ then _ else _) _
          split
          · refine ⟨trivial, fun reply _ => ?_⟩
            cases reply with
            | ok _ => exact ih _
            | error error => rintro lead ⟨⟩
          · rintro lead ⟨⟩

private theorem handleRecord_spares (b : String) (cdcEvent : SalesforceCDCEvent) :
    (handleRecord cdcEvent).Throughout (ListenerCmd.Omits b) fun _ cmd => cmd.Spares b := by
  unfold handleRecord
  split
  · exact Prog.throughout_pure ()
  · next recordId _ =>
      refine .catch (fun history => ?_) fun _ => Prog.throughout_pure ()
      refine (fetchLead_omits b recordId retries history).bind (fun final found elsewhere => ?_)
        fun _ _ _ => trivial
      cases found with
      | none => trivial
      | some lead =>
          have asked : ListenerCmd.Spares b (.onEvent cdcEvent lead) := elsewhere lead rfl
          exact Prog.Throughout.call (fun _ => asked) final

end SalesforceCDCListener

namespace Server

variable (S : Server) (b : String)

private theorem onDeliveries_confined {α : Type} {program : DeliveryProg α}
    (h : program.Within (DeliveryCmd.Spares b) fun _ => True) :
    Confined b (ServerCmd.Spares b) (S.onDeliveries program) := by
  have within : (S.onDeliveries program).Within (ServerCmd.Spares b) fun _ => True := by
    refine h.handle fun cmd spares => ?_
    cases cmd with
    | resolveEventSet a =>
        exact onEventSets_asks (CRMEventSetManager.resolve_serves S.manager a) fun cmd serves =>
          EventSetCmd.Serves.spares serves spares
    | _ => exact .call trivial
  exact within.throughout

private theorem message_confined (rawMessage : RawMessage) (lastReplayId : Int) :
    Confined b (ServerCmd.Spares b)
      (S.onMessages (SalesforceCDCListener.handleRawMessage rawMessage lastReplayId).2) := by
  have handles : (SalesforceCDCListener.handleRawMessage rawMessage lastReplayId).2.Throughout
      (ListenerCmd.Omits b) fun _ cmd => cmd.Spares b := by
    unfold SalesforceCDCListener.handleRawMessage
    split
    · exact Prog.throughout_pure ()
    · exact SalesforceCDCListener.handleRecord_spares b _
  refine handles.handled fun cmd spares history => ?_
  cases cmd with
  | onEvent cdcEvent lead =>
      have elsewhere : Elsewhere b lead := spares
      refine (S.onDeliveries_confined b (S.pipeline.process_spares cdcEvent elsewhere) history).imp ?_
      exact fun _ outcome _ => by cases outcome <;> trivial
  | retrieve leadId =>
      refine ⟨trivial, fun reply answered => ?_⟩
      cases reply with
      | ok found => exact answered
      | error error => trivial
  | sleep milliseconds => exact ⟨trivial, fun reply _ => by cases reply <;> trivial⟩

private theorem sends_spared (response : HttpResponse) :
    Confined b (ServerCmd.Spares b) (respond response) :=
  serve_confined trivial

private theorem initiate_confined : Confined b (ServerCmd.Spares b) S.initiate := by
  refine .catch (.bind (serve_confined trivial) fun state => ?_) fun _ => sends_spared b _
  exact .bind (serve_confined ⟨state, rfl⟩) fun _ => sends_spared b _

/-- The rows of a grant are those of the advertisers it names. -/
theorem storeGrant_spares (data : TokenData) (now : Int) {ids : List String} (absent : b ∉ ids)
    (stored : List StoredToken) : (TikTokOAuthClient.storeGrant data now ids stored).Throughout
      TokenCmd.Answers fun _ cmd => cmd.Spares b := by
  induction ids generalizing stored with
  | nil => exact Prog.throughout_pure _
  | cons a rest ih =>
      have ne : a ≠ b := fun same => absent (same ▸ List.mem_cons_self)
      have other : b ∉ rest := fun later => absent (List.mem_cons_of_mem a later)
      refine .bind (fun history => ?_) fun token => ih other _
      exact (upsert_concerns (TikTokOAuthClient.storedRow data now a) history).mono
        (fun _ _ concerns => TokenCmd.Serves.spares (.inl concerns) ne) fun _ _ _ => trivial

private theorem exchangeAuthCode_confined (authCode : String) :
    Confined b (ServerCmd.Spares b) (onTokens (TikTokOAuthClient.exchangeAuthCode authCode)) := by
  intro history
  refine ⟨trivial, fun reply answered => ?_⟩
  cases reply with
  | error error => trivial
  | ok response =>
      have absent : b ∉ response.advertiserIds := answered.2
      have storing : (do
          TikTokOAuthClient.assertSuccess response.code response.message "Token exchange"
          let now : Int ← authorize .now
          TikTokOAuthClient.storeGrant response.data now response.advertiserIds []).Throughout
          TokenCmd.Answers fun _ cmd => cmd.Spares b := by
        refine .bind ?_ fun _ => .bind (.call fun _ => trivial) fun now =>
          storeGrant_spares b _ now absent _
        unfold TikTokOAuthClient.assertSuccess
        split
        · exact Prog.throughout_fail _
        · exact Prog.throughout_pure ()
      exact onTokens_confined storing (fun _ spares => spares) _

private theorem callback_confined (query : CallbackQuery) :
    Confined b (ServerCmd.Spares b) (S.callback query) := by
  have sends := sends_spared b
  rcases S.callback_cases query with ⟨_, response, same⟩ | ⟨authCode, state, _, same⟩
  · rw [same]
    exact sends response
  · rw [same]
    refine .bind ?_ fun stored => ?_
    · unfold TokenStore.getAndDeleteState
      cases state.toText with
      | error error => exact Prog.throughout_fail error
      | ok text => exact .bind (serve_confined ⟨text, rfl⟩) fun _ => Prog.throughout_pure _
    · cases stored with
      | none => exact sends _
      | some stored =>
          simp only [verify]
          cases S.verifyState state stored.value with
          | error error => exact sends _
          | ok _ =>
              exact .catch (.bind (exchangeAuthCode_confined b _) fun _ => sends _) fun _ =>
                sends _

private theorem lists_spares : TokenStore.listActiveAdvertiserIds.Throughout TokenCmd.Answers
    fun _ cmd => cmd.Spares b :=
  .call fun _ => trivial

private theorem refreshOne_spares {a : String} (ne : a ≠ b) :
    (ProactiveRefresher.refreshOne a).Throughout TokenCmd.Answers fun _ cmd => cmd.Spares b := by
  rw [ProactiveRefresher.refreshOne_eq]
  refine .bind (fun history => ?_) fun _ => Prog.throughout_pure ()
  exact (refreshTask_concerns a history).mono
    (fun _ _ concerns => TokenCmd.Serves.spares (.inl concerns) ne) fun _ _ _ => trivial

/-- What is no request with an advertiser in its path spares the advertiser. -/
theorem other_confined (lastReplayId : Int) {call : ServerCall} (other : call.advertiser = none)
    (avoids : ServerCall.Avoids b (.start call)) :
    Confined b (ServerCmd.Spares b) (S.program lastReplayId call) := by
  have tokens {α : Type} {program : TokenProg α}
      (h : program.Throughout TokenCmd.Answers fun _ cmd => cmd.Spares b) :
      Confined b (ServerCmd.Spares b) (onTokens program) :=
    onTokens_confined h fun _ spares => spares
  cases call with
  | initiate => exact S.initiate_confined b
  | callback query => exact S.callback_confined b query
  | status =>
      exact .catch (.bind (tokens (lists_spares b)) fun _ => sends_spared b _) fun _ =>
        sends_spared b _
  | message rawMessage => exact S.message_confined b rawMessage lastReplayId
  | runJob jobId => exact S.onDeliveries_confined b (RetryQueue.runJob_spares b S.env jobId)
  | refreshAll => exact .bind (tokens (lists_spares b)) fun _ => Prog.throughout_pure ()
  | refreshOne a => exact tokens (refreshOne_spares b avoids)
  | _ => cases other

/-! ## The slice for an advertiser -/

def Asked (b : String) (call : ServerCall) (cmd : ServerCmd) : Prop :=
  if call.isFor b then cmd.Serves b else cmd.Spares b

private theorem asked_request {b : String} {call : ServerCall} (request : call.isFor b = true) :
    Asked b call = ServerCmd.Serves b :=
  funext fun _ => if_pos request

private theorem asked_other {b : String} {call : ServerCall} (other : call.isFor b = false) :
    Asked b call = ServerCmd.Spares b :=
  funext fun _ => if_neg (by simp [other])

private theorem program_confined (lastReplayId : Int) {call : ServerCall}
    (avoids : ServerCall.Avoids b (.start call)) :
    Confined b (Asked b call) (S.program lastReplayId call) := by
  cases request : call.advertiser with
  | none =>
      rw [asked_other (by simp [ServerCall.isFor, request])]
      exact S.other_confined b lastReplayId request avoids
  | some a =>
      have serves := S.request_confined b lastReplayId request
      by_cases same : a = b
      · subst same
        rwa [asked_request (by simp [ServerCall.isFor, request])]
      · rw [asked_other (by simpa [ServerCall.isFor, request] using same)]
        exact fun history => (serves history).mono (fun _ _ asked => asked.spares same)
          fun _ _ _ => trivial

/-- A call that has got here under its contract. -/
def Fits (b : String) (call : ServerCall) (program : ServerProg Unit) : Prop :=
  ∃ history, program.Meets (ServerCmd.Answers b) (fun _ cmd => Asked b call cmd)
    (fun _ _ => True) history

/-- The worlds are the same for the advertiser, and every token row is stored under its id. -/
def Alike (b : String) (w u : ServerWorld) : Prop := w.token.Keyed ∧ w.SameFor b u

private theorem keyed_exec {env : Env} {copyText : ActiveToken → String} {cmd : ServerCmd}
    {choice : ServerChoice} {w v : ServerWorld} {reply : Except JsError cmd.Reply}
    (keyed : w.token.Keyed) (he : serverExec env copyText cmd choice w = some (reply, v)) :
    v.token.Keyed := by
  have effect := serverExec_effect he
  clear he
  cases effect with
  | token he => exact keyed.exec he
  | setState effect =>
      obtain rfl | rfl := effect
      · exact keyed
      · exact keyed
  | getDelState effect =>
      obtain rfl | rfl := effect
      · exact keyed
      · exact keyed
  | _ => exact keyed

private theorem enter_alike {call : ServerCall} {w u v : ServerWorld} (alike : Alike b w u)
    (h : enter call w = some v) : Alike b v u := by
  obtain ⟨keyed, same⟩ := alike
  cases call with
  | message rawMessage =>
      cases h
      exact ⟨keyed, same.token, same.eventSet, same.tokenClock, same.eventSetClock⟩
  | refreshOne a =>
      obtain ⟨token, entered, rfl⟩ := Option.map_eq_some_iff.mp h
      simp only [TokenCall.enter] at entered
      split at entered <;> cases entered
      exact ⟨keyed, ⟨same.token.row, same.token.copy⟩, same.eventSet, same.tokenClock,
        same.eventSetClock⟩
  | _ =>
      cases h
      exact ⟨keyed, same⟩

private theorem launch_request {call : ServerCall} {w v : ServerWorld} {x : ServerProg Unit}
    (request : call.isFor b = true) (h : S.system.launch call w = some (x, v)) :
    v = w ∧ ∀ u, S.system.launch call u = some (x, u) := by
  cases call with
  | refresh a | revoke a | provision a body | listSets a | createSet a body | selectSet a body
  | activeSet a =>
      cases h
      exact ⟨rfl, fun _ => rfl⟩
  | _ => cases request

theorem isolates : Isolates S.system (ServerCall.isFor b) ServerEvent.isTick (Alike b) (Fits b)
    (ServerCall.Avoids b) where
  launched := by
    intro call w x v avoids hl
    rw [S.launch_program hl]
    exact ⟨[], S.program_confined b _ avoids []⟩
  starts := by
    intro call w u x v request alike hl
    obtain ⟨rfl, launched⟩ := S.launch_request b request hl
    exact ⟨u, launched u, alike⟩
  unseen := by
    intro call w u x v _ alike hl
    obtain ⟨v', entered, same⟩ := Option.map_eq_some_iff.mp hl
    cases same
    exact enter_alike b alike entered
  answered := by
    intro call x cmd resume w u reply v pid choice fits hv alike avoids he
    obtain ⟨history, meets⟩ := fits
    rw [Prog.eq_of_view_awaits hv] at meets
    exact ⟨_, meets.2 reply (serverExec_answers alike.1 avoids he)⟩
  own := by
    intro call x cmd resume choice w u reply v request fits hv alike he
    obtain ⟨history, meets⟩ := fits
    have asked := meets.awaited hv
    rw [asked_request request] at asked
    obtain ⟨u', answered, same⟩ := alike.2.served asked he
    exact ⟨u', answered, keyed_exec alike.1 he, same⟩
  other := by
    intro call x cmd resume choice w u reply v notFor fits hv alike he
    obtain ⟨history, meets⟩ := fits
    have asked := meets.awaited hv
    rw [asked_other notFor] at asked
    exact ⟨keyed_exec alike.1 he, alike.2.spared asked he⟩
  moved := by
    intro event w u v tick alike hv
    cases event with
    | tick elapsed =>
        cases hv
        exact ⟨_, rfl, alike.1, alike.2.tick elapsed⟩
    | evict jobId => cases tick
  unmoved := by
    intro event w u v finished alike hv
    cases event with
    | tick elapsed => cases finished
    | evict jobId =>
        obtain ⟨delivery, _, rfl⟩ := Option.map_eq_some_iff.mp hv
        exact ⟨alike.1, alike.2.token, alike.2.eventSet, alike.2.tokenClock, alike.2.eventSetClock⟩

/-- The requests for an advertiser run without all other calls as they run among them: from
stores that are the same for the advertiser, their slice of the run is a run, in which they
are in the same states and were answered the same, and which leaves the stores the same for
the advertiser. -/
theorem advertiser_isolated {w u : ServerWorld} (keyed : w.token.Keyed) (same : w.SameFor b u)
    {actions : List ServerAction} {c : ServerConfig} (h : S.system.run (.initial w) actions = some c)
    (avoids : ∀ a ∈ actions, ServerCall.Avoids b a) :
    ∃ d, S.system.run (.initial u) (S.system.slice (ServerCall.isFor b) ServerEvent.isTick
        (.initial w) actions) = some d ∧
      Sliced (ServerCall.isFor b) (ServerWorld.SameFor b) c d := by
  obtain ⟨d, reached, sliced⟩ := run_sliced (S.isolates b) h avoids ⟨keyed, same⟩
  exact ⟨d, reached, sliced.world.2, sliced.procs, sliced.trace⟩

end Server

namespace ServerSample

def lookingUp (pid : Nat) : List ServerAction :=
  [.start (.activeSet "adv-002"), .resume pid (.eventSet .ok), .resume pid (.eventSet .ok),
    .resume pid .ok]

end ServerSample

open ServerSample in
theorem advertiser_isolated_from_grant :
    ∃ d, server.system.run (.initial (.fresh 0)) (lookingUp 0) = some d ∧
      Sliced (ServerCall.isFor "adv-002") (ServerWorld.SameFor "adv-002")
        (after (granting ++ lookingUp 2) (by decide)) d := by
  have keyed : (ServerWorld.fresh 0).token.Keyed := by
    rintro a row ⟨⟩
  have avoids : ∀ a ∈ granting ++ lookingUp 2, ServerCall.Avoids "adv-002" a := by
    simp [granting, returning, issuing, lookingUp, ServerCall.Avoids, TokenSample.grant]
  exact server.advertiser_isolated "adv-002" keyed (.refl _ _) (run_result _) avoids

end SalesforceTikTok
