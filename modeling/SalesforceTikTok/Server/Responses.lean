import SalesforceTikTok.Server.Components

/-!
# Routes that respond

The shape that almost every route has: fallible work of the components inside a
`try`, then one response, and a `catch` that responds. Such a route resolves
with one response whatever it is answered. The OAuth callback has it from the
lookup of its state on.
-/

namespace SalesforceTikTok

open Concurrency

/-! ## Kinds of commands -/

namespace ServerCmd

def isRespond : ServerCmd → Bool
  | .respond _ => true
  | _ => false

def isLookup : ServerCmd → Bool
  | .getDelState _ => true
  | _ => false

/-- A worker picks a job only when one is waiting; all else is answered at any time. -/
def isPick : ServerCmd → Bool
  | .delivery (.takeJob _) => true
  | _ => false

def Internal (cmd : ServerCmd) : Prop :=
  cmd.isRespond = false ∧ cmd.isLookup = false ∧ cmd.isPick = false

end ServerCmd

def responses (history : List ServerAnswer) : Nat := history.countP (·.cmd.isRespond)

def lookups (history : List ServerAnswer) : List ServerAnswer := history.filter (·.cmd.isLookup)

theorem responses_internal {history more : List ServerAnswer}
    (internal : ∀ a ∈ more, a.cmd.Internal) :
    responses (history ++ more) = responses history := by
  have none : more.countP (·.cmd.isRespond) = 0 :=
    List.countP_eq_zero.mpr fun a ha => by simp [(internal a ha).1]
  rw [responses, List.countP_append, none]
  rfl

private theorem lookups_internal {history more : List ServerAnswer}
    (internal : ∀ a ∈ more, a.cmd.Internal) : lookups (history ++ more) = lookups history := by
  have none : more.filter (·.cmd.isLookup) = [] :=
    List.filter_eq_nil_iff.mpr fun a ha => by simp [(internal a ha).2.1]
  rw [lookups, List.filter_append, none, List.append_nil]
  rfl

def canAnswer : (cmd : ServerCmd) → Except JsError cmd.Reply → Prop
  | .respond _, reply => reply = .ok ()
  | _, _ => True

theorem canAnswer_of_exec {env : Env} {copyText : ActiveToken → String} {cmd : ServerCmd}
    {choice : ServerChoice} {w v : ServerWorld} {reply : Except JsError cmd.Reply}
    (h : serverExec env copyText cmd choice w = some (reply, v)) : canAnswer cmd reply := by
  cases cmd with
  | respond response =>
      cases choice <;> cases h
      rfl
  | _ => trivial

/-- Whatever is awaited besides the pick of a job can be answered. -/
theorem exec_answers (env : Env) (copyText : ActiveToken → String) {cmd : ServerCmd}
    (noPick : cmd.isPick = false) (w : ServerWorld) :
    ∃ choice reply v, serverExec env copyText cmd choice w = some (reply, v) := by
  have lost : JsError := { message := "Connection is closed." }
  cases cmd with
  | token cmd =>
      cases cmd with
      | now => exact ⟨.token .ok, _, _, rfl⟩
      | _ => exact ⟨.token (.fail lost), _, _, rfl⟩
  | eventSet cmd =>
      cases cmd with
      | now => exact ⟨.eventSet .ok, _, _, rfl⟩
      | _ => exact ⟨.eventSet (.fail lost), _, _, rfl⟩
  | delivery cmd =>
      cases cmd with
      | now => exact ⟨.delivery .ok, _, _, rfl⟩
      | acquire payload => exact ⟨.delivery .ok, _, _, rfl⟩
      | settleJob jobId succeeded => exact ⟨.delivery .ok, _, _, rfl⟩
      | takeJob jobId => cases noPick
      | _ => exact ⟨.delivery (.fail lost), _, _, rfl⟩
  | listener cmd =>
      cases cmd with
      | sleep milliseconds => exact ⟨.listener .completed, _, _, rfl⟩
      | _ => exact ⟨.listener (.fail lost), _, _, rfl⟩
  | randomState => exact ⟨.random "", _, _, rfl⟩
  | setState key value ttl => exact ⟨.ok, _, _, rfl⟩
  | getDelState key => exact ⟨.ok, _, _, rfl⟩
  | respond response => exact ⟨.ok, _, _, rfl⟩

theorem ServerCmd.Component.internal {env : Env} {cmd : ServerCmd}
    (h : cmd.Component env false) : cmd.Internal := by
  cases cmd with
  | token cmd => exact ⟨rfl, rfl, rfl⟩
  | eventSet cmd => exact ⟨rfl, rfl, rfl⟩
  | delivery cmd =>
      cases cmd with
      | takeJob jobId => cases h
      | _ => exact ⟨rfl, rfl, rfl⟩
  | listener cmd => exact ⟨rfl, rfl, rfl⟩
  | _ => cases h

private theorem onTokens_internal {α : Type} (program : TokenProg α) :
    (onTokens program).Within ServerCmd.Internal fun _ => True :=
  program.within_any.handle fun _ _ => .call ⟨rfl, rfl, rfl⟩

/-! ## Routes that respond -/

/-- A contract under which the commands of `P` and responses may be awaited. -/
abbrev RouteContract (P : ServerCmd → Prop)
    (ends : List ServerAnswer → Except JsError Unit → Prop) (program : ServerProg Unit)
    (history : List ServerAnswer) : Prop :=
  program.Meets canAnswer (fun _ cmd => P cmd ∨ cmd.isRespond = true) ends history

/-- The program resolves, having sent one response, and looks up no state. -/
def Responds (P : ServerCmd → Prop) (program : ServerProg Unit) : Prop :=
  ∀ history, RouteContract P (fun final outcome => outcome = .ok () ∧
    responses final = responses history + 1 ∧ lookups final = lookups history) program history

/-- The program sends one response or throws without any, and looks up no state. -/
def Attempts (P : ServerCmd → Prop) (program : ServerProg Unit) : Prop :=
  ∀ history, RouteContract P (fun final outcome =>
    (match outcome with
      | .ok _ => responses final = responses history + 1
      | .error _ => responses final = responses history) ∧
    lookups final = lookups history) program history

section

variable {P : ServerCmd → Prop}

theorem respond_responds (response : HttpResponse) : Responds P (respond response) := by
  intro history
  refine ⟨.inr rfl, ?_⟩
  rintro reply rfl
  exact ⟨rfl, by simp [responses, ServerCmd.isRespond], by simp [lookups, ServerCmd.isLookup]⟩

theorem Responds.attempts {program : ServerProg Unit} (h : Responds P program) :
    Attempts P program := by
  intro history
  refine (h history).imp fun final outcome ends => ?_
  obtain ⟨rfl, sent, same⟩ := ends
  exact ⟨sent, same⟩

theorem Attempts.after {α : Type} {work : ServerProg α} {next : α → ServerProg Unit}
    (internal : ∀ {cmd}, P cmd → cmd.Internal) (h : work.Within P fun _ => True)
    (rest : ∀ value, Attempts P (next value)) : Attempts P (work >>= next) := by
  intro history
  refine Prog.meets_bind.mpr (h.meets (fun _ _ _ asked => .inl asked) ?_)
  intro more outcome within _
  have silent : ∀ a ∈ more, a.cmd.Internal := fun a ha => internal (within a ha)
  cases outcome with
  | ok value =>
      refine (rest value (history ++ more)).imp fun final outcome ends => ?_
      rwa [responses_internal silent, lookups_internal silent] at ends
  | error error => exact ⟨responses_internal silent, lookups_internal silent⟩

theorem Responds.caught {body : ServerProg Unit} {handler : JsError → ServerProg Unit}
    (h : Attempts P body) (rest : ∀ error, Responds P (handler error)) :
    Responds P (tryCatch body handler) := by
  intro history
  refine Prog.meets_catch.mpr ((h history).imp fun final outcome ends => ?_)
  obtain ⟨sent, same⟩ := ends
  cases outcome with
  | ok value => exact ⟨rfl, sent, same⟩
  | error error =>
      refine (rest error final).imp fun last outcome ends => ?_
      rwa [sent, same] at ends

/-- Work of the components, then the response, and a `catch` that responds. -/
theorem Responds.routine {α : Type} {env : Env} {work : ServerProg α}
    {next : α → ServerProg Unit} {handler : JsError → ServerProg Unit}
    (h : work.Within (ServerCmd.Component env false) fun _ => True)
    (rest : ∀ value, Attempts (ServerCmd.Component env false) (next value))
    (caught : ∀ error, Responds (ServerCmd.Component env false) (handler error)) :
    Responds (ServerCmd.Component env false) (tryCatch (work >>= next) handler) :=
  .caught (.after ServerCmd.Component.internal h rest) caught

end

namespace Server

variable (S : Server)

theorem initiate_responds : Responds ServerCmd.Internal S.initiate := by
  refine .caught (.after id (.call ⟨rfl, rfl, rfl⟩) fun state => ?_) fun _ => respond_responds _
  exact .after id (.call ⟨rfl, rfl, rfl⟩) fun _ => (respond_responds _).attempts

private theorem exchange_responds (authCode : QueryValue) (stored : StoredState) :
    Responds ServerCmd.Internal (S.exchange authCode stored) :=
  .caught (.after id (onTokens_internal _) fun _ => (respond_responds _).attempts) fun _ =>
    respond_responds _

theorem verify_responds (authCode state : QueryValue) (stored : Option StoredState) :
    Responds ServerCmd.Internal (S.verify authCode state stored) := by
  unfold verify
  split
  · exact respond_responds _
  · split
    · exact respond_responds _
    · exact S.exchange_responds _ _

abbrev Routine (program : ServerProg Unit) : Prop :=
  Responds (ServerCmd.Component S.env false) program

open TikTokOAuthClient CRMEventSetManager

private theorem status_responds : S.Routine status :=
  .routine (onTokens_within (.call trivial)) (fun _ => (respond_responds _).attempts) fun _ =>
    respond_responds _

private theorem refresh_responds (a : String) : S.Routine (S.refresh a) :=
  .routine (onTokens_within (refreshAccessToken_within a))
    (fun _ => (respond_responds _).attempts) fun _ => respond_responds _

private theorem revoke_responds (a : String) : S.Routine (revoke a) :=
  .routine (onTokens_within (TokenStore.revoke_within a))
    (fun _ => (respond_responds _).attempts) fun _ => respond_responds _

private theorem tokenRoute_responds {a : String} {next : String → ServerProg Unit}
    {handler : JsError → ServerProg Unit}
    (rest : ∀ token, Attempts (ServerCmd.Component S.env false) (next token))
    (caught : ∀ error, S.Routine (handler error)) :
    S.Routine (tryCatch (onTokens (getValidToken a) >>= next) handler) :=
  .routine (onTokens_within (getValidToken_within a)) rest caught

private theorem attempts_eventSets {α : Type} {program : EventSetProg α}
    {next : α → ServerProg Unit} (h : program.Within EventSetCmd.Orderly fun _ => True)
    (rest : ∀ value, Attempts (ServerCmd.Component S.env false) (next value)) :
    Attempts (ServerCmd.Component S.env false) (onEventSets program >>= next) :=
  .after ServerCmd.Component.internal (onEventSets_within h) rest

private theorem provision_responds (a : String) (body : RequestBody) :
    S.Routine (S.provision a body) := by
  refine S.tokenRoute_responds (fun token => ?_) fun error => ?_
  · exact S.attempts_eventSets (provision_within _ _ _ _) fun _ => (respond_responds _).attempts
  · split
    · exact respond_responds _
    · exact respond_responds _

private theorem listSets_responds (a : String) : S.Routine (listSets a) := by
  refine S.tokenRoute_responds (fun token => ?_) fun _ => respond_responds _
  exact S.attempts_eventSets (list_within _ _) fun _ => (respond_responds _).attempts

private theorem createSet_responds (a : String) (body : RequestBody) :
    S.Routine (S.createSet a body) := by
  unfold createSet
  split
  · exact respond_responds _
  · split
    · exact respond_responds _
    · refine S.tokenRoute_responds (fun token => ?_) fun _ => respond_responds _
      refine S.attempts_eventSets (create_within _ _ _ _) fun created => ?_
      exact S.attempts_eventSets (select_within _ _ _) fun _ => (respond_responds _).attempts

private theorem selectSet_responds (a : String) (body : RequestBody) :
    S.Routine (selectSet a body) := by
  unfold selectSet
  split
  · exact respond_responds _
  · refine S.tokenRoute_responds (fun token => ?_) fun error => ?_
    · exact S.attempts_eventSets (select_within _ _ _) fun _ => (respond_responds _).attempts
    · split
      · exact respond_responds _
      · exact respond_responds _

private theorem activeSet_responds (a : String) : S.Routine (S.activeSet a) :=
  .routine (onEventSets_within (resolve_within _ a)) (fun _ => (respond_responds _).attempts)
    fun _ => respond_responds _

def routine : ServerCall → Bool
  | .status | .refresh _ | .revoke _ | .provision _ _ | .listSets _ | .createSet _ _
  | .selectSet _ _ | .activeSet _ => true
  | _ => false

theorem routine_responds (lastReplayId : Int) {call : ServerCall} (h : routine call = true) :
    S.Routine (S.program lastReplayId call) := by
  cases call with
  | status => exact S.status_responds
  | refresh a => exact S.refresh_responds a
  | revoke a => exact S.revoke_responds a
  | provision a body => exact S.provision_responds a body
  | listSets a => exact S.listSets_responds a
  | createSet a body => exact S.createSet_responds a body
  | selectSet a body => exact S.selectSet_responds a body
  | activeSet a => exact S.activeSet_responds a
  | _ => cases h

end Server

/-! ## The callback before its `try` -/

/-- The state that the callback looks up, once the query has passed its checks. -/
def CallbackQuery.lookedUp (query : CallbackQuery) : Option QueryValue :=
  if query.denied then none
  else
    match QueryValue.present query.authCode with
    | none => none
    | some _ => QueryValue.present query.state

namespace Server

variable (S : Server)

/-- Past its checks the callback consumes the state and goes on with what it held. -/
theorem callback_cases (query : CallbackQuery) :
    (query.lookedUp = none ∧ ∃ response, S.callback query = respond response) ∨
      ∃ authCode state, query.lookedUp = some state ∧
        S.callback query = TokenStore.getAndDeleteState state >>= S.verify authCode state := by
  unfold callback CallbackQuery.lookedUp
  by_cases denied : query.denied = true
  · rw [if_pos denied, if_pos denied]
    exact .inl ⟨rfl, _, rfl⟩
  · rw [if_neg denied, if_neg denied]
    cases QueryValue.present query.authCode with
    | none => exact .inl ⟨rfl, _, rfl⟩
    | some authCode =>
        cases QueryValue.present query.state with
        | none => exact .inl ⟨rfl, _, rfl⟩
        | some state => exact .inr ⟨authCode, state, rfl, rfl⟩

theorem launch_program {call : ServerCall} {w v : ServerWorld} {x : ServerProg Unit}
    (h : S.system.launch call w = some (x, v)) : x = S.program w.listener.lastReplayId call := by
  obtain ⟨v', _, same⟩ := Option.map_eq_some_iff.mp h
  cases same
  rfl

/-- Every call keeps the contract of its program: what remains of it meets the contract after
the commands answered so far, and each of these was asked in order. -/
theorem run_meets {S : Server} {asks : ServerCall → List ServerAnswer → ServerCmd → Prop}
    {ends : ServerCall → List ServerAnswer → Except JsError Unit → Prop}
    (programs : ∀ lastReplayId call,
      (S.program lastReplayId call).Meets canAnswer (asks call) (ends call) [])
    {w : ServerWorld} {actions : List ServerAction} {c : ServerConfig}
    (h : S.system.run (.initial w) actions = some c) {pid : Nat}
    {p : Proc ServerCall (ServerProg Unit)} (hp : c.procs[pid]? = some p) :
    p.state.Meets canAnswer (asks p.entry) (ends p.entry) ((c.own pid).map Record.answer) ∧
      ∀ first r rest, c.own pid = first ++ r :: rest →
        asks p.entry (first.map Record.answer) r.cmd := by
  have launched : ∀ call w x v, S.system.launch call w = some (x, v) →
      x.Meets canAnswer (asks call) (ends call) [] := by
    intro call w x v hl
    rw [S.launch_program hl]
    exact programs _ call
  exact System.run_contract rfl (fun _ _ _ _ _ => canAnswer_of_exec) launched h hp

/-- A contract of one call holds wherever that call has got to. -/
theorem call_meets {S : Server} {call : ServerCall} {asks : List ServerAnswer → ServerCmd → Prop}
    {ends : List ServerAnswer → Except JsError Unit → Prop}
    (program : ∀ lastReplayId, (S.program lastReplayId call).Meets canAnswer asks ends [])
    {w : ServerWorld} {actions : List ServerAction} {c : ServerConfig}
    (h : S.system.run (.initial w) actions = some c) {pid : Nat}
    {p : Proc ServerCall (ServerProg Unit)} (hp : c.procs[pid]? = some p) (entry : p.entry = call) :
    p.state.Meets canAnswer asks ends ((c.own pid).map Record.answer) ∧
      ∀ first r rest, c.own pid = first ++ r :: rest → asks (first.map Record.answer) r.cmd := by
  have programs : ∀ lastReplayId other, (S.program lastReplayId other).Meets canAnswer
      (fun history cmd => other = call → asks history cmd)
      (fun final outcome => other = call → ends final outcome) [] := by
    intro lastReplayId other
    by_cases same : other = call
    · subst same
      exact (program lastReplayId).mono (fun _ _ asked _ => asked) fun _ _ ended _ => ended
    · exact (Prog.within_any _).meets (fun _ _ _ _ here => absurd here same)
        fun _ _ _ _ here => absurd here same
  obtain ⟨meets, asked⟩ := run_meets programs h hp
  exact ⟨meets.mono (fun _ _ asked => asked entry) fun _ _ ended => ended entry,
    fun first r rest split => asked first r rest split entry⟩

end Server

/-! ## What every route keeps -/

def ServerCall.delivers : ServerCall → Bool
  | .message _ | .runJob _ => true
  | _ => false

def ServerCmd.isPlain : ServerCmd → Bool
  | .eventSet _ | .delivery _ => false
  | _ => true

/-- The operations of the event set manager keep the contract wherever they are called. -/
structure Server.ManagerKeeps (S : Server) (asks : List ServerAnswer → ServerCmd → Prop) :
    Prop where
  list : ∀ a token,
    (onEventSets (CRMEventSetManager.list a token)).Throughout canAnswer asks
  create : ∀ a token name,
    (onEventSets (S.manager.create a token name)).Throughout canAnswer asks
  select : ∀ a eventSetId token,
    (onEventSets (CRMEventSetManager.select a eventSetId token)).Throughout canAnswer asks
  provision : ∀ a token name,
    (onEventSets (S.manager.provision a token name)).Throughout canAnswer asks
  resolve : ∀ a, (onEventSets (S.manager.resolve a)).Throughout canAnswer asks

namespace Server

section

variable (S : Server) {asks : List ServerAnswer → ServerCmd → Prop}

private theorem respond_throughout (plain : ∀ history cmd, cmd.isPlain = true → asks history cmd)
    (response : HttpResponse) : (respond response).Throughout canAnswer asks :=
  .call fun history => plain history _ rfl

private theorem onTokens_throughout (plain : ∀ history cmd, cmd.isPlain = true → asks history cmd)
    {α : Type} (program : TokenProg α) : (onTokens program).Throughout canAnswer asks := by
  have carried (cmd : TokenCmd) : (serve (.token cmd)).Throughout canAnswer asks :=
    .call fun history => plain history _ rfl
  exact .handle carried program

private theorem callback_throughout (plain : ∀ history cmd, cmd.isPlain = true → asks history cmd)
    (query : CallbackQuery) : (S.callback query).Throughout canAnswer asks := by
  have sends (response : HttpResponse) := respond_throughout plain response
  rcases S.callback_cases query with ⟨_, response, same⟩ | ⟨authCode, state, looked, same⟩
  · rw [same]
    exact sends response
  · rw [same]
    refine .bind ?_ fun stored => ?_
    · unfold TokenStore.getAndDeleteState
      cases state.toText with
      | error error => exact Prog.throughout_fail error
      | ok text =>
          have looking : (serve (.getDelState (TokenStore.stateKey text))).Throughout
              canAnswer asks := .call fun history => plain history _ rfl
          exact .bind looking fun _ => Prog.throughout_pure _
    · cases stored with
      | none => exact sends _
      | some stored =>
          simp only [verify]
          cases S.verifyState state stored.value with
          | error error => exact sends _
          | ok _ =>
              exact .catch (.bind (onTokens_throughout plain _) fun _ => sends _) fun _ => sends _

/-- A contract that admits every plain command, and that the manager keeps, is kept by every
call that delivers nothing. -/
theorem route_throughout (plain : ∀ history cmd, cmd.isPlain = true → asks history cmd)
    (manager : S.ManagerKeeps asks) (lastReplayId : Int) {call : ServerCall}
    (route : call.delivers = false) : (S.program lastReplayId call).Throughout canAnswer asks := by
  have sends (response : HttpResponse) := respond_throughout plain response
  have tokens {α : Type} (program : TokenProg α) := onTokens_throughout plain program
  cases call with
  | initiate =>
      have asked {cmd : ServerCmd} (h : cmd.isPlain = true) :
          (serve cmd).Throughout canAnswer asks := .call fun history => plain history cmd h
      exact .catch (.bind (asked rfl) fun _ => .bind (asked rfl) fun _ =>
        sends _) fun _ => sends _
  | callback query => exact S.callback_throughout plain query
  | status => exact .catch (.bind (tokens _) fun _ => sends _) fun _ => sends _
  | refresh a => exact .catch (.bind (tokens _) fun _ => sends _) fun _ => sends _
  | revoke a => exact .catch (.bind (tokens _) fun _ => sends _) fun _ => sends _
  | provision a body =>
      refine .catch (.bind (tokens _) fun token => ?_) fun error => ?_
      · exact .bind (manager.provision _ _ _) fun _ => sends _
      · split <;> exact sends _
  | listSets a =>
      exact .catch (.bind (tokens _) fun _ => .bind (manager.list _ _) fun _ => sends _) fun _ =>
        sends _
  | createSet a body =>
      have creating (name : String) : (S.createNamedSet a name).Throughout canAnswer asks :=
        .catch (.bind (tokens _) fun _ => .bind (manager.create _ _ _) fun _ =>
          .bind (manager.select _ _ _) fun _ => sends _) fun _ => sends _
      simp only [program, createSet]
      split
      · exact sends _
      · split
        · exact sends _
        · exact creating _
  | selectSet a body =>
      simp only [program, selectSet]
      split
      · exact sends _
      · refine .catch (.bind (tokens _) fun token => ?_) fun error => ?_
        · exact .bind (manager.select _ _ _) fun _ => sends _
        · split <;> exact sends _
  | activeSet a => exact .catch (.bind (manager.resolve _) fun _ => sends _) fun _ => sends _
  | refreshAll => exact .bind (tokens _) fun _ => Prog.throughout_pure _
  | refreshOne a => exact tokens _
  | _ => cases route

end

end Server

end SalesforceTikTok
