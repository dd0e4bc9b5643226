import SalesforceTikTok.Auth.Effects
import SalesforceTikTok.Delivery.History
import SalesforceTikTok.Server.Responses

/-!
# Failures

How a request, a CDC message and a tick of the refresher end when Redis, Postgres
and TikTok fail as they please. A route that does its fallible work inside its
`try` sends one response whatever happens; two awaits stand outside of every `try`:
the lookup of the state in the OAuth callback and the list query of `refreshAll`.
-/

namespace SalesforceTikTok

open Concurrency Concurrency.System

/-! ## The unguarded awaits -/

/-- The state to look up has no text: the template literal of its key throws. -/
def CallbackQuery.Unreadable (query : CallbackQuery) : Prop :=
  ∃ state error, query.lookedUp = some state ∧ state.toText = .error error

/-- Whether the call is a run of a queued job, which BullMQ awaits and books. -/
def ServerCall.isJob : ServerCall → Bool
  | .runJob _ => true
  | _ => false

/-- What happened to the call outside of every `try`: the state of a callback has no text,
Redis rejected its lookup, or Postgres rejected the list of `refreshAll`. -/
def Unguarded : ServerCall → List ServerAnswer → Prop
  | .callback query, history =>
      query.Unreadable ∨
        ∃ key error, (⟨.getDelState key, .error error⟩ : ServerAnswer) ∈ lookups history
  | .refreshAll, history =>
      ∃ error, (⟨.token .selectActiveIds, .error error⟩ : ServerAnswer) ∈ history
  | _, _ => False

def Handled (call : ServerCall) (history : List ServerAnswer) (outcome : Except JsError Unit) :
    Prop :=
  outcome = .ok () ∧ responses history = if call.isRoute then 1 else 0

/-- The contract of a call: it is handled unless it fails outside of every `try`, and all it
awaits can be answered. -/
abbrev HandledUnless (call : ServerCall) (program : ServerProg Unit)
    (history : List ServerAnswer) : Prop :=
  program.Meets canAnswer (fun _ cmd => cmd.isPick = false)
    (fun final outcome => Handled call final outcome ↔ ¬ Unguarded call final) history

/-- A program that responds is handled where the lookups so far were answered. -/
theorem Responds.handled {P : ServerCmd → Prop} (internal : ∀ {cmd}, P cmd → cmd.Internal)
    {program : ServerProg Unit} (h : Responds P program) {call : ServerCall}
    {history : List ServerAnswer} (route : call.isRoute = true) (none : responses history = 0)
    (guarded : ∀ final, lookups final = lookups history → ¬ Unguarded call final) :
    HandledUnless call program history := by
  refine (h history).mono (fun _ cmd asked => ?_) fun final outcome ends => ?_
  · rcases asked with asked | sending
    · exact (internal asked).2.2
    · cases cmd with
      | respond response => rfl
      | _ => cases sending
  · obtain ⟨rfl, sent, same⟩ := ends
    exact ⟨fun _ => guarded final same, fun _ => ⟨rfl, by rw [sent, none, route]; rfl⟩⟩

namespace Server

variable (S : Server)

private theorem callback_meets (query : CallbackQuery) :
    HandledUnless (.callback query) (S.callback query) [] := by
  rcases S.callback_cases query with ⟨idle, response, same⟩ | ⟨authCode, state, looked, same⟩
  · rw [same]
    refine Responds.handled id (respond_responds response) rfl rfl fun final same' => ?_
    rintro (⟨state, error, looked, _⟩ | ⟨key, error, rejected⟩)
    · rw [idle] at looked
      cases looked
    · rw [same'] at rejected
      cases rejected
  · rw [same]
    cases read : state.toText with
    | error error =>
        rw [TokenStore.getAndDeleteState_unreadable read]
        have unguarded : Unguarded (.callback query) [] := .inl ⟨state, error, looked, read⟩
        refine ⟨fun handled => ?_, fun guarded => absurd unguarded guarded⟩
        cases handled.1
    | ok text =>
        rw [TokenStore.getAndDeleteState_bind read]
        refine ⟨rfl, fun reply _ => ?_⟩
        cases reply with
        | error error =>
            have unguarded : Unguarded (.callback query)
                [⟨.getDelState (TokenStore.stateKey text), .error error⟩] :=
              .inr ⟨TokenStore.stateKey text, error, by simp [lookups, ServerCmd.isLookup]⟩
            refine ⟨fun handled => ?_, fun guarded => absurd unguarded guarded⟩
            cases handled.1
        | ok value =>
            refine Responds.handled id (S.verify_responds authCode state _) rfl rfl
              fun final same' => ?_
            rintro (⟨state', error, looked', unread⟩ | ⟨key, error, rejected⟩)
            · rw [looked] at looked'
              cases looked'
              rw [read] at unread
              cases unread
            · rw [same'] at rejected
              simp [lookups, ServerCmd.isLookup] at rejected

private theorem within_meets {call : ServerCall} {program : ServerProg Unit}
    (h : program.Within (ServerCmd.Component S.env false) fun outcome => outcome = .ok ())
    (background : call.isRoute = false) (guarded : ∀ history, ¬ Unguarded call history) :
    HandledUnless call program [] := by
  refine h.meets (fun _ _ _ asked => asked.internal.2.2) fun more outcome within resolved => ?_
  have silent : responses ([] ++ more) = 0 :=
    responses_internal fun a ha => (within a ha).internal
  exact ⟨fun _ => guarded _, fun _ => ⟨resolved, by rw [silent, background]; rfl⟩⟩

private theorem refreshAll_meets (lastReplayId : Int) :
    HandledUnless .refreshAll (S.program lastReplayId .refreshAll) [] := by
  refine ⟨rfl, fun reply _ => ?_⟩
  cases reply with
  | ok advertiserIds =>
      have guarded : ¬ Unguarded .refreshAll [⟨.token .selectActiveIds, .ok advertiserIds⟩] := by
        rintro ⟨error, rejected⟩
        simp at rejected
      exact ⟨fun _ => guarded, fun _ => ⟨rfl, rfl⟩⟩
  | error error =>
      have unguarded : Unguarded .refreshAll [⟨.token .selectActiveIds, .error error⟩] :=
        ⟨error, List.mem_singleton_self _⟩
      refine ⟨fun handled => ?_, fun guarded => absurd unguarded guarded⟩
      cases handled.1

private theorem program_meets (lastReplayId : Int) {call : ServerCall}
    (claimed : call.isJob = false) : HandledUnless call (S.program lastReplayId call) [] := by
  by_cases plain : routine call = true
  · have route : call.isRoute = true := by
      cases call <;> first | rfl | cases plain
    have guarded : ∀ final, ¬ Unguarded call final := by
      intro final
      cases call <;> first | exact id | cases plain
    exact (S.routine_responds lastReplayId plain).handled ServerCmd.Component.internal route rfl
      fun final _ => guarded final
  · cases call with
    | initiate => exact S.initiate_responds.handled id rfl rfl fun _ _ => id
    | callback query => exact S.callback_meets query
    | message rawMessage =>
        exact S.within_meets (S.onMessages_within
          (SalesforceCDCListener.handleRawMessage_within rawMessage lastReplayId)) rfl fun _ => id
    | runJob jobId => cases claimed
    | refreshAll => exact S.refreshAll_meets lastReplayId
    | refreshOne a =>
        exact S.within_meets (onTokens_within (ProactiveRefresher.refreshOne_within a)) rfl
          fun _ => id
    | _ => exact absurd rfl plain

/-! ## Over runs -/

/-- A request, a CDC message or a tick of the refresher comes to an end under every pattern
of failures, and it is handled unless it failed where no `try` stands. -/
theorem handled_iff {w : ServerWorld} {actions : List ServerAction} {c : ServerConfig}
    (h : S.system.run (.initial w) actions = some c) {pid : Nat}
    {p : Proc ServerCall (ServerProg Unit)} (hp : c.procs[pid]? = some p)
    (claimed : p.entry.isJob = false) :
    S.system.Settles c pid ∧ ∀ outcome, S.system.Ended c pid outcome →
      (Handled p.entry ((c.own pid).map Record.answer) outcome ↔
        ¬ Unguarded p.entry ((c.own pid).map Record.answer)) := by
  obtain ⟨meets, _⟩ := call_meets (fun lastReplayId => S.program_meets lastReplayId claimed) h hp rfl
  constructor
  · refine Settles.of_meets rfl (fun _ _ _ _ _ => canAnswer_of_exec) ?_ hp meets
    exact fun _ _ asked w => exec_answers S.env S.copyText asked w
  · intro outcome ended
    exact meets.ended (ended.view_eq hp)

end Server

/-! ## Two outages -/

namespace ServerSample

def escape (c : Char) : String :=
  if c = ':' then "%3A" else if c = '/' then "%2F" else c.toString

def server : Server where
  platform := Sample.platform
  env := Sample.pipeline.env
  TIKTOK_APP_ID := "test-app-id"
  TIKTOK_REDIRECT_URI := "https://example.com/auth/tiktok/callback"
  isoDate _ := "1970-01-01"
  isoTime _ := "1970-01-02T00:00:00.000Z"
  copyText copy := "\x7b\"access_token\":\"" ++ copy.accessToken ++ "\"\x7d"
  searchParams params := "&".intercalate (params.map fun param =>
    param.1 ++ "=" ++ String.join (param.2.toList.map escape))
  queryText _ := "[]"
  bodyText _ := "null"

abbrev after (actions : List ServerAction)
    (possible : (server.system.run (.initial (.fresh 0)) actions).isSome = true) :
    ServerConfig :=
  server.system.result (.initial (.fresh 0)) actions possible

def query : CallbackQuery where
  authCode := some (.text "auth-code")
  state := some (.text "state-token")
  error := none

def postgresDown : JsError where
  message := "Connection terminated unexpectedly"

/-- Redis is down for a callback, Postgres for a tick of the refresher. -/
def outages : List ServerAction :=
  [.start (.callback query), .resume 0 (.fail TokenSample.redisDown), .start .refreshAll,
    .resume 1 (.token (.fail postgresDown))]

def caughtOutage : List ServerAction :=
  [.start .status, .resume 0 (.token (.fail postgresDown)), .resume 0 .ok]

end ServerSample

open ServerSample in
theorem status_handled :
    let c := after caughtOutage (by decide)
    server.system.Settles c 0 ∧ ∀ outcome, server.system.Ended c 0 outcome →
      Handled .status ((c.own 0).map Record.answer) outcome := by
  intro c
  obtain ⟨state, hp⟩ : ∃ state, c.procs[0]? = some ⟨.status, state⟩ := ⟨_, rfl⟩
  obtain ⟨settles, ends⟩ := server.handled_iff (run_result _) hp rfl
  exact ⟨settles, fun outcome ended => (ends outcome ended).mpr id⟩

open ServerSample in
/-- The callback and the tick both reject, and the request gets no response. -/
theorem outages_unhandled :
    let c := after outages (by decide)
    server.system.Ended c 0 (.error TokenSample.redisDown) ∧
      responses ((c.own 0).map Record.answer) = 0 ∧
      server.system.Ended c 1 (.error postgresDown) :=
  ⟨⟨_, rfl, rfl⟩, rfl, ⟨_, rfl, rfl⟩⟩

end SalesforceTikTok
