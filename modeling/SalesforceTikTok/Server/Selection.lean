import SalesforceTikTok.EventSet.Selection
import SalesforceTikTok.Server.Ownership

/-!
# Selecting requests fail cleanly

A request to provision, select or create an event set that runs alone either
reports a set, and then the row holds its id, or it leaves the advertiser's row
and copy as they were. A rejected write of the copy is the only failure that a
success hides.
-/

namespace SalesforceTikTok

open Concurrency Concurrency.System

/-! ## What the routes report -/

def sent (history : List ServerAnswer) : List HttpResponse :=
  history.filterMap fun
    | ⟨.respond response, _⟩ => some response
    | _ => none

theorem sent_append (first second : List ServerAnswer) :
    sent (first ++ second) = sent first ++ sent second :=
  List.filterMap_append

def selectedResponse (eventSet : CRMEventSet) : HttpResponse :=
  .json 200 (.object [("message", .string "Event set selected and stored as active."),
    ("event_set", eventSet.body)])

def createdResponse (eventSet : CRMEventSet) : HttpResponse :=
  .json 201 (.object [("message", .string "CRM event set created and set as active."),
    ("event_set", eventSet.body)])

/-- The advertiser for whom a call may select an event set. -/
def ServerCall.selects? : ServerCall → Option String
  | .provision a _ | .createSet a _ | .selectSet a _ => some a
  | _ => none

def ServerCall.Reports (eventSet : CRMEventSet) (response : HttpResponse) : ServerCall → Prop
  | .provision a _ => ∃ result : ProvisionResult, result.selected = some eventSet ∧
      response = Server.provisioned a result
  | .createSet _ _ => response = createdResponse eventSet
  | .selectSet _ _ => response = selectedResponse eventSet
  | _ => False

theorem ServerCall.unreported {call : ServerCall} {status : Nat} (error : 400 ≤ status)
    (body : JsValue) (eventSet : CRMEventSet) : ¬ call.Reports eventSet (.json status body) := by
  intro reports
  cases call with
  | provision a _ =>
      obtain ⟨result, selected, same⟩ := reports
      cases result <;> cases selected <;> cases same <;> omega
  | createSet a _ =>
      cases reports
      omega
  | selectSet a _ =>
      cases reports
      omega
  | _ => exact reports

theorem CRMEventSet.body_inj {x y : CRMEventSet} (h : x.body = y.body) :
    x.eventSetId = y.eventSetId := by
  simp only [CRMEventSet.body, JsValue.object.injEq, List.cons.injEq, Prod.mk.injEq,
    JsValue.string.injEq] at h
  exact h.1.2

/-- Provisioning responses that are alike report the same selection. -/
theorem provisioned_inj {a : String} {x y : ProvisionResult}
    (h : Server.provisioned a x = Server.provisioned a y) :
    x.selected.map (·.eventSetId) = y.selected.map (·.eventSetId) := by
  cases x <;> cases y <;> simp [Server.provisioned] at h ⊢ <;>
    first | rfl | exact congrArg some (CRMEventSet.body_inj h)

/-- What a response of the call says fits what the call wrote. -/
def Fits (call : ServerCall) (a : String) (response : HttpResponse)
    (history : List EventSetAnswer) : Prop :=
  ((∀ eventSet, ¬ call.Reports eventSet response) → Silent a history) ∧
    ∀ eventSet, call.Reports eventSet response → Selected a eventSet.eventSetId history

def Clean (call : ServerCall) (a : String) (final : List ServerAnswer)
    (outcome : Except JsError Unit) : Prop :=
  outcome = .ok () ∧
    ∃ response, sent final = [response] ∧ Fits call a response (eventSetAnswers final)

/-- Up to here nothing was sent, and nothing was written for the advertiser. -/
def Unsent (a : String) (history : List ServerAnswer) : Prop :=
  sent history = [] ∧ Silent a (eventSetAnswers history)

private theorem respond_clean {call : ServerCall} {a : String} {response : HttpResponse}
    {history : List ServerAnswer} (unsent : sent history = [])
    (fits : Fits call a response (eventSetAnswers history)) :
    (respond response).Meets canAnswer (fun _ _ => True) (Clean call a) history := by
  refine ⟨trivial, fun reply possible => ?_⟩
  have same : eventSetAnswers (history ++ [⟨.respond response, reply⟩]) =
      eventSetAnswers history := by
    rw [eventSetAnswers_append]
    exact List.append_nil _
  cases reply with
  | error error => cases possible
  | ok _ =>
      refine ⟨rfl, response, ?_, by rwa [same]⟩
      rw [sent_append, unsent]
      rfl

private theorem fits_failure {call : ServerCall} {a : String} {response : HttpResponse}
    {history : List EventSetAnswer} (silent : Silent a history)
    (failure : ∀ eventSet, ¬ call.Reports eventSet response) : Fits call a response history :=
  ⟨fun _ => silent, fun eventSet reports => absurd reports (failure eventSet)⟩

/-! ## The routes -/

def ServerCmd.OfTokens : ServerCmd → Prop
  | .token _ => True
  | _ => False

def ServerCmd.OfEventSets : ServerCmd → Prop
  | .eventSet _ => True
  | _ => False

/-- Work on the tokens neither responds nor touches an event set. -/
theorem onTokens_unsent {α : Type} (program : TokenProg α) {a : String}
    {history : List ServerAnswer} (unsent : Unsent a history) :
    (onTokens program).Meets canAnswer (fun _ _ => True) (fun final _ => Unsent a final)
      history := by
  have within : (onTokens program).Within ServerCmd.OfTokens fun _ => True :=
    (Prog.within_any program).handle fun cmd _ => Prog.within_call.mpr ⟨trivial, fun _ => trivial⟩
  refine within.meets (fun _ _ _ _ => trivial) fun more outcome tokens _ => ?_
  have silent : sent more = [] ∧ eventSetAnswers more = [] := by
    constructor <;> refine List.filterMap_eq_nil_iff.mpr fun ⟨cmd, reply⟩ mem => ?_
    · cases cmd <;> first | rfl | cases tokens _ mem
    · cases cmd <;> first | rfl | cases tokens _ mem
  rw [Unsent, sent_append, eventSetAnswers_append, silent.1, silent.2, List.append_nil,
    List.append_nil]
  exact unsent

/-- Work on the event sets does not respond, and writes as the manager does. -/
theorem onEventSets_unsent {α : Type} {program : EventSetProg α}
    {ends : List EventSetAnswer → Except JsError α → Prop} {history : List ServerAnswer}
    (h : program.Meets (fun _ _ => True) (fun _ _ => True) ends (eventSetAnswers history))
    (unsent : sent history = []) :
    (onEventSets program).Meets canAnswer (fun _ _ => True) (fun final outcome =>
      ends (eventSetAnswers final) outcome ∧ sent final = []) history := by
  have within : (onEventSets program).Within ServerCmd.OfEventSets fun _ => True :=
    (Prog.within_any program).handle fun cmd _ => Prog.within_call.mpr ⟨trivial, fun _ => trivial⟩
  refine (onEventSets_meets (fun _ _ _ => trivial) h).and
    (within.meets (fun _ _ _ _ => trivial) fun more outcome sets _ => ?_)
  have silent : sent more = [] := by
    refine List.filterMap_eq_nil_iff.mpr fun ⟨cmd, reply⟩ mem => ?_
    cases cmd <;> first | rfl | cases sets _ mem
  rw [sent_append, unsent, silent]
  rfl

/-- A route that works with a valid token: its work on the event sets either reports what it
wrote or fails without a trace, and then the failure is reported. -/
theorem tokenRoute_clean {call : ServerCall} {a : String} {next : String → ServerProg Unit}
    {handler : JsError → ServerProg Unit}
    (work : ∀ token history, Unsent a history → (next token).Meets canAnswer (fun _ _ => True)
      (fun final outcome => Clean call a final outcome ∨
        (∃ error, outcome = .error error) ∧ Unsent a final) history)
    (failure : ∀ error, ∃ response, handler error = respond response ∧
      ∀ eventSet, ¬ call.Reports eventSet response) :
    (tryCatch (onTokens (TikTokOAuthClient.getValidToken a) >>= next) handler).Meets canAnswer
      (fun _ _ => True) (Clean call a) [] := by
  have body : (onTokens (TikTokOAuthClient.getValidToken a) >>= next).Meets canAnswer
      (fun _ _ => True) (fun final outcome => Clean call a final outcome ∨
        (∃ error, outcome = .error error) ∧ Unsent a final) [] :=
    (onTokens_unsent _ ⟨rfl, rfl, rfl⟩).bind (fun final token unsent => work token final unsent)
      fun final error unsent => .inr ⟨⟨error, rfl⟩, unsent⟩
  refine body.catch ?_ ?_
  · rintro final _ (clean | ⟨⟨error, failed⟩, _⟩)
    · exact clean
    · cases failed
  · rintro final error (⟨failed, _⟩ | ⟨_, unsent⟩)
    · cases failed
    · obtain ⟨response, same, unreported⟩ := failure error
      rw [same]
      exact respond_clean unsent.1 (fits_failure unsent.2 unreported)

namespace Server

open CRMEventSetManager

variable (S : Server) (a : String)

private theorem provision_clean (body : RequestBody) :
    (S.provision a body).Meets canAnswer (fun _ _ => True) (Clean (.provision a body) a) [] := by
  refine tokenRoute_clean (fun token history unsent => ?_) fun error => ?_
  · refine (onEventSets_unsent (provision_selects S.manager a token _ unsent.2) unsent.1).bind ?_ ?_
    · rintro final result ⟨⟨_, same, leaves⟩, quiet⟩
      cases same
      refine (respond_clean quiet ⟨fun none => ?_, ?_⟩).imp fun _ _ clean => .inl clean
      · cases selected : result.selected with
        | none => rwa [selected] at leaves
        | some eventSet => exact absurd ⟨result, selected, rfl⟩ (none eventSet)
      · rintro eventSet ⟨result', selected, same⟩
        rw [provisioned_inj same, selected] at leaves
        exact leaves
    · rintro final error ⟨⟨_, lost, _⟩, _⟩
      cases lost
  · split
    · exact ⟨_, rfl, ServerCall.unreported (by decide) _⟩
    · exact ⟨_, rfl, ServerCall.unreported (by decide) _⟩

private theorem selected_clean {call : ServerCall} {eventSet : CRMEventSet}
    {response : HttpResponse} {final : List ServerAnswer} (quiet : sent final = [])
    (selected : Selected a eventSet.eventSetId (eventSetAnswers final))
    (reported : call.Reports eventSet response)
    (only : ∀ eventSet', call.Reports eventSet' response →
      eventSet'.eventSetId = eventSet.eventSetId) :
    (respond response).Meets canAnswer (fun _ _ => True) (fun final outcome =>
      Clean call a final outcome ∨ (∃ error, outcome = .error error) ∧ Unsent a final) final := by
  refine (respond_clean quiet ⟨fun none => absurd reported (none eventSet), ?_⟩).imp
    fun _ _ clean => .inl clean
  intro eventSet' reports
  rwa [only eventSet' reports]

private theorem selectSet_clean (body : RequestBody) :
    (selectSet a body).Meets canAnswer (fun _ _ => True) (Clean (.selectSet a body) a) [] := by
  unfold selectSet
  split
  · exact respond_clean rfl (fits_failure ⟨rfl, rfl⟩ (ServerCall.unreported (by decide) _))
  · refine tokenRoute_clean (fun token history unsent => ?_) fun error => ?_
    · refine (onEventSets_unsent (select_selects a _ token unsent.2) unsent.1).bind ?_ ?_
      · rintro final eventSet ⟨⟨selected, _⟩, quiet⟩
        refine selected_clean a quiet selected rfl fun eventSet' same => ?_
        simp only [ServerCall.Reports, selectedResponse, HttpResponse.json.injEq,
          JsValue.object.injEq, List.cons.injEq, Prod.mk.injEq] at same
        exact (CRMEventSet.body_inj same.2.2.1.2).symm
      · rintro final error ⟨⟨silent, _⟩, quiet⟩
        exact .inr ⟨⟨error, rfl⟩, quiet, silent⟩
    · split
      · exact ⟨_, rfl, ServerCall.unreported (by decide) _⟩
      · exact ⟨_, rfl, ServerCall.unreported (by decide) _⟩

private theorem createNamedSet_clean (name : String) (body : RequestBody) :
    (S.createNamedSet a name).Meets canAnswer (fun _ _ => True) (Clean (.createSet a body) a)
      [] := by
  refine tokenRoute_clean (fun token history unsent => ?_) fun error =>
    ⟨_, rfl, ServerCall.unreported (by decide) _⟩
  refine (onEventSets_unsent (silent_of_within (create_reads S.manager a token (some name))
    unsent.2) unsent.1).bind ?_ ?_
  · rintro final created ⟨⟨silent, _⟩, quiet⟩
    refine (onEventSets_unsent (select_selects a created.eventSetId token silent) quiet).bind ?_ ?_
    · rintro final selected ⟨⟨leaves, same⟩, quiet⟩
      have here := same selected rfl
      have selects : Selected a created.eventSetId (eventSetAnswers final) := here ▸ leaves
      refine selected_clean a quiet selects rfl fun other same => ?_
      simp only [ServerCall.Reports, createdResponse, HttpResponse.json.injEq,
        JsValue.object.injEq, List.cons.injEq, Prod.mk.injEq] at same
      exact (CRMEventSet.body_inj same.2.2.1.2).symm
    · rintro final error ⟨⟨silent, _⟩, quiet⟩
      exact .inr ⟨⟨error, rfl⟩, quiet, silent⟩
  · rintro final error ⟨⟨silent, _⟩, quiet⟩
    exact .inr ⟨⟨error, rfl⟩, quiet, silent⟩

private theorem createSet_clean (body : RequestBody) :
    (S.createSet a body).Meets canAnswer (fun _ _ => True) (Clean (.createSet a body) a) [] := by
  have refused : (respond (.json 400
      (errorBody "Request body must include a non-empty \"name\" field"))).Meets canAnswer
        (fun _ _ => True) (Clean (.createSet a body) a) [] :=
    respond_clean rfl (fits_failure ⟨rfl, rfl⟩ (ServerCall.unreported (by decide) _))
  unfold createSet
  split
  · exact refused
  · split
    · exact refused
    · exact S.createNamedSet_clean a _ body

private theorem selecting_clean {call : ServerCall} (selects : call.selects? = some a)
    (lastReplayId : Int) :
    (S.program lastReplayId call).Meets canAnswer (fun _ _ => True) (Clean call a) [] := by
  cases call with
  | provision b body => cases selects; exact S.provision_clean a body
  | createSet b body => cases selects; exact S.createSet_clean a body
  | selectSet b body => cases selects; exact selectSet_clean a body
  | _ => cases selects

/-! ## Over runs -/

variable {S a}

/-- A command that a call may await does to an advertiser's row and copy what it writes. -/
theorem exec_replayed {call : ServerCall} {history : List ServerAnswer} {cmd : ServerCmd}
    {choice : ServerChoice} {w v : ServerWorld} {reply : Except JsError cmd.Reply}
    (asked : S.Asks call history cmd)
    (h : serverExec S.env S.copyText cmd choice w = some (reply, v))
    (effectless : ∀ error, choice ≠ .eventSet (.failAfter error)) {u : EventSetWorld}
    {before : List EventSetAnswer} (replayed : Replayed a u before w.eventSet) :
    Replayed a u (before ++ eventSetAnswers [⟨cmd, reply⟩]) v.eventSet := by
  have same {v : EventSetWorld} (rows : v.rows = w.eventSet.rows)
      (copy : v.cache.lookup (cacheKey a) = w.eventSet.cache.lookup (cacheKey a)) :
      Replayed a u (before ++ []) v := by
    rw [List.append_nil]
    refine ⟨?_, fun written => ?_, fun written => copy.trans (replayed.kept written),
      fun id written => ?_⟩
    · rw [EventSetWorld.selectId, rows]
      exact replayed.row
    · rw [rows]
      exact replayed.whole written
    · rw [copy]
      exact replayed.copied id written
  have removed (state : String) : (w.redisDel (TokenStore.stateKey state)).eventSet.cache.lookup
      (cacheKey a) = w.eventSet.cache.lookup (cacheKey a) :=
    AList.lookup_erase_ne (Ne.symm (stateKey_ne_eventSet state a))
  cases serverExec_effect h with
  | eventSet he =>
      refine replayed.append (eventSetExec_replayed he (fun error lost => ?_) a)
      exact effectless error (by rw [lost])
  | @setState key value _ _ _ _ effect =>
      obtain ⟨_, _, rfl, _⟩ := asked
      rcases effect with rfl | rfl
      · exact same rfl rfl
      · exact same rfl (removed value)
  | @getDelState key _ _ _ effect =>
      obtain ⟨_, _, text, _, _, _, _, rfl⟩ := asked
      rcases effect with rfl | rfl
      · exact same rfl rfl
      · exact same rfl (removed text)
  | _ => exact same rfl rfl

def Effectless (trace : List ServerRecord) : Prop :=
  ∀ r ∈ trace, ∀ error, r.choice ≠ .eventSet (.failAfter error)

/-- If failed store commands have no effect, the stores hold for an advertiser what they held
at the start, up to the last writes of the run. -/
theorem run_replayed {w : ServerWorld} {actions : List ServerAction} {c : ServerConfig}
    (h : S.system.run (.initial w) actions = some c)
    (effectless : Effectless c.trace) :
    Replayed a w.eventSet (eventSetAnswers (c.trace.map Record.answer)) c.world.eventSet := by
  have start : Replayed a w.eventSet [] w.eventSet := .refl a w.eventSet
  refine run_induction (fun _ (d : ServerConfig) => Effectless d.trace →
    Replayed a w.eventSet (eventSetAnswers (d.trace.map Record.answer)) d.world.eventSet)
    ?_ h (fun _ => start) effectless
  intro taken d action d' hd replayed hs effectless
  have before := replayed fun r hr => effectless r ((step_trace hs).subset hr)
  cases action with
  | start call =>
      obtain ⟨x, v, hl, rfl⟩ := step_start hs
      obtain ⟨u, he, kept⟩ := Option.map_eq_some_iff.mp hl
      cases kept
      have same : v.eventSet = d.world.eventSet := enter_eventSet he
      simpa only [same] using before
  | resume pid choice =>
      obtain ⟨p, cmd, resume, reply, v, hp, hv, he, rfl⟩ := step_resume hs
      have last : ∀ error, choice ≠ .eventSet (.failAfter error) :=
        effectless ⟨pid, cmd, choice, reply⟩ (List.mem_append_right _ (List.mem_singleton_self _))
      simp only [List.map_append, eventSetAnswers_append]
      exact exec_replayed (awaits_asked hd hp hv) he last before
  | env event =>
      obtain ⟨v, he, rfl⟩ := step_env hs
      cases event with
      | tick elapsed =>
          cases he
          exact ⟨before.row, before.whole, before.kept, before.copied⟩
      | evict jobId =>
          obtain ⟨delivery, _, rfl⟩ := Option.map_eq_some_iff.mp he
          exact ⟨before.row, before.whole, before.kept, before.copied⟩

def CopyRejected (history : List ServerAnswer) (a id : String) : Prop :=
  ∃ error ttl, ⟨.cacheSet (cacheKey a) id ttl, .error error⟩ ∈ eventSetAnswers history

/-- A request that is the only call of a run ends with one response. Unless that reports a set,
the advertiser's row and copy are what they were; if it does, the row holds the set's id, and so
does the copy, unless Redis rejected its write. -/
theorem selection_fails_cleanly {w : ServerWorld} {actions : List ServerAction}
    {c : ServerConfig} (h : S.system.run (.initial w) actions = some c) {call : ServerCall}
    (alone : c.entries = [call]) {a : String} (selects : call.selects? = some a)
    (effectless : ∀ r ∈ c.trace, ∀ error, r.choice ≠ .eventSet (.failAfter error))
    {outcome : Except JsError Unit} (ended : S.system.Ended c 0 outcome) :
    ∃ response, sent ((c.own 0).map Record.answer) = [response] ∧
      ((∀ eventSet, ¬ call.Reports eventSet response) →
        c.world.eventSet.rows.lookup a = w.eventSet.rows.lookup a ∧
          c.world.eventSet.cache.lookup (cacheKey a) = w.eventSet.cache.lookup (cacheKey a)) ∧
      ∀ eventSet, call.Reports eventSet response →
        c.world.eventSet.selectId a = some eventSet.eventSetId ∧
          ((∃ expiry, c.world.eventSet.cache.lookup (cacheKey a) =
              some (eventSet.eventSetId, expiry)) ∨
            c.world.eventSet.cache.lookup (cacheKey a) = w.eventSet.cache.lookup (cacheKey a) ∧
              CopyRejected ((c.own 0).map Record.answer) a eventSet.eventSetId) := by
  obtain ⟨p, hp, hv⟩ := ended
  have entry : p.entry = call := by
    have first : c.entries[0]? = some p.entry := by rw [Config.entries, List.getElem?_map, hp]; rfl
    rw [alone] at first
    exact (Option.some.inj first).symm
  have own : c.own 0 = c.trace := by
    refine List.filter_eq_self.mpr fun r hr => decide_eq_true ?_
    have bound := run_pid_bound h r hr
    have one : c.procs.length = 1 := by
      rw [← List.length_map Proc.entry]
      exact congrArg List.length alone
    omega
  have replayed := run_replayed (a := a) h effectless
  rw [← own] at replayed
  have clean := (call_meets (selecting_clean S a selects) h hp entry).1.ended hv
  obtain ⟨_, response, responded, failed, reported⟩ := clean
  refine ⟨response, responded, fun none => ?_, fun eventSet reports => ?_⟩
  · obtain ⟨row, copy⟩ := failed none
    exact ⟨replayed.whole row, replayed.kept copy⟩
  · obtain ⟨row, copied | ⟨none, error, ttl, rejected⟩⟩ := reported eventSet reports
    · exact ⟨by rw [replayed.row, row]; rfl, .inl (replayed.copied _ copied)⟩
    · exact ⟨by rw [replayed.row, row]; rfl, .inr ⟨replayed.kept none, error, ttl, rejected⟩⟩

end Server

namespace ServerSample

/-- The authorised advertiser creates an event set, and Redis rejects the copy of its id. -/
def creatingUncached : List ServerAction :=
  [.start (.createSet "adv-001" [("name", .string "Leads")]), .resume 0 (.token .ok),
    .resume 0 (.token .ok), .resume 0 (.token .ok), .resume 0 (.eventSet (.created leadSet)),
    .resume 0 (.eventSet .ok), .resume 0 (.eventSet .ok), .resume 0 (.eventSet .ok),
    .resume 0 (.eventSet .ok), .resume 0 (.eventSet (.fail TokenSample.redisDown)), .resume 0 .ok]

def leadEventSet : CRMEventSet where
  eventSetId := "set-1"
  name := "Leads"
  advertiserId := "adv-001"
  createTime := 0
  updateTime := 0

end ServerSample

open ServerSample in
theorem selection_fails_cleanly_created :
    let w := (after granting (by decide)).world
    let c := server.system.result (.initial w) creatingUncached (by decide)
    c.world.eventSet.selectId "adv-001" = some "set-1" ∧
      ((∃ expiry, c.world.eventSet.cache.lookup (CRMEventSetManager.cacheKey "adv-001") =
          some ("set-1", expiry)) ∨
        c.world.eventSet.cache.lookup (CRMEventSetManager.cacheKey "adv-001") =
            w.eventSet.cache.lookup (CRMEventSetManager.cacheKey "adv-001") ∧
          Server.CopyRejected ((c.own 0).map Record.answer) "adv-001" "set-1") := by
  intro w c
  have alone : c.entries = [.createSet "adv-001" [("name", .string "Leads")]] := rfl
  have effectless : ∀ r ∈ c.trace, ∀ error, r.choice ≠ .eventSet (.failAfter error) := by
    have choices : c.trace.map Record.choice = [.token .ok, .token .ok, .token .ok,
        .eventSet (.created leadSet), .eventSet .ok, .eventSet .ok, .eventSet .ok, .eventSet .ok,
        .eventSet (.fail TokenSample.redisDown), .ok] := rfl
    intro r hr error same
    have mem := List.mem_map_of_mem (f := Record.choice) hr
    rw [choices, same] at mem
    simp at mem
  have ended : server.system.Ended c 0 (.ok ()) := ⟨_, rfl, rfl⟩
  obtain ⟨response, responded, _, reported⟩ :=
    Server.selection_fails_cleanly (run_result _) alone rfl effectless ended
  have same : sent ((c.own 0).map Record.answer) = [createdResponse leadEventSet] := rfl
  rw [same] at responded
  cases responded
  exact reported leadEventSet rfl

end SalesforceTikTok
