import SalesforceTikTok.EventSet.Ownership
import SalesforceTikTok.Server.Authorisation

/-!
# Stored event sets belong to their advertiser

Every id in an advertiser's row, and every copy under its key, was returned by
TikTok for that advertiser. The manager writes nothing else, whatever the clients
ask for, and what it copies from a row was written there before.
-/

namespace SalesforceTikTok

open Concurrency Concurrency.System

/-- What a call of the server may write to the stores of the event sets. -/
def ServerCmd.Justified (history : List ServerAnswer) : ServerCmd → Prop
  | .eventSet cmd => cmd.Justified (eventSetAnswers history)
  | _ => True

theorem ServerCmd.justified_of_isPlain {cmd : ServerCmd} (plain : cmd.isPlain = true)
    (history : List ServerAnswer) : cmd.Justified history := by
  cases cmd with
  | eventSet cmd => cases plain
  | _ => trivial

private theorem onEventSets_throughout {α : Type} {program : EventSetProg α}
    {ends : List EventSetAnswer → Except JsError α → Prop}
    (h : CRMEventSetManager.Keeps program ends) :
    (onEventSets program).Throughout canAnswer ServerCmd.Justified :=
  fun _ => (onEventSets_meets (fun _ _ justified => justified) (h _)).imp fun _ _ _ => trivial

namespace Server

open CRMEventSetManager

variable (S : Server)

private theorem managerKeeps : S.ManagerKeeps ServerCmd.Justified where
  list a token := onEventSets_throughout (list_keeps a token)
  create a token name := onEventSets_throughout (create_keeps S.manager a token name)
  select a eventSetId token := onEventSets_throughout (select_keeps a eventSetId token)
  provision a token name :=
    onEventSets_throughout (CRMEventSetManager.provision_keeps S.manager a token name)
  resolve a := onEventSets_throughout (resolve_keeps S.manager a)

private theorem onDeliveries_throughout {α : Type} (program : DeliveryProg α) :
    (S.onDeliveries program).Throughout canAnswer ServerCmd.Justified := by
  refine .handle (fun cmd => ?_) program
  cases cmd with
  | resolveEventSet a => exact S.managerKeeps.resolve a
  | _ => exact .call fun _ => trivial

private theorem program_throughout (lastReplayId : Int) (call : ServerCall) :
    (S.program lastReplayId call).Throughout canAnswer ServerCmd.Justified := by
  cases call with
  | message rawMessage =>
      refine .handle (fun cmd => ?_) _
      cases cmd with
      | onEvent cdcEvent lead => exact S.onDeliveries_throughout (S.pipeline.process cdcEvent lead)
      | _ => exact .call fun _ => trivial
  | runJob jobId => exact S.onDeliveries_throughout _
  | _ =>
      exact S.route_throughout (fun history _ plain => ServerCmd.justified_of_isPlain plain history)
        S.managerKeeps lastReplayId rfl

end Server

/-! ## Over runs -/

/-- TikTok returned the id for this advertiser in one of the answers. -/
def ReturnedFor (trace : List ServerRecord) (a id : String) : Prop :=
  Obtained (eventSetAnswers (trace.map Record.answer)) a id

theorem ReturnedFor.mono {first second : List ServerRecord} (sub : first ⊆ second) {a id : String}
    (h : ReturnedFor first a id) : ReturnedFor second a id :=
  Obtained.mono (eventSetAnswers_sub (List.map_subset _ sub)) h

/-- The stores name for an advertiser only what TikTok returned for it, and so did they when
they were read. -/
structure Belong (w : ServerWorld) (trace : List ServerRecord) : Prop where
  named : ∀ a id, w.eventSet.Names a id → ReturnedFor trace a id
  read : ∀ a id, ReadBack (eventSetAnswers (trace.map Record.answer)) a id → ReturnedFor trace a id

private theorem serverExec_names {env : Env} {copyText : ActiveToken → String} {cmd : ServerCmd}
    {choice : ServerChoice} {w v : ServerWorld} {reply : Except JsError cmd.Reply}
    (h : serverExec env copyText cmd choice w = some (reply, v)) {a id : String}
    (names : v.eventSet.Names a id) :
    w.eventSet.Names a id ∨ ∃ cmd', cmd = .eventSet cmd' ∧ cmd'.Writes a id := by
  have removed (key : String) (names : (w.redisDel key).eventSet.Names a id) :
      w.eventSet.Names a id := by
    rcases names with row | ⟨expiry, copy⟩
    · exact .inl row
    · exact .inr ⟨expiry, Storage.Expiring.lookup_of_del copy⟩
  cases serverExec_effect h with
  | @eventSet cmd _ _ _ he =>
      exact (eventSetExec_names he names).imp (fun kept => kept) fun writes => ⟨cmd, rfl, writes⟩
  | @setState key value ttl _ _ _ effect =>
      rcases effect with rfl | rfl
      · exact .inl names
      · exact .inl (removed key names)
  | @getDelState key _ _ _ effect =>
      rcases effect with rfl | rfl
      · exact .inl names
      · exact .inl (removed key names)
  | _ => exact .inl names

namespace Server

theorem enter_eventSet {call : ServerCall} {w v : ServerWorld} (h : enter call w = some v) :
    v.eventSet = w.eventSet := by
  cases call with
  | message rawMessage => cases h; rfl
  | refreshOne a =>
      obtain ⟨token, _, rfl⟩ := Option.map_eq_some_iff.mp h
      rfl
  | _ => cases h; rfl

/-- What a call awaits is justified by what it was answered. -/
theorem awaits_justified {S : Server} {w : ServerWorld} {actions : List ServerAction}
    {c : ServerConfig} (h : S.system.run (.initial w) actions = some c) {pid : Nat}
    {p : Proc ServerCall (ServerProg Unit)} (hp : c.procs[pid]? = some p) {cmd : ServerCmd}
    {resume : Except JsError cmd.Reply → ServerProg Unit}
    (hv : S.system.view p.state = .awaits cmd resume) :
    cmd.Justified ((c.own pid).map Record.answer) := by
  have programs := fun lastReplayId call => S.program_throughout lastReplayId call []
  exact (run_meets programs h hp).1.awaited hv

theorem own_sub (c : ServerConfig) (pid : Nat) : c.own pid ⊆ c.trace :=
  (List.filter_sublist).subset

/-- An answer to a justified command leaves the stores as they should be. -/
theorem belong_answered {S : Server} {c : ServerConfig} {pid : Nat} {cmd : ServerCmd}
    {choice : ServerChoice} {v : ServerWorld} {reply : Except JsError cmd.Reply}
    (belong : Belong c.world c.trace)
    (justified : cmd.Justified ((c.own pid).map Record.answer))
    (he : serverExec S.env S.copyText cmd choice c.world = some (reply, v)) :
    Belong v (c.trace ++ [⟨pid, cmd, choice, reply⟩]) := by
  have longer : c.trace ⊆ c.trace ++ [⟨pid, cmd, choice, reply⟩] := List.subset_append_left _ _
  have own : eventSetAnswers ((c.own pid).map Record.answer) ⊆
      eventSetAnswers (c.trace.map Record.answer) :=
    eventSetAnswers_sub (List.map_subset _ (own_sub c pid))
  constructor
  · intro a id names
    refine ReturnedFor.mono longer ?_
    rcases serverExec_names he names with before | ⟨cmd, rfl, writes⟩
    · exact belong.named a id before
    · rcases EventSetCmd.Justified.written justified writes with obtained | read
      · exact obtained.mono own
      · exact belong.read a id (read.mono own)
  · intro a id read
    refine ReturnedFor.mono longer ?_
    rw [List.map_append, eventSetAnswers_append] at read
    have split : ReadBack (eventSetAnswers (c.trace.map Record.answer)) a id ∨
        ReadBack (eventSetAnswers [⟨cmd, reply⟩]) a id := by
      rcases read with copy | row
      · exact (List.mem_append.mp copy).imp .inl .inl
      · exact (List.mem_append.mp row).imp .inr .inr
    rcases split with before | now
    · exact belong.read a id before
    · cases cmd with
      | eventSet cmd =>
          cases choice with
          | eventSet choice =>
              obtain ⟨⟨_, eventSet⟩, exec, same⟩ := Option.map_eq_some_iff.mp he
              cases same
              exact belong.named a id (eventSetExec_reads exec now)
          | _ => cases he
      | _ => rcases now with now | now <;> cases now

theorem belong {S : Server} {w : ServerWorld} (rows : w.eventSet.rows = ∅)
    (copies : w.eventSet.cache = ∅) {actions : List ServerAction} {c : ServerConfig}
    (h : S.system.run (.initial w) actions = some c) : Belong c.world c.trace := by
  refine run_induction (fun _ d => Belong d.world d.trace) ?_ h ?_
  · intro taken d a d' hd belong hs
    cases a with
    | start call =>
        obtain ⟨x, v, hl, rfl⟩ := step_start hs
        obtain ⟨u, he, same⟩ := Option.map_eq_some_iff.mp hl
        cases same
        exact ⟨fun a id names => belong.named a id (enter_eventSet he ▸ names), belong.read⟩
    | resume pid choice =>
        obtain ⟨p, cmd, resume, reply, v, hp, hv, he, rfl⟩ := step_resume hs
        exact belong_answered belong (awaits_justified hd hp hv) he
    | env event =>
        obtain ⟨v, he, rfl⟩ := step_env hs
        refine ⟨fun a id names => belong.named a id ?_, belong.read⟩
        cases event with
        | tick elapsed => cases he; exact names
        | evict jobId =>
            obtain ⟨delivery, _, rfl⟩ := Option.map_eq_some_iff.mp he
            exact names
  · refine ⟨fun a id names => ?_, fun a id read => ?_⟩
    · rcases names with row | ⟨expiry, copy⟩
      · simp [Config.initial, EventSetWorld.selectId, rows] at row
      · simp [Config.initial, copies] at copy
    · rcases read with read | read <;> cases read

/-! ## What `resolve` returns -/

def activeResponse (a id : String) : HttpResponse :=
  .json 200 (.object [("advertiser_id", .string a), ("active_event_set_id", .string id)])

/-- The active event set is one that a store returned, or the configured one. -/
def AsksActive (S : Server) (a : String) (history : List ServerAnswer) : ServerCmd → Prop
  | .respond response => ∀ id, response = activeResponse a id →
      ReadBack (eventSetAnswers history) a id ∨ S.env.TIKTOK_CRM_EVENT_SET_ID = some id
  | _ => True

private theorem activeSet_meets (S : Server) (a : String) :
    (S.activeSet a).Meets canAnswer (S.AsksActive a) (fun _ _ => True) [] := by
  have resolved : (onEventSets (S.manager.resolve a)).Meets canAnswer (S.AsksActive a)
      (fun final outcome => ∀ id, outcome = .ok id → ReadBack (eventSetAnswers final) a id ∨
        S.manager.env.TIKTOK_CRM_EVENT_SET_ID = some id) [] :=
    (onEventSets_meets (fun _ _ _ => trivial) (CRMEventSetManager.resolve_keeps S.manager a _)).imp
      fun _ _ read => read
  have sending {response : HttpResponse} {history : List ServerAnswer}
      (asked : S.AsksActive a history (.respond response)) :
      (respond response).Meets canAnswer (S.AsksActive a) (fun _ _ => True) history :=
    ⟨asked, fun reply _ => by cases reply <;> trivial⟩
  have body : (onEventSets (S.manager.resolve a) >>= fun eventSetId =>
      respond (activeResponse a eventSetId)).Meets canAnswer (S.AsksActive a)
        (fun _ _ => True) [] := by
    refine resolved.bind (fun final id read => sending fun id' same => ?_) fun _ _ _ => trivial
    cases same
    exact read id rfl
  exact body.caught (fun _ _ => trivial) fun final error => sending fun _ => nofun

/-- In every reachable state the row of an advertiser and its copy hold an id that TikTok
returned for that advertiser, and so does what `resolve` returned, unless it is the configured
one. -/
theorem event_sets_belong {S : Server} {w : ServerWorld} (rows : w.eventSet.rows = ∅)
    (copies : w.eventSet.cache = ∅) {actions : List ServerAction} {c : ServerConfig}
    (h : S.system.run (.initial w) actions = some c) (a : String) :
    (∀ id, c.world.eventSet.selectId a = some id → ReturnedFor c.trace a id) ∧
    (∀ id, c.world.eventSet.cache.get c.world.eventSet.clock (CRMEventSetManager.cacheKey a) =
      some id → ReturnedFor c.trace a id) ∧
    ∀ pid p id choice reply, c.procs[pid]? = some p → p.entry = .activeSet a →
      ⟨pid, .respond (activeResponse a id), choice, reply⟩ ∈ c.trace →
        ReturnedFor c.trace a id ∨ S.env.TIKTOK_CRM_EVENT_SET_ID = some id := by
  have belong := belong rows copies h
  refine ⟨fun id row => belong.named a id (.inl row), fun id copy => ?_, ?_⟩
  · exact belong.named a id (.inr (Storage.Expiring.lookup_of_get copy))
  · intro pid p id choice reply hp entry sent
    obtain ⟨first, rest, split⟩ := List.append_of_mem (mem_own.mpr ⟨sent, rfl⟩)
    have asked := (call_meets (fun _ => S.activeSet_meets a) h hp entry).2 first _ rest split id rfl
    refine asked.imp (fun read => belong.read a id (read.mono ?_)) fun env => env
    refine eventSetAnswers_sub (List.map_subset _ fun r hr => own_sub c pid ?_)
    rw [split]
    exact List.mem_append_left _ hr

end Server

namespace ServerSample

def leadSet : CRMCreateResponse where
  code := 0
  message := "OK"
  eventSetId := "set-1"
  name := "Leads"

/-- The authorised advertiser creates an event set and looks up the active one. -/
def creating : List ServerAction :=
  granting ++ [.start (.createSet "adv-001" [("name", .string "Leads")]),
    .resume 2 (.token .ok), .resume 2 (.token .ok), .resume 2 (.token .ok),
    .resume 2 (.eventSet (.created leadSet)), .resume 2 (.eventSet .ok), .resume 2 (.eventSet .ok),
    .resume 2 (.eventSet .ok), .resume 2 (.eventSet .ok), .resume 2 (.eventSet .ok), .resume 2 .ok,
    .start (.activeSet "adv-001"), .resume 3 (.eventSet .ok), .resume 3 .ok]

end ServerSample

open ServerSample in
theorem event_sets_belong_created :
    let c := after creating (by decide)
    c.world.eventSet.selectId "adv-001" = some "set-1" ∧ ReturnedFor c.trace "adv-001" "set-1" := by
  intro c
  have row : c.world.eventSet.selectId "adv-001" = some "set-1" := by decide
  exact ⟨row, (server.event_sets_belong rfl rfl (run_result _) "adv-001").1 _ row⟩

end SalesforceTikTok
