import Mathlib.Logic.Relation
import SalesforceTikTok.Core.FilterExactness
import SalesforceTikTok.Server.Failures
import SalesforceTikTok.Server.Keyspace

/-!
# Event name and lead status

The event name comes from the message, `lead_status` from the Lead record that the
handling of the message fetches. The CRM goes on in the meantime, so the record may
have another status than the message announced.
-/

namespace SalesforceTikTok

open Concurrency Concurrency.System

/-! ## Where a payload comes from -/

def ServerCmd.carried : ServerCmd → Option TikTokEventsPayload
  | .delivery (.postEvents payload _) => some payload
  | .delivery (.addJob _ data) => some data.payload
  | _ => none

/-- What the handling of a message has fetched and built. -/
structure Server.Builds (S : Server) (message : SalesforceCDCEvent)
    (history : List ServerAnswer) (lead : SalesforceLead) (payload : TikTokEventsPayload) :
    Prop where
  fetched : ∃ leadId, message.payload.changeEventHeader.firstRecordId = some leadId ∧
    ⟨.listener (.retrieve leadId), .ok (some lead)⟩ ∈ history
  built : S.pipeline.Builds message lead payload

/-- A call sends or queues what the handling of its message built, or sends again what
the queue held. -/
inductive Server.Sends (S : Server) (call : ServerCall) (history : List ServerAnswer) :
    ServerCmd → Prop where
  | nothing {cmd} (quiet : cmd.carried = none) : Sends S call history cmd
  | handled {cmd rawMessage message lead payload} (entry : call = .message rawMessage)
      (read : rawMessage.cdcEvent = some message) (carried : cmd.carried = some payload)
      (built : S.Builds message history lead payload) : Sends S call history cmd
  | retried {jobId data accessToken} (entry : call = .runJob jobId)
      (taken : ⟨.delivery (.takeJob jobId), .ok data⟩ ∈ history) :
      Sends S call history (.delivery (.postEvents data.payload accessToken))

/-- A payload was built for the message of the call, or taken from the queue. -/
theorem Server.Sends.source {S : Server} {call : ServerCall} {history : List ServerAnswer}
    {cmd : ServerCmd} (h : S.Sends call history cmd) {payload : TikTokEventsPayload}
    (carried : cmd.carried = some payload) :
    (∃ rawMessage message lead, call = .message rawMessage ∧
      rawMessage.cdcEvent = some message ∧ S.Builds message history lead payload) ∨
    ∃ jobId data accessToken, call = .runJob jobId ∧ data.payload = payload ∧
      ⟨.delivery (.takeJob jobId), .ok data⟩ ∈ history ∧
        cmd = .delivery (.postEvents data.payload accessToken) := by
  cases h with
  | nothing quiet =>
      rw [quiet] at carried
      cases carried
  | handled entry read carried' built =>
      rw [carried] at carried'
      cases carried'
      exact .inl ⟨_, _, _, entry, read, built⟩
  | retried entry taken =>
      cases carried
      exact .inr ⟨_, _, _, entry, rfl, taken, rfl⟩

/-! ## The handling of a message -/

abbrev ListenerAnswer := Answer ListenerCmd ListenerCmd.Reply JsError

namespace SalesforceCDCListener

def Hands (message : SalesforceCDCEvent) (history : List ListenerAnswer) : ListenerCmd → Prop
  | .onEvent cdcEvent lead => cdcEvent = message ∧
      ∃ leadId, message.payload.changeEventHeader.firstRecordId = some leadId ∧
        ⟨.retrieve leadId, .ok (some lead)⟩ ∈ history
  | _ => True

private theorem fetchLead_meets (message : SalesforceCDCEvent) (leadId : String) (remaining : Nat)
    (history : List ListenerAnswer) :
    (fetchLead leadId remaining).Meets (fun _ _ => True) (Hands message)
      (fun final outcome => ∀ lead, outcome = .ok (some lead) →
        ⟨.retrieve leadId, .ok (some lead)⟩ ∈ final) history := by
  induction remaining generalizing history with
  | zero => exact fun lead => nofun
  | succ remaining ih =>
      refine ⟨trivial, fun reply _ => ?_⟩
      cases reply with
      | ok found =>
          intro lead same
          cases same
          simp
      | error err =>
          show Prog.Meets _ _ _ (if isNetwork err = true ∧ 0 < remaining then _ else _) _
          split
          · refine ⟨trivial, fun reply _ => ?_⟩
            cases reply with
            | ok _ => exact ih _
            | error _ => exact fun lead => nofun
          · exact fun lead => nofun

private theorem handleRecord_meets (message : SalesforceCDCEvent) :
    (handleRecord message).Meets (fun _ _ => True) (Hands message) (fun _ _ => True) [] := by
  unfold handleRecord
  split
  · trivial
  · next leadId about =>
      refine .caught (.bind (fetchLead_meets message leadId retries []) ?_ fun _ _ _ => trivial)
        (fun _ _ => trivial) fun _ _ => trivial
      intro final found fetched
      cases found with
      | none => trivial
      | some lead =>
          refine ⟨⟨rfl, leadId, about, fetched lead rfl⟩, fun reply _ => ?_⟩
          cases reply <;> trivial

end SalesforceCDCListener

namespace Server

variable (S : Server)

def Carries (Q : TikTokEventsPayload → Prop) (cmd : ServerCmd) : Prop :=
  ∀ payload, cmd.carried = some payload → Q payload

private theorem onDeliveries_carries {α : Type} {Q : ServerCmd → Prop} {program : DeliveryProg α}
    {R : Except JsError α → Prop} (quiet : ∀ cmd, cmd.carried = none → Q cmd)
    (h : program.Within (fun cmd => Q (.delivery cmd)) R) :
    (S.onDeliveries program).Within Q R := by
  have asked (cmd : EventSetCmd) : (serve (.eventSet cmd)).Within Q fun _ => True :=
    .call (quiet _ rfl)
  refine h.handle fun cmd carried => ?_
  cases cmd with
  | resolveEventSet a => exact (Prog.within_any (S.manager.resolve a)).handle fun cmd _ => asked cmd
  | _ => exact .call carried

private theorem process_carries (message : SalesforceCDCEvent) (lead : SalesforceLead) :
    (S.onDeliveries (S.pipeline.process message lead)).Within
      (Carries (S.pipeline.Builds message lead)) fun _ => True := by
  have quiet {cmd : ServerCmd} (none : cmd.carried = none) :
      Carries (S.pipeline.Builds message lead) cmd := fun payload some => by
    rw [none] at some
    cases some
  refine S.onDeliveries_carries (fun _ => quiet) ?_
  refine (S.pipeline.process_awaited message lead).imp (fun cmd asked => ?_) fun _ _ => trivial
  cases asked with
  | postEvents built =>
      rintro payload ⟨⟩
      exact built
  | addJob built =>
      rintro payload ⟨⟩
      exact built
  | _ => exact quiet rfl

/-- A call that carries nothing else sends what the handling of its message built. -/
theorem Carries.sends {S : Server} {call : ServerCall} {history : List ServerAnswer}
    {rawMessage : RawMessage} {message : SalesforceCDCEvent} {lead : SalesforceLead}
    (entry : call = .message rawMessage) (read : rawMessage.cdcEvent = some message)
    (fetched : ∃ leadId, message.payload.changeEventHeader.firstRecordId = some leadId ∧
      ⟨.listener (.retrieve leadId), .ok (some lead)⟩ ∈ history) {cmd : ServerCmd}
    (h : Carries (S.pipeline.Builds message lead) cmd) : S.Sends call history cmd := by
  cases carried : cmd.carried with
  | none => exact .nothing carried
  | some payload => exact .handled entry read carried ⟨fetched, h payload carried⟩

def Relayed (outer : List ServerAnswer) (inner : List ListenerAnswer) : Prop :=
  ∀ leadId lead, ⟨.retrieve leadId, .ok (some lead)⟩ ∈ inner →
    ⟨.listener (.retrieve leadId), .ok (some lead)⟩ ∈ outer

theorem Relayed.append {outer : List ServerAnswer} {inner : List ListenerAnswer}
    (h : Relayed outer inner) (more : List ServerAnswer) {answer : ListenerAnswer}
    (answered : ∀ leadId lead, answer = ⟨.retrieve leadId, .ok (some lead)⟩ →
      ⟨.listener (.retrieve leadId), .ok (some lead)⟩ ∈ more) :
    Relayed (outer ++ more) (inner ++ [answer]) := by
  intro leadId lead mem
  rcases List.mem_append.mp mem with old | new
  · exact List.mem_append_left _ (h leadId lead old)
  · exact List.mem_append_right _ (answered leadId lead (List.mem_singleton.mp new).symm)

/-- The handling of a message asks what the listener asks, and what `process` asks for the
message and a lead that was retrieved. -/
theorem message_meets {asks : List ServerAnswer → ServerCmd → Prop}
    {Q : SalesforceCDCEvent → SalesforceLead → ServerCmd → Prop} (rawMessage : RawMessage)
    (lastReplayId : Int) (listens : ∀ history cmd, asks history (.listener cmd))
    (within : ∀ message lead,
      (S.onDeliveries (S.pipeline.process message lead)).Within (Q message lead) fun _ => True)
    (asked : ∀ message lead history cmd, rawMessage.cdcEvent = some message →
      (∃ leadId, message.payload.changeEventHeader.firstRecordId = some leadId ∧
        ⟨.listener (.retrieve leadId), .ok (some lead)⟩ ∈ history) →
      Q message lead cmd → asks history cmd) :
    (S.program lastReplayId (.message rawMessage)).Meets canAnswer asks (fun _ _ => True) [] := by
  cases read : rawMessage.cdcEvent with
  | none =>
      simp only [program, SalesforceCDCListener.handleRawMessage, read]
      trivial
  | some message =>
      simp only [program, SalesforceCDCListener.handleRawMessage, read]
      have carried : ∀ outer inner cmd, Relayed outer inner →
          SalesforceCDCListener.Hands message inner cmd →
          (S.listener cmd).Meets canAnswer asks
            (fun final outcome => True ∧ Relayed final (inner ++ [⟨cmd, outcome⟩])) outer := by
        intro outer inner cmd relayed hands
        cases cmd with
        | onEvent cdcEvent lead =>
            obtain ⟨rfl, leadId, about, fetched⟩ := hands
            refine (within cdcEvent lead).meets ?_ ?_
            · intro more cmd _ asking
              exact asked cdcEvent lead _ cmd read
                ⟨leadId, about, List.mem_append_left _ (relayed leadId lead fetched)⟩ asking
            · intro more outcome _ _
              exact ⟨trivial, relayed.append more fun _ _ same => by cases same⟩
        | retrieve leadId =>
            refine ⟨listens _ _, fun reply _ => ?_⟩
            have grown : Relayed (outer ++ [⟨.listener (.retrieve leadId), reply⟩])
                (inner ++ [⟨.retrieve leadId, reply⟩]) := by
              refine relayed.append _ fun leadId' lead same => ?_
              cases same
              exact List.mem_singleton_self _
            cases reply with
            | ok _ => exact ⟨trivial, grown⟩
            | error _ => exact ⟨trivial, grown⟩
        | sleep milliseconds =>
            refine ⟨listens _ _, fun reply _ => ?_⟩
            have grown : Relayed (outer ++ [⟨.listener (.sleep milliseconds), reply⟩])
                (inner ++ [⟨.sleep milliseconds, reply⟩]) :=
              relayed.append _ fun _ _ same => by cases same
            cases reply with
            | ok _ => exact ⟨trivial, grown⟩
            | error _ => exact ⟨trivial, grown⟩
      exact (Prog.Meets.handle carried (SalesforceCDCListener.handleRecord_meets message)
        fun _ _ mem => absurd mem List.not_mem_nil).imp fun _ _ _ => trivial

private theorem message_sends (rawMessage : RawMessage) (lastReplayId : Int) :
    (S.program lastReplayId (.message rawMessage)).Meets canAnswer
      (S.Sends (.message rawMessage)) (fun _ _ => True) [] := by
  refine S.message_meets rawMessage lastReplayId (fun _ _ => .nothing rfl) S.process_carries ?_
  intro message lead history cmd read fetched carries
  exact carries.sends rfl read fetched

def Reposts (payload : TikTokEventsPayload) (cmd : ServerCmd) : Prop :=
  cmd.carried = none ∨ ∃ token, cmd = .delivery (.postEvents payload token)

/-- A run of a job sends the payload of the data it was answered. -/
theorem runJob_sends (jobId : String) :
    (S.onDeliveries (RetryQueue.runJob S.env jobId)).Meets canAnswer (S.Sends (.runJob jobId))
      (fun _ _ => True) [] := by
  show Prog.Meets _ _ _ (Prog.handle S.delivery (.await (.takeJob jobId) _)) _
  rw [Prog.handle_await]
  refine Prog.meets_attempt.mpr ⟨.nothing rfl, fun reply _ => ?_⟩
  cases reply with
  | error _ => trivial
  | ok data =>
      have sending : (TikTokAPIClient.sendEvents S.env data.payload).Within
          (fun cmd => Reposts data.payload (.delivery cmd)) fun _ => True :=
        TikTokAPIClient.sendEvents_within S.env data.payload (Or.inl rfl)
          fun token _ => Or.inr ⟨token, rfl⟩
      have rest : (S.onDeliveries (do
          let succeeded ←
            (try
              let _ ← TikTokAPIClient.sendEvents S.env data.payload
              pure true
            catch _ =>
              pure false)
          deliver (.settleJob jobId succeeded))).Within (Reposts data.payload) fun _ => True := by
        refine S.onDeliveries_carries (fun cmd quiet => Or.inl quiet) (.bind ?_ fun succeeded => ?_)
        · exact .catch (.bind sending fun _ => trivial) (fun _ => trivial) fun _ => trivial
        · have settling : Reposts data.payload (.delivery (.settleJob jobId succeeded)) := .inl rfl
          have settles : (deliver (.settleJob jobId succeeded)).Within
              (fun cmd => Reposts data.payload (.delivery cmd)) fun _ => True := .call settling
          exact settles
      refine rest.meets (fun more cmd _ asked => ?_) fun _ _ _ _ => trivial
      rcases asked with quiet | ⟨token, rfl⟩
      · exact .nothing quiet
      · exact .retried rfl (by simp)

private theorem program_sends (lastReplayId : Int) (call : ServerCall) :
    (S.program lastReplayId call).Meets canAnswer (S.Sends call) (fun _ _ => True) [] := by
  have sets {α : Type} (program : EventSetProg α) :
      (onEventSets program).Throughout canAnswer (S.Sends call) := by
    have carried (cmd : EventSetCmd) : (serve (.eventSet cmd)).Throughout canAnswer
        (S.Sends call) := .call fun _ => .nothing rfl
    exact .handle carried program
  have manager : S.ManagerKeeps (S.Sends call) :=
    ⟨fun _ _ => sets _, fun _ _ _ => sets _, fun _ _ _ => sets _, fun _ _ _ => sets _,
      fun _ => sets _⟩
  have plain (history : List ServerAnswer) (cmd : ServerCmd) (h : cmd.isPlain = true) :
      S.Sends call history cmd := by
    cases cmd with
    | eventSet cmd => cases h
    | delivery cmd => cases h
    | _ => exact .nothing rfl
  cases call with
  | message rawMessage => exact S.message_sends rawMessage lastReplayId
  | runJob jobId => exact S.runJob_sends jobId
  | _ => exact S.route_throughout plain manager lastReplayId rfl []

/-- Every command a call was answered, it asked for in order. -/
theorem sent_by {S : Server} {w : ServerWorld} {actions : List ServerAction} {c : ServerConfig}
    (h : S.system.run (.initial w) actions = some c) {r : ServerRecord} (hr : r ∈ c.trace) :
    ∃ p history, c.procs[r.pid]? = some p ∧ history ⊆ (c.own r.pid).map Record.answer ∧
      S.Sends p.entry history r.cmd := by
  have bound := run_pid_bound h r hr
  have hp := List.getElem?_eq_getElem bound
  obtain ⟨first, rest, split⟩ := List.append_of_mem (mem_own.mpr ⟨hr, rfl⟩)
  refine ⟨_, first.map Record.answer, hp, ?_, (run_meets S.program_sends h hp).2 first r rest split⟩
  rw [split]
  exact List.map_subset _ (List.subset_append_left _ _)

end Server

/-! ## The queue -/

def Queued (trace : List ServerRecord) (payload : TikTokEventsPayload) : Prop :=
  ∃ r ∈ trace, ∃ jobId data, r.cmd = .delivery (.addJob jobId data) ∧ data.payload = payload

theorem Queued.append {trace : List ServerRecord} {payload : TikTokEventsPayload}
    (h : Queued trace payload) (r : ServerRecord) : Queued (trace ++ [r]) payload := by
  obtain ⟨q, hq, queued⟩ := h
  exact ⟨q, List.mem_append_left _ hq, queued⟩

/-- A job of the queue was there before, or is the one that was just added. -/
theorem deliveryExec_jobs {env : Env} {cmd : DeliveryCmd} {choice : DeliveryChoice}
    {w v : DeliveryWorld} {reply : Except JsError cmd.Reply}
    (h : deliveryExec env cmd choice w = some (reply, v)) {id : String} {job : Job}
    (found : v.jobs.lookup id = some job) :
    w.Carried id job ∨ ∃ jobId, cmd = .addJob jobId job.data := by
  have same (kept : v.jobs = w.jobs) : w.Carried id job ∨
      ∃ jobId, cmd = .addJob jobId job.data := by
    rw [kept] at found
    exact .inl ⟨job, found, rfl⟩
  cases cmd with
  | now => cases choice <;> cases h; exact same rfl
  | resolveEventSet a => cases choice <;> cases h <;> exact same rfl
  | setNx key ttl =>
      have frame := congrArg DeliveryWorld.jobs (w.setNx_frame key ttl)
      obtain ⟨_, regular⟩ | ⟨_, _, ⟨_, rfl⟩ | ⟨_, rfl⟩⟩ := faulty_cases h
      · have after : (w.setNx key ttl).2 = v := congrArg Prod.snd regular
        exact same (after ▸ frame)
      · exact same rfl
      · exact same frame
  | insertLog eventId record =>
      obtain ⟨_, _, rfl⟩ | ⟨_, _, _, rfl | rfl⟩ := faulty_unit h <;> exact same rfl
  | updateLog eventId status response error =>
      obtain ⟨_, _, rfl⟩ | ⟨_, _, _, rfl | rfl⟩ := faulty_unit h <;> exact same rfl
  | acquire payload => cases choice <;> cases h; exact same rfl
  | postEvents payload accessToken => cases choice <;> cases h <;> exact same rfl
  | addJob jobId data =>
      have added (here : v = w.addJob jobId data) : w.Carried id job ∨
          ∃ jobId', DeliveryCmd.addJob jobId data = .addJob jobId' job.data := by
        rw [here] at found
        rcases DeliveryWorld.addJob_carried found with carried | rfl
        · exact .inl carried
        · exact .inr ⟨jobId, rfl⟩
      obtain ⟨_, regular⟩ | ⟨_, _, ⟨_, kept⟩ | ⟨_, here⟩⟩ := faulty_cases h
      · exact added (congrArg Prod.snd regular).symm
      · exact same (by rw [kept])
      · exact added here
  | takeJob jobId =>
      cases choice with
      | ok =>
          obtain ⟨_, taken, rest⟩ := Option.map_eq_some_iff.mp h
          cases rest
          exact .inl (DeliveryWorld.takeJob_carried taken found)
      | _ => cases h
  | settleJob jobId succeeded =>
      cases choice <;> cases h
      exact .inl (DeliveryWorld.settleJob_carried found)

/-- What the queue holds, and what it ever handed to a worker, was queued by a command. -/
structure QueueFed (c : ServerConfig) : Prop where
  held : ∀ id job, c.world.delivery.jobs.lookup id = some job → Queued c.trace job.data.payload
  taken : ∀ r ∈ c.trace, ∀ id data, r.answer = ⟨.delivery (.takeJob id), .ok data⟩ →
    Queued c.trace data.payload

theorem QueueFed.answered {S : Server} {c : ServerConfig} (fed : QueueFed c) {pid : Nat}
    {cmd : ServerCmd} {choice : ServerChoice} {v : ServerWorld} {reply : Except JsError cmd.Reply}
    (he : serverExec S.env S.copyText cmd choice c.world = some (reply, v))
    (procs : List (Proc ServerCall (ServerProg Unit))) :
    QueueFed ⟨v, procs, c.trace ++ [⟨pid, cmd, choice, reply⟩]⟩ := by
  constructor
  · intro id job found
    have kept (jobs : v.delivery.jobs = c.world.delivery.jobs) :
        Queued (c.trace ++ [⟨pid, cmd, choice, reply⟩]) job.data.payload :=
      (fed.held id job (jobs ▸ found)).append _
    cases serverExec_effect he with
    | delivery exec =>
        rcases deliveryExec_jobs exec found with ⟨job', there, data⟩ | ⟨jobId, rfl⟩
        · exact data ▸ (fed.held id job' there).append _
        · exact ⟨_, List.mem_concat_self, jobId, job.data, rfl, rfl⟩
    | setState effect => rcases effect with rfl | rfl <;> exact kept rfl
    | getDelState effect => rcases effect with rfl | rfl <;> exact kept rfl
    | _ => exact kept rfl
  · intro r hr id data answer
    rcases List.mem_append.mp hr with old | new
    · exact (fed.taken r old id data answer).append _
    · obtain rfl := List.mem_singleton.mp new
      cases answer
      cases choice with
      | delivery choice =>
          cases choice with
          | ok =>
              obtain ⟨_, exec, same⟩ := Option.map_eq_some_iff.mp he
              obtain ⟨_, taken, rest⟩ := Option.map_eq_some_iff.mp exec
              cases rest
              cases same
              obtain ⟨job, there, data, _⟩ := DeliveryWorld.takeJob_spec taken
              dsimp only
              rw [data]
              exact (fed.held id job there).append _
          | _ => cases he
      | _ => cases he

private theorem queue_fed {S : Server} {w : ServerWorld} (empty : w.delivery.jobs = ∅)
    {actions : List ServerAction} {c : ServerConfig}
    (h : S.system.run (.initial w) actions = some c) : QueueFed c := by
  refine run_invariant QueueFed ?_ h ⟨fun id job found => ?_, fun r hr => by cases hr⟩
  · intro c a c' fed hs
    cases a with
    | start call =>
        obtain ⟨x, v, hl, rfl⟩ := step_start hs
        obtain ⟨u, he, same⟩ := Option.map_eq_some_iff.mp hl
        cases same
        have jobs : v.delivery.jobs = c.world.delivery.jobs := by
          cases call with
          | message rawMessage => cases he; rfl
          | refreshOne a =>
              obtain ⟨_, _, rfl⟩ := Option.map_eq_some_iff.mp he
              rfl
          | _ => cases he; rfl
        exact ⟨fun id job found => fed.held id job (jobs ▸ found), fed.taken⟩
    | resume pid choice =>
        obtain ⟨p, cmd, resume, reply, v, _, _, he, rfl⟩ := step_resume hs
        exact fed.answered he _
    | env event =>
        obtain ⟨v, he, rfl⟩ := step_env hs
        refine ⟨fun id job found => ?_, fed.taken⟩
        cases event with
        | tick elapsed =>
            cases he
            exact fed.held id job found
        | evict jobId =>
            obtain ⟨delivery, dropped, rfl⟩ := Option.map_eq_some_iff.mp he
            obtain ⟨elapsed, rfl⟩ | ⟨other, rfl⟩ := deliveryEnv_cases dropped
            · exact fed.held id job found
            · exact fed.held id job (Storage.lookup_of_erase found)
  · simp [Config.initial, empty] at found

/-! ## The CRM beside the server -/

/-- The records of the org, what it published, and the server that subscribes to it. -/
structure CrmState where
  leads : String → Option SalesforceLead
  published : List SalesforceCDCEvent
  server : ServerConfig

def SalesforceCDCEvent.about (message : SalesforceCDCEvent) (leadId : String) : Prop :=
  leadId ∈ message.payload.changeEventHeader.recordIds.getD []

def ListsStatus (leadId : String) (message : SalesforceCDCEvent) : Prop :=
  message.about leadId ∧ "Status" ∈ EventFilter.changed message

/-- A commit takes the records from `leads` to `leads'` and publishes the message: it names the
records that change, it lists a change of status, and then it carries the new status. -/
structure Commits (leads leads' : String → Option SalesforceLead) (message : SalesforceCDCEvent) :
    Prop where
  named : ∀ leadId, leads' leadId ≠ leads leadId → message.about leadId
  listed : ∀ leadId old, leads leadId = some old → ∃ new, leads' leadId = some new ∧
    (new.status ≠ old.status → ListsStatus leadId message)
  carried : ∀ leadId, ListsStatus leadId message → ∃ lead, leads' leadId = some lead ∧
    message.payload.get "Status" = .string lead.status

/-- The org commits, or the server takes a step: it is handed messages that were published, and
a Lead that is retrieved is the record of that moment. -/
inductive CrmStep (S : Server) : CrmState → CrmState → Prop where
  | commit {leads published server leads' message} (committed : Commits leads leads' message) :
      CrmStep S ⟨leads, published, server⟩ ⟨leads', published ++ [message], server⟩
  | serve {leads published server action server'}
      (step : S.system.step server action = some server')
      (delivered : ∀ rawMessage message, action = .start (.message rawMessage) →
        rawMessage.cdcEvent = some message → message ∈ published)
      (current : ∀ pid leadId lead, action = .resume pid (.listener (.retrieved (some lead))) →
        S.system.Awaits server pid (.listener (.retrieve leadId)) → leads leadId = some lead) :
      CrmStep S ⟨leads, published, server⟩ ⟨leads, published, server'⟩

abbrev CrmRun (S : Server) : CrmState → CrmState → Prop := Relation.ReflTransGen (CrmStep S)

/-- Nothing is published and the server has just been installed; the records are any. -/
def CrmState.initial (leads : String → Option SalesforceLead) (clock : Int) : CrmState where
  leads := leads
  published := []
  server := .initial (.fresh clock)

def LastStatus (published : List SalesforceCDCEvent) (leadId : String)
    (message : SalesforceCDCEvent) : Prop :=
  ListsStatus leadId message ∧ ∃ before after, published = before ++ message :: after ∧
    ∀ later ∈ after, ¬ ListsStatus leadId later

section

variable {S : Server} {leads : String → Option SalesforceLead} {clock : Int} {s s' : CrmState}

def ofServer : ServerAction → Bool
  | .start (.message _) | .resume _ (.listener (.retrieved _)) => false
  | _ => true

theorem CrmRun.serves {published : List SalesforceCDCEvent} {actions : List ServerAction}
    {c c' : ServerConfig} (h : S.system.run c actions = some c')
    (own : ∀ a ∈ actions, ofServer a = true) :
    CrmRun S ⟨leads, published, c⟩ ⟨leads, published, c'⟩ := by
  induction actions generalizing c with
  | nil =>
      cases h
      exact .refl
  | cons a rest ih =>
      obtain ⟨d, hd, hr⟩ := run_cons h
      have here := own a List.mem_cons_self
      refine .head (.serve hd ?_ ?_) (ih hr fun b hb => own b (List.mem_cons_of_mem a hb))
      · rintro rawMessage message rfl
        cases here
      · rintro pid leadId lead rfl
        cases here

theorem CrmRun.server_run (run : CrmRun S (.initial leads clock) s) :
    ∃ actions, S.system.run (.initial (.fresh clock)) actions = some s.server := by
  induction run with
  | refl => exact ⟨[], rfl⟩
  | tail _ step ih =>
      obtain ⟨actions, run⟩ := ih
      cases step with
      | commit committed => exact ⟨actions, run⟩
      | @serve _ _ _ action _ step _ _ =>
          refine ⟨actions ++ [action], ?_⟩
          rw [run_append, run]
          simp [System.run, step]

/-- The record of a lead has the status that its last message carries. -/
theorem CrmRun.last_status (run : CrmRun S (.initial leads clock) s) {leadId : String}
    {message : SalesforceCDCEvent} (last : LastStatus s.published leadId message) :
    ∃ lead, s.leads leadId = some lead ∧
      message.payload.get "Status" = .string lead.status := by
  induction run with
  | refl =>
      obtain ⟨_, before, after, split, _⟩ := last
      simp [CrmState.initial] at split
  | tail _ step ih =>
      cases step with
      | serve step delivered current => exact ih last
      | @commit leads published server leads' newest committed =>
          obtain ⟨lists, before, after, split, none⟩ := last
          rcases List.eq_nil_or_concat after with rfl | ⟨after, later, rfl⟩
          · obtain ⟨rfl, same⟩ := List.append_inj' split rfl
            cases same
            exact committed.carried leadId lists
          · have parts : published ++ [newest] = (before ++ message :: after) ++ [later] :=
              split.trans (by simp)
            obtain ⟨rfl, same⟩ := List.append_inj' parts rfl
            cases same
            have unlisted : ¬ ListsStatus leadId newest := none newest (by simp)
            obtain ⟨old, there, carries⟩ := ih ⟨lists, before, after, rfl, fun later mem =>
              none later (by simp [mem])⟩
            obtain ⟨new, here, moved⟩ := committed.listed leadId old there
            by_cases same : new.status = old.status
            · exact ⟨new, here, by rw [same]; exact carries⟩
            · exact absurd (moved same) unlisted

theorem CrmRun.delivered (run : CrmRun S (.initial leads clock) s) {pid : Nat}
    {p : Proc ServerCall (ServerProg Unit)} (hp : s.server.procs[pid]? = some p)
    {rawMessage : RawMessage} {message : SalesforceCDCEvent} (entry : p.entry = .message rawMessage)
    (read : rawMessage.cdcEvent = some message) : message ∈ s.published := by
  induction run generalizing p with
  | refl => simp [CrmState.initial, Config.initial] at hp
  | tail _ step ih =>
      cases step with
      | commit committed => exact List.mem_append_left _ (ih hp entry)
      | @serve leads published server action server' step delivered current =>
          cases action with
          | start call =>
              obtain ⟨x, v, _, rfl⟩ := step_start step
              rcases get_started hp with old | ⟨_, rfl⟩
              · exact ih old entry
              · exact delivered rawMessage message (by rw [← entry]) read
          | resume q choice =>
              obtain ⟨p', cmd, resume, reply, v, hq, _, _, rfl⟩ := step_resume step
              rcases get_answered hp with ⟨rfl, rfl⟩ | ⟨_, old⟩
              · exact ih hq entry
              · exact ih old entry
          | env event =>
              obtain ⟨v, _, rfl⟩ := step_env step
              exact ih hp entry

theorem CrmRun.entry (run : CrmRun S s s') {pid : Nat} {p : Proc ServerCall (ServerProg Unit)}
    (hp : s.server.procs[pid]? = some p) :
    ∃ p', s'.server.procs[pid]? = some p' ∧ p'.entry = p.entry := by
  induction run with
  | refl => exact ⟨p, hp, rfl⟩
  | tail _ step ih =>
      obtain ⟨q, hq, same⟩ := ih
      cases step with
      | commit committed => exact ⟨q, hq, same⟩
      | serve step delivered current =>
          obtain ⟨p', hp', same'⟩ := step_entry step hq
          exact ⟨p', hp', same'.trans same⟩

/-- A Lead that was retrieved was the record of a moment at which the call was under way. -/
theorem CrmRun.retrieved (run : CrmRun S (.initial leads clock) s) {r : ServerRecord}
    (hr : r ∈ s.server.trace) {leadId : String} {lead : SalesforceLead}
    (answer : r.answer = ⟨.listener (.retrieve leadId), .ok (some lead)⟩) :
    ∃ s₁, CrmRun S (.initial leads clock) s₁ ∧ CrmRun S s₁ s ∧
      s₁.leads leadId = some lead ∧ r.pid < s₁.server.procs.length := by
  induction run with
  | refl => simp [CrmState.initial, Config.initial] at hr
  | @tail s₁ s₂ run step ih =>
      have earlier (old : r ∈ s₁.server.trace) : ∃ s₁, CrmRun S (.initial leads clock) s₁ ∧
          CrmRun S s₁ s₂ ∧ s₁.leads leadId = some lead ∧ r.pid < s₁.server.procs.length := by
        obtain ⟨s₀, reached, rest, there, bound⟩ := ih old
        exact ⟨s₀, reached, rest.tail step, there, bound⟩
      cases step with
      | commit committed => exact earlier hr
      | @serve leads' published server action server' taken delivered current =>
          cases action with
          | start call =>
              obtain ⟨x, v, _, rfl⟩ := step_start taken
              exact earlier hr
          | env event =>
              obtain ⟨v, _, rfl⟩ := step_env taken
              exact earlier hr
          | resume pid choice =>
              obtain ⟨p, cmd, resume, reply, v, hp, hv, he, rfl⟩ := step_resume taken
              rcases List.mem_append.mp hr with old | new
              · exact earlier old
              · obtain rfl := List.mem_singleton.mp new
                cases answer
                have choice_eq : choice = .listener (.retrieved (some lead)) := by
                  cases serverExec_effect he with
                  | @listener _ choice _ _ exec =>
                      cases choice <;> cases exec
                      rfl
                refine ⟨_, run, .single (.serve taken delivered current), ?_, ?_⟩
                · exact current pid leadId lead (by rw [choice_eq]) ⟨p, resume, hp, hv⟩
                · exact (List.getElem?_eq_some_iff.mp hp).choose

end

/-! ## What the payload says -/

/-- The handling of the message has posted or queued the payload. -/
def SentFor (s : CrmState) (message : SalesforceCDCEvent) (payload : TikTokEventsPayload) : Prop :=
  ∃ r ∈ s.server.trace, ∃ p rawMessage, s.server.procs[r.pid]? = some p ∧
    p.entry = .message rawMessage ∧ rawMessage.cdcEvent = some message ∧
    r.cmd.carried = some payload

open EventFilter

/-- The event is the one the table has for the message's status, and so is `lead_status` once
it is lowercased and trimmed. -/
def Agrees (p : Platform) (message : SalesforceCDCEvent) (payload : TikTokEventsPayload) : Prop :=
  ∀ data ∈ payload.data, lookupStatus (statusOf p message) = some data.event ∧
    ∃ status, data.properties.leadStatus = some status ∧
      normalizeStatus p (.string status) = statusOf p message

/-- What is built for a change of status is named after the message and carries the status of
the lead. -/
theorem Pipeline.Builds.names {P : Pipeline} {message : SalesforceCDCEvent}
    {lead : SalesforceLead} {payload : TikTokEventsPayload} (built : P.Builds message lead payload)
    (moved : StatusChanged message) :
    ∃ data, payload.data = [data] ∧
      lookupStatus (statusOf P.platform message) = some data.event ∧
        data.properties.leadStatus = some lead.status := by
  obtain ⟨eventName, eventSetId, eventTime, named, rfl⟩ := built
  refine ⟨_, rfl, ?_, rfl⟩
  obtain ⟨_, name⟩ := evaluate_status (p := P.platform) moved
  unfold accepted at named
  split at named
  · rw [← name, named]
    rfl
  · cases named

private theorem agrees_iff {p : Platform} {message : SalesforceCDCEvent}
    {payload : TikTokEventsPayload}
    {data : TikTokEventData} {status : String} (single : payload.data = [data])
    (named : lookupStatus (statusOf p message) = some data.event)
    (carried : data.properties.leadStatus = some status) :
    Agrees p message payload ↔ normalizeStatus p (.string status) = statusOf p message := by
  unfold Agrees
  rw [single]
  constructor
  · intro agrees
    obtain ⟨_, status', carried', same⟩ := agrees data (List.mem_singleton_self _)
    rw [carried] at carried'
    cases carried'
    exact same
  · rintro same data' mem
    obtain rfl := List.mem_singleton.mp mem
    exact ⟨named, status, carried, same⟩

/-- What is sent for a message was built from the record its lead had at some moment after the
message was published. -/
theorem CrmRun.sent_built {S : Server} {leads : String → Option SalesforceLead} {clock : Int}
    {s : CrmState} (run : CrmRun S (.initial leads clock) s) {message : SalesforceCDCEvent}
    {payload : TikTokEventsPayload} (sent : SentFor s message payload) :
    ∃ leadId lead s₁, message.payload.changeEventHeader.firstRecordId = some leadId ∧
      CrmRun S (.initial leads clock) s₁ ∧ CrmRun S s₁ s ∧ message ∈ s₁.published ∧
        s₁.leads leadId = some lead ∧ S.pipeline.Builds message lead payload := by
  obtain ⟨actions, served⟩ := run.server_run
  obtain ⟨r, hr, p, rawMessage, hp, entry, read, carried⟩ := sent
  obtain ⟨p', history, hp', sub, sends⟩ := Server.sent_by served hr
  obtain rfl : p = p' := by simpa [hp] using hp'
  rcases sends.source carried with ⟨raw, message', lead, entry', read', ⟨fetched, built⟩⟩ |
    ⟨jobId, data, token, entry', _⟩
  · rw [entry] at entry'
    cases entry'
    rw [read] at read'
    cases read'
    obtain ⟨leadId, about, fetched⟩ := fetched
    obtain ⟨q, hq, answer⟩ := List.mem_map.mp (sub fetched)
    obtain ⟨mem, same⟩ := mem_own.mp hq
    obtain ⟨s₁, before, after, there, bound⟩ := run.retrieved mem answer
    rw [same] at bound
    have published : message ∈ s₁.published := by
      have hp₁ := List.getElem?_eq_getElem bound
      obtain ⟨p', hp', kept⟩ := after.entry hp₁
      obtain rfl : p = p' := by simpa [hp] using hp'
      exact before.delivered hp₁ (kept ▸ entry) read
    exact ⟨leadId, lead, s₁, about, before, after, published, there, built⟩
  · rw [entry] at entry'
    cases entry'

/-- Whoever posts a payload, the handling of a message sent or queued it. -/
theorem CrmRun.posted_sent {S : Server} {leads : String → Option SalesforceLead} {clock : Int}
    {s : CrmState} (run : CrmRun S (.initial leads clock) s) {r : ServerRecord}
    (hr : r ∈ s.server.trace) {payload : TikTokEventsPayload} {accessToken : String}
    (posted : r.cmd = .delivery (.postEvents payload accessToken)) :
    ∃ message, SentFor s message payload := by
  obtain ⟨actions, served⟩ := run.server_run
  obtain ⟨p, history, hp, sub, sends⟩ := Server.sent_by served hr
  have carried : r.cmd.carried = some payload := by rw [posted]; rfl
  rcases sends.source carried with ⟨raw, message, lead, entry, read, _⟩ |
    ⟨jobId, data, token, _, rfl, taken, _⟩
  · exact ⟨message, r, hr, p, raw, hp, entry, read, carried⟩
  · -- a worker got the job from the queue, where the handling of a message had put it
    obtain ⟨q, hq, answer⟩ := List.mem_map.mp (sub taken)
    obtain ⟨r', hr', jobId', data', added, same⟩ :=
      (queue_fed rfl served).taken q (mem_own.mp hq).1 jobId data answer
    obtain ⟨p', history', hp', _, sends'⟩ := Server.sent_by served hr'
    have carried' : r'.cmd.carried = some data.payload := by rw [added, ← same]; rfl
    rcases sends'.source carried' with ⟨raw, message, lead, entry, read, _⟩ |
      ⟨_, _, _, _, _, _, reposted⟩
    · exact ⟨message, r', hr', p', raw, hp', entry, read, carried'⟩
    · rw [added] at reposted
      cases reposted

/-- What is sent for a change of status names the event of the status that the message carries,
and as `lead_status` the one its lead had when it was fetched, after the message was published.
The two agree exactly if that status is the message's up to case and surrounding spaces; so they
do unless the org published another change of that status first. Nothing else is ever posted. -/
theorem lead_status_fetched {S : Server} {leads : String → Option SalesforceLead} {clock : Int}
    {s : CrmState} (run : CrmRun S (.initial leads clock) s) :
    (∀ message payload, SentFor s message payload → StatusChanged message →
      ∃ leadId lead s₁, message.payload.changeEventHeader.firstRecordId = some leadId ∧
        CrmRun S (.initial leads clock) s₁ ∧ CrmRun S s₁ s ∧ message ∈ s₁.published ∧
        s₁.leads leadId = some lead ∧
        (∀ data ∈ payload.data, lookupStatus (statusOf S.platform message) = some data.event ∧
          data.properties.leadStatus = some lead.status) ∧
        (Agrees S.platform message payload ↔
          normalizeStatus S.platform (.string lead.status) = statusOf S.platform message) ∧
        (LastStatus s₁.published leadId message → Agrees S.platform message payload)) ∧
    ∀ r ∈ s.server.trace, ∀ payload accessToken,
      r.cmd = .delivery (.postEvents payload accessToken) →
        ∃ message, SentFor s message payload := by
  refine ⟨fun message payload sent moved => ?_, fun r hr payload accessToken posted =>
    run.posted_sent hr posted⟩
  obtain ⟨leadId, lead, s₁, about, before, after, published, there, built⟩ := run.sent_built sent
  obtain ⟨data, single, named, status⟩ := built.names moved
  have agrees := agrees_iff single named status
  refine ⟨leadId, lead, s₁, about, before, after, published, there, ?_, agrees, fun last => ?_⟩
  · intro data' mem
    rw [single] at mem
    obtain rfl := List.mem_singleton.mp mem
    exact ⟨named, status⟩
  · obtain ⟨lead', there', carries⟩ := before.last_status last
    rw [there] at there'
    cases there'
    exact agrees.mpr (by rw [statusOf, carries])

namespace StatusSample

def server : Server := { ServerSample.server with platform := asciiPlatform }

def leads (status : String) (leadId : String) : Option SalesforceLead :=
  if leadId = "lead-001" then some { Sample.lead with status := status } else none

def header : SalesforceCDCHeader where
  changeType := .update
  changedFields := some ["Status"]
  entityName := "Lead"
  recordIds := some ["lead-001"]

def message (status : String) (replayId : Int) : SalesforceCDCEvent where
  payload := { changeEventHeader := header, fields := [("Status", .string status)] }
  replayId := replayId

def rawMessage (status : String) (replayId : Int) : RawMessage :=
  .object (some { changeEventHeader := some header, fields := [("Status", .string status)] })
    (some replayId)

def arrival : List ServerAction := [.start (.message (rawMessage "Qualified" 100))]

def retrieval (status : String) : List ServerAction :=
  arrival ++ [.resume 0 (.listener (.retrieved (leads status "lead-001")))]

def posting (status : String) : List ServerAction :=
  retrieval status ++ [.resume 0 (.delivery .ok), .resume 0 (.delivery .ok),
    .resume 0 (.delivery .ok), .resume 0 (.delivery .ok),
    .resume 0 (.delivery (.response Sample.response))]

abbrev after (actions : List ServerAction)
    (possible : (server.system.run (.initial (.fresh 0)) actions).isSome = true) : ServerConfig :=
  server.system.result (.initial (.fresh 0)) actions possible

private theorem commits (old new : String) (replayId : Int) :
    Commits (leads old) (leads new) (message new replayId) := by
  have lists : ListsStatus "lead-001" (message new replayId) := by
    simp [ListsStatus, message, header, SalesforceCDCEvent.about, changed]
  refine ⟨fun leadId moved => ?_, fun leadId record there => ?_, fun leadId lists => ?_⟩
  · by_cases here : leadId = "lead-001"
    · exact here ▸ lists.1
    · simp [leads, here] at moved
  · by_cases here : leadId = "lead-001"
    · subst here
      exact ⟨_, rfl, fun _ => lists⟩
    · simp [leads, here] at there
  · obtain rfl : leadId = "lead-001" := by
      simpa [message, header, SalesforceCDCEvent.about] using lists.1
    exact ⟨_, rfl, rfl⟩

private theorem posting_possible (status : String) :
    (server.system.run (.initial (.fresh 0)) (posting status)).isSome = true := rfl

/-- The server handles the first message once the lead has come to this status. -/
theorem handles {status : String} {published : List SalesforceCDCEvent}
    (first : message "Qualified" 100 ∈ published) :
    CrmRun server ⟨leads status, published, .initial (.fresh 0)⟩
      ⟨leads status, published, after (posting status) (posting_possible status)⟩ := by
  let c₁ := after arrival rfl
  let c₂ := after (retrieval status) rfl
  have arrives : CrmStep server ⟨leads status, published, .initial (.fresh 0)⟩
      ⟨leads status, published, c₁⟩ := by
    refine .serve (rfl : server.system.step _ (.start (.message _)) = some c₁) ?_ ?_
    · rintro _ _ ⟨⟩ ⟨⟩
      exact first
    · intro _ _ _ same
      cases same
  have retrieves : CrmStep server ⟨leads status, published, c₁⟩
      ⟨leads status, published, c₂⟩ := by
    have step : server.system.step c₁
        (.resume 0 (.listener (.retrieved (leads status "lead-001")))) = some c₂ := rfl
    refine .serve step ?_ ?_
    · intro _ _ same
      cases same
    · rintro _ leadId lead same ⟨p, resume, hp, hv⟩
      cases same
      cases hp
      cases hv
      rfl
  have posts : CrmRun server ⟨leads status, published, c₂⟩
      ⟨leads status, published, after (posting status) (posting_possible status)⟩ := by
    refine CrmRun.serves (rfl : server.system.run c₂ ((posting status).drop 2) = _) ?_
    simp [posting, retrieval, arrival, ofServer]
  exact .head arrives (.head retrieves posts)

def payload (status : String) : TikTokEventsPayload :=
  TikTokEventBuilder.buildPayload server.platform server.env
    [server.pipeline.canonicalEvent { Sample.lead with status := status }
      (.standard .completeRegistration) (.int 0)] none

theorem posted (status : String) (published : List SalesforceCDCEvent) :
    SentFor ⟨leads status, published, after (posting status) (posting_possible status)⟩
      (message "Qualified" 100) (payload status) := by
  let r : ServerRecord := ⟨0, .delivery (.postEvents (payload status) "test-token"),
    .delivery (.response Sample.response), .ok Sample.response⟩
  have last : (after (posting status) (posting_possible status)).trace[5]? = some r := rfl
  exact ⟨r, List.mem_of_getElem? last, _, rawMessage "Qualified" 100, rfl, rfl, rfl, rfl⟩

end StatusSample

open StatusSample in
theorem lead_status_fetched_unmoved :
    Agrees server.platform (message "Qualified" 100) (payload "Qualified") := by
  have run : CrmRun server (.initial (leads "New") 0) ⟨leads "Qualified",
      [message "Qualified" 100], after (posting "Qualified") (posting_possible _)⟩ :=
    .head (.commit (commits "New" "Qualified" 100)) (handles (by simp))
  have moved : StatusChanged (message "Qualified" 100) := ⟨⟨rfl, rfl⟩, by decide, by decide⟩
  obtain ⟨leadId, lead, s₁, _, _, _, _, _, carried, agrees, _⟩ :=
    (lead_status_fetched run).1 _ _ (posted "Qualified" _) moved
  have same : some "Qualified" = some lead.status := (carried _ (List.mem_singleton_self _)).2
  rw [agrees, ← Option.some.inj same]
  decide

open StatusSample in
/-- The lead moves on before the first message is handled: its event is posted as a
registration of a disqualified lead. -/
theorem status_moved_on :
    ∃ s, CrmRun server (.initial (leads "New") 0) s ∧
      StatusChanged (message "Qualified" 100) ∧
      SentFor s (message "Qualified" 100) (payload "Disqualified") ∧
      ¬ Agrees server.platform (message "Qualified" 100) (payload "Disqualified") := by
  refine ⟨⟨leads "Disqualified", [message "Qualified" 100, message "Disqualified" 101],
    after (posting "Disqualified") (posting_possible _)⟩, ?_, ?_, posted _ _, fun agrees => ?_⟩
  · refine .head (.commit (commits "New" "Qualified" 100)) ?_
    exact .head (.commit (commits "Qualified" "Disqualified" 101)) (handles (by simp))
  · exact ⟨⟨rfl, rfl⟩, by decide, by decide⟩
  · obtain ⟨_, status, carried, same⟩ := agrees _ (List.mem_singleton_self _)
    cases carried
    revert same
    decide

end SalesforceTikTok
