import SalesforceTikTok.Delivery.Origin
import SalesforceTikTok.Delivery.SendExclusion
import SalesforceTikTok.Server.Composition
import SalesforceTikTok.Server.LeadStatus

/-!
# What the server sends

What holds of the delivery path by itself holds of it in the server: its calls are those
that the server makes inside its own, in messages and runs of jobs, whatever its requests and
the refresher do meanwhile.
-/

namespace SalesforceTikTok

open Concurrency

/-! ## What a delivery is about -/

/-- What `process` asks for a message and a lead: event sets of the advertiser that the lead
names, and that payloads built of the two are passed on. -/
def Pipeline.IsAbout (P : Pipeline) (cdcEvent : SalesforceCDCEvent) (lead : SalesforceLead) :
    DeliveryCmd → Prop
  | .resolveEventSet a => lead.campaign = some a ∧ a ≠ ""
  | cmd => ∀ payload, cmd.payload? = some payload → P.Builds cdcEvent lead payload

namespace Pipeline

variable (P : Pipeline) (cdcEvent : SalesforceCDCEvent) (lead : SalesforceLead)

private theorem resolveEventSetId_about :
    (P.resolveEventSetId (IdentityEnrichmentLayer.extractAttribution lead).campaignId).Within
      (P.IsAbout cdcEvent lead) fun _ => True := by
  have campaign : (IdentityEnrichmentLayer.extractAttribution lead).campaignId = lead.campaign :=
    rfl
  rw [campaign]
  cases named : lead.campaign with
  | none => trivial
  | some a =>
      simp only [resolveEventSetId]
      split
      · trivial
      next used =>
        have about : P.IsAbout cdcEvent lead (.resolveEventSet a) :=
          ⟨named, fun empty => used (.inl empty)⟩
        exact .catch (.bind (.call about) fun _ => trivial) (fun _ => trivial) fun _ => trivial

private theorem eventTime_about (commitTimestamp : Option String) :
    (P.eventTime commitTimestamp).Within (P.IsAbout cdcEvent lead) fun _ => True := by
  have now : P.IsAbout cdcEvent lead .now := fun payload none => by cases none
  cases commitTimestamp with
  | none => exact .bind (.call now) fun _ => trivial
  | some text =>
      simp only [eventTime]
      split
      · exact .bind (.call now) fun _ => trivial
      · trivial

private theorem process_about :
    (P.process cdcEvent lead).Within (P.IsAbout cdcEvent lead) fun _ => True := by
  unfold process
  split
  next => trivial
  next eventName accepted =>
    refine .bind (P.resolveEventSetId_about cdcEvent lead) fun eventSetId => ?_
    refine .bind (P.eventTime_about cdcEvent lead _) fun eventTime => ?_
    have built : P.Builds cdcEvent lead (TikTokEventBuilder.buildPayload P.platform P.env
      [P.canonicalEvent lead eventName eventTime] eventSetId) := ⟨_, _, _, accepted, rfl⟩
    have passing {cmd : DeliveryCmd} (passes : cmd.payload? = some (TikTokEventBuilder.buildPayload
        P.platform P.env [P.canonicalEvent lead eventName eventTime] eventSetId)) :
        ∀ payload, cmd.payload? = some payload → P.Builds cdcEvent lead payload := by
      intro payload passed
      rw [passes] at passed
      cases passed
      exact built
    have quiet {cmd : DeliveryCmd} (none : cmd.payload? = none) :
        ∀ payload, cmd.payload? = some payload → P.Builds cdcEvent lead payload := by
      intro payload passed
      rw [none] at passed
      cases passed
    refine .bind (.catch (.bind (.call (quiet rfl)) fun _ => trivial) (fun _ => trivial)
      fun _ => trivial) fun isDuplicate => ?_
    split
    · exact .call (passing rfl)
    · refine .bind (.call (passing rfl)) fun _ => .catch ?_ (fun _ => trivial) fun error => ?_
      · exact .bind (TikTokAPIClient.sendEvents_within P.env _ (passing rfl) fun _ _ =>
          passing rfl) fun _ => .call (quiet rfl)
      · exact .bind (.call (quiet rfl)) fun _ => .bind (.call (passing rfl)) fun _ => trivial

variable {P} in
/-- What a `process` call was answered is about its message and lead. -/
theorem answer_about {w : DeliveryWorld} {actions : List DeliveryAction}
    {d : DeliveryConfig (DeliveryProg Unit)} (h : P.system.run (.initial w) actions = some d)
    {i : Nat} {cdcEvent : SalesforceCDCEvent} {lead : SalesforceLead} {state : DeliveryProg Unit}
    (hp : d.procs[i]? = some ⟨.process cdcEvent lead, state⟩) {r : DeliveryRecord}
    (hr : r ∈ d.own i) : P.IsAbout cdcEvent lead r.cmd := by
  let asks : DeliveryCall → DeliveryCmd → Prop := fun call cmd =>
    ∀ cdcEvent lead, call = .process cdcEvent lead → P.IsAbout cdcEvent lead cmd
  have programs (call : DeliveryCall) : (P.program call).Within (asks call) fun _ => True := by
    cases call with
    | process cdcEvent lead =>
        refine (P.process_about cdcEvent lead).imp (fun cmd about => ?_) fun _ _ => trivial
        rintro _ _ ⟨⟩
        exact about
    | runJob id =>
        refine (Prog.within_any _).imp (fun cmd _ => ?_) fun _ _ => trivial
        rintro _ _ ⟨⟩
  have launched : ∀ call w x v, P.system.launch call w = some (x, v) →
      x.Meets (fun _ _ => True) (fun _ cmd => asks call cmd) (fun _ _ => True) [] := by
    rintro call w x v ⟨⟩
    exact (programs call).throughout []
  obtain ⟨first, rest, split⟩ := List.append_of_mem hr
  exact (System.run_contract rfl (fun _ _ _ _ _ _ => trivial) launched h hp).2 first r rest split
    cdcEvent lead rfl

end Pipeline

/-- A step that sends is that of a command that passes the payload on. -/
theorem passes_of_sending {r : DeliveryRecord} {payload : TikTokEventsPayload}
    (h : deliveryStep r = some (.sending payload)) : r.cmd.payload? = some payload := by
  obtain ⟨pid, cmd, choice, reply⟩ := r
  cases cmd with
  | acquire payload' =>
      cases h
      rfl
  | postEvents payload' accessToken =>
      cases reply with
      | ok response =>
          simp only [deliveryStep] at h
          split at h <;> cases h
      | error error => cases h
  | _ => cases reply <;> cases h

/-- What is passed on, or kept in a row or a job, a `process` call has built and passed on. -/
theorem payload_passed {P : Pipeline} {clock : Int} {d : DeliveryConfig (DeliveryProg Unit)}
    {actions : List DeliveryAction} (h : P.system.run (.initial (.fresh clock)) actions = some d)
    {payload : TikTokEventsPayload}
    (passes : (∃ r ∈ d.trace, r.cmd.payload? = some payload) ∨
      (∃ eventId row, d.world.log.lookup eventId = some row ∧ row.tiktokPayload = payload) ∨
      ∃ jobId job, d.world.jobs.lookup jobId = some job ∧ job.data.payload = payload) :
    ∃ i, BuiltBy P d payload i ∧ ∃ r ∈ d.own i, r.cmd.payload? = some payload := by
  obtain ⟨traced, -, jobs⟩ := payload_origin h
  have direct {i : Nat} (failed : FailedDirectly d payload i) :
      ∃ r ∈ d.own i, r.cmd.payload? = some payload := by
    obtain ⟨r, hr, own, step⟩ := Pipeline.mem_callSteps.mp failed.1
    exact ⟨r, System.mem_own.mpr ⟨hr, own⟩, passes_of_sending step⟩
  have passed {r : DeliveryRecord} (hr : r ∈ d.trace) (here : r.cmd.payload? = some payload) :
      ∃ i, BuiltBy P d payload i ∧ ∃ r ∈ d.own i, r.cmd.payload? = some payload := by
    obtain built | ⟨i, built, failed⟩ := traced r hr payload here
    · exact ⟨r.pid, built, r, System.mem_own.mpr ⟨hr, rfl⟩, here⟩
    · exact ⟨i, built, direct failed⟩
  rcases passes with ⟨r, hr, here⟩ | ⟨eventId, row, found, rfl⟩ | ⟨jobId, job, found, rfl⟩
  · exact passed hr here
  · obtain ⟨c, hc, rfl⟩ := Pipeline.exists_protocol h
    obtain ⟨r, hr, eventId', record, cmd, same⟩ := (payloads_traced hc).rows eventId row found
    refine passed (r := r) hr ?_
    rw [cmd, ← same]
    rfl
  · obtain ⟨i, built, failed⟩ := jobs jobId job found
    exact ⟨i, built, direct failed⟩

private theorem resolvedId_answer {r : DeliveryRecord} {id : String} (h : resolvedId r = some id) :
    ∃ pid a choice, r = ⟨pid, .resolveEventSet a, choice, .ok id⟩ := by
  obtain ⟨pid, cmd, choice, reply⟩ := r
  cases cmd with
  | resolveEventSet a =>
      cases reply with
      | ok eventSetId =>
          cases h
          exact ⟨pid, a, choice, rfl⟩
      | error error => cases h
  | _ => cases h

namespace Server

variable {S : Server} {clock : Int} {actions : List ServerAction} {c : ServerConfig}

private theorem deliveries_part (h : S.system.run (.initial (.fresh clock)) actions = some c) :
    ∃ d owners, S.deliveries.Part S.pipeline.system ServerCall.Deliveries (.fresh clock) c d
      owners :=
  Interface.run_hosted deliveries_embeds ⟨rfl, fun _ => rfl⟩ h

/-- A command of the delivery path that can be answered is carried out as itself. -/
theorem deliveries_does_same {cmd cmd' : DeliveryCmd} {resume} {w : ServerWorld}
    {u : DeliveryWorld} (does : S.deliveries.Does cmd' (.delivery cmd) resume)
    (alike : S.deliveries.alike w u) {choice : DeliveryChoice} {reply : Except JsError cmd.Reply}
    {v : DeliveryWorld} (answered : deliveryExec S.env cmd choice w.delivery = some (reply, v)) :
    cmd' = cmd := by
  have he : (serverRuntime S.env S.copyText).exec (.delivery cmd) (.delivery choice) w =
      some ((reply : Except JsError (ServerCmd.Reply (.delivery cmd))),
        { w with delivery := v }) := by
    simp only [serverExec, answered, Option.map_some]
  obtain ⟨outcome, choice', u', _, _, _, noted⟩ := does.2 alike he
  have same := Option.some.inj (noted 0)
  exact (congrArg Record.cmd same).symm

/-! ## Sends of one event -/

/-- The call is inside `sendEvents` with the event: it awaits the limiter or the POST. -/
def IsSending (S : Server) (c : ServerConfig) (eventId : String) (pid : Nat) : Prop :=
  ∃ payload, eventId ∈ payload.eventIds ∧
    (S.system.Awaits c pid (.delivery (.acquire payload)) ∨
      ∃ accessToken, S.system.Awaits c pid (.delivery (.postEvents payload accessToken)))

section

variable {u : DeliveryWorld} {d : DeliveryConfig (DeliveryProg Unit)} {owners : List Nat}
  (part : S.deliveries.Part S.pipeline.system ServerCall.Deliveries u c d owners)

include part

/-- No step of a delivery goes unnoted, and a step does not name its call. -/
theorem deliverySteps_part :
    deliverySteps (c.trace.filterMap deliveryPart) = deliverySteps d.trace := by
  have notes : c.trace.filterMap deliveryPart = _ := part.notes
  rw [deliverySteps, deliverySteps, notes, List.filterMap_map, List.filterMap_filter]
  congr 1
  funext r
  obtain ⟨pid, cmd, choice, reply⟩ := r
  cases cmd <;> cases reply <;> rfl

/-- What a call awaits of the delivery path, a call of the delivery path awaits inside. -/
theorem awaits_inside {pid : Nat} {cmd : DeliveryCmd}
    (awaits : S.system.Awaits c pid (.delivery cmd))
    {choice : DeliveryChoice} {reply : Except JsError cmd.Reply} {v : DeliveryWorld}
    (answered : deliveryExec S.env cmd choice c.world.delivery = some (reply, v)) :
    ∃ i, owners[i]? = some pid ∧ S.pipeline.system.Awaits d i cmd := by
  have own : ¬ S.deliveries.foreign (.delivery cmd) := fun foreign => foreign.1 cmd rfl
  obtain ⟨i, cmd', resume, mine, inside, does⟩ := part.awaited rfl rfl awaits own
  rw [deliveries_does_same does part.world answered] at inside
  exact ⟨i, mine, inside⟩

private theorem sends_inside {eventId : String} {pid : Nat} (sends : S.IsSending c eventId pid) :
    ∃ i, owners[i]? = some pid ∧ SendsNow S.pipeline d eventId i := by
  obtain ⟨payload, named, acquiring | ⟨accessToken, posting⟩⟩ := sends
  · have answered : deliveryExec S.env (.acquire payload) .ok c.world.delivery =
        some (.ok (), c.world.delivery) := rfl
    obtain ⟨i, mine, inside⟩ := awaits_inside part acquiring answered
    exact ⟨i, mine, payload, named, .inl inside⟩
  · have answered (error : JsError) : deliveryExec S.env (.postEvents payload accessToken)
        (.fail error) c.world.delivery = some (.error error, c.world.delivery) := rfl
    obtain ⟨i, mine, inside⟩ := awaits_inside part posting (answered { message := "" })
    exact ⟨i, mine, payload, named, .inr ⟨accessToken, inside⟩⟩

end

/-- With the deduplication store working, within the lifetime of a key from the start: whatever
else the server does meanwhile, no two of its calls are inside `sendEvents` with one event. -/
theorem server_sends_exclusive (h : S.system.run (.initial (.fresh clock)) actions = some c)
    (redis : RedisWorking (deliverySteps (c.trace.filterMap deliveryPart)))
    (within : c.world.delivery.clock < clock + S.env.REDIS_DEDUP_TTL_SECONDS * 1000)
    {eventId : String} {i j : Nat} (first : S.IsSending c eventId i)
    (second : S.IsSending c eventId j) : i = j := by
  obtain ⟨d, owners, part⟩ := deliveries_part h
  obtain ⟨taken, reached⟩ := part.reached
  obtain ⟨i', mine, sendsI⟩ := sends_inside part first
  obtain ⟨j', mine', sendsJ⟩ := sends_inside part second
  rw [deliverySteps_part part] at redis
  rw [part.world.1] at within
  obtain rfl := sends_exclusive reached redis within sendsI sendsJ
  rw [mine] at mine'
  exact Option.some.inj mine'

end Server

namespace ServerSample

/-- TikTok cannot be reached for a message, and the worker posts its event. -/
def retrying : List ServerAction :=
  delivering 0 ++ [.resume 0 (.delivery (.fail Sample.lostConnection)), .resume 0 (.delivery .ok),
    .resume 0 (.delivery .ok), .start (.runJob (RetryQueue.jobId posted)),
    .resume 1 (.delivery .ok), .resume 1 (.delivery .ok)]

end ServerSample

open ServerSample in
theorem server_sends_exclusive_worker :
    let c := after retrying (by decide)
    ∃ eventId, server.IsSending c eventId 1 ∧ ¬ server.IsSending c eventId 0 := by
  intro c
  have working : StoresWorking (deliverySteps (c.trace.filterMap deliveryPart)) := by
    unfold StoresWorking
    decide
  have sends : server.IsSending c (RetryQueue.jobId posted) 1 :=
    ⟨posted, by decide, .inr ⟨"test-token", _, _, rfl, rfl⟩⟩
  refine ⟨_, sends, fun other => ?_⟩
  have run : server.system.run (.initial (.fresh 0)) retrying = some c := System.run_result _
  have same := Server.server_sends_exclusive run working.redis (by decide) other sends
  cases same

namespace Server

variable {S : Server} {clock : Int} {actions : List ServerAction} {c : ServerConfig}

/-! ## Where payloads go -/

/-- The payload is logged, sent, posted or queued by a command that was answered, or is kept in
a row or a job. -/
def PassesOn (c : ServerConfig) (payload : TikTokEventsPayload) : Prop :=
  (∃ r ∈ c.trace.filterMap deliveryPart, r.cmd.payload? = some payload) ∨
  (∃ eventId row, c.world.delivery.log.lookup eventId = some row ∧ row.tiktokPayload = payload) ∨
  ∃ jobId job, c.world.delivery.jobs.lookup jobId = some job ∧ job.data.payload = payload

/-- The payload was built in call `pid`, for its message and with the lead that Salesforce
returned for the record the message names. -/
def IsFor (S : Server) (c : ServerConfig) (payload : TikTokEventsPayload) (pid : Nat) : Prop :=
  ∃ p rawMessage message lead, c.procs[pid]? = some p ∧ p.entry = .message rawMessage ∧
    rawMessage.cdcEvent = some message ∧
      S.Builds message ((c.own pid).map Record.answer) lead payload

/-- The command passes on only what was built for the message and the lead. -/
def PassesBuilt (S : Server) (message : SalesforceCDCEvent) (lead : SalesforceLead) :
    ServerCmd → Prop
  | .delivery cmd => ∀ payload, cmd.payload? = some payload →
      S.pipeline.Builds message lead payload
  | _ => True

private theorem process_passes (message : SalesforceCDCEvent) (lead : SalesforceLead) :
    (S.onDeliveries (S.pipeline.process message lead)).Within (S.PassesBuilt message lead)
      fun _ => True := by
  refine (S.pipeline.process_about message lead).handle fun cmd about => ?_
  cases cmd with
  | resolveEventSet a => exact onEventSets_any _ fun cmd => trivial
  | _ => exact .call about

/-- A message passes on what was built for it, with a lead that was fetched. -/
def Hands (S : Server) (call : ServerCall) (history : List ServerAnswer) : ServerCmd → Prop
  | .delivery cmd => ∀ rawMessage payload, call = .message rawMessage →
      cmd.payload? = some payload → ∃ message lead, rawMessage.cdcEvent = some message ∧
        S.Builds message history lead payload
  | _ => True

private theorem program_hands (S : Server) (lastReplayId : Int) (call : ServerCall) :
    (S.program lastReplayId call).Meets canAnswer (S.Hands call) (fun _ _ => True) [] := by
  by_cases handles : ∃ rawMessage, call = .message rawMessage
  · obtain ⟨rawMessage, rfl⟩ := handles
    refine S.message_meets rawMessage lastReplayId (fun _ _ => trivial) process_passes ?_
    intro message lead history cmd read fetched built
    cases cmd with
    | delivery cmd =>
        rintro _ payload ⟨⟩ passed
        exact ⟨message, lead, read, fetched, built payload passed⟩
    | _ => trivial
  · refine (Prog.within_any _).meets (fun more cmd _ _ => ?_) fun _ _ _ _ => trivial
    cases cmd with
    | delivery cmd => exact fun rawMessage _ same _ => (handles ⟨rawMessage, same⟩).elim
    | _ => trivial

/-- What the call of a message was answered for a payload, the payload was built in that call. -/
theorem isFor_of_answered {w : ServerWorld} (h : S.system.run (.initial w) actions = some c)
    {pid : Nat} {p : Proc ServerCall (ServerProg Unit)} (hp : c.procs[pid]? = some p)
    {rawMessage : RawMessage} (entry : p.entry = .message rawMessage) {r : ServerRecord}
    (hr : r ∈ c.own pid) {cmd : DeliveryCmd} (asked : r.cmd = .delivery cmd)
    {payload : TikTokEventsPayload} (passed : cmd.payload? = some payload) :
    S.IsFor c payload pid := by
  obtain ⟨first, rest, split⟩ := List.append_of_mem hr
  have hands := (run_meets S.program_hands h hp).2 first r rest split
  rw [asked] at hands
  obtain ⟨message, lead, read, ⟨leadId, about, fetched⟩, built⟩ :=
    hands rawMessage payload entry passed
  refine ⟨p, rawMessage, message, lead, hp, entry, read, ⟨leadId, about, ?_⟩, built⟩
  rw [split, List.map_append]
  exact List.mem_append_left _ fetched

private theorem deliveryPart_spec {r : ServerRecord} {q : DeliveryRecord}
    (h : deliveryPart r = some q) : r.pid = q.pid ∧ r.cmd = .delivery q.cmd := by
  obtain ⟨pid, cmd, choice, reply⟩ := r
  cases cmd with
  | delivery cmd =>
      cases choice with
      | delivery choice =>
          cases h
          exact ⟨rfl, rfl⟩
      | _ => cases h
  | _ => cases h

/-- What the server passes on, a call of its delivery path has built and passed on. -/
theorem passed_inside {d : DeliveryConfig (DeliveryProg Unit)} {owners : List Nat}
    {payload : TikTokEventsPayload}
    (part : S.deliveries.Part S.pipeline.system ServerCall.Deliveries (.fresh clock) c d owners)
    (passes : PassesOn c payload) :
    ∃ i, BuiltBy S.pipeline d payload i ∧ ∃ r ∈ d.own i, r.cmd.payload? = some payload := by
  obtain ⟨taken, reached⟩ := part.reached
  have notes : c.trace.filterMap deliveryPart = _ := part.notes
  have world : c.world.delivery = d.world := part.world.1
  rw [PassesOn, notes, world] at passes
  refine payload_passed reached (passes.imp_left ?_)
  rintro ⟨_, mem, passed⟩
  obtain ⟨r, inner, rfl⟩ := List.mem_map.mp mem
  exact ⟨r, (List.mem_filter.mp inner).1, passed⟩

section

variable {u : DeliveryWorld} {d : DeliveryConfig (DeliveryProg Unit)} {owners : List Nat}
  (part : S.deliveries.Part S.pipeline.system ServerCall.Deliveries u c d owners)

include part

/-- A command that a call of the delivery path was answered, the call around it was answered. -/
theorem answered_outside {i pid : Nat} (mine : owners[i]? = some pid) {r : DeliveryRecord}
    (hr : r ∈ d.own i) (direct : S.deliveries.direct r.cmd = true) :
    ∃ q ∈ c.own pid, q.cmd = .delivery r.cmd := by
  obtain ⟨mem, own⟩ := System.mem_own.mp hr
  have noted : r.under owners ∈ c.trace.filterMap deliveryPart := by
    have notes : c.trace.filterMap deliveryPart = _ := part.notes
    rw [notes]
    exact List.mem_map_of_mem (List.mem_filter.mpr ⟨mem, direct⟩)
  obtain ⟨q, hq, shown⟩ := List.mem_filterMap.mp noted
  obtain ⟨number, cmd⟩ := deliveryPart_spec shown
  refine ⟨q, System.mem_own.mpr ⟨hq, number.trans ?_⟩, cmd⟩
  show owners.getD r.pid 0 = pid
  simp [own, mine]

/-- What a `process` call passes on was built in the call of the message around it. -/
theorem isFor_of_built {w : ServerWorld} (h : S.system.run (.initial w) actions = some c)
    {payload : TikTokEventsPayload} {i : Nat} (built : BuiltBy S.pipeline d payload i)
    {r : DeliveryRecord} (hr : r ∈ d.own i) (passed : r.cmd.payload? = some payload) :
    ∃ pid, S.IsFor c payload pid := by
  obtain ⟨cdcEvent, lead, state, eventName, here, _, _⟩ := built
  obtain ⟨pid, p, mine, hp, fits⟩ := part.owned here
  have direct : S.deliveries.direct r.cmd = true := by
    cases cmd : r.cmd with
    | resolveEventSet a =>
        rw [cmd] at passed
        cases passed
    | _ => rfl
  obtain ⟨q, hq, asked⟩ := answered_outside part mine hr direct
  cases entry : p.entry with
  | message rawMessage => exact ⟨_, isFor_of_answered h hp entry hq asked passed⟩
  | _ =>
      rw [entry] at fits
      exact fits.elim

end

/-- What `resolve` has returned was read from a store or is configured. -/
theorem resolve_takes {a id : String} {answers : List ServerAnswer}
    (taken : (S.delivery (.resolveEventSet a)).Takes (.ok id) answers) :
    ReadBack (eventSetAnswers answers) a id ∨ S.env.TIKTOK_CRM_EVENT_SET_ID = some id := by
  have meets : (onEventSets (S.manager.resolve a)).Meets (fun _ _ => True) (fun _ _ => True)
      (fun final outcome => ∀ id, outcome = .ok id → ReadBack (eventSetAnswers final) a id ∨
        S.env.TIKTOK_CRM_EVENT_SET_ID = some id) [] :=
    (onEventSets_meets (fun _ _ _ => trivial) (CRMEventSetManager.resolve_keeps S.manager a _)).imp
      fun _ _ read => read
  exact taken.ends meets id rfl

/-- Whatever the stores, Salesforce and TikTok answer, every payload that the server passes on is
one for a message it was handed. The event set it names is the configured one, or one that TikTok
returned for the advertiser of the payload's own event. -/
theorem payloads_reach_their_sets (h : S.system.run (.initial (.fresh clock)) actions = some c)
    {payload : TikTokEventsPayload} (passes : PassesOn c payload) :
    (∃ pid, S.IsFor c payload pid) ∧
      (payload.eventSourceId = S.env.TIKTOK_CRM_EVENT_SET_ID.getD "" ∨
        ∃ a, payload.Concerns a ∧ ReturnedFor c.trace a payload.eventSourceId) := by
  obtain ⟨d, owners, part⟩ := deliveries_part h
  obtain ⟨i, built, r, own, passed⟩ := passed_inside part passes
  refine ⟨isFor_of_built part h built own passed, ?_⟩
  obtain ⟨cdcEvent, lead, state, eventName, here, accepted, rfl⟩ := built
  obtain ⟨taken, reached⟩ := part.reached
  have named : (S.pipeline.builtFrom cdcEvent lead eventName (d.own i)).payload.eventSourceId =
      ((resolvedIn (d.own i)).or S.env.TIKTOK_CRM_EVENT_SET_ID).getD "" := rfl
  cases resolved : resolvedIn (d.own i) with
  | none =>
      rw [resolved] at named
      exact .inl named
  | some id =>
      rw [resolved] at named
      have named : (S.pipeline.builtFrom cdcEvent lead eventName
        (d.own i)).payload.eventSourceId = id := named
      obtain ⟨r, own, answer⟩ := List.exists_of_findSome?_eq_some resolved
      obtain ⟨j, a, choice, rfl⟩ := resolvedId_answer answer
      have resolves := Pipeline.answer_about reached here own
      -- the answer is what the manager's program came to on answers of the server
      obtain ⟨answers, within, program⟩ := (part.carried _ (System.mem_own.mp own).1).taken
      have sub : answers ⊆ c.trace.map Record.answer :=
        fun answer mem => List.map_subset _ (own_sub c _) (within mem)
      rw [named]
      rcases resolve_takes program with read | configured
      · refine .inr ⟨a, (Pipeline.delivery_concerns _ _ _ _ _ _ a).mpr resolves, ?_⟩
        exact (belong rfl rfl h).read a id (read.mono (eventSetAnswers_sub sub))
      · rw [configured]
        exact .inl rfl

end Server

namespace ServerSample

def deliveringCreated : List ServerAction :=
  creating ++ [.start (.message leadCreated), .resume 4 (.listener (.retrieved (some lead))),
    .resume 4 (.eventSet .ok), .resume 4 (.delivery .ok), .resume 4 (.delivery .ok)]

def postedCreated : TikTokEventsPayload :=
  (server.pipeline.delivery Sample.cdcEvent lead (.standard .submitForm) (some "set-1")
    (.int 1710496800)).payload

end ServerSample

open ServerSample in
theorem payloads_reach_created_set :
    let c := after deliveringCreated (by decide)
    Server.PassesOn c postedCreated ∧
      ∃ a, postedCreated.Concerns a ∧ ReturnedFor c.trace a "set-1" := by
  intro c
  have logged : (c.world.delivery.log.lookup (RetryQueue.jobId postedCreated)).map
      (·.tiktokPayload) = some postedCreated := by decide
  have passes : Server.PassesOn c postedCreated := by
    obtain ⟨row, found, same⟩ := Option.map_eq_some_iff.mp logged
    exact .inr (.inl ⟨_, row, found, same⟩)
  have run : server.system.run (.initial (.fresh 0)) deliveringCreated = some c :=
    System.run_result _
  refine ⟨passes, ?_⟩
  obtain ⟨_, unset | returned⟩ := Server.payloads_reach_their_sets run passes
  · exact absurd unset (by decide)
  · exact returned
end SalesforceTikTok
