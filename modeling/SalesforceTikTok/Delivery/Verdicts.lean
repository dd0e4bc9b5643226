import SalesforceTikTok.Concurrency.Solo
import SalesforceTikTok.Delivery.History

/-!
# Per-event verdicts

A response of TikTok carries a verdict on each event of the batch beside its
overall code. `sendEvents` reads the code alone, so with code 0 it resolves and
`process` writes `sent` whatever the verdicts are.
-/

namespace SalesforceTikTok

open Concurrency Pipeline

/-- `data.batch_upload_status` marks the event as failed. -/
def TikTokAPIResponse.ReportsFailed (response : TikTokAPIResponse) (eventId : String) : Prop :=
  ∃ verdict ∈ response.batchUploadStatus.getD [],
    verdict.eventId = eventId ∧ verdict.success = false

/-- With code 0 TikTok failed no event of the payload. -/
def TikTokAPIResponse.Uniform (response : TikTokAPIResponse) (payload : TikTokEventsPayload) :
    Prop :=
  response.code = 0 → ∀ eventId ∈ payload.eventIds, ¬ response.ReportsFailed eventId

/-! ## `sendEvents` -/

/-- `sendEvents` resolves with every response of code 0, if there is a token to post with. -/
theorem sendEvents_resolves {env : Env} {payload : TikTokEventsPayload}
    {result : TikTokAPIResponse} {v w : DeliveryWorld} :
    (TikTokAPIClient.sendEvents env payload).Yields (deliveryRuntime env) (.ok result) v w ↔
      (∃ accessToken, TikTokAPIClient.staticToken env = .ok accessToken) ∧ result.code = 0 ∧
        v = w := by
  constructor
  · intro h
    rcases Prog.yields_bind.mp h with ⟨_, u, acquired, resolving⟩ | ⟨error, _, lost⟩
    · obtain ⟨choice, he⟩ := Prog.yields_call.mp acquired
      obtain rfl : u = w := by cases choice <;> cases he; rfl
      rcases Prog.yields_bind.mp resolving with ⟨token, u', resolved, posting⟩ | ⟨error, _, lost⟩
      · unfold TikTokAPIClient.resolveToken at resolved
        cases static : TikTokAPIClient.staticToken env with
        | error error =>
            rw [static] at resolved
            cases resolved.1
        | ok token =>
            rw [static] at resolved
            obtain ⟨_, rfl⟩ := resolved
            refine ⟨⟨token, rfl⟩, ?_⟩
            rcases Prog.yields_bind.mp posting with ⟨response, v', posted, rest⟩ | ⟨error, _, lost⟩
            · obtain ⟨choice, he⟩ := Prog.yields_call.mp posted
              obtain rfl : v' = u' := by cases choice <;> cases he; rfl
              split at rest
              · cases rest.1
              · next accepted =>
                  obtain ⟨same, rfl⟩ := rest
                  cases same
                  exact ⟨by omega, rfl⟩
            · cases lost
      · cases lost
    · cases lost
  · rintro ⟨⟨accessToken, static⟩, code, rfl⟩
    refine Prog.yields_bind.mpr (.inl ⟨(), v, Prog.yields_call.mpr ⟨.ok, rfl⟩, ?_⟩)
    refine Prog.yields_bind.mpr (.inl ⟨accessToken, v, ?_, ?_⟩)
    · rw [TikTokAPIClient.resolveToken, static]
      exact ⟨rfl, rfl⟩
    · refine Prog.yields_bind.mpr (.inl ⟨result, v, ?_, ?_⟩)
      · exact Prog.yields_call.mpr ⟨.response result, rfl⟩
      · rw [if_neg (by omega)]
        exact ⟨rfl, rfl⟩

/-! ## The row of `process` -/

/-- The call's last answer was TikTok's response to a POST of the payload. -/
def JustPosted (history : List DeliveryRecord) (payload : TikTokEventsPayload)
    (response : TikTokAPIResponse) : Prop :=
  ∃ r ∈ history.getLast?, ∃ accessToken,
    r.answer = ⟨.postEvents payload accessToken, .ok response⟩

private theorem justPosted_last {history : List DeliveryRecord} {r : DeliveryRecord}
    {payload : TikTokEventsPayload} {response : TikTokAPIResponse} :
    JustPosted (history ++ [r]) payload response ↔
      ∃ accessToken, r.answer = ⟨.postEvents payload accessToken, .ok response⟩ := by
  simp [JustPosted]

def Booked (x : DeliveryPoint) (history : List DeliveryRecord) : Prop :=
  (∀ d response, x = .loggingSent d response →
    JustPosted history d.payload response ∧ response.code = 0) ∧
  ∀ payload response, JustPosted history payload response → response.code = 0 →
    (∃ d, x = .loggingSent d response ∧ d.payload = payload) ∨ ∃ id done, x = .settling id done

private theorem booked_step {P : Pipeline} {x y : DeliveryPoint} {w v : DeliveryWorld}
    {r : DeliveryRecord} (moved : DeliveryTransition P x w r y v)
    (history : List DeliveryRecord) : Booked y (history ++ [r]) := by
  cases moved with
  | accepted code =>
      refine ⟨fun d response same => ?_, fun payload response posted _ => ?_⟩
      · cases same
        exact ⟨justPosted_last.mpr ⟨_, rfl⟩, code⟩
      · obtain ⟨accessToken, same⟩ := justPosted_last.mp posted
        cases same
        exact .inl ⟨_, rfl, rfl⟩
  | refused other =>
      refine ⟨fun _ _ => nofun, fun payload response posted code => ?_⟩
      obtain ⟨accessToken, same⟩ := justPosted_last.mp posted
      cases same
      exact absurd code other
  | jobPosted => exact ⟨fun _ _ => nofun, fun _ _ _ _ => .inr ⟨_, _, rfl⟩⟩
  | @resolved cdcEvent lead eventName advertiserId _ _ _ _ eventSetId =>
      refine ⟨fun d response same => ?_, fun payload response posted _ => ?_⟩
      · rcases P.timed_cases cdcEvent lead eventName eventSetId with at_ | ⟨_, at_⟩ <;>
          rw [at_] at same <;> cases same
      · obtain ⟨accessToken, same⟩ := justPosted_last.mp posted
        cases same
  | _ =>
      refine ⟨fun _ _ => nofun, fun payload response posted _ => ?_⟩
      obtain ⟨accessToken, same⟩ := justPosted_last.mp posted
      cases same

theorem booked {P : Pipeline} {w : DeliveryWorld} {c : DeliveryConfig DeliveryPoint}
    {actions : List DeliveryAction} (h : P.protocol.run (.initial w) actions = some c) {pid : Nat}
    {p : Proc DeliveryCall DeliveryPoint} (hp : c.procs[pid]? = some p) :
    Booked p.state (c.own pid) := by
  refine protocol_own (fun _ => True) (fun _ x history => Booked x history) (fun call => ?_)
    (fun _ _ history _ _ _ _ _ moved _ => booked_step moved history) h (fun _ _ => trivial) hp
  refine ⟨fun d response same => ?_, fun _ _ posted => by simp [JustPosted] at posted⟩
  cases call with
  | runJob id => cases same
  | process cdcEvent lead =>
      cases accepted : EventFilter.accepted P.platform cdcEvent with
      | none => rw [P.startPoint_filtered accepted] at same; cases same
      | some eventName =>
          rcases P.startPoint_accepted accepted lead with at_ | ⟨_, at_⟩
          · rw [at_] at same
            rcases P.timed_cases cdcEvent lead eventName none with at_ | ⟨_, at_⟩ <;>
              rw [at_] at same <;> cases same
          · rw [at_] at same
            cases same

/-- The call is about to write `sent` for the event, with this response. -/
def WritesSent (P : Pipeline) (c : DeliveryConfig (DeliveryProg Unit)) (pid : Nat)
    (eventId : String) (response : TikTokAPIResponse) : Prop :=
  P.system.Awaits c pid (.updateLog eventId .sent (some response) none)

/-- A `process` call writes `sent` for the event of a payload exactly when TikTok just answered
its POST with code 0. -/
theorem writesSent_iff {P : Pipeline} {w : DeliveryWorld} {c : DeliveryConfig (DeliveryProg Unit)}
    {actions : List DeliveryAction} (h : P.system.run (.initial w) actions = some c) {pid : Nat}
    {eventId : String} {response : TikTokAPIResponse} :
    WritesSent P c pid eventId response ↔ ∃ cdcEvent lead state payload,
      c.procs[pid]? = some ⟨.process cdcEvent lead, state⟩ ∧
        JustPosted (c.own pid) payload response ∧ response.code = 0 ∧
          eventId ∈ payload.eventIds := by
  obtain ⟨d, hd, rfl⟩ := exists_protocol h
  unfold WritesSent
  rw [(protocol_refines P).awaits, Config.map_own]
  constructor
  · rintro ⟨p, resume, hp, hv⟩
    obtain ⟨d', same⟩ : ∃ d', p.state = .loggingSent d' response ∧ d'.eventId = eventId := by
      change p.state.view P = _ at hv
      cases at_ : p.state <;> rw [at_] at hv <;> cases hv
      exact ⟨_, rfl, rfl⟩
    obtain ⟨at_, rfl⟩ := same
    obtain ⟨posted, code⟩ := (booked hd hp).1 d' response at_
    cases entry : p.entry with
    | runJob jobId =>
        have retry := (worker_retry hd hp entry).1
        rw [at_] at retry
        cases retry
    | process cdcEvent lead =>
        refine ⟨cdcEvent, lead, p.state.program P, d'.payload, ?_, posted, code, ?_⟩
        · rw [Config.map_get, hp, ← entry]
          rfl
        · rw [d'.single]
          exact List.mem_singleton_self _
  · rintro ⟨cdcEvent, lead, state, payload, hp, posted, code, mem⟩
    rw [Config.map_get, Option.map_eq_some_iff] at hp
    obtain ⟨q, hq, same⟩ := hp
    have history : ProcessHistory q.state (callSteps d pid) :=
      process_history hd hq (congrArg Proc.entry same)
    rcases (booked hd hq).2 payload response posted code with ⟨d', at_, rfl⟩ | ⟨id, done, at_⟩
    · rw [d'.single, List.mem_singleton] at mem
      subst mem
      exact ⟨q, _, hq, by change q.state.view P = _; rw [at_]; rfl⟩
    · rw [at_] at history
      cases history

/-! ## The outcome of each event -/

/-- With a token at hand `sendEvents` respects a response's verdicts if and only if code 0 comes
with no failed event, and so does the write of `sent` in every state of a run. -/
theorem per_event_outcome_iff {P : Pipeline} {w : DeliveryWorld}
    {c : DeliveryConfig (DeliveryProg Unit)} {actions : List DeliveryAction}
    (h : P.system.run (.initial w) actions = some c) :
    (∀ env payload response,
      (∀ v v', (TikTokAPIClient.sendEvents env payload).Yields (deliveryRuntime env)
          (.ok response) v v' →
        response.code = 0 ∧ ∀ eventId ∈ payload.eventIds, ¬ response.ReportsFailed eventId) ↔
      ((∃ accessToken, TikTokAPIClient.staticToken env = .ok accessToken) →
        response.Uniform payload)) ∧
    ((∀ pid eventId response, WritesSent P c pid eventId response →
        ¬ response.ReportsFailed eventId) ↔
      ∀ pid cdcEvent lead state payload response,
        c.procs[pid]? = some ⟨.process cdcEvent lead, state⟩ →
          JustPosted (c.own pid) payload response → response.Uniform payload) := by
  refine ⟨fun env payload response => ⟨?_, ?_⟩, ?_, ?_⟩
  · intro respected token code eventId mem
    have resolves : (TikTokAPIClient.sendEvents env payload).Yields (deliveryRuntime env)
        (.ok response) w w := sendEvents_resolves.mpr ⟨token, code, rfl⟩
    exact (respected w w resolves).2 eventId mem
  · intro uniform v v' resolves
    obtain ⟨token, code, _⟩ := sendEvents_resolves.mp resolves
    exact ⟨code, uniform token code⟩
  · intro respected pid cdcEvent lead state payload response hp posted code eventId mem
    have written : WritesSent P c pid eventId response :=
      (writesSent_iff h).mpr ⟨cdcEvent, lead, state, payload, hp, posted, code, mem⟩
    exact respected pid eventId response written
  · intro uniform pid eventId response written
    obtain ⟨cdcEvent, lead, state, payload, hp, posted, code, mem⟩ := (writesSent_iff h).mp written
    exact uniform pid cdcEvent lead state payload response hp posted code eventId mem

namespace Sample

def failedEvent : TikTokAPIResponse :=
  { response with
    batchUploadStatus := some [{ eventId := delivery.eventId, success := false,
                                 errorMessage := some "invalid lead_id" }] }

def posted (response : TikTokAPIResponse) : List DeliveryAction :=
  [.start call, .resume 0 .ok, .resume 0 .ok, .resume 0 .ok, .resume 0 (.response response)]

end Sample

theorem per_event_outcome_uniform :
    let c := Sample.after (Sample.posted Sample.response) (by decide)
    WritesSent Sample.pipeline c 0 Sample.delivery.eventId Sample.response ∧
      ¬ Sample.response.ReportsFailed Sample.delivery.eventId := by
  intro c
  have written : WritesSent Sample.pipeline c 0 Sample.delivery.eventId Sample.response :=
    ⟨_, _, rfl, rfl⟩
  refine ⟨written, (per_event_outcome_iff (System.run_result _)).2.mpr ?_ 0 _ _ written⟩
  rintro pid cdcEvent lead state payload response hp ⟨r, last, token, answer⟩ - eventId - failed
  have pid_zero : pid = 0 := by
    have bound : pid < 1 := (List.getElem?_eq_some_iff.mp hp).1
    omega
  subst pid_zero
  obtain rfl : r = _ := (Option.some.inj last).symm
  cases answer
  obtain ⟨verdict, mem, _⟩ := failed
  cases mem

theorem failed_event_sent :
    Sample.failedEvent.ReportsFailed Sample.delivery.eventId ∧
    (TikTokAPIClient.sendEvents Sample.pipeline.env Sample.delivery.payload).Yields
      (deliveryRuntime Sample.pipeline.env) (.ok Sample.failedEvent) (.fresh 0) (.fresh 0) ∧
    WritesSent Sample.pipeline (Sample.after (Sample.posted Sample.failedEvent) (by decide)) 0
      Sample.delivery.eventId Sample.failedEvent := by
  refine ⟨⟨_, List.mem_singleton_self _, rfl, rfl⟩, ?_, ⟨_, _, rfl, rfl⟩⟩
  exact sendEvents_resolves.mpr ⟨⟨"test-token", by decide⟩, rfl, rfl⟩

end SalesforceTikTok
