import SalesforceTikTok.Delivery.Effects

/-!
# What a delivery is built from

The event a `process` call delivers is a function of its message, its lead and
two answers: that of the event set lookup and that of the clock. From its
deduplication step on, every command of the call is about this one event.
-/

namespace SalesforceTikTok

open Concurrency

/-! ## The answers a delivery is built from -/

/-- The event set id that `resolve` was answered with. -/
def resolvedId : DeliveryRecord → Option String
  | ⟨_, .resolveEventSet _, _, .ok eventSetId⟩ => some eventSetId
  | _ => none

def clockReading : DeliveryRecord → Option Int
  | ⟨_, .now, _, .ok now⟩ => some now
  | _ => none

/-- The event set lookup of a call: `none` when it was rejected or never made. -/
def resolvedIn (history : List DeliveryRecord) : Option String := history.findSome? resolvedId

def clockIn (history : List DeliveryRecord) : Option Int := history.findSome? clockReading

private theorem findSome?_quiet {β : Type} {f : DeliveryRecord → Option β} {r : DeliveryRecord}
    (quiet : f r = none) (history : List DeliveryRecord) :
    (history ++ [r]).findSome? f = history.findSome? f := by
  simp [List.findSome?_append, quiet]

/-- The header carries no time: `commitTs` is falsy. -/
def SalesforceCDCEvent.undated (cdcEvent : SalesforceCDCEvent) : Bool :=
  !truthy cdcEvent.payload.changeEventHeader.commitTimestamp

def Pipeline.timeFrom (P : Pipeline) (cdcEvent : SalesforceCDCEvent) (clock : Option Int) :
    JsNumber :=
  match cdcEvent.payload.changeEventHeader.commitTimestamp with
  | none => .int (clock.getD 0 / 1000)
  | some text => if text = "" then .int (clock.getD 0 / 1000) else P.commitSeconds text

theorem Pipeline.timeFrom_undated (P : Pipeline) {cdcEvent : SalesforceCDCEvent}
    (undated : cdcEvent.undated = true) (now : Int) :
    P.timeFrom cdcEvent (some now) = .int (now / 1000) := by
  unfold SalesforceCDCEvent.undated at undated
  unfold Pipeline.timeFrom
  split
  · rfl
  · next text present =>
    have empty : text = "" := by simpa [present, truthy] using undated
    rw [if_pos empty]
    rfl

def Pipeline.builtFrom (P : Pipeline) (cdcEvent : SalesforceCDCEvent) (lead : SalesforceLead)
    (eventName : TikTokEventName) (history : List DeliveryRecord) : Delivery :=
  P.delivery cdcEvent lead eventName (resolvedIn history) (P.timeFrom cdcEvent (clockIn history))

/-! ## Commands about one event -/

/-- The payload a command passes on: into the log, to `sendEvents` or to the queue. -/
def DeliveryCmd.payload? : DeliveryCmd → Option TikTokEventsPayload
  | .insertLog _ record => some record.tiktokPayload
  | .acquire payload | .postEvents payload _ => some payload
  | .addJob _ data => some data.payload
  | _ => none

def DeliveryCmd.names? : DeliveryCmd → Option String
  | .insertLog eventId _ | .updateLog eventId _ _ _ => some eventId
  | _ => none

/-- The command is about the event `d` alone, or about none. -/
def Delivery.Owns (d : Delivery) (cmd : DeliveryCmd) : Prop :=
  (∀ payload, cmd.payload? = some payload → payload = d.payload) ∧
    (∀ eventId, cmd.names? = some eventId → eventId = d.eventId) ∧
      ∀ key ttl, cmd = .setNx key ttl → key = DEDUP_KEY_PREFIX ++ d.eventId

def DeliveryPoint.delivery? : DeliveryPoint → Option Delivery
  | .marking d | .loggingDuplicate d | .loggingPending d | .acquiring d | .posting d _
  | .loggingSent d _ | .loggingFailed d _ | .enqueueing d => some d
  | _ => none

/-- From its deduplication step on, a call keeps to its event. -/
theorem DeliveryTransition.keeps_delivery {P : Pipeline} {x y : DeliveryPoint}
    {w v : DeliveryWorld} {r : DeliveryRecord} (t : DeliveryTransition P x w r y v) {d : Delivery}
    (at_event : x.delivery? = some d) :
    (y.delivery? = some d ∨ ∃ outcome, y = .ended outcome) ∧ d.Owns r.cmd ∧
      resolvedId r = none ∧ clockReading r = none := by
  cases t <;> cases at_event <;>
    simp [DeliveryPoint.delivery?, Delivery.Owns, DeliveryCmd.payload?, DeliveryCmd.names?,
      resolvedId, clockReading, Delivery.record, RetryQueue.jobData]

/-! ## The stages of a process call -/

/-- How far a `process` call is, given its own history. -/
inductive Stage (P : Pipeline) (cdcEvent : SalesforceCDCEvent) (lead : SalesforceLead) :
    DeliveryPoint → List DeliveryRecord → Prop where
  | filtered (rejected : EventFilter.accepted P.platform cdcEvent = none) :
      Stage P cdcEvent lead (.ended (.ok ())) []
  | resolving {eventName advertiserId}
      (named : EventFilter.accepted P.platform cdcEvent = some eventName) :
      Stage P cdcEvent lead (.resolving cdcEvent lead eventName advertiserId) []
  | timing {eventName history} (named : EventFilter.accepted P.platform cdcEvent = some eventName)
      (undated : cdcEvent.undated = true) (unread : clockIn history = none)
      (before : ∀ r ∈ history, ∃ advertiserId, r.cmd = .resolveEventSet advertiserId) :
      Stage P cdcEvent lead (.timing cdcEvent lead eventName (resolvedIn history)) history
  | working {eventName x history}
      (named : EventFilter.accepted P.platform cdcEvent = some eventName)
      (point : x.delivery? = some (P.builtFrom cdcEvent lead eventName history) ∨
        ∃ outcome, x = .ended outcome)
      (timed : cdcEvent.undated = true → (clockIn history).isSome = true)
      (own : ∀ r ∈ history, (P.builtFrom cdcEvent lead eventName history).Owns r.cmd) :
      Stage P cdcEvent lead x history

namespace Stage

variable {P : Pipeline} {cdcEvent : SalesforceCDCEvent} {lead : SalesforceLead}

private theorem owns_of_lookup {r : DeliveryRecord}
    (lookup : ∃ advertiserId, r.cmd = .resolveEventSet advertiserId) (d : Delivery) :
    d.Owns r.cmd := by
  obtain ⟨advertiserId, lookup⟩ := lookup
  rw [lookup]
  simp [Delivery.Owns, DeliveryCmd.payload?, DeliveryCmd.names?]

private theorem of_resolved {eventName : TikTokEventName} {history : List DeliveryRecord}
    (named : EventFilter.accepted P.platform cdcEvent = some eventName)
    (unread : clockIn history = none)
    (before : ∀ r ∈ history, ∃ advertiserId, r.cmd = .resolveEventSet advertiserId) :
    Stage P cdcEvent lead (P.timed cdcEvent lead eventName (resolvedIn history)) history := by
  unfold Pipeline.timed
  split
  next absent =>
    have undated : cdcEvent.undated = true := by
      simp [SalesforceCDCEvent.undated, absent]
    exact .timing named undated unread before
  next text present =>
    by_cases empty : text = ""
    · have undated : cdcEvent.undated = true := by
        simp [SalesforceCDCEvent.undated, present, empty, truthy]
      rw [if_pos empty]
      exact .timing named undated unread before
    · have dated : cdcEvent.undated = false := by
        simp [SalesforceCDCEvent.undated, present, empty, truthy]
      have built : P.builtFrom cdcEvent lead eventName history =
          P.delivery cdcEvent lead eventName (resolvedIn history) (P.commitSeconds text) := by
        simp only [Pipeline.builtFrom, Pipeline.timeFrom, present, if_neg empty]
      rw [if_neg empty]
      refine .working named (.inl ?_) (by simp [dated]) fun r hr => owns_of_lookup (before r hr) _
      rw [built]
      rfl

theorem start : Stage P cdcEvent lead (P.startPoint (.process cdcEvent lead)) [] := by
  cases named : EventFilter.accepted P.platform cdcEvent with
  | none =>
      rw [Pipeline.startPoint_filtered P named]
      exact .filtered named
  | some eventName =>
      obtain start | ⟨advertiserId, start⟩ := P.startPoint_accepted named lead
      · rw [start]
        have fresh : ∀ r ∈ ([] : List DeliveryRecord), ∃ advertiserId,
            r.cmd = .resolveEventSet advertiserId := by simp
        exact of_resolved named rfl fresh
      · rw [start]
        exact .resolving named

theorem answered {x : DeliveryPoint} {history : List DeliveryRecord} {cmd : DeliveryCmd}
    {resume : Except JsError cmd.Reply → DeliveryPoint} {choice : DeliveryChoice}
    {w v : DeliveryWorld} {reply : Except JsError cmd.Reply} (pid : Nat)
    (stage : Stage P cdcEvent lead x history) (hv : x.view P = .awaits cmd resume)
    (he : deliveryExec P.env cmd choice w = some (reply, v)) :
    Stage P cdcEvent lead (resume reply) (history ++ [⟨pid, cmd, choice, reply⟩]) := by
  have t := DeliveryPoint.transition pid hv he
  cases stage with
  | filtered rejected => cases hv
  | @resolving _ advertiserId named =>
      cases hv
      have unread : clockIn [⟨pid, .resolveEventSet advertiserId, choice, reply⟩] = none := rfl
      cases reply with
      | ok eventSetId => exact of_resolved named unread (by simp)
      | error error => exact of_resolved named unread (by simp)
  | @timing eventName _ named undated unread before =>
      cases hv
      cases t with
      | timed =>
          have read : clockIn (history ++ [⟨pid, .now, .ok, .ok w.clock⟩]) = some w.clock := by
            simp only [clockIn] at unread
            simp [clockIn, List.findSome?_append, unread, clockReading]
          have built : P.builtFrom cdcEvent lead eventName
              (history ++ [⟨pid, .now, .ok, .ok w.clock⟩]) =
                P.delivery cdcEvent lead eventName (resolvedIn history)
                  (.int (w.clock / 1000)) := by
            simp only [Pipeline.builtFrom, read, P.timeFrom_undated undated]
            rw [resolvedIn, findSome?_quiet rfl]
            rfl
          refine .working named (.inl ?_) (by simp [read]) ?_
          · rw [built]
            rfl
          · intro r hr
            obtain hr | hr := List.mem_append.mp hr
            · exact owns_of_lookup (before r hr) _
            · obtain rfl := List.mem_singleton.mp hr
              simp [Delivery.Owns, DeliveryCmd.payload?, DeliveryCmd.names?]
  | @working eventName _ _ named point timed own =>
      obtain here | ⟨outcome, rfl⟩ := point
      · obtain ⟨next, owns, quiet, unread⟩ := t.keeps_delivery here
        have clock : clockIn (history ++ [⟨pid, cmd, choice, reply⟩]) = clockIn history :=
          findSome?_quiet unread history
        have built : P.builtFrom cdcEvent lead eventName (history ++ [⟨pid, cmd, choice, reply⟩]) =
            P.builtFrom cdcEvent lead eventName history := by
          simp only [Pipeline.builtFrom, clock]
          rw [resolvedIn, findSome?_quiet quiet]
          rfl
        refine .working named (by rwa [built]) (by rwa [clock]) ?_
        intro r hr
        rw [built]
        obtain hr | hr := List.mem_append.mp hr
        · exact own r hr
        · obtain rfl := List.mem_singleton.mp hr
          exact owns
      · cases hv

end Stage

namespace Pipeline

variable {P : Pipeline}

/-- In every run every `process` call is at a stage of its own history. -/
theorem process_stage {w : DeliveryWorld} {c : DeliveryConfig DeliveryPoint}
    {actions : List DeliveryAction} (h : P.protocol.run (.initial w) actions = some c)
    {pid : Nat} {p : Proc DeliveryCall DeliveryPoint} (hp : c.procs[pid]? = some p)
    {cdcEvent : SalesforceCDCEvent} {lead : SalesforceLead}
    (entry : p.entry = .process cdcEvent lead) :
    Stage P cdcEvent lead p.state (c.own pid) := by
  let Own : DeliveryCall → DeliveryPoint → List DeliveryRecord → Prop := fun call x history =>
    ∀ cdcEvent lead, call = .process cdcEvent lead → Stage P cdcEvent lead x history
  refine System.run_own (fun _ => True) Own ?_ ?_ h (fun _ _ => trivial) hp cdcEvent lead entry
  · rintro call w x v hl cdcEvent lead rfl
    cases hl
    exact .start
  · intro call x history cmd resume pid choice reply w v own hv he _ cdcEvent lead hcall
    exact (own cdcEvent lead hcall).answered pid hv he

/-- Every command of a `process` call is about the event built from the call's own answers. -/
theorem process_owns {w : DeliveryWorld} {c : DeliveryConfig (DeliveryProg Unit)}
    {actions : List DeliveryAction} (h : P.system.run (.initial w) actions = some c)
    {pid : Nat} {cdcEvent : SalesforceCDCEvent} {lead : SalesforceLead}
    {state : DeliveryProg Unit} (hp : c.procs[pid]? = some ⟨.process cdcEvent lead, state⟩)
    {r : DeliveryRecord} (hr : r ∈ c.own pid) :
    ∃ eventName, EventFilter.accepted P.platform cdcEvent = some eventName ∧
      (P.builtFrom cdcEvent lead eventName (c.own pid)).Owns r.cmd ∧
        (r.cmd.payload?.isSome = true → cdcEvent.undated = true →
          (clockIn (c.own pid)).isSome = true) := by
  obtain ⟨d, hd, rfl⟩ := exists_protocol h
  rw [Config.map_get, Option.map_eq_some_iff] at hp
  obtain ⟨p, hp, hq⟩ := hp
  rw [Config.map_own] at hr ⊢
  have stage : Stage P cdcEvent lead p.state (d.own pid) :=
    process_stage hd hp (congrArg Proc.entry hq)
  generalize p.state = x at stage
  generalize d.own pid = history at stage hr ⊢
  cases stage with
  | filtered rejected | resolving named => simp at hr
  | timing named undated unread before =>
      refine ⟨_, named, Stage.owns_of_lookup (before r hr) _, fun passed => ?_⟩
      obtain ⟨advertiserId, lookup⟩ := before r hr
      rw [lookup] at passed
      cases passed
  | working named point timed own => exact ⟨_, named, own r hr, fun _ => timed⟩

end Pipeline
end SalesforceTikTok
