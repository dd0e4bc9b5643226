import SalesforceTikTok.Listener.RecordCoverage

/-!
# What the replay position promises

`getLastReplayId` is the position to resume a subscription after. It moves when a
message arrives, before the message's Lead is fetched, and nothing moves it back
when the fetch or `onEvent` fails.
-/

namespace SalesforceTikTok

open Concurrency

/-- `getLastReplayId()`. -/
def getLastReplayId {X : Type} (c : ListenerConfig X) : Int := c.world.lastReplayId

/-- The handler's call of `onEvent` has resolved. -/
def onEventResolved (history : List ListenerRecord) : Bool :=
  history.any fun
    | ⟨_, .onEvent _ _, _, .ok _⟩ => true
    | _ => false

/-- Every delivered message with a header and a record id, up to the replay position,
has been handled. -/
def SafePosition {X : Type} (c : ListenerConfig X) : Prop :=
  ∀ pid p cdcEvent recordId, c.procs[pid]? = some p →
    p.entry.record = some (cdcEvent, recordId) → cdcEvent.replayId ≤ getLastReplayId c →
      onEventResolved (c.own pid) = true

def deliveredIds {X : Type} (c : ListenerConfig X) : List Int :=
  c.entries.filterMap fun rawMessage => rawMessage.cdcEvent.map (·.replayId)

private theorem mem_deliveredIds {X : Type} {c : ListenerConfig X} {pid : Nat}
    {p : Proc RawMessage X} (hp : c.procs[pid]? = some p) {cdcEvent : SalesforceCDCEvent}
    (message : p.entry.cdcEvent = some cdcEvent) : cdcEvent.replayId ∈ deliveredIds c :=
  List.mem_filterMap.mpr
    ⟨p.entry, List.mem_map_of_mem (List.mem_of_getElem? hp), by simp [message]⟩

namespace SalesforceCDCListener

private theorem exec_world {cmd : ListenerCmd} {choice : ListenerChoice} {w v : ListenerWorld}
    {reply : Except JsError cmd.Reply} (he : listenerExec cmd choice w = some (reply, v)) :
    v = w := by
  cases cmd <;> cases choice <;> cases he <;> rfl

private theorem delivered_le_position {w : ListenerWorld} {c : ListenerConfig (ListenerProg Unit)}
    {actions : List ListenerAction} (h : system.run (.initial w) actions = some c)
    (increasing : (deliveredIds c).Pairwise (· < ·)) :
    ∀ id ∈ deliveredIds c, id ≤ getLastReplayId c := by
  revert increasing
  refine System.run_invariant (fun c : ListenerConfig (ListenerProg Unit) =>
    (deliveredIds c).Pairwise (· < ·) → ∀ id ∈ deliveredIds c, id ≤ getLastReplayId c) ?_ h ?_
  · intro c a c' hc hs increasing
    cases a with
    | start rawMessage =>
        obtain ⟨x, v, hl, rfl⟩ := System.step_start hs
        cases hl
        have grown : deliveredIds ⟨⟨(handleRawMessage rawMessage c.world.lastReplayId).1⟩,
            c.procs ++ [⟨rawMessage, (handleRawMessage rawMessage c.world.lastReplayId).2⟩],
            c.trace⟩ = deliveredIds c ++ (rawMessage.cdcEvent.map (·.replayId)).toList := by
          unfold deliveredIds Config.entries
          cases message : rawMessage.cdcEvent <;> simp [message]
        rw [grown] at increasing ⊢
        have earlier := List.pairwise_append.mp increasing
        intro id member
        show id ≤ (handleRawMessage rawMessage c.world.lastReplayId).1
        rw [handleRawMessage_eq]
        cases message : rawMessage.cdcEvent with
        | none =>
            rw [message] at member
            simpa [position, message, getLastReplayId] using
              hc earlier.1 id (by simpa using member)
        | some cdcEvent =>
            rw [message] at member earlier
            simp only [position, message]
            rcases List.mem_append.mp member with old | new
            · exact Int.le_of_lt (earlier.2.2 id old _ (by simp))
            · obtain rfl : id = cdcEvent.replayId := by simpa using new
              exact Int.le_refl _
    | resume pid choice =>
        obtain ⟨p, cmd, resume, reply, v, hp, _, he, rfl⟩ := System.step_resume hs
        have same : deliveredIds ⟨v, c.procs.set pid ⟨p.entry, resume reply⟩,
            c.trace ++ [⟨pid, cmd, choice, reply⟩]⟩ = deliveredIds c :=
          congrArg (List.filterMap _) (System.entries_answered hp _)
        rw [same] at increasing ⊢
        obtain rfl := exec_world he
        exact hc increasing
    | env event => exact event.elim
  · intro _ id none_delivered
    cases none_delivered

/-- The position is safe in exactly the states whose tracked messages are all handled. -/
theorem safePosition_iff {w : ListenerWorld} {c : ListenerConfig (ListenerProg Unit)}
    {actions : List ListenerAction} (h : system.run (.initial w) actions = some c)
    (increasing : (deliveredIds c).Pairwise (· < ·)) :
    SafePosition c ↔ ∀ pid p, c.procs[pid]? = some p → p.entry.record ≠ none →
      onEventResolved (c.own pid) = true := by
  constructor
  · intro safe pid p hp tracked
    obtain ⟨⟨cdcEvent, recordId⟩, record⟩ := Option.ne_none_iff_exists'.mp tracked
    have delivered := mem_deliveredIds hp (RawMessage.record_eq_some.mp record).1
    exact safe pid p cdcEvent recordId hp record (delivered_le_position h increasing _ delivered)
  · intro handled pid p cdcEvent recordId hp record _
    exact handled pid p hp (by simp [record])

/-- Right after a tracked message arrives the position is not safe. -/
theorem unsafe_on_arrival {w : ListenerWorld} {d : ListenerConfig (ListenerProg Unit)}
    {first : List ListenerAction} (h : system.run (.initial w) first = some d)
    {rawMessage : RawMessage} {x : ListenerProg Unit} {v : ListenerWorld}
    (hl : system.launch rawMessage d.world = some (x, v)) (tracked : rawMessage.record ≠ none) :
    ¬ SafePosition ⟨v, d.procs ++ [⟨rawMessage, x⟩], d.trace⟩ := by
  obtain ⟨⟨cdcEvent, recordId⟩, record⟩ := Option.ne_none_iff_exists'.mp tracked
  intro safe
  have handled := safe d.procs.length ⟨rawMessage, x⟩ cdcEvent recordId (by simp) record (by
    cases hl
    show cdcEvent.replayId ≤ (handleRawMessage rawMessage d.world.lastReplayId).1
    simp only [handleRawMessage_eq, position, (RawMessage.record_eq_some.mp record).1, Int.le_refl])
  -- its handler is new, so nothing in the trace belongs to it
  have silent : d.own d.procs.length = [] := by
    apply List.filter_eq_nil_iff.mpr
    intro r hr
    have earlier := System.run_pid_bound h r hr
    simp only [decide_eq_true_eq]
    omega
  have fresh : (Config.mk v (d.procs ++ [⟨rawMessage, x⟩]) d.trace).own d.procs.length = [] :=
    silent
  rw [fresh] at handled
  cases handled

end SalesforceCDCListener

/-- For messages with increasing replay ids: the position is safe all along a run exactly
when no delivered message has a header and a record id; and a state is safe exactly when
every such message delivered so far has been handled already. -/
theorem safe_replay_position_iff {w : ListenerWorld} {c : ListenerConfig (ListenerProg Unit)}
    {actions : List ListenerAction}
    (h : SalesforceCDCListener.system.run (.initial w) actions = some c)
    (increasing : (deliveredIds c).Pairwise (· < ·)) :
    ((∀ first rest d, actions = first ++ rest →
        SalesforceCDCListener.system.run (.initial w) first = some d → SafePosition d) ↔
      ∀ p ∈ c.procs, p.entry.record = none) ∧
    (SafePosition c ↔ ∀ pid p, c.procs[pid]? = some p → p.entry.record ≠ none →
      onEventResolved (c.own pid) = true) := by
  refine ⟨⟨fun safe p member => ?_, fun untracked first rest d split run => ?_⟩,
    SalesforceCDCListener.safePosition_iff h increasing⟩
  · by_contra tracked
    obtain ⟨pid, hp⟩ := List.getElem?_of_mem member
    obtain ⟨first, rest, d, x, v, split, run, _, hl, _⟩ := System.run_started h hp
    have arrived : SalesforceCDCListener.system.run (.initial w) (first ++ [.start p.entry]) =
        some ⟨v, d.procs ++ [⟨p.entry, x⟩], d.trace⟩ := by
      simp [System.run_append, run, System.run, System.step, hl]
    exact SalesforceCDCListener.unsafe_on_arrival run hl tracked
      (safe _ rest _ (by simp [split]) arrived)
  · intro pid p cdcEvent recordId hp record _
    rw [split, System.run_append, run] at h
    obtain ⟨p', hp', same⟩ := System.run_entry (c := d) h hp
    have := untracked p' (List.mem_of_getElem? hp')
    rw [same, record] at this
    cases this

/-! ## A fetch that fails -/

namespace FailedFetch

def rawMessage (replayId : Int) : RawMessage :=
  .object (some ⟨some TwoRecords.cdcEvent.payload.changeEventHeader, []⟩) (some replayId)

def notFound : JsError where
  message := "Provided external ID field does not exist or is not accessible"
  code := some "NOT_FOUND"

/-- The first message's Lead is not found; the second message is handled. -/
def actions : List ListenerAction :=
  [.start (rawMessage 100), .resume 0 (.fail notFound), .start (rawMessage 101),
    .resume 1 (.retrieved (some (TwoRecords.lead "lead-001"))), .resume 1 .completed]

end FailedFetch

theorem safe_replay_position_handled : SafePosition TwoRecords.after := by
  refine (safe_replay_position_iff (System.run_result _) (by decide)).2.mpr ?_
  intro pid p hp _
  cases pid with
  | zero => rfl
  | succ pid => cases hp

/-- The position passes a message whose handler gave up. -/
theorem unprocessed_event_skipped :
    ∃ c, SalesforceCDCListener.system.run (.initial {}) FailedFetch.actions = some c ∧
      (deliveredIds c).Pairwise (· < ·) ∧ SalesforceCDCListener.system.idle c = true ∧
      ¬ SafePosition c := by
  refine ⟨_, System.run_result (by rfl), by decide, rfl, fun safe => ?_⟩
  exact absurd (safe 0 _ _ _ rfl rfl (by decide)) (by decide)

end SalesforceTikTok
