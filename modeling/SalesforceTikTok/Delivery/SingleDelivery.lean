import SalesforceTikTok.Delivery.EventRow
import SalesforceTikTok.Delivery.NoLostEvent

/-!
# One direct delivery per event

Any number of `process` calls for one event, in any interleaving: the first to
reach Redis claims the key, the others find it held, and the claimant alone
sends, writes the row and queues.
-/

namespace SalesforceTikTok

open Concurrency Pipeline

/-- The calls deliver one event: messages that pass the filter under one name, for one
lead, committed in one second. -/
def SameEvent (P : Pipeline) (leadId : String) (eventName : TikTokEventName) (second : Int) :
    DeliveryCall → Prop
  | .process cdcEvent lead =>
      EventFilter.accepted P.platform cdcEvent = some eventName ∧ lead.id = leadId ∧
        ∃ text milliseconds,
          cdcEvent.payload.changeEventHeader.commitTimestamp = some text ∧ text ≠ "" ∧
            P.platform.dateParse text = some milliseconds ∧ milliseconds / 1000 = second
  | .runJob _ => False

/-! ## Every call ends -/

def DeliveryPoint.remaining : DeliveryPoint → Nat
  | .resolving .. => 9
  | .timing .. => 8
  | .marking _ => 7
  | .loggingPending _ => 6
  | .acquiring _ => 5
  | .posting _ _ => 4
  | .loggingSent _ _ => 3
  | .loggingFailed _ _ => 2
  | .enqueueing _ | .loggingDuplicate _ => 1
  | .taking _ => 4
  | .jobAcquiring _ _ => 3
  | .jobPosting _ _ _ => 2
  | .settling _ _ => 1
  | .ended _ => 0

private theorem remaining_timed (P : Pipeline) (cdcEvent : SalesforceCDCEvent)
    (lead : SalesforceLead) (eventName : TikTokEventName) (eventSetId : Option String) :
    (P.timed cdcEvent lead eventName eventSetId).remaining ≤ 8 := by
  obtain timing | ⟨eventTime, marking⟩ := P.timed_cases cdcEvent lead eventName eventSetId
  · rw [timing]; exact le_refl 8
  · rw [marking]; exact Nat.le_succ 7

theorem DeliveryTransition.remaining {P : Pipeline} {x y : DeliveryPoint} {w v : DeliveryWorld}
    {r : DeliveryRecord} (t : DeliveryTransition P x w r y v) : y.remaining < x.remaining := by
  cases t with
  | resolved => exact Nat.lt_succ_of_le (remaining_timed P ..)
  | _ => simp [DeliveryPoint.remaining]

private theorem remaining_pos {P : Pipeline} {x : DeliveryPoint} {cmd : DeliveryCmd}
    {resume : Except JsError cmd.Reply → DeliveryPoint} (hv : x.view P = .awaits cmd resume) :
    0 < x.remaining := by
  cases x with
  | ended outcome => cases hv
  | _ => simp [DeliveryPoint.remaining]

private theorem remaining_startPoint (P : Pipeline) (call : DeliveryCall) :
    (P.startPoint call).remaining ≤ 9 := by
  cases call with
  | runJob id => simp [Pipeline.startPoint, DeliveryPoint.remaining]
  | process cdcEvent lead =>
      cases filter : EventFilter.accepted P.platform cdcEvent with
      | none => rw [P.startPoint_filtered filter lead]; exact Nat.zero_le 9
      | some eventName =>
          obtain timed | ⟨advertiserId, resolving⟩ := P.startPoint_accepted filter lead
          · rw [timed]; exact Nat.le_trans (remaining_timed P ..) (Nat.le_succ 8)
          · rw [resolving]; exact le_refl 9

theorem answers_bounded {P : Pipeline} {w : DeliveryWorld} {c : DeliveryConfig DeliveryPoint}
    {actions : List DeliveryAction} (h : P.protocol.run (.initial w) actions = some c)
    {pid : Nat} {p : Proc DeliveryCall DeliveryPoint} (hp : c.procs[pid]? = some p) :
    (c.own pid).length + p.state.remaining ≤ 9 := by
  refine protocol_own (fun _ => True) (fun _ x history => history.length + x.remaining ≤ 9)
    ?_ ?_ h (fun _ _ => trivial) hp
  · intro call
    simpa using remaining_startPoint P call
  · intro call x history w r y v bound t _
    have := t.remaining
    simp only [List.length_append, List.length_singleton]
    omega

/-- Working stores can answer whatever a `process` call awaits. -/
theorem ProcessHistory.answerable {P : Pipeline} {x : DeliveryPoint} {steps : List DeliveryStep}
    (history : ProcessHistory x steps) (positive : 0 < P.env.REDIS_DEDUP_TTL_SECONDS)
    {cmd : DeliveryCmd} {resume : Except JsError cmd.Reply → DeliveryPoint}
    (hv : x.view P = .awaits cmd resume) (w : DeliveryWorld) (pid : Nat) :
    ∃ choice reply v, deliveryExec P.env cmd choice w = some (reply, v) ∧
      ∀ s, deliveryStep ⟨pid, cmd, choice, reply⟩ = some s → s.rejected = false := by
  cases history with
  | resolving =>
      cases hv
      exact ⟨.eventSet "", _, _, rfl, by simp [deliveryStep]⟩
  | marking =>
      cases hv
      obtain ⟨reply, v, hs⟩ := DeliveryWorld.setNx_answers positive w _
      exact ⟨.ok, .ok reply, v, congrArg some hs, by simp [deliveryStep, DeliveryStep.rejected]⟩
  | posting =>
      cases hv
      exact ⟨.response ⟨0, "", "", none⟩, _, _, rfl, by simp [deliveryStep, DeliveryStep.rejected]⟩
  | timing | loggingDuplicate | loggingPending | acquiring | loggingSent | loggingFailed
  | enqueueing =>
      cases hv
      exact ⟨.ok, _, _, rfl, by simp [deliveryStep, DeliveryStep.rejected, replied]⟩
  | filtered | duplicate | dropped | sent | unlogged | queued => cases hv

/-! ## The claim on the key -/

/-- The key is free until a first call claims it, and that call stays the only claimant as
long as `deadline` is not reached. -/
structure SoleClaim (key : String) (deadline : Int) (c : DeliveryConfig DeliveryPoint) : Prop where
  free : (∀ r ∈ c.trace, deliveryStep r ≠ some (.marked key (some .ok))) →
    c.world.holds key = false ∧ ∀ r ∈ c.trace, deliveryStep r ≠ some (.marked key (some .null))
  claimed : ∀ r ∈ c.trace, deliveryStep r = some (.marked key (some .ok)) →
    (∃ expiry, c.world.dedup.lookup key = some expiry ∧ deadline ≤ expiry) ∧
      ∀ r' ∈ c.trace, deliveryStep r' = some (.marked key (some .ok)) → r'.pid = r.pid

/-- A step that does not claim the key, and finds it held when it finds it. -/
theorem SoleClaim.quiet {key : String} {deadline : Int} {c : DeliveryConfig DeliveryPoint}
    {r : DeliveryRecord} {v : DeliveryWorld} {procs : List (Proc DeliveryCall DeliveryPoint)}
    (claim : SoleClaim key deadline c) (clock : v.clock = c.world.clock)
    (entry : v.dedup.lookup key = c.world.dedup.lookup key)
    (unclaimed : deliveryStep r ≠ some (.marked key (some .ok)))
    (found : deliveryStep r = some (.marked key (some .null)) → c.world.holds key = true) :
    SoleClaim key deadline ⟨v, procs, c.trace ++ [r]⟩ := by
  have old : ∀ r' ∈ c.trace ++ [r], deliveryStep r' = some (.marked key (some .ok)) →
      r' ∈ c.trace := by
    intro r' hr' hs
    obtain hr' | rfl := by simpa using hr'
    · exact hr'
    · exact absurd hs unclaimed
  constructor
  · intro none
    obtain ⟨free, unseen⟩ := claim.free fun r' hr' => none r' (by simp [hr'])
    refine ⟨by rw [DeliveryWorld.holds_congr clock entry]; exact free, fun r' hr' hs => ?_⟩
    obtain hr' | rfl := by simpa using hr'
    · exact unseen r' hr' hs
    · rw [found hs] at free
      cases free
  · intro r' hr' hs
    obtain ⟨expiry, only⟩ := claim.claimed r' (old r' hr' hs) hs
    exact ⟨by rw [entry]; exact expiry, fun q hq hq' => only q (old q hq hq') hq'⟩

theorem SoleClaim.answered {P : Pipeline} {key : String} {start : Int}
    {c : DeliveryConfig DeliveryPoint} {p : Proc DeliveryCall DeliveryPoint} {r : DeliveryRecord}
    {y : DeliveryPoint} {v : DeliveryWorld} {procs : List (Proc DeliveryCall DeliveryPoint)}
    (claim : SoleClaim key (start + P.env.REDIS_DEDUP_TTL_SECONDS * 1000) c)
    (t : DeliveryTransition P p.state c.world r y v)
    (redis : ∀ key, deliveryStep r ≠ some (.marked key none)) (later : start ≤ c.world.clock)
    (early : c.world.clock < start + P.env.REDIS_DEDUP_TTL_SECONDS * 1000) :
    SoleClaim key (start + P.env.REDIS_DEDUP_TTL_SECONDS * 1000)
      ⟨v, procs, c.trace ++ [r]⟩ := by
  obtain ⟨same, unclaimed⟩ | ⟨key', hs, positive, free, grown⟩ := t.dedup_cases redis
  · exact claim.quiet t.clock_eq (by rw [same]) (unclaimed key) t.held_of_null
  · by_cases here : key = key'
    · subst here
      -- the key was free, so nobody claimed it before
      have unclaimed : ∀ r' ∈ c.trace, deliveryStep r' ≠ some (.marked key (some .ok)) := by
        intro r' hr' hs'
        obtain ⟨⟨expiry, present, live⟩, _⟩ := claim.claimed r' hr' hs'
        rw [DeliveryWorld.holds_of_lookup present (by omega)] at free
        cases free
      constructor
      · exact fun none => absurd hs (none r (by simp))
      · intro r' hr' hs'
        refine ⟨⟨_, by rw [grown]; exact AList.lookup_insert _, by omega⟩, fun q hq hq' => ?_⟩
        have alone : ∀ q ∈ c.trace ++ [r], deliveryStep q = some (.marked key (some .ok)) →
            q = r := by
          intro q hq hq'
          obtain hq | rfl := by simpa using hq
          · exact absurd hq' (unclaimed q hq)
          · rfl
        rw [alone q hq hq', alone r' hr' hs']
    · refine claim.quiet t.clock_eq (by rw [grown, AList.lookup_insert_ne here]) ?_ ?_
      · rw [hs]
        simpa using Ne.symm here
      · rw [hs]
        simp

theorem sole_claim {P : Pipeline} {w : DeliveryWorld} {c : DeliveryConfig DeliveryPoint}
    {actions : List DeliveryAction} (h : P.protocol.run (.initial w) actions = some c)
    (redis : RedisWorking (deliverySteps c.trace)) {key : String} (free : w.holds key = false)
    (within : c.world.clock < w.clock + P.env.REDIS_DEDUP_TTL_SECONDS * 1000) :
    SoleClaim key (w.clock + P.env.REDIS_DEDUP_TTL_SECONDS * 1000) c := by
  let deadline := w.clock + P.env.REDIS_DEDUP_TTL_SECONDS * 1000
  let I : DeliveryConfig DeliveryPoint → Prop := fun c =>
    w.clock ≤ c.world.clock ∧ (c.world.clock < deadline → SoleClaim key deadline c)
  suffices hI : I c from hI.2 within
  refine protocol_invariant (fun r => ∀ key, deliveryStep r ≠ some (.marked key none)) I
    ?_ ?_ ?_ h redis.answered ?_
  · exact fun c call hc => ⟨hc.1, fun early => ⟨(hc.2 early).free, (hc.2 early).claimed⟩⟩
  · intro c pid p r y v hc _ _ t ok
    refine ⟨by rw [t.clock_eq]; exact hc.1, fun early => ?_⟩
    rw [t.clock_eq] at early
    exact (hc.2 early).answered t ok hc.1 early
  · intro c event v hc hv
    obtain ⟨elapsed, rfl⟩ | ⟨id, rfl⟩ := deliveryEnv_cases hv
    · refine ⟨by simp only; omega, fun early => ?_⟩
      have claim := hc.2 (by simp only at early; omega)
      exact ⟨fun none => ⟨DeliveryWorld.free_later (claim.free none).1 elapsed,
        (claim.free none).2⟩, claim.claimed⟩
    · exact ⟨hc.1, fun early => ⟨(hc.2 early).free, (hc.2 early).claimed⟩⟩
  · exact ⟨Int.le_refl w.clock, fun _ => ⟨fun _ => ⟨free, by simp [Config.initial]⟩,
      by simp [Config.initial]⟩⟩

/-! ## The calls of one event -/

def DeliveryPoint.delivers (P : Pipeline) (eventId : String) : DeliveryPoint → Prop
  | .resolving cdcEvent lead eventName _ =>
      ∀ eventSetId, ∃ d, P.timed cdcEvent lead eventName eventSetId = .marking d ∧
        d.eventId = eventId
  | .marking d | .loggingDuplicate d | .loggingPending d | .acquiring d | .posting d _
  | .loggingSent d _ | .loggingFailed d _ | .enqueueing d => d.eventId = eventId
  | .ended _ => True
  | _ => False

/-- A call for the event marks the key of the event and no other. -/
theorem DeliveryTransition.delivers {P : Pipeline} {eventId : String} {x y : DeliveryPoint}
    {w v : DeliveryWorld} {r : DeliveryRecord} (t : DeliveryTransition P x w r y v)
    (call : x.delivers P eventId) :
    y.delivers P eventId ∧
      (∀ key reply, deliveryStep r = some (.marked key reply) →
        key = DEDUP_KEY_PREFIX ++ eventId) ∧
      ((∃ outcome, y = .ended outcome) → deliveryStep r ≠ none) := by
  cases t with
  | resolved eventSetId =>
      obtain ⟨d, marking, here⟩ := call eventSetId
      rw [marking]
      exact ⟨here, by simp [deliveryStep], by simp⟩
  | timed | taken | jobAcquired | jobNoToken | jobPosted | jobPostFailed | settled => cases call
  | novel | duplicate | markFailed =>
      have here : _ = eventId := call
      subst here
      exact ⟨rfl, by simp [deliveryStep, eq_comm], by simp⟩
  | accepted code | refused code =>
      exact ⟨call, by simp [deliveryStep, code], by simp⟩
  | duplicateLogged | duplicateLogFailed | pendingLogFailed | sentLogged | failedLogFailed
  | enqueued | enqueueFailed =>
      exact ⟨trivial, by simp [deliveryStep], by simp [deliveryStep]⟩
  | _ => exact ⟨call, by simp [deliveryStep], by simp⟩

theorem SameEvent.start {P : Pipeline} {leadId : String} {eventName : TikTokEventName}
    {second : Int} {call : DeliveryCall} (same : SameEvent P leadId eventName second call) :
    (P.startPoint call).delivers P (Hasher.eventId P.platform leadId eventName (.int second)) ∧
      ¬ ∃ outcome, P.startPoint call = .ended outcome := by
  cases call with
  | runJob id => cases same
  | process cdcEvent lead =>
      obtain ⟨filter, rfl, text, milliseconds, commit, present, parsed, rfl⟩ := same
      have time : ∀ eventSetId, P.timed cdcEvent lead eventName eventSetId =
          .marking (P.delivery cdcEvent lead eventName eventSetId
            (.int (milliseconds / 1000))) := by
        intro eventSetId
        simp only [Pipeline.timed, commit, if_neg present, Pipeline.commitSeconds, parsed]
      obtain timed | ⟨advertiserId, resolving⟩ := P.startPoint_accepted filter lead
      · rw [timed, time]
        exact ⟨rfl, by simp⟩
      · rw [resolving]
        exact ⟨fun eventSetId => ⟨_, time eventSetId, rfl⟩, by simp⟩

private theorem same_event_history {P : Pipeline} {leadId : String} {eventName : TikTokEventName}
    {second : Int} {w : DeliveryWorld} {c : DeliveryConfig DeliveryPoint}
    {actions : List DeliveryAction} (h : P.protocol.run (.initial w) actions = some c)
    {pid : Nat} {p : Proc DeliveryCall DeliveryPoint} (hp : c.procs[pid]? = some p)
    (same : SameEvent P leadId eventName second p.entry) :
    (∀ key reply, .marked key reply ∈ callSteps c pid →
      key = DEDUP_KEY_PREFIX ++ Hasher.eventId P.platform leadId eventName (.int second)) ∧
      ((∃ outcome, p.state = .ended outcome) → callSteps c pid ≠ []) := by
  let eventId := Hasher.eventId P.platform leadId eventName (.int second)
  let Own : DeliveryCall → DeliveryPoint → List DeliveryRecord → Prop := fun call x history =>
    SameEvent P leadId eventName second call → x.delivers P eventId ∧
      (∀ key reply, .marked key reply ∈ deliverySteps history →
        key = DEDUP_KEY_PREFIX ++ eventId) ∧
      ((∃ outcome, x = .ended outcome) → deliverySteps history ≠ [])
  refine (protocol_own (fun _ => True) Own ?_ ?_ h (fun _ _ => trivial) hp same).2
  · intro call same
    exact ⟨same.start.1, by simp, fun ended => absurd ended same.start.2⟩
  · intro call x history w r y v own t _ same
    obtain ⟨delivers, keys, _⟩ := own same
    obtain ⟨delivers', key', ended'⟩ := t.delivers delivers
    refine ⟨delivers', fun key reply marked => ?_, fun ended => ?_⟩
    · rw [deliverySteps_append, deliverySteps_single, List.mem_append, Option.mem_toList] at marked
      exact marked.elim (keys key reply) (key' key reply)
    · rw [deliverySteps_append, deliverySteps_single]
      obtain ⟨s, hs⟩ := Option.ne_none_iff_exists'.mp (ended' ended)
      simp [hs]

/-! ## What the one call sent -/

def sentPayload : DeliveryStep → Option TikTokEventsPayload
  | .sending payload => some payload
  | _ => none

def acceptedPayload : DeliveryStep → Option TikTokEventsPayload
  | .accepted payload => some payload
  | _ => none

def queuedJob : DeliveryStep → Option RetryJobData
  | .queued data _ _ => some data
  | _ => none

section

variable {X : Type} (c : DeliveryConfig X)

/-- The arguments of all `sendEvents` calls, in order. -/
def sentPayloads : List TikTokEventsPayload := (deliverySteps c.trace).filterMap sentPayload

def acceptedPayloads : List TikTokEventsPayload :=
  (deliverySteps c.trace).filterMap acceptedPayload

def queuedJobs : List RetryJobData := (deliverySteps c.trace).filterMap queuedJob

/-- One send, and a row and a queue that tell how it ended. -/
def DeliveredOnce (eventId : String) : Prop :=
  ∃ payload row, payload.eventIds = [eventId] ∧ sentPayloads c = [payload] ∧
    c.world.log.lookup eventId = some row ∧
      (acceptedPayloads c = [payload] ∧ row.status = .sent ∧ queuedJobs c = [] ∨
        acceptedPayloads c = [] ∧ row.status = .failed ∧
          queuedJobs c = [RetryQueue.jobData payload])

end

private theorem filterMap_eq_callSteps {X β : Type} {c : DeliveryConfig X}
    {f : DeliveryStep → Option β} {pid : Nat} (h : ∀ q, q ≠ pid → ∀ s ∈ callSteps c q, f s = none) :
    (deliverySteps c.trace).filterMap f = (callSteps c pid).filterMap f := by
  rw [callSteps, deliverySteps, deliverySteps, List.filterMap_filterMap,
    List.filterMap_filterMap]
  refine System.filterMap_eq_own fun r hr other => ?_
  cases hs : deliveryStep r with
  | none => rfl
  | some s => exact h r.pid other s (mem_callSteps.mpr ⟨r, hr, rfl, hs⟩)

/-- A completed call that set no key did nothing but log a duplicate. -/
theorem CompletedCall.silent {steps : List DeliveryStep} (call : CompletedCall steps)
    (unclaimed : ∀ key, .marked key (some .ok) ∉ steps) {s : DeliveryStep} (hs : s ∈ steps) :
    sentPayload s = none ∧ acceptedPayload s = none ∧ queuedJob s = none ∧
      ∀ eventId, updateOf eventId s = none := by
  cases call with
  | filtered => cases hs
  | duplicate d =>
      obtain rfl | rfl : _ ∨ _ := by simpa using hs
      · exact ⟨rfl, rfl, rfl, fun _ => rfl⟩
      · exact ⟨rfl, rfl, rfl, fun _ => rfl⟩
  | sent d => simp [Delivery.opening] at unclaimed
  | retried d refused =>
      exact absurd (by simp [Delivery.opening]) (unclaimed (DEDUP_KEY_PREFIX ++ d.eventId))

/-- A completed call that set the key sent once, and told how the send ended. -/
theorem CompletedCall.delivers {steps : List DeliveryStep} (call : CompletedCall steps)
    {key : String} (first : .marked key (some .ok) ∈ steps) :
    ∃ d : Delivery, key = DEDUP_KEY_PREFIX ++ d.eventId ∧
      steps.filterMap sentPayload = [d.payload] ∧
        (steps.filterMap acceptedPayload = [d.payload] ∧ updatesOf d.eventId steps = [.sent] ∧
            steps.filterMap queuedJob = [] ∨
          steps.filterMap acceptedPayload = [] ∧ updatesOf d.eventId steps = [.failed] ∧
            steps.filterMap queuedJob = [RetryQueue.jobData d.payload]) := by
  cases call with
  | filtered | duplicate d => simp at first
  | sent d =>
      refine ⟨d, by simpa [Delivery.opening] using first, rfl, .inl ⟨rfl, ?_, rfl⟩⟩
      simp [updatesOf, updateOf, Delivery.opening, List.filterMap_cons]
  | retried d refused =>
      rcases refused with rfl | rfl
      all_goals
        refine ⟨d, by simpa [Delivery.opening] using first, rfl, .inr ⟨rfl, ?_, rfl⟩⟩
        simp [updatesOf, updateOf, Delivery.opening, List.filterMap_cons]

/-- A call sends once at most, and only after it set the key. -/
theorem ProcessHistory.sends {x : DeliveryPoint} {steps : List DeliveryStep}
    (history : ProcessHistory x steps) (working : StoresWorking steps) :
    steps.filterMap sentPayload = [] ∨
      (steps.filterMap sentPayload).length = 1 ∧ ∃ key, .marked key (some .ok) ∈ steps := by
  have opened : ∀ {d : Delivery} {reply : Option SetReply} {rest : List DeliveryStep},
      reply ≠ some .null → StoresWorking (d.opening reply ++ rest) →
      rest.filterMap sentPayload = [] →
      ((d.opening reply ++ rest).filterMap sentPayload).length = 1 ∧
        ∃ key, .marked key (some .ok) ∈ d.opening reply ++ rest := by
    intro d reply rest first working silent
    obtain rfl := (StoresWorking.append.mp working).1.first_reply first
    rw [List.filterMap_append, silent]
    exact ⟨rfl, _, List.mem_append_left _ List.mem_cons_self⟩
  have attempted : ∀ {d : Delivery} {attempt : List DeliveryStep}, FailedAttempt d attempt →
      attempt.filterMap sentPayload = [] := by
    intro d attempt failed
    cases failed <;> rfl
  cases history with
  | resolving | timing | marking | loggingDuplicate | loggingPending | acquiring | filtered
  | duplicate | dropped => exact .inl rfl
  | @posting d reply _ first =>
      rw [← List.append_nil (d.opening reply)] at working ⊢
      exact .inr (opened first working rfl)
  | loggingSent first | sent first => exact .inr (opened first working rfl)
  | loggingFailed first failed => exact .inr (opened first working (attempted failed))
  | enqueueing first failed | unlogged first failed | queued first failed =>
      rw [List.append_assoc] at working ⊢
      refine .inr (opened first working ?_)
      rw [List.filterMap_append, attempted failed]
      rfl

section

variable {P : Pipeline} {leadId : String} {eventName : TikTokEventName} {second : Int}
  {w : DeliveryWorld} {d : DeliveryConfig DeliveryPoint} {actions : List DeliveryAction}
  (h : P.protocol.run (.initial w) actions = some d)
  (same : ∀ p ∈ d.procs, SameEvent P leadId eventName second p.entry)
  (working : StoresWorking (deliverySteps d.trace))
  (claim : SoleClaim
    (DEDUP_KEY_PREFIX ++ Hasher.eventId P.platform leadId eventName (.int second))
    (w.clock + P.env.REDIS_DEDUP_TTL_SECONDS * 1000) d)

include h same

private theorem same_event_call {pid : Nat} {p : Proc DeliveryCall DeliveryPoint}
    (hp : d.procs[pid]? = some p) : ProcessHistory p.state (callSteps d pid) := by
  have event := same p (List.mem_of_getElem? hp)
  cases entry : p.entry with
  | runJob id => rw [entry] at event; cases event
  | process cdcEvent lead => exact process_history h hp entry

include working in
private theorem completed_of_idle (idle : ∀ pid, ¬ P.protocol.InFlight d pid) (pid : Nat) :
    CompletedCall (callSteps d pid) := by
  cases hp : d.procs[pid]? with
  | some p =>
      have history := same_event_call h same hp
      obtain ⟨outcome, ended⟩ := ended_of_idle hp (idle pid)
      rw [ended] at history
      exact (history.completed (working.call pid)).2
  | none =>
      have silent : callSteps d pid = [] := by
        refine List.eq_nil_iff_forall_not_mem.mpr fun s hs => ?_
        obtain ⟨p, hp'⟩ := exists_proc h hs
        rw [hp] at hp'
        cases hp'
      rw [silent]
      exact .filtered

include claim

private theorem claimant_unique {pid q : Nat} {key key' : String}
    (first : .marked key (some .ok) ∈ callSteps d pid)
    (second : .marked key' (some .ok) ∈ callSteps d q) : pid = q := by
  obtain ⟨p, hp⟩ := exists_proc h first
  obtain ⟨p', hp'⟩ := exists_proc h second
  rw [(same_event_history h hp (same p (List.mem_of_getElem? hp))).1 key _ first] at first
  rw [(same_event_history h hp' (same p' (List.mem_of_getElem? hp'))).1 key' _ second] at second
  obtain ⟨r, hr, rfl, hs⟩ := mem_callSteps.mp first
  obtain ⟨r', hr', rfl, hs'⟩ := mem_callSteps.mp second
  exact (claim.claimed r' hr' hs').2 r hr hs

include working

private theorem sent_at_most_once : (sentPayloads d).length ≤ 1 := by
  have sends : ∀ pid, (callSteps d pid).filterMap sentPayload = [] ∨
      ((callSteps d pid).filterMap sentPayload).length = 1 ∧
        ∃ key, .marked key (some .ok) ∈ callSteps d pid := by
    intro pid
    cases hp : d.procs[pid]? with
    | some p => exact (same_event_call h same hp).sends (working.call pid)
    | none =>
        refine .inl (List.filterMap_eq_nil_iff.mpr fun s hs => ?_)
        obtain ⟨p, hp'⟩ := exists_proc h hs
        rw [hp] at hp'
        cases hp'
  by_cases sender : ∃ pid, (callSteps d pid).filterMap sentPayload ≠ []
  · obtain ⟨pid, sending⟩ := sender
    obtain ⟨once, key, first⟩ := (sends pid).resolve_left sending
    have others : ∀ q, q ≠ pid → ∀ s ∈ callSteps d q, sentPayload s = none := by
      intro q other
      refine List.filterMap_eq_nil_iff.mp ((sends q).resolve_right ?_)
      rintro ⟨_, key', first'⟩
      exact other (claimant_unique h same claim first' first)
    rw [sentPayloads, filterMap_eq_callSteps others, once]
  · have silent : ∀ q, q ≠ 0 → ∀ s ∈ callSteps d q, sentPayload s = none := fun q _ =>
      List.filterMap_eq_nil_iff.mp (not_not.mp fun sending => sender ⟨q, sending⟩)
    rw [sentPayloads, filterMap_eq_callSteps silent,
      not_not.mp fun sending => sender ⟨0, sending⟩]
    exact Nat.zero_le 1

/-- When all calls have ended, one of them has set the key. -/
theorem exists_claimant (some_call : d.procs ≠ []) (idle : ∀ pid, ¬ P.protocol.InFlight d pid) :
    ∃ pid key, .marked key (some .ok) ∈ callSteps d pid := by
  suffices first : ∃ key, .marked key (some .ok) ∈ deliverySteps d.trace by
    obtain ⟨key, first⟩ := first
    obtain ⟨pid, first⟩ := mem_steps.mp first
    exact ⟨pid, key, first⟩
  obtain ⟨p, hp⟩ : ∃ p, d.procs[0]? = some p :=
    ⟨_, List.getElem?_eq_getElem (List.length_pos_of_ne_nil some_call)⟩
  obtain ⟨keys, busy⟩ := same_event_history h hp (same p (List.mem_of_getElem? hp))
  have busy := busy (ended_of_idle hp (idle 0))
  have completed := completed_of_idle h same working idle 0
  have found : ∀ {s}, s ∈ callSteps d 0 → s ∈ deliverySteps d.trace := fun hs =>
    mem_steps.mpr ⟨0, hs⟩
  generalize callSteps d 0 = steps at keys busy completed found
  cases completed with
  | filtered => exact absurd rfl busy
  | sent e => exact ⟨_, found (List.mem_append_left _ List.mem_cons_self)⟩
  | retried e =>
      exact ⟨_, found (List.mem_append_left _ (List.mem_append_left _ List.mem_cons_self))⟩
  | duplicate e =>
      -- a duplicate was told so by a key that somebody set
      have again := found List.mem_cons_self
      rw [keys _ _ List.mem_cons_self] at again
      obtain ⟨r, hr, hs⟩ := List.mem_filterMap.mp again
      by_contra none
      exact (claim.free fun r' hr' hs' =>
        none ⟨_, List.mem_filterMap.mpr ⟨r', hr', hs'⟩⟩).2 r hr hs

/-- When all calls have ended, the event was delivered once. -/
theorem delivered_once (some_call : d.procs ≠ []) (idle : ∀ pid, ¬ P.protocol.InFlight d pid) :
    DeliveredOnce d (Hasher.eventId P.platform leadId eventName (.int second)) := by
  obtain ⟨pid, key, first⟩ := exists_claimant h same working claim some_call idle
  have completed := completed_of_idle h same working idle
  have others : ∀ q, q ≠ pid → ∀ s ∈ callSteps d q, sentPayload s = none ∧
      acceptedPayload s = none ∧ queuedJob s = none ∧ ∀ eventId, updateOf eventId s = none := by
    intro q other s hs
    refine (completed q).silent (fun key' first' => ?_) hs
    exact other (claimant_unique h same claim first' first)
  obtain ⟨p, hp⟩ := exists_proc h first
  have here := (same_event_history h hp (same p (List.mem_of_getElem? hp))).1 key _ first
  obtain ⟨e, rfl, sent, outcome⟩ := (completed pid).delivers first
  rw [dedupKey_inj] at here
  rw [← here]
  have updates := filterMap_eq_callSteps fun q other s hs => (others q other s hs).2.2.2 e.eventId
  have rows := rows_kept h working
  have row : ∀ {status}, updatesOf e.eventId (callSteps d pid) = [status] →
      ∃ row, d.world.log.lookup e.eventId = some row ∧ row.status = status := by
    intro status once
    have once : updatesOf e.eventId (deliverySteps d.trace) = [status] := updates.trans once
    cases found : d.world.log.lookup e.eventId with
    | none => rw [rows.absent _ found] at once; cases once
    | some row => exact ⟨row, rfl, rows.status _ row status found (by rw [once]; rfl)⟩
  rw [← filterMap_eq_callSteps fun q other s hs => (others q other s hs).1] at sent
  rw [← filterMap_eq_callSteps fun q other s hs => (others q other s hs).2.1,
    ← filterMap_eq_callSteps fun q other s hs => (others q other s hs).2.2.1] at outcome
  obtain ⟨accepted, written, queued⟩ | ⟨refused, written, queued⟩ := outcome
  · obtain ⟨row, found, status⟩ := row written
    exact ⟨e.payload, row, e.single, sent, found, .inl ⟨accepted, status, queued⟩⟩
  · obtain ⟨row, found, status⟩ := row written
    exact ⟨e.payload, row, e.single, sent, found, .inr ⟨refused, status, queued⟩⟩

end

private theorem clock_le {P : Pipeline} {w : DeliveryWorld} {c : DeliveryConfig DeliveryPoint}
    {actions : List DeliveryAction} (h : P.protocol.run (.initial w) actions = some c) :
    w.clock ≤ c.world.clock := by
  refine protocol_invariant (fun _ => True) (fun c => w.clock ≤ c.world.clock) ?_ ?_ ?_ h
    (fun _ _ => trivial) (Int.le_refl w.clock)
  · exact fun _ _ hc => hc
  · intro c pid p r y v hc _ _ t _
    simpa only [t.clock_eq] using hc
  · intro c event v hc hv
    obtain ⟨elapsed, rfl⟩ | ⟨id, rfl⟩ := deliveryEnv_cases hv
    · simp only
      omega
    · exact hc

/-- Any number of calls for one event, all within the lifetime of the key, with working
stores: every call resolves after at most nine answers, at most one of them sends, and once
all have ended the event was delivered exactly once. -/
theorem exactly_one_delivery {P : Pipeline} {leadId : String} {eventName : TikTokEventName}
    {second : Int} {w : DeliveryWorld} {c : DeliveryConfig (DeliveryProg Unit)}
    {actions : List DeliveryAction} (h : P.system.run (.initial w) actions = some c)
    (same : ∀ p ∈ c.procs, SameEvent P leadId eventName second p.entry)
    (free : w.holds (DEDUP_KEY_PREFIX ++
      Hasher.eventId P.platform leadId eventName (.int second)) = false)
    (working : StoresWorking (deliverySteps c.trace))
    (within : c.world.clock < w.clock + P.env.REDIS_DEDUP_TTL_SECONDS * 1000) :
    (∀ pid outcome, P.system.Ended c pid outcome → outcome = .ok ()) ∧
      (∀ pid, P.system.InFlight c pid → (c.own pid).length < 9 ∧
        ∃ choice c', P.system.step c (.resume pid choice) = some c' ∧
          StoresWorking (deliverySteps c'.trace)) ∧
      (sentPayloads c).length ≤ 1 ∧
      (c.procs ≠ [] → (∀ pid, ¬ P.system.InFlight c pid) →
        DeliveredOnce c (Hasher.eventId P.platform leadId eventName (.int second))) := by
  obtain ⟨d, hd, rfl⟩ := exists_protocol h
  have refines := protocol_refines P
  have same' : ∀ p ∈ d.procs, SameEvent P leadId eventName second p.entry := fun p hp =>
    same ⟨p.entry, p.state.program P⟩ (List.mem_map.mpr ⟨p, hp, rfl⟩)
  have claim := sole_claim hd working.redis free within
  refine ⟨fun pid outcome ended => ?_, fun pid running => ?_, ?_, fun some_call idle => ?_⟩
  · have ended := refines.ended.mp ended
    obtain ⟨p, hp, hv⟩ := ended
    have history := same_event_call hd same' hp
    rw [view_ended hv] at history
    exact (history.completed (working.call pid)).1
  · obtain ⟨p, cmd, resume, hp, hv⟩ := refines.inFlight.mp running
    have bound := answers_bounded hd hp
    have left := remaining_pos hv
    have positive : 0 < P.env.REDIS_DEDUP_TTL_SECONDS := by
      have later := clock_le hd
      simp only [Config.map_world] at within
      omega
    obtain ⟨choice, reply, v, he, answered⟩ :=
      (same_event_call hd same' hp).answerable positive hv d.world pid
    have stepped : P.system.step (d.map (DeliveryPoint.program P)) (.resume pid choice) =
        some (Config.map (DeliveryPoint.program P)
          ⟨v, d.procs.set pid ⟨p.entry, resume reply⟩, d.trace ++ [⟨pid, cmd, choice, reply⟩]⟩) := by
      rw [refines.step, System.step_answer hp hv he]
      rfl
    refine ⟨by rw [Config.map_own]; omega, choice, _, stepped, fun s hs => ?_⟩
    simp only [Config.map_trace, deliverySteps_append, deliverySteps_single, List.mem_append,
      Option.mem_toList] at hs
    exact hs.elim (working s) (answered s)
  · exact sent_at_most_once hd same' working claim
  · have some_call' : d.procs ≠ [] := fun none => some_call (by simp [Config.map, none])
    exact delivered_once hd same' working claim some_call' fun pid running =>
      idle pid (refines.inFlight.mpr running)

/-- Two calls for one message: the duplicate logs first, and TikTok refuses the send. -/
def duplicateFirst : List DeliveryAction :=
  [.start Sample.call, .start Sample.call, .resume 0 .ok, .resume 1 .ok, .resume 1 .ok,
    .resume 0 .ok, .resume 0 .ok, .resume 0 (.fail Sample.lostConnection), .resume 0 .ok,
    .resume 0 .ok]

theorem exactly_one_delivery_duplicate :
    DeliveredOnce (Sample.after duplicateFirst (by decide)) Sample.delivery.eventId := by
  have same : ∀ p ∈ (Sample.after duplicateFirst (by decide)).procs,
      SameEvent Sample.pipeline "lead-001" (.standard .submitForm) 1710496800 p.entry := by
    have entries : (Sample.after duplicateFirst (by decide)).procs.map Proc.entry =
        [Sample.call, Sample.call] := rfl
    intro p hp
    have entry : p.entry = Sample.call := by
      simpa [entries] using List.mem_map_of_mem (f := Proc.entry) hp
    rw [entry]
    exact ⟨by decide, rfl, _, 1710496800000, rfl, by decide, by decide, by decide⟩
  exact (exactly_one_delivery (System.run_result _) same (by decide)
    (by unfold StoresWorking; decide) (by decide)).2.2.2 (by simp [System.result]; decide)
    (System.not_inFlight_of_idle (by decide))

end SalesforceTikTok
