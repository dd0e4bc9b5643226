import SalesforceTikTok.Concurrency.Invariant
import SalesforceTikTok.Delivery.Protocol

/-!
# Transitions of the delivery protocol

What one answered command can do, as a table with one entry for each outcome,
and the invariant rules that follow from it. The proofs about the delivery path
are case analyses of the table.
-/

namespace SalesforceTikTok

open Concurrency

/-! ## The transition table -/

/-- `DeliveryTransition P x w r y v`: at point `x` in world `w` the answer `r` leads to point
`y` in world `v`. A rejected store command may or may not have taken effect. -/
inductive DeliveryTransition (P : Pipeline) :
    DeliveryPoint → DeliveryWorld → DeliveryRecord → DeliveryPoint → DeliveryWorld → Prop where
  | resolved {cdcEvent lead eventName advertiserId w pid choice reply} (eventSetId : Option String) :
      DeliveryTransition P (.resolving cdcEvent lead eventName advertiserId) w
        ⟨pid, .resolveEventSet advertiserId, choice, reply⟩
        (P.timed cdcEvent lead eventName eventSetId) w
  | timed {cdcEvent lead eventName eventSetId w pid} :
      DeliveryTransition P (.timing cdcEvent lead eventName eventSetId) w
        ⟨pid, .now, .ok, .ok w.clock⟩
        (.marking (P.delivery cdcEvent lead eventName eventSetId (.int (w.clock / 1000)))) w
  | novel {d w pid choice}
      (positive : 0 < P.env.REDIS_DEDUP_TTL_SECONDS)
      (free : w.holds (DEDUP_KEY_PREFIX ++ d.eventId) = false) :
      DeliveryTransition P (.marking d) w
        ⟨pid, .setNx (DEDUP_KEY_PREFIX ++ d.eventId) P.env.REDIS_DEDUP_TTL_SECONDS, choice,
          .ok .ok⟩
        (.loggingPending d)
        { w with
          dedup := w.dedup.insert (DEDUP_KEY_PREFIX ++ d.eventId)
            (w.clock + P.env.REDIS_DEDUP_TTL_SECONDS * 1000) }
  | duplicate {d w pid choice} (held : w.holds (DEDUP_KEY_PREFIX ++ d.eventId) = true) :
      DeliveryTransition P (.marking d) w
        ⟨pid, .setNx (DEDUP_KEY_PREFIX ++ d.eventId) P.env.REDIS_DEDUP_TTL_SECONDS, choice,
          .ok .null⟩
        (.loggingDuplicate d) w
  | markFailed {d w pid choice error v}
      (lost : choice ≠ .ok ∨ P.env.REDIS_DEDUP_TTL_SECONDS ≤ 0)
      (effect : v = w ∨
        v = (w.setNx (DEDUP_KEY_PREFIX ++ d.eventId) P.env.REDIS_DEDUP_TTL_SECONDS).2) :
      DeliveryTransition P (.marking d) w
        ⟨pid, .setNx (DEDUP_KEY_PREFIX ++ d.eventId) P.env.REDIS_DEDUP_TTL_SECONDS, choice,
          .error error⟩
        (.loggingPending d) v
  | duplicateLogged {d w pid} :
      DeliveryTransition P (.loggingDuplicate d) w
        ⟨pid, .insertLog d.eventId (d.record .duplicate), .ok, .ok ()⟩
        (.ended (.ok ())) (w.insertLog d.eventId (d.record .duplicate))
  | duplicateLogFailed {d w pid choice error v} (lost : choice ≠ .ok)
      (effect : v = w ∨ v = w.insertLog d.eventId (d.record .duplicate)) :
      DeliveryTransition P (.loggingDuplicate d) w
        ⟨pid, .insertLog d.eventId (d.record .duplicate), choice, .error error⟩
        (.ended (.error error)) v
  | pendingLogged {d w pid} :
      DeliveryTransition P (.loggingPending d) w
        ⟨pid, .insertLog d.eventId (d.record .pending), .ok, .ok ()⟩
        (.acquiring d) (w.insertLog d.eventId (d.record .pending))
  | pendingLogFailed {d w pid choice error v} (lost : choice ≠ .ok)
      (effect : v = w ∨ v = w.insertLog d.eventId (d.record .pending)) :
      DeliveryTransition P (.loggingPending d) w
        ⟨pid, .insertLog d.eventId (d.record .pending), choice, .error error⟩
        (.ended (.error error)) v
  | acquired {d w pid accessToken}
      (token : TikTokAPIClient.staticToken P.env = .ok accessToken) :
      DeliveryTransition P (.acquiring d) w ⟨pid, .acquire d.payload, .ok, .ok ()⟩
        (.posting d accessToken) w
  | noToken {d w pid error} (token : TikTokAPIClient.staticToken P.env = .error error) :
      DeliveryTransition P (.acquiring d) w ⟨pid, .acquire d.payload, .ok, .ok ()⟩
        (.loggingFailed d error) w
  | accepted {d accessToken w pid choice response} (code : TikTokAPIResponse.code response = 0) :
      DeliveryTransition P (.posting d accessToken) w
        ⟨pid, .postEvents d.payload accessToken, choice, .ok response⟩
        (.loggingSent d response) w
  | refused {d accessToken w pid choice response} (code : TikTokAPIResponse.code response ≠ 0) :
      DeliveryTransition P (.posting d accessToken) w
        ⟨pid, .postEvents d.payload accessToken, choice, .ok response⟩
        (.loggingFailed d (TikTokAPIClient.businessError response)) w
  | postFailed {d accessToken w pid choice error} :
      DeliveryTransition P (.posting d accessToken) w
        ⟨pid, .postEvents d.payload accessToken, choice, .error error⟩
        (.loggingFailed d error) w
  | sentLogged {d response w pid} :
      DeliveryTransition P (.loggingSent d response) w
        ⟨pid, .updateLog d.eventId .sent (some response) none, .ok, .ok ()⟩
        (.ended (.ok ())) (w.updateLog d.eventId .sent (some response) none)
  | sentLogFailed {d response w pid choice error v} (lost : choice ≠ .ok)
      (effect : v = w ∨ v = w.updateLog d.eventId .sent (some response) none) :
      DeliveryTransition P (.loggingSent d response) w
        ⟨pid, .updateLog d.eventId .sent (some response) none, choice, .error error⟩
        (.loggingFailed d error) v
  | failedLogged {d} {cause : JsError} {w pid} :
      DeliveryTransition P (.loggingFailed d cause) w
        ⟨pid, .updateLog d.eventId .failed none (some cause.message), .ok, .ok ()⟩
        (.enqueueing d) (w.updateLog d.eventId .failed none (some cause.message))
  | failedLogFailed {d} {cause : JsError} {w pid choice error v} (lost : choice ≠ .ok)
      (effect : v = w ∨ v = w.updateLog d.eventId .failed none (some cause.message)) :
      DeliveryTransition P (.loggingFailed d cause) w
        ⟨pid, .updateLog d.eventId .failed none (some cause.message), choice, .error error⟩
        (.ended (.error error)) v
  | enqueued {d w pid} :
      DeliveryTransition P (.enqueueing d) w
        ⟨pid, .addJob (RetryQueue.jobId d.payload) (RetryQueue.jobData d.payload), .ok,
          .ok (RetryQueue.jobId d.payload)⟩
        (.ended (.ok ()))
        (w.addJob (RetryQueue.jobId d.payload) (RetryQueue.jobData d.payload))
  | enqueueFailed {d w pid choice error v} (lost : choice ≠ .ok)
      (effect : choice = .fail error ∧ v = w ∨ choice = .failAfter error ∧
        v = w.addJob (RetryQueue.jobId d.payload) (RetryQueue.jobData d.payload)) :
      DeliveryTransition P (.enqueueing d) w
        ⟨pid, .addJob (RetryQueue.jobId d.payload) (RetryQueue.jobData d.payload), choice,
          .error error⟩
        (.ended (.error error)) v
  | taken {id w pid data v} (job : w.takeJob id = some (data, v)) :
      DeliveryTransition P (.taking id) w ⟨pid, .takeJob id, .ok, .ok data⟩
        (.jobAcquiring id data) v
  | jobAcquired {id data w pid accessToken}
      (token : TikTokAPIClient.staticToken P.env = .ok accessToken) :
      DeliveryTransition P (.jobAcquiring id data) w ⟨pid, .acquire data.payload, .ok, .ok ()⟩
        (.jobPosting id data accessToken) w
  | jobNoToken {id data w pid error}
      (token : TikTokAPIClient.staticToken P.env = .error error) :
      DeliveryTransition P (.jobAcquiring id data) w ⟨pid, .acquire data.payload, .ok, .ok ()⟩
        (.settling id false) w
  | jobPosted {id data accessToken w pid choice response} :
      DeliveryTransition P (.jobPosting id data accessToken) w
        ⟨pid, .postEvents data.payload accessToken, choice, .ok response⟩
        (.settling id (TikTokAPIResponse.code response = 0)) w
  | jobPostFailed {id data accessToken w pid choice error} :
      DeliveryTransition P (.jobPosting id data accessToken) w
        ⟨pid, .postEvents data.payload accessToken, choice, .error error⟩
        (.settling id false) w
  | settled {id succeeded w pid} :
      DeliveryTransition P (.settling id succeeded) w ⟨pid, .settleJob id succeeded, .ok, .ok ()⟩
        (.ended (.ok ())) (w.settleJob P.env.TIKTOK_MAX_RETRIES id succeeded)

theorem faulty_cases {α : Type} {choice : DeliveryChoice} {w v : DeliveryWorld}
    {regular : Except JsError α × DeliveryWorld} {reply : Except JsError α}
    (h : faulty choice w regular = some (reply, v)) :
    (choice = .ok ∧ regular = (reply, v)) ∨
      ∃ error, reply = .error error ∧
        (choice = .fail error ∧ v = w ∨ choice = .failAfter error ∧ v = regular.2) := by
  cases choice with
  | ok => exact .inl ⟨rfl, Option.some.inj h⟩
  | fail error =>
      obtain ⟨rfl, rfl⟩ := Prod.mk.inj (Option.some.inj h)
      exact .inr ⟨error, rfl, .inl ⟨rfl, rfl⟩⟩
  | failAfter error =>
      obtain ⟨rfl, rfl⟩ := Prod.mk.inj (Option.some.inj h)
      exact .inr ⟨error, rfl, .inr ⟨rfl, rfl⟩⟩
  | eventSet id => cases h
  | response response => cases h

/-- A store command without an answer of its own: done, or rejected with or without effect. -/
theorem faulty_unit {choice : DeliveryChoice} {w v effect : DeliveryWorld}
    {reply : Except JsError Unit} (h : faulty choice w (.ok (), effect) = some (reply, v)) :
    (choice = .ok ∧ reply = .ok () ∧ v = effect) ∨
      ∃ error, reply = .error error ∧ choice ≠ .ok ∧ (v = w ∨ v = effect) := by
  obtain ⟨rfl, hr⟩ | ⟨error, rfl, ⟨rfl, rfl⟩ | ⟨rfl, rfl⟩⟩ := faulty_cases h
  · obtain ⟨rfl, rfl⟩ := Prod.mk.inj hr
    exact .inl ⟨rfl, rfl, rfl⟩
  · exact .inr ⟨error, rfl, by simp, .inl rfl⟩
  · exact .inr ⟨error, rfl, by simp, .inr rfl⟩

/-- Every answered command of the protocol is an entry of the table. -/
theorem DeliveryPoint.transition {P : Pipeline} {x : DeliveryPoint} {cmd : DeliveryCmd}
    {resume : Except JsError cmd.Reply → DeliveryPoint} {choice : DeliveryChoice}
    {w v : DeliveryWorld} {reply : Except JsError cmd.Reply} (pid : Nat)
    (hv : x.view P = .awaits cmd resume)
    (he : deliveryExec P.env cmd choice w = some (reply, v)) :
    DeliveryTransition P x w ⟨pid, cmd, choice, reply⟩ (resume reply) v := by
  cases x with
  | resolving cdcEvent lead eventName advertiserId =>
      cases hv
      cases choice <;> cases he
      · exact .resolved none
      · exact .resolved (some _)
  | timing cdcEvent lead eventName eventSetId =>
      cases hv
      cases choice <;> cases he
      exact .timed
  | marking d =>
      cases hv
      have expiry : P.env.REDIS_DEDUP_TTL_SECONDS ≤ 0 ∨ 0 < P.env.REDIS_DEDUP_TTL_SECONDS := by omega
      obtain ⟨rfl, hr⟩ | ⟨error, rfl, failure⟩ := faulty_cases he
      · obtain expired | positive := expiry
        · rw [DeliveryWorld.setNx, if_pos expired] at hr
          cases hr
          exact .markFailed (.inr expired) (.inl rfl)
        · rw [DeliveryWorld.setNx, if_neg (by omega)] at hr
          cases held : w.holds (DEDUP_KEY_PREFIX ++ d.eventId) with
          | true =>
              rw [if_pos held] at hr
              cases hr
              exact .duplicate held
          | false =>
              rw [if_neg (by simp [held])] at hr
              cases hr
              exact .novel positive held
      · obtain ⟨rfl, effect⟩ | ⟨rfl, effect⟩ := failure
        · exact .markFailed (.inl (by simp)) (.inl effect)
        · exact .markFailed (.inl (by simp)) (.inr effect)
  | loggingDuplicate d =>
      cases hv
      obtain ⟨rfl, rfl, rfl⟩ | ⟨error, rfl, lost, effect⟩ := faulty_unit he
      · exact .duplicateLogged
      · exact .duplicateLogFailed lost effect
  | loggingPending d =>
      cases hv
      obtain ⟨rfl, rfl, rfl⟩ | ⟨error, rfl, lost, effect⟩ := faulty_unit he
      · exact .pendingLogged
      · exact .pendingLogFailed lost effect
  | acquiring d =>
      cases hv
      cases choice <;> cases he
      cases token : TikTokAPIClient.staticToken P.env with
      | ok accessToken => exact .acquired token
      | error error => exact .noToken token
  | posting d accessToken =>
      cases hv
      cases choice <;> cases he
      · exact .postFailed
      · by_cases code : TikTokAPIResponse.code ‹_› = 0
        · simp only [code, ne_eq, not_true_eq_false, if_false]
          exact .accepted code
        · simp only [code, ne_eq, not_false_eq_true, if_true]
          exact .refused code
  | loggingSent d response =>
      cases hv
      obtain ⟨rfl, rfl, rfl⟩ | ⟨error, rfl, lost, effect⟩ := faulty_unit he
      · exact .sentLogged
      · exact .sentLogFailed lost effect
  | loggingFailed d cause =>
      cases hv
      obtain ⟨rfl, rfl, rfl⟩ | ⟨error, rfl, lost, effect⟩ := faulty_unit he
      · exact .failedLogged
      · exact .failedLogFailed lost effect
  | enqueueing d =>
      cases hv
      obtain ⟨rfl, hr⟩ | ⟨error, rfl, failure⟩ := faulty_cases he
      · cases hr
        exact .enqueued
      · obtain ⟨rfl, effect⟩ | ⟨rfl, effect⟩ := failure
        · exact .enqueueFailed (by simp) (.inl ⟨rfl, effect⟩)
        · exact .enqueueFailed (by simp) (.inr ⟨rfl, effect⟩)
  | taking id =>
      cases hv
      cases choice <;> try cases he
      obtain ⟨⟨data, v'⟩, job, hr⟩ := Option.map_eq_some_iff.mp he
      cases hr
      exact .taken job
  | jobAcquiring id data =>
      cases hv
      cases choice <;> cases he
      cases token : TikTokAPIClient.staticToken P.env with
      | ok accessToken => exact .jobAcquired token
      | error error => exact .jobNoToken token
  | jobPosting id data accessToken =>
      cases hv
      cases choice <;> cases he
      · exact .jobPostFailed
      · exact .jobPosted
  | settling id succeeded =>
      cases hv
      cases choice <;> cases he
      exact .settled
  | ended outcome => cases hv

/-! ## Invariant rules -/

abbrev DeliveryConfig (X : Type) :=
  Config DeliveryCmd DeliveryCmd.Reply JsError DeliveryWorld DeliveryChoice DeliveryCall X

abbrev DeliveryAction := Action DeliveryCall DeliveryChoice DeliveryEvent

namespace Pipeline

variable {P : Pipeline}

/-- A fact about one call and its own history: enough to check it at the start and
at every entry of the table. -/
theorem protocol_own (Ok : DeliveryRecord → Prop)
    (Own : DeliveryCall → DeliveryPoint → List DeliveryRecord → Prop)
    (launched : ∀ call, Own call (P.startPoint call) [])
    (answered : ∀ call x history w r y v, Own call x history → DeliveryTransition P x w r y v →
      Ok r → Own call y (history ++ [r]))
    {w : DeliveryWorld} {c : DeliveryConfig DeliveryPoint} {actions : List DeliveryAction}
    (h : P.protocol.run (.initial w) actions = some c) (ok : ∀ r ∈ c.trace, Ok r)
    {pid : Nat} {p : Proc DeliveryCall DeliveryPoint} (hp : c.procs[pid]? = some p) :
    Own p.entry p.state (c.own pid) := by
  refine System.run_own Ok Own ?_ ?_ h ok hp
  · intro entry w x v hl
    cases hl
    exact launched entry
  · intro entry x history cmd resume pid choice reply w v own hv he hok
    exact answered _ _ _ _ _ _ _ own (DeliveryPoint.transition pid hv he) hok

/-- A fact about whole configurations: enough to check it for a started call, for every
entry of the table and for the two events of the environment. -/
theorem protocol_invariant (Ok : DeliveryRecord → Prop)
    (I : DeliveryConfig DeliveryPoint → Prop)
    (started : ∀ c call, I c → I { c with procs := c.procs ++ [⟨call, P.startPoint call⟩] })
    (answered : ∀ c pid p r y v, I c → c.procs[pid]? = some p → r.pid = pid →
      DeliveryTransition P p.state c.world r y v → Ok r →
      I ⟨v, c.procs.set pid ⟨p.entry, y⟩, c.trace ++ [r]⟩)
    (moved : ∀ c event v, I c → deliveryEnv event c.world = some v → I { c with world := v })
    {c c' : DeliveryConfig DeliveryPoint} {actions : List DeliveryAction}
    (h : P.protocol.run c actions = some c') (ok : ∀ r ∈ c'.trace, Ok r) (initial : I c) :
    I c' := by
  refine System.run_invariant_of_trace Ok I ?_ h ok initial
  intro c a c' hc hs hok
  cases a with
  | start call =>
      obtain ⟨x, v, hl, rfl⟩ := System.step_start hs
      cases hl
      exact started c call hc
  | resume pid choice =>
      obtain ⟨p, cmd, resume, reply, v, hp, hv, he, rfl⟩ := System.step_resume hs
      exact answered c pid p _ _ _ hc hp rfl (DeliveryPoint.transition pid hv he)
        (hok _ (by simp))
  | env event =>
      obtain ⟨v, hw, rfl⟩ := System.step_env hs
      exact moved c event v hc hw

end Pipeline
end SalesforceTikTok
