import Mathlib.Logic.Equiv.Basic
import Std.Data.String.ToInt
import SalesforceTikTok.Delivery.Preparation

/-!
# Event identity

An event is identified by its lead, its name and its time in whole seconds. The
time is that of the commit, so a redelivery has the identity of the delivery;
only a message without a commit time takes the clock of the pipeline, and then
the identity changes with the second of the delivery.
-/

namespace SalesforceTikTok

open Concurrency

/-! ## Identity and time -/

theorem JsNumber.toText_int_inj {t u : Int} :
    (JsNumber.int t).toText = (JsNumber.int u).toText ↔ t = u :=
  Int.repr_inj

/-- For one lead and one event name the digest tells the seconds apart. -/
theorem Hasher.eventId_inj {p : Platform} (injective : Function.Injective p.sha256Hex)
    (leadId : String) (eventName : TikTokEventName) {t u : Int} :
    Hasher.eventId p leadId eventName (.int t) = Hasher.eventId p leadId eventName (.int u) ↔
      t = u := by
  constructor
  · intro same
    have preimage := injective same
    unfold Hasher.eventIdPreimage at preimage
    exact JsNumber.toText_int_inj.mp (String.append_right_inj _ |>.mp preimage)
  · rintro rfl
    rfl

namespace Pipeline

/-- The whole second of the commit, where the header carries one that parses. -/
def commitSecond (P : Pipeline) (cdcEvent : SalesforceCDCEvent) : Option Int :=
  match cdcEvent.payload.changeEventHeader.commitTimestamp with
  | none => none
  | some text =>
      if text = "" then none
      else (P.platform.dateParse text).map fun milliseconds => milliseconds / 1000

/-- The header carries a commit time that parses, or none. -/
def Readable (P : Pipeline) (cdcEvent : SalesforceCDCEvent) : Prop :=
  cdcEvent.undated = true ∨ (P.commitSecond cdcEvent).isSome = true

variable {P : Pipeline}

private theorem timeFrom_of_commit {cdcEvent : SalesforceCDCEvent} {second : Int}
    (committed : P.commitSecond cdcEvent = some second) (clock : Option Int) :
    P.timeFrom cdcEvent clock = .int second := by
  unfold commitSecond at committed
  unfold timeFrom
  cases present : cdcEvent.payload.changeEventHeader.commitTimestamp with
  | none =>
      rw [present] at committed
      cases committed
  | some text =>
      rw [present] at committed
      simp only at committed ⊢
      split at committed
      · cases committed
      · next full =>
        obtain ⟨milliseconds, parsed, rfl⟩ := Option.map_eq_some_iff.mp committed
        rw [if_neg full, commitSeconds, parsed]

private theorem timeFrom_finite {cdcEvent : SalesforceCDCEvent} (readable : P.Readable cdcEvent)
    {clock : Option Int} (read : cdcEvent.undated = true → clock.isSome = true) :
    ∃ second, P.timeFrom cdcEvent clock = .int second := by
  obtain undated | committed := readable
  · obtain ⟨now, rfl⟩ := Option.isSome_iff_exists.mp (read undated)
    exact ⟨now / 1000, P.timeFrom_undated undated now⟩
  · obtain ⟨second, committed⟩ := Option.isSome_iff_exists.mp committed
    exact ⟨second, timeFrom_of_commit committed clock⟩

/-! ## The events a call passes on -/

/-- The events in the payloads a call passes on: to the log, to `sendEvents`, to the queue. -/
def eventsOf {X : Type} (c : DeliveryConfig X) (pid : Nat) : List TikTokEventData :=
  (c.own pid).flatMap fun r =>
    match r.cmd.payload? with
    | some payload => payload.data
    | none => []

/-- An event passed on was built from the message and the answers of its call. -/
theorem event_built {w : DeliveryWorld} {c : DeliveryConfig (DeliveryProg Unit)}
    {actions : List DeliveryAction} (h : P.system.run (.initial w) actions = some c)
    {pid : Nat} {cdcEvent : SalesforceCDCEvent} {lead : SalesforceLead}
    {state : DeliveryProg Unit} (hp : c.procs[pid]? = some ⟨.process cdcEvent lead, state⟩)
    {e : TikTokEventData} (he : e ∈ eventsOf c pid) :
    ∃ eventName, EventFilter.accepted P.platform cdcEvent = some eventName ∧
      e.eventTime = P.timeFrom cdcEvent (clockIn (c.own pid)) ∧
        e.eventId = Hasher.eventId P.platform lead.id eventName e.eventTime ∧
          (cdcEvent.undated = true → (clockIn (c.own pid)).isSome = true) := by
  obtain ⟨r, hr, he⟩ := List.mem_flatMap.mp he
  obtain ⟨eventName, named, owns, timed⟩ := process_owns h hp hr
  split at he
  next payload passed =>
    rw [owns.1 payload passed] at he
    obtain rfl := List.mem_singleton.mp he
    exact ⟨eventName, named, rfl, rfl, timed (by rw [passed]; rfl)⟩
  next => cases he

end Pipeline

open Pipeline

/-- Any two deliveries, in one run or in two. -/
theorem event_identity {P : Pipeline} (injective : Function.Injective P.platform.sha256Hex)
    {w w' : DeliveryWorld} {c c' : DeliveryConfig (DeliveryProg Unit)}
    {actions actions' : List DeliveryAction}
    (h : P.system.run (.initial w) actions = some c)
    (h' : P.system.run (.initial w') actions' = some c')
    {pid pid' : Nat} {cdcEvent cdcEvent' : SalesforceCDCEvent} {lead lead' : SalesforceLead}
    {state state' : DeliveryProg Unit}
    (hp : c.procs[pid]? = some ⟨.process cdcEvent lead, state⟩)
    (hp' : c'.procs[pid']? = some ⟨.process cdcEvent' lead', state'⟩)
    (sameLead : lead.id = lead'.id)
    (sameName : EventFilter.accepted P.platform cdcEvent =
      EventFilter.accepted P.platform cdcEvent')
    (readable : P.Readable cdcEvent) (readable' : P.Readable cdcEvent')
    {e e' : TikTokEventData} (he : e ∈ eventsOf c pid) (he' : e' ∈ eventsOf c' pid') :
    (∃ second, e.eventTime = .int second) ∧
      (cdcEvent = cdcEvent' → cdcEvent.undated = false →
        e.eventId = e'.eventId ∧ e.eventTime = e'.eventTime) ∧
      (cdcEvent.undated = true →
        ∃ now, clockIn (c.own pid) = some now ∧ e.eventTime = .int (now / 1000)) ∧
      (∀ second second', P.commitSecond cdcEvent = some second →
        P.commitSecond cdcEvent' = some second' → second ≠ second' → e.eventId ≠ e'.eventId) ∧
      (e.eventId = e'.eventId ↔ e.eventTime = e'.eventTime) := by
  obtain ⟨eventName, named, time, id, timed⟩ := event_built h hp he
  obtain ⟨eventName', named', time', id', timed'⟩ := event_built h' hp' he'
  obtain rfl : eventName = eventName' := by
    rw [named, named'] at sameName
    exact Option.some.inj sameName
  obtain ⟨second, finite⟩ := timeFrom_finite readable timed
  obtain ⟨second', finite'⟩ := timeFrom_finite readable' timed'
  rw [finite] at time
  rw [finite'] at time'
  have identified : e.eventId = e'.eventId ↔ e.eventTime = e'.eventTime := by
    rw [id, id', time, time', sameLead, Hasher.eventId_inj injective, JsNumber.int.injEq]
  refine ⟨⟨second, time⟩, ?_, ?_, ?_, identified⟩
  · rintro rfl dated
    have committed : (P.commitSecond cdcEvent).isSome = true := by
      obtain undated | committed := readable
      · rw [dated] at undated
        cases undated
      · exact committed
    obtain ⟨committed, hc⟩ := Option.isSome_iff_exists.mp committed
    have same : e.eventTime = e'.eventTime := by
      rw [time, time', ← finite, ← finite', timeFrom_of_commit hc, timeFrom_of_commit hc]
    exact ⟨identified.mpr same, same⟩
  · intro undated
    obtain ⟨now, read⟩ := Option.isSome_iff_exists.mp (timed undated)
    refine ⟨now, read, ?_⟩
    rw [time, ← finite, read, P.timeFrom_undated undated]
  · intro committed committed' hc hc' differ same
    have times := identified.mp same
    rw [time, time', ← finite, ← finite', timeFrom_of_commit hc, timeFrom_of_commit hc'] at times
    exact differ (JsNumber.int.inj times)

/-! ## Messages with and without a commit time -/

namespace Sample

def digests : List (String × String) := [
  ("lead-001:SubmitForm:1710496800",
    "1595488d2c3c63e3584565af0f242d9f46e5dbcb2b532114630b735f1ab2df5a"),
  ("lead-001:SubmitForm:1710496801",
    "d0c110dfa5b4481edc9c9d6770c460f35f4a7bbc35dd5a7be4a39295ff610b3d"),
  ("lead-001:SubmitForm:0",
    "ad88a76a62c7bf02dfc638b72008933b3ff5e8828f3cc71ffdd491b2cb63ee75"),
  ("lead-001:SubmitForm:1",
    "c90a8379a02e8c9561f8d3eff20fbee42fd7c48b28bfb8da2480260d6560f2d7")]

def digest : Equiv.Perm String :=
  digests.foldr (fun entry rest => (Equiv.swap entry.1 entry.2).trans rest) (Equiv.refl String)

def injective : Pipeline where
  platform :=
    { platform with
      sha256Hex := digest
      dateParse := fun text =>
        if text = "2024-03-15T10:00:00Z" then some 1710496800000
        else if text = "2024-03-15T10:00:01Z" then some 1710496801000
        else none }
  env := pipeline.env
  eventSetManager := false

def committedAt (commitTimestamp : Option String) : SalesforceCDCEvent :=
  { cdcEvent with
    payload :=
      { changeEventHeader :=
          { cdcEvent.payload.changeEventHeader with commitTimestamp := commitTimestamp } } }

end Sample

def deliverTwoCommits : List DeliveryAction :=
  [.start (.process (Sample.committedAt (some "2024-03-15T10:00:00Z")) Sample.lead),
    .resume 0 .ok, .resume 0 .ok,
    .start (.process (Sample.committedAt (some "2024-03-15T10:00:01Z")) Sample.lead),
    .resume 1 .ok, .resume 1 .ok]

theorem event_identity_two_commits :
    let c := Sample.injective.system.result (.initial (.fresh 0)) deliverTwoCommits (by decide)
    ∃ e ∈ eventsOf c 0, ∃ e' ∈ eventsOf c 1, e.eventId ≠ e'.eventId := by
  intro c
  have h : Sample.injective.system.run (.initial (.fresh 0)) deliverTwoCommits = some c :=
    System.run_result _
  have first : (eventsOf c 0).length = 1 := by decide
  have second : (eventsOf c 1).length = 1 := by decide
  obtain ⟨e, he⟩ := List.length_eq_one_iff.mp first
  obtain ⟨e', he'⟩ := List.length_eq_one_iff.mp second
  have hme : e ∈ eventsOf c 0 := by simp [he]
  have hme' : e' ∈ eventsOf c 1 := by simp [he']
  obtain ⟨state, hp⟩ : ∃ state, c.procs[0]? =
      some ⟨.process (Sample.committedAt (some "2024-03-15T10:00:00Z")) Sample.lead, state⟩ :=
    ⟨_, rfl⟩
  obtain ⟨state', hp'⟩ : ∃ state, c.procs[1]? =
      some ⟨.process (Sample.committedAt (some "2024-03-15T10:00:01Z")) Sample.lead, state⟩ :=
    ⟨_, rfl⟩
  have differ := (event_identity Sample.digest.injective h h hp hp' rfl rfl
    (.inr (by decide)) (.inr (by decide)) hme hme').2.2.2.1
  exact ⟨e, hme, e', hme', differ 1710496800 1710496801 (by decide) (by decide) (by decide)⟩

def redeliverUndated : List DeliveryAction :=
  [.start (.process (Sample.committedAt none) Sample.lead),
    .resume 0 .ok, .resume 0 .ok, .resume 0 .ok, .env (.tick 1000),
    .start (.process (Sample.committedAt none) Sample.lead),
    .resume 1 .ok, .resume 1 .ok, .resume 1 .ok]

theorem undated_redelivery_renamed :
    let c := Sample.injective.system.result (.initial (.fresh 0)) redeliverUndated (by decide)
    Function.Injective Sample.injective.platform.sha256Hex ∧
      c.entries = List.replicate 2 (.process (Sample.committedAt none) Sample.lead) ∧
      ¬ ∀ e ∈ eventsOf c 0, ∀ e' ∈ eventsOf c 1,
          e.eventId = e'.eventId ∧ e.eventTime = e'.eventTime := by
  refine ⟨Sample.digest.injective, rfl, by decide⟩

end SalesforceTikTok
