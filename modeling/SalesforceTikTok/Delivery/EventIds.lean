import SalesforceTikTok.Delivery.NoLostEvent
import SalesforceTikTok.Delivery.Identity

/-!
# Event ids, and what is stored under them

An event id is the digest of three parts joined by colons, and a job id is a
list of event ids joined by colons. Only the first of the three parts can hold a
colon itself, so the joined text still tells the parts apart.
-/

namespace SalesforceTikTok

/-! ## The last separator -/

/-- What follows the last separator, and what stands before it. -/
theorem split_at_last {α : Type} {sep : α} {xs xs' ys ys' : List α} (free : sep ∉ ys)
    (free' : sep ∉ ys') (same : xs ++ sep :: ys = xs' ++ sep :: ys') : xs = xs' ∧ ys = ys' := by
  obtain ⟨rest, rfl, shape⟩ | ⟨rest, rfl, shape⟩ := List.append_eq_append_iff.mp same
  · cases rest with
    | nil => simpa using shape
    | cons first rest =>
        obtain ⟨rfl, rfl⟩ := List.cons.inj shape
        simp at free
  · cases rest with
    | nil => simpa using shape.symm
    | cons first rest =>
        obtain ⟨rfl, rfl⟩ := List.cons.inj shape
        simp at free'

/-! ## The parts of a preimage -/

def TikTokStandardEvent.all : List TikTokStandardEvent :=
  [.submitForm, .completeRegistration, .contact, .findLocation, .schedule, .submitApplication,
    .applicationApproval, .subscribe, .addToWishlist, .viewContent, .search, .purchase,
    .addToCart, .initiateCheckout, .addPaymentInfo, .startTrial, .download, .customizeProduct]

theorem TikTokStandardEvent.mem_all (event : TikTokStandardEvent) :
    event ∈ TikTokStandardEvent.all := by
  cases event <;> decide

namespace TikTokEventName

/-- The names that the type `TikTokEventName` declares. -/
def declared : List TikTokEventName :=
  TikTokStandardEvent.all.map .standard ++
    [.leadCreated, .leadContacted, .leadQualified, .leadConverted]

theorem mem_declared_iff (eventName : TikTokEventName) :
    eventName ∈ declared ↔ ∀ property, eventName ≠ .inherited property := by
  constructor
  · rintro listed property rfl
    simp [declared] at listed
  · intro own
    cases eventName with
    | standard event => exact List.mem_append_left _ (List.mem_map_of_mem event.mem_all)
    | inherited property => exact absurd rfl (own property)
    | _ => simp [declared]

private theorem declared_texts_nodup : (declared.map toText).Nodup := by decide

private theorem declared_colonless :
    ∀ eventName ∈ declared, ':' ∉ eventName.toText.toList := by decide

private theorem toText_inj {eventName eventName' : TikTokEventName} (listed : eventName ∈ declared)
    (listed' : eventName' ∈ declared) (same : eventName.toText = eventName'.toText) :
    eventName = eventName' :=
  List.inj_on_of_nodup_map declared_texts_nodup listed listed' same

end TikTokEventName

theorem JsNumber.int_colonless (t : Int) : ':' ∉ (JsNumber.int t).toText.toList := by
  have digits (n : Nat) : ':' ∉ n.repr.toList := by
    rw [Nat.toList_repr]
    intro colon
    have digit := Nat.isDigit_of_mem_toDigits (by decide) (by decide) colon
    revert digit
    decide
  change ':' ∉ (toString t).toList
  rw [Int.toString_eq_repr, Int.repr_eq_if]
  split
  · exact digits _
  · rw [String.toList_append, List.mem_append, not_or]
    exact ⟨by decide, digits _⟩

/-- A preimage tells its three parts apart, whatever the lead id. -/
theorem Hasher.eventIdPreimage_inj {leadId leadId' : String}
    {eventName eventName' : TikTokEventName} {t t' : Int}
    (listed : eventName ∈ TikTokEventName.declared)
    (listed' : eventName' ∈ TikTokEventName.declared)
    (same : Hasher.eventIdPreimage leadId eventName (.int t) =
      Hasher.eventIdPreimage leadId' eventName' (.int t')) :
    leadId = leadId' ∧ eventName = eventName' ∧ t = t' := by
  have shape (leadId : String) (eventName : TikTokEventName) (t : Int) :
      (Hasher.eventIdPreimage leadId eventName (.int t)).toList =
        (leadId.toList ++ ':' :: eventName.toText.toList) ++
          ':' :: (JsNumber.int t).toText.toList := by
    simp [Hasher.eventIdPreimage]
  have lists := congrArg String.toList same
  rw [shape, shape] at lists
  obtain ⟨front, time⟩ := split_at_last (JsNumber.int_colonless t) (JsNumber.int_colonless t') lists
  obtain ⟨lead, name⟩ := split_at_last (TikTokEventName.declared_colonless _ listed)
    (TikTokEventName.declared_colonless _ listed') front
  exact ⟨String.toList_injective lead,
    TikTokEventName.toText_inj listed listed' (String.toList_injective name),
    JsNumber.toText_int_inj.mp (String.toList_injective time)⟩

/-! ## Rows and jobs -/

/-- The writes under one event id leave the row of the other alone. -/
def RowsApart (eventId eventId' : String) : Prop :=
  ∀ (w : DeliveryWorld) (record : EventLogRecord) (status : EventLogStatus)
    (response : Option TikTokAPIResponse) (error : Option String),
    (w.insertLog eventId record).log.lookup eventId' = w.log.lookup eventId' ∧
      (w.updateLog eventId status response error).log.lookup eventId' = w.log.lookup eventId'

private theorem rows_apart {eventId eventId' : String} (differ : eventId ≠ eventId') :
    RowsApart eventId eventId' := by
  intro w record status response error
  constructor
  · unfold DeliveryWorld.insertLog insertRow
    dsimp only
    split
    · rfl
    · exact AList.lookup_insert_ne differ.symm
  · unfold DeliveryWorld.updateLog updateRow
    dsimp only
    split
    · exact AList.lookup_insert_ne differ.symm
    · rfl

/-- A job id tells its event ids apart, if they are as the digests are. -/
theorem RetryQueue.jobId_inj {payload payload' : TikTokEventsPayload}
    (filled : payload.eventIds ≠ []) (filled' : payload'.eventIds ≠ [])
    (colonless : ∀ eventId ∈ payload.eventIds, ':' ∉ eventId.toList)
    (colonless' : ∀ eventId ∈ payload'.eventIds, ':' ∉ eventId.toList)
    (same : RetryQueue.jobId payload = RetryQueue.jobId payload') :
    payload.eventIds = payload'.eventIds := by
  have recovered {ids : List String} (filled : ids ≠ [])
      (free : ∀ eventId ∈ ids, ':' ∉ eventId.toList) :
      (":".intercalate ids).toList.splitOn ':' = ids.map String.toList := by
    rw [String.toList_intercalate]
    refine List.splitOn_intercalate ':' ?_ (by simpa using filled)
    intro text listed
    obtain ⟨eventId, there, rfl⟩ := List.mem_map.mp listed
    exact free eventId there
  have texts : payload.eventIds.map String.toList = payload'.eventIds.map String.toList :=
    calc
      payload.eventIds.map String.toList = (RetryQueue.jobId payload).toList.splitOn ':' :=
        (recovered filled colonless).symm
      _ = (RetryQueue.jobId payload').toList.splitOn ':' := by rw [same]
      _ = payload'.eventIds.map String.toList := recovered filled' colonless'
  exact List.map_injective_iff.mpr (fun _ _ => String.toList_injective) texts

/-- Three parts, one identity: two events share a preimage only if they share their lead, their
name and their second; if the digest is injective, the same goes for their id, their
deduplication key and their row; and two batches share a job id only if they share their event
ids. -/
theorem event_ids_unambiguous (p : Platform) :
    (∀ (leadId leadId' : String) (eventName eventName' : TikTokEventName) (t t' : Int),
      eventName ∈ TikTokEventName.declared → eventName' ∈ TikTokEventName.declared →
        (Hasher.eventIdPreimage leadId eventName (.int t) =
            Hasher.eventIdPreimage leadId' eventName' (.int t') →
          (leadId, eventName, t) = (leadId', eventName', t')) ∧
        (Function.Injective p.sha256Hex → (leadId, eventName, t) ≠ (leadId', eventName', t') →
          DEDUP_KEY_PREFIX ++ Hasher.eventId p leadId eventName (.int t) ≠
              DEDUP_KEY_PREFIX ++ Hasher.eventId p leadId' eventName' (.int t') ∧
            Hasher.eventId p leadId eventName (.int t) ≠
              Hasher.eventId p leadId' eventName' (.int t') ∧
            RowsApart (Hasher.eventId p leadId eventName (.int t))
              (Hasher.eventId p leadId' eventName' (.int t')))) ∧
      ∀ payload payload' : TikTokEventsPayload, payload.eventIds ≠ [] → payload'.eventIds ≠ [] →
        (∀ eventId ∈ payload.eventIds, ':' ∉ eventId.toList) →
          (∀ eventId ∈ payload'.eventIds, ':' ∉ eventId.toList) →
            payload.eventIds ≠ payload'.eventIds →
              RetryQueue.jobId payload ≠ RetryQueue.jobId payload' := by
  constructor
  · intro leadId leadId' eventName eventName' t t' listed listed'
    have parts (same : Hasher.eventIdPreimage leadId eventName (.int t) =
        Hasher.eventIdPreimage leadId' eventName' (.int t')) :
        (leadId, eventName, t) = (leadId', eventName', t') := by
      obtain ⟨rfl, rfl, rfl⟩ := Hasher.eventIdPreimage_inj listed listed' same
      rfl
    refine ⟨parts, fun injective differ => ?_⟩
    have ids : Hasher.eventId p leadId eventName (.int t) ≠
        Hasher.eventId p leadId' eventName' (.int t') :=
      fun same => differ (parts (injective same))
    exact ⟨fun same => ids (dedupKey_inj.mp same), ids, rows_apart ids⟩
  · intro payload payload' filled filled' colonless colonless' differ same
    exact differ (RetryQueue.jobId_inj filled filled' colonless colonless' same)

/-- Two commits of one lead, a second apart. -/
theorem event_ids_unambiguous_seconds :
    DEDUP_KEY_PREFIX ++ Hasher.eventId Sample.injective.platform "lead-001"
        (.standard .submitForm) (.int 1710496800) ≠
      DEDUP_KEY_PREFIX ++ Hasher.eventId Sample.injective.platform "lead-001"
        (.standard .submitForm) (.int 1710496801) :=
  (((event_ids_unambiguous Sample.injective.platform).1 "lead-001" "lead-001"
    (.standard .submitForm) (.standard .submitForm) 1710496800 1710496801 (by decide)
    (by decide)).2 Sample.digest.injective (by decide)).1

end SalesforceTikTok
