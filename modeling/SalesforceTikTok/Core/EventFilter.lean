import SalesforceTikTok.Core.Types

/-!
# Event filter

Which CDC messages become TikTok events, and under which name. The status table
is an object literal in the source: a lookup walks the prototype chain, so the
names of `Object.prototype` are found as well, with truthy values.
-/

namespace SalesforceTikTok
namespace EventFilter

def PII_ONLY_FIELDS : List String :=
  ["FirstName", "LastName", "Email", "Phone", "Company", "Title", "Description", "Website"]

def STATUS_TO_EVENT : List (String × TikTokStandardEvent) := [
  ("new", .submitForm),
  ("open", .submitForm),
  ("open - not contacted", .submitForm),
  ("not contacted", .submitForm),
  ("pending", .submitForm),
  ("uncontacted", .submitForm),
  ("fresh", .submitForm),
  ("contacted", .contact),
  ("attempted to contact", .contact),
  ("working - contacted", .contact),
  ("working", .contact),
  ("in progress", .contact),
  ("follow up", .contact),
  ("follow-up", .contact),
  ("nurturing", .contact),
  ("reconnect", .contact),
  ("re-engaged", .contact),
  ("demo scheduled", .schedule),
  ("meeting scheduled", .schedule),
  ("appointment scheduled", .schedule),
  ("appointment booked", .schedule),
  ("call scheduled", .schedule),
  ("demo booked", .schedule),
  ("intro call scheduled", .schedule),
  ("discovery call scheduled", .schedule),
  ("qualified", .completeRegistration),
  ("marketing qualified", .completeRegistration),
  ("mql", .completeRegistration),
  ("interested", .completeRegistration),
  ("review", .completeRegistration),
  ("under review", .completeRegistration),
  ("sales qualified", .submitApplication),
  ("sql", .submitApplication),
  ("opportunity", .submitApplication),
  ("proposal sent", .submitApplication),
  ("proposal", .submitApplication),
  ("negotiation", .submitApplication),
  ("application submitted", .submitApplication),
  ("applied", .submitApplication),
  ("converted", .purchase),
  ("closed - converted", .purchase),
  ("closed", .purchase),
  ("closed won", .purchase),
  ("closed - won", .purchase),
  ("won", .purchase),
  ("sale", .purchase),
  ("customer", .purchase),
  ("unqualified", .purchase),
  ("closed - not converted", .purchase),
  ("closed - not interested", .purchase),
  ("junk lead", .purchase),
  ("junk", .purchase),
  ("lost", .purchase),
  ("disqualified", .purchase),
  ("inactive", .purchase),
  ("recycled", .purchase),
  ("do not contact", .purchase),
  ("approved", .applicationApproval),
  ("application approved", .applicationApproval),
  ("credit approved", .applicationApproval),
  ("accepted", .applicationApproval),
  ("subscribed", .subscribe),
  ("subscription started", .subscribe),
  ("trial", .startTrial),
  ("trial started", .startTrial),
  ("free trial", .startTrial)]

/-- The property names every object inherits from `Object.prototype`. -/
def inheritedProperties : List String :=
  ["constructor", "__defineGetter__", "__defineSetter__", "hasOwnProperty",
    "__lookupGetter__", "__lookupSetter__", "isPrototypeOf", "propertyIsEnumerable",
    "toString", "valueOf", "__proto__", "toLocaleString"]

/-- `STATUS_TO_EVENT[status]`: own entries first, then the prototype's. -/
def lookupStatus (status : String) : Option TikTokEventName :=
  match STATUS_TO_EVENT.lookup status with
  | some event => some (.standard event)
  | none => if status ∈ inheritedProperties then some (.inherited status) else none

/-- `typeof rawStatus === 'string' ? rawStatus.toLowerCase().trim() : ''`. -/
def normalizeStatus (p : Platform) : JsValue → String
  | .string rawStatus => trim (p.toLowerCase rawStatus)
  | _ => ""

def evaluate (p : Platform) (cdcEvent : SalesforceCDCEvent) : FilterResult :=
  let header := cdcEvent.payload.changeEventHeader
  let changedFields := header.changedFields.getD []
  if header.entityName ≠ "Lead" then
    { shouldProcess := false, reason := "Non-Lead entity: " ++ header.entityName }
  else if header.changeType = .create then
    { shouldProcess := true, reason := "Lead created", eventType := some (.standard .submitForm) }
  else if header.changeType ≠ .update then
    { shouldProcess := false, reason := "Irrelevant changeType: " ++ header.changeType.toText }
  else if "IsConverted" ∈ changedFields then
    { shouldProcess := true, reason := "Lead converted (IsConverted flag set)",
      eventType := some (.standard .purchase) }
  else if "Status" ∈ changedFields then
    let status := normalizeStatus p (cdcEvent.payload.get "Status")
    match lookupStatus status with
    | none =>
        { shouldProcess := false, reason := "Unmapped status: \"" ++ status ++ "\"" }
    | some mapped =>
        { shouldProcess := true,
          reason := "Status \"" ++ status ++ "\" → TikTok " ++ mapped.toText,
          eventType := some mapped }
  else if (changedFields.filter fun f => f ∉ PII_ONLY_FIELDS) = [] then
    { shouldProcess := false, reason := "Only PII fields changed — no status transition" }
  else
    { shouldProcess := false,
      reason := "No actionable DFO transition in: " ++ ", ".intercalate changedFields }

/-- `filterResult.eventType as TikTokEventName` once `shouldProcess` was tested; a
filtered message has none. -/
def accepted (p : Platform) (cdcEvent : SalesforceCDCEvent) : Option TikTokEventName :=
  if (evaluate p cdcEvent).shouldProcess then (evaluate p cdcEvent).eventType else none

/-- A message to process always has a name, so the caller's cast is sound. -/
theorem evaluate_eventType {p : Platform} {cdcEvent : SalesforceCDCEvent}
    (h : (evaluate p cdcEvent).shouldProcess = true) :
    ∃ name, (evaluate p cdcEvent).eventType = some name := by
  unfold evaluate at h ⊢
  dsimp only at h ⊢
  split at h
  · cases h
  split at h
  · exact ⟨_, by rw [if_neg ‹_›, if_pos ‹_›]⟩
  split at h
  · cases h
  split at h
  · exact ⟨_, by rw [if_neg ‹_›, if_neg ‹_›, if_neg ‹_›, if_pos ‹_›]⟩
  split at h
  · split at h
    · cases h
    · exact ⟨_, by rw [if_neg ‹_›, if_neg ‹_›, if_neg ‹_›, if_neg ‹_›, if_pos ‹_›]⟩
  split at h <;> cases h

end EventFilter
end SalesforceTikTok
