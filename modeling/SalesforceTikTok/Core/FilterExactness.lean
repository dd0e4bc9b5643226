import SalesforceTikTok.Core.EventFilter

/-!
# Which transitions the filter accepts

The filter accepts the creation of a lead, its conversion, and a change to a
status the table lists. It also accepts a change to a status that is the name of
an inherited property, and these are the only ones it should not.
-/

namespace SalesforceTikTok
namespace EventFilter

/-- `changedFields ?? []`. -/
def changed (cdcEvent : SalesforceCDCEvent) : List String :=
  cdcEvent.payload.changeEventHeader.changedFields.getD []

/-- The status of the message, lowercased and trimmed. -/
def statusOf (p : Platform) (cdcEvent : SalesforceCDCEvent) : String :=
  normalizeStatus p (cdcEvent.payload.get "Status")

def OfLead (changeType : SalesforceChangeType) (cdcEvent : SalesforceCDCEvent) : Prop :=
  cdcEvent.payload.changeEventHeader.entityName = "Lead" ∧
    cdcEvent.payload.changeEventHeader.changeType = changeType

/-- The lead's status changed, and not along with its conversion. -/
def StatusChanged (cdcEvent : SalesforceCDCEvent) : Prop :=
  OfLead .update cdcEvent ∧ "IsConverted" ∉ changed cdcEvent ∧ "Status" ∈ changed cdcEvent

inductive Mapped (p : Platform) (cdcEvent : SalesforceCDCEvent) : TikTokStandardEvent → Prop where
  | created (lead : OfLead .create cdcEvent) : Mapped p cdcEvent .submitForm
  | converted (lead : OfLead .update cdcEvent) (flag : "IsConverted" ∈ changed cdcEvent) :
      Mapped p cdcEvent .purchase
  | status {event : TikTokStandardEvent} (moved : StatusChanged cdcEvent)
      (listed : (statusOf p cdcEvent, event) ∈ STATUS_TO_EVENT) : Mapped p cdcEvent event

/-- The filter accepts the message exactly if its transition is mapped, and then under the
event it is mapped to. -/
def Exact (p : Platform) (cdcEvent : SalesforceCDCEvent) : Prop :=
  ((evaluate p cdcEvent).shouldProcess = true ↔ ∃ event, Mapped p cdcEvent event) ∧
    ((evaluate p cdcEvent).shouldProcess = true →
      ∃ event, (evaluate p cdcEvent).eventType = some (.standard event) ∧ Mapped p cdcEvent event)

/-- The lead moved to a status that the table inherits. -/
def InheritedStatus (p : Platform) (cdcEvent : SalesforceCDCEvent) : Prop :=
  StatusChanged cdcEvent ∧ statusOf p cdcEvent ∈ inheritedProperties

/-! ## The table -/

private theorem lookup_listed {status : String} {event : TikTokStandardEvent}
    (h : STATUS_TO_EVENT.lookup status = some event) : (status, event) ∈ STATUS_TO_EVENT := by
  obtain ⟨before, after, split, _⟩ := List.lookup_eq_some_iff.mp h
  rw [split]
  simp

private theorem lookup_unlisted {status : String} (h : STATUS_TO_EVENT.lookup status = none)
    (event : TikTokStandardEvent) : (status, event) ∉ STATUS_TO_EVENT := by
  intro listed
  have other := List.lookup_eq_none_iff.mp h _ listed
  simp at other

private theorem inherited_unlisted : ∀ status ∈ inheritedProperties, ∀ entry ∈ STATUS_TO_EVENT,
    entry.1 ≠ status := by decide

/-! ## The branches of the filter -/

section

variable {p : Platform} {cdcEvent : SalesforceCDCEvent}

private theorem evaluate_created (lead : OfLead .create cdcEvent) :
    (evaluate p cdcEvent).shouldProcess = true ∧
      (evaluate p cdcEvent).eventType = some (.standard .submitForm) := by
  obtain ⟨entity, created⟩ := lead
  simp [evaluate, entity, created]

private theorem evaluate_converted (lead : OfLead .update cdcEvent)
    (flag : "IsConverted" ∈ changed cdcEvent) :
    (evaluate p cdcEvent).shouldProcess = true ∧
      (evaluate p cdcEvent).eventType = some (.standard .purchase) := by
  obtain ⟨entity, updated⟩ := lead
  unfold changed at flag
  simp [evaluate, entity, updated, flag]

theorem evaluate_status (moved : StatusChanged cdcEvent) :
    ((evaluate p cdcEvent).shouldProcess = true ↔
      (lookupStatus (statusOf p cdcEvent)).isSome = true) ∧
        (evaluate p cdcEvent).eventType = lookupStatus (statusOf p cdcEvent) := by
  obtain ⟨⟨entity, updated⟩, unconverted, status⟩ := moved
  unfold changed at unconverted status
  unfold statusOf
  simp only [evaluate, entity, updated, if_neg unconverted, if_pos status]
  cases found : lookupStatus (normalizeStatus p (cdcEvent.payload.get "Status")) <;> simp

private theorem evaluate_other (h : (evaluate p cdcEvent).shouldProcess = true) :
    OfLead .create cdcEvent ∨ (OfLead .update cdcEvent ∧ "IsConverted" ∈ changed cdcEvent) ∨
      StatusChanged cdcEvent := by
  by_cases entity : cdcEvent.payload.changeEventHeader.entityName = "Lead"
  · by_cases created : cdcEvent.payload.changeEventHeader.changeType = .create
    · exact .inl ⟨entity, created⟩
    · by_cases updated : cdcEvent.payload.changeEventHeader.changeType = .update
      · by_cases flag : "IsConverted" ∈ changed cdcEvent
        · exact .inr (.inl ⟨⟨entity, updated⟩, flag⟩)
        · by_cases status : "Status" ∈ changed cdcEvent
          · exact .inr (.inr ⟨⟨entity, updated⟩, flag, status⟩)
          · unfold changed at flag status
            simp only [evaluate, entity, updated, if_neg flag, if_neg status] at h
            simp only [ne_eq, not_true_eq_false, reduceIte, reduceCtorEq] at h
            split at h <;> cases h
      · simp [evaluate, entity, created, updated] at h
  · simp [evaluate, entity] at h

/-- A lookup finds a listed event or an inherited property, never both. -/
theorem lookupStatus_cases (status : String) :
    (∃ event, (status, event) ∈ STATUS_TO_EVENT ∧ status ∉ inheritedProperties ∧
      lookupStatus status = some (.standard event)) ∨
    (status ∈ inheritedProperties ∧ lookupStatus status = some (.inherited status) ∧
      ∀ event, (status, event) ∉ STATUS_TO_EVENT) ∨
    (lookupStatus status = none ∧ status ∉ inheritedProperties ∧
      ∀ event, (status, event) ∉ STATUS_TO_EVENT) := by
  unfold lookupStatus
  cases found : STATUS_TO_EVENT.lookup status with
  | some event =>
      have listed := lookup_listed found
      refine .inl ⟨event, listed, fun inherited => ?_, rfl⟩
      exact inherited_unlisted status inherited _ listed rfl
  | none =>
      by_cases inherited : status ∈ inheritedProperties
      · exact .inr (.inl ⟨inherited, by rw [if_pos inherited], lookup_unlisted found⟩)
      · exact .inr (.inr ⟨by rw [if_neg inherited], inherited, lookup_unlisted found⟩)

/-- A message that moves a lead to an inherited status is accepted under a name that is no event. -/
theorem not_exact (h : InheritedStatus p cdcEvent) : ¬ Exact p cdcEvent := by
  rintro ⟨_, named⟩
  obtain ⟨moved, inherited⟩ := h
  obtain ⟨accepted, name⟩ := evaluate_status (p := p) moved
  rcases lookupStatus_cases (statusOf p cdcEvent) with ⟨_, _, other, _⟩ | ⟨_, found, _⟩ |
    ⟨_, other, _⟩
  · exact other inherited
  · obtain ⟨event, standard, _⟩ := named (accepted.mpr (by rw [found]; rfl))
    rw [name, found] at standard
    cases standard
  · exact other inherited

end

/-- The filter is exact for every message but those that move a lead to a status which is the
name of an inherited property. -/
theorem exact_iff (p : Platform) (cdcEvent : SalesforceCDCEvent) :
    Exact p cdcEvent ↔ ¬ InheritedStatus p cdcEvent := by
  constructor
  · exact fun exact_ inherited => not_exact inherited exact_
  · intro uninherited
    -- an accepted message carries the event of its transition
    have named (accepted : (evaluate p cdcEvent).shouldProcess = true) : ∃ event,
        (evaluate p cdcEvent).eventType = some (.standard event) ∧ Mapped p cdcEvent event := by
      rcases evaluate_other accepted with lead | ⟨lead, flag⟩ | moved
      · exact ⟨_, (evaluate_created lead).2, .created lead⟩
      · exact ⟨_, (evaluate_converted lead flag).2, .converted lead flag⟩
      · obtain ⟨looked, name⟩ := evaluate_status (p := p) moved
        rcases lookupStatus_cases (statusOf p cdcEvent) with ⟨event, listed, _, found⟩ |
          ⟨inherited, _⟩ | ⟨none, _⟩
        · exact ⟨event, name.trans found, .status moved listed⟩
        · exact absurd ⟨moved, inherited⟩ uninherited
        · rw [looked, none] at accepted
          cases accepted
    refine ⟨⟨fun accepted => ?_, ?_⟩, named⟩
    · obtain ⟨event, _, mapped⟩ := named accepted
      exact ⟨event, mapped⟩
    · rintro ⟨event, lead | ⟨lead, flag⟩ | ⟨moved, listed⟩⟩
      · exact (evaluate_created lead).1
      · exact (evaluate_converted lead flag).1
      · rcases lookupStatus_cases (statusOf p cdcEvent) with ⟨_, _, _, found⟩ | ⟨_, _, unlisted⟩ |
          ⟨_, _, unlisted⟩
        · exact (evaluate_status moved).1.mpr (by rw [found]; rfl)
        · exact absurd listed (unlisted event)
        · exact absurd listed (unlisted event)

def statusUpdate (status : String) : SalesforceCDCEvent where
  payload :=
    { changeEventHeader :=
        { changeType := .update, changedFields := some ["Status"], entityName := "Lead" }
      fields := [("Status", .string status)] }
  replayId := 100

/-- A host that knows the text behind one event id, and the empty one. -/
def asciiPlatform : Platform where
  toLowerCase s := String.ofList (s.toList.map Char.toLower)
  sha256Hex text :=
    if text = "lead-001:CompleteRegistration:0" then
      "aed4fda97e9454bbac9c4d04cb6dc9e0d3b9a73cb2e22ee4f2a2ac7e1813faca"
    else "e3b0c44298fc1c149afbf4c8996fb92427ae41e4649b934ca495991b7852b855"
  dateParse _ := none

/-- A picklist value called "Constructor" is accepted, as an event that is no event name. -/
theorem inherited_status_accepted :
    (evaluate asciiPlatform (statusUpdate "Constructor")).eventType =
        some (.inherited "constructor") ∧
      ¬ Exact asciiPlatform (statusUpdate "Constructor") := by
  have inherited : InheritedStatus asciiPlatform (statusUpdate "Constructor") :=
    ⟨⟨⟨rfl, rfl⟩, by decide, by decide⟩, by decide⟩
  have named : (evaluate asciiPlatform (statusUpdate "Constructor")).eventType =
      some (.inherited "constructor") := by decide
  exact ⟨named, not_exact inherited⟩

end EventFilter
end SalesforceTikTok
