import SalesforceTikTok.Listener.SalesforceCDC
import SalesforceTikTok.Logging.Redaction

/-!
# What the listener logs

`handleRawMessage` over the JSON that the subscription hands it, with the records it
writes up to the retrieval of the lead. The logger redacts by path, and its paths
reach one level below a field of the record; the payload of a message that is logged
as a whole lies two levels below.
-/

namespace SalesforceTikTok

/-! ## The logger -/

inductive LogLevel where
  | trace
  | debug
  | info
  | warn
  | error
  | fatal

def LogLevel.value : LogLevel → Nat
  | trace => 10
  | debug => 20
  | info => 30
  | warn => 40
  | error => 50
  | fatal => 60

/-- A record without what the logger adds to each: its time and what the process is. -/
structure LogRecord where
  level : LogLevel
  fields : Json
  message : String

namespace Logger

def paths : List (List String) :=
  [["payload", "email"],
   ["payload", "phone"],
   ["payload", "first_name"],
   ["payload", "last_name"],
   ["user", "email"],
   ["user", "phone"],
   ["*", "Email"],
   ["*", "Phone"],
   ["*", "FirstName"],
   ["*", "LastName"]]

def censor : Json := .string "[REDACTED]"

def redacted (r : LogRecord) : LogRecord := { r with fields := Json.redact censor paths r.fields }

def emitted (level : LogLevel) (records : List LogRecord) : List LogRecord :=
  (records.filter fun r => level.value ≤ r.level.value).map redacted

end Logger

/-! ## The handler -/

namespace LoggedListener

structure Written where
  /-- `lastReplayId`. -/
  lastReplayId : Option Json
  records : List LogRecord

abbrev Handler := ExceptT JsError (StateM Written)

/-- A call of the logger; fields that are undefined are left out. -/
def log (level : LogLevel) (fields : List (String × Option Json)) (message : String) :
    Handler Unit :=
  modify fun w => { w with
    records := w.records ++
      [⟨level, .object (fields.filterMap fun field => field.2.map (field.1, ·)), message⟩] }

/-- Reading a property of `undefined` or `null` throws. -/
def read (value : Option Json) (key : String) : Handler (Option Json) :=
  match value with
  | none => throw ⟨"Cannot read properties of undefined (reading '" ++ key ++ "')", none, none⟩
  | some .null => throw ⟨"Cannot read properties of null (reading '" ++ key ++ "')", none, none⟩
  | some value => pure (value.property key)

/-- `value?.[0]`: the first item, the first character of a text, or the field `0`. -/
def first : Option Json → Option Json
  | some (.array items) => items.head?
  | some (.string value) => value.toList.head?.map fun c => .string (String.singleton c)
  | some (.object fields) => fields.lookup "0"
  | _ => none

/-- `cdcEvent.payload?.ChangeEventHeader`, where `cdcEvent` is an object. -/
def header (rawMessage : Json) : Option Json :=
  (rawMessage.property "payload").bind (Json.property "ChangeEventHeader")

/-- `stdSerializers.err`, without the stack. -/
def errSerializer (err : JsError) : Json :=
  .object [("type", .string "TypeError"), ("message", .string err.message)]

/-- From the header on: the record id of the lead to fetch, if there is one. -/
def received (header event : Option Json) : Handler (Option Json) := do
  let replayId ← read event "replayId"
  modify fun w => { w with lastReplayId := replayId }
  let changeType ← read header "changeType"
  let entityName ← read header "entityName"
  let changedFields ← read header "changedFields"
  let recordIds ← read header "recordIds"
  log .debug [("replayId", replayId), ("changeType", changeType), ("entityName", entityName),
    ("changedFields", changedFields), ("recordIds", recordIds)] "CDC event received"
  let recordId := first recordIds
  if Json.truthy recordId then
    pure recordId
  else
    log .warn [("header", header)] "CDC event has no recordId"
    pure none

/-- `handleRawMessage` up to `fetchLead`, which it calls if there is a record id. -/
def handleRawMessage (rawMessage : Json) : Handler (Option Json) := do
  try
    let payload ← read (some rawMessage) "payload"
    let header := payload.bind (Json.property "ChangeEventHeader")
    if Json.truthy header then
      received header (rawMessage.property "event")
    else
      log .warn [("rawMessage", some rawMessage)] "CDC event missing ChangeEventHeader"
      pure none
  catch err =>
    log .error [("err", some (errSerializer err))] "Error processing CDC event"
    pure none

def records (lastReplayId : Option Json) (rawMessage : Json) : List LogRecord :=
  ((handleRawMessage rawMessage).run ⟨lastReplayId, []⟩).2.records

/-! ## Typed messages -/

private theorem read_some {v : Json} (object : v ≠ .null) (key : String) :
    read (some v) key = pure (v.property key) := by
  cases v with
  | null => exact absurd rfl object
  | _ => rfl

theorem handleRawMessage_eq {m : Json} (object : m ≠ .null) :
    handleRawMessage m = tryCatch
      (if Json.truthy (header m) then received (header m) (m.property "event")
        else do
          log .warn [("rawMessage", some m)] "CDC event missing ChangeEventHeader"
          pure none)
      (fun err => do
        log .error [("err", some (errSerializer err))] "Error processing CDC event"
        pure none) := by
  unfold handleRawMessage
  rw [read_some object, pure_bind]
  rfl

/-- The header as JSON; its fields are left out where they are undefined. -/
def headerJson (header : SalesforceCDCHeader) : Json :=
  let texts (values : List String) : Json := .array (values.map .string)
  .object ([("changeType", some (.string header.changeType.toText)),
    ("changedFields", header.changedFields.map texts),
    ("commitTimestamp", header.commitTimestamp.map .string),
    ("entityName", some (.string header.entityName)),
    ("recordIds", header.recordIds.map texts)].filterMap fun field => field.2.map (field.1, ·))

/-- A message of the typed handler as JSON, however the values of its fields are written. -/
def messageJson (encode : JsValue → Json) : RawMessage → Json
  | .nullish => .null
  | .object payload replayId =>
      .object ([("event", replayId.map fun id => .object [("replayId", .number id)]),
        ("payload", payload.map fun payload => .object
          ((payload.changeEventHeader.map fun header =>
              ("ChangeEventHeader", headerJson header)).toList ++
            payload.fields.map fun field => (field.1, encode field.2)))].filterMap
        fun field => field.2.map (field.1, ·))

/-- With an event it keeps the replay id, and goes on with the first record id. -/
theorem received_run (fields event : List (String × Json)) (w : Written) :
    let after := (received (some (.object fields)) (some (.object event))).run w
    let recordId := first (fields.lookup "recordIds")
    after.1 = .ok (if Json.truthy recordId then recordId else none) ∧
      after.2.lastReplayId = event.lookup "replayId" := by
  obtain ⟨records, same⟩ : ∃ records,
      (received (some (.object fields)) (some (.object event))).run w =
      (if Json.truthy (first (fields.lookup "recordIds")) then
          pure (first (fields.lookup "recordIds"))
        else do
          log .warn [("header", some (.object fields))] "CDC event has no recordId"
          pure none : Handler (Option Json)).run ⟨event.lookup "replayId", records⟩ := ⟨_, rfl⟩
  simp only [same]
  split <;> exact ⟨rfl, rfl⟩

private theorem run_catch {p : Handler (Option Json)} {w : Written} {recordId : Option Json}
    (ended : (p.run w).1 = .ok recordId) (caught : JsError → Handler (Option Json)) :
    (tryCatch p caught).run w = p.run w := by
  have same : p.run w = (.ok recordId, (p.run w).2) := Prod.ext ended rfl
  rw [ExceptT.run_tryCatch]
  change StateT.run (p.run >>= _) w = _
  rw [StateT.run_bind]
  change (p.run w >>= fun _ => _ : Id _) = _
  rw [same]
  rfl

private theorem first_headerJson (header : SalesforceCDCHeader) :
    ∃ fields, headerJson header = .object fields ∧
      (if Json.truthy (first (fields.lookup "recordIds")) then first (fields.lookup "recordIds")
        else none) = header.firstRecordId.map .string := by
  obtain ⟨changeType, changedFields, commitTimestamp, entityName, recordIds⟩ := header
  have found {fields : List (String × Json)}
      (h : headerJson ⟨changeType, changedFields, commitTimestamp, entityName, recordIds⟩ =
        .object fields) :
      fields.lookup "recordIds" = recordIds.map fun ids => .array (ids.map .string) := by
    cases h
    cases changedFields <;> cases commitTimestamp <;> cases recordIds <;> rfl
  refine ⟨_, rfl, ?_⟩
  rw [found rfl]
  obtain _ | _ | ⟨recordId, rest⟩ := recordIds
  · rfl
  · rfl
  · by_cases empty : recordId = ""
    · subst empty
      rfl
    · simp [first, Json.truthy, SalesforceCDCHeader.firstRecordId, empty]

private theorem messageJson_object (encode : JsValue → Json) (payload : Option RawPayload)
    (replayId : Option Int) : messageJson encode (.object payload replayId) ≠ .null := nofun

/-- A header that the typed message lacks is in none of its other fields. -/
theorem header_missing (encode : JsValue → Json) {fields : List (String × JsValue)}
    (replayId : Option Int) (apart : ∀ field ∈ fields, field.1 ≠ "ChangeEventHeader") :
    header (messageJson encode (.object (some ⟨none, fields⟩) replayId)) = none := by
  have absent : (fields.map fun field => (field.1, encode field.2)).lookup
      "ChangeEventHeader" = none := by
    refine List.lookup_eq_none_iff.mpr fun field hf => ?_
    obtain ⟨field, within, rfl⟩ := List.mem_map.mp hf
    simpa using (apart field within).symm
  cases replayId <;> exact absent

/-- With a header and an event the handler comes to its end in `received`. -/
theorem handleRawMessage_headed {m : Json} {shown event : List (String × Json)}
    (object : m ≠ .null) (headed : header m = some (.object shown))
    (given : m.property "event" = some (.object event)) (w : Written) :
    (handleRawMessage m).run w =
      (received (some (.object shown)) (some (.object event))).run w := by
  rw [handleRawMessage_eq object, headed, given]
  exact run_catch (received_run shown event w).1 _

/-- The handler goes on with the record id, and keeps the replay id, that the typed one does. -/
theorem handleRawMessage_typed (encode : JsValue → Json) (m : RawMessage) (last : Int)
    (records : List LogRecord)
    (apart : ∀ payload replayId, m = .object (some payload) replayId →
      ∀ field ∈ payload.fields, field.1 ≠ "ChangeEventHeader") :
    let after := (handleRawMessage (messageJson encode m)).run ⟨some (.number last), records⟩
    after.1 = .ok ((m.cdcEvent.bind fun cdcEvent =>
        cdcEvent.payload.changeEventHeader.firstRecordId).map .string) ∧
      after.2.lastReplayId =
        some (.number (SalesforceCDCListener.handleRawMessage m last).1) := by
  cases m with
  | nullish => exact ⟨rfl, rfl⟩
  | object payload replayId =>
      obtain _ | ⟨_ | known, fields⟩ := payload
      · cases replayId <;> exact ⟨rfl, rfl⟩
      · have missing := header_missing encode replayId (apart _ _ rfl)
        simp only
        rw [handleRawMessage_eq (messageJson_object encode _ _), missing]
        exact ⟨rfl, rfl⟩
      · cases replayId with
        | none => exact ⟨rfl, rfl⟩
        | some id =>
            obtain ⟨shown, same, recordId⟩ := first_headerJson known
            have headed : header (messageJson encode (.object (some ⟨some known, fields⟩)
                (some id))) = some (.object shown) := congrArg some same
            have ran := received_run shown [("replayId", .number id)]
              ⟨some (.number last), records⟩
            simp only at ran ⊢
            rw [handleRawMessage_headed (messageJson_object encode _ _) headed rfl, ran.1, ran.2,
              recordId]
            exact ⟨rfl, rfl⟩

/-! ## Messages that differ in a lead's data -/

def leadFields : List String := ["Email", "Phone", "FirstName", "LastName"]

def PayloadsAlike : Json → Json → Prop := Json.Alike fun key v w => key ∈ leadFields ∨ v = w

/-- Messages that differ in the values of those fields of their payloads only. -/
def MessagesAlike : Json → Json → Prop :=
  Json.Alike fun key v w => if key = "payload" then PayloadsAlike v w else v = w

theorem PayloadsAlike.refl (v : Json) : PayloadsAlike v v := by
  cases v with
  | object f =>
      exact Json.SameKeys.refl (R := fun key v w => key ∈ leadFields ∨ v = w)
        (fun _ _ => .inr rfl) f
  | _ => rfl

namespace MessagesAlike

variable {m m' : Json}

theorem fields (alike : MessagesAlike m m') (key : String) :
    m.property key = none ∧ m'.property key = none ∨
      ∃ v w, m.property key = some v ∧ m'.property key = some w ∧
        if key = "payload" then PayloadsAlike v w else v = w := by
  refine Json.Alike.fields alike (fun key v => ?_) key
  split
  · exact .refl v
  · rfl

private theorem event_eq (alike : MessagesAlike m m') :
    m.property "event" = m'.property "event" := by
  rcases alike.fields "event" with ⟨left, right⟩ | ⟨v, w, left, right, same⟩
  · rw [left, right]
  · rw [if_neg (by decide)] at same
    rw [left, right, same]

private theorem header_eq (alike : MessagesAlike m m') : header m = header m' := by
  unfold header
  rcases alike.fields "payload" with ⟨left, right⟩ | ⟨v, w, left, right, payloads⟩
  · rw [left, right]
  · rw [if_pos rfl] at payloads
    rw [left, right]
    rcases Json.Alike.fields payloads (fun _ _ => .inr rfl) "ChangeEventHeader" with
      ⟨left, right⟩ | ⟨v, w, left, right, listed | same⟩
    · simp [left, right]
    · exact absurd listed (by decide)
    · simp [left, right, same]

end MessagesAlike

/-! ## The exits of the handler -/

private theorem object_of_header {m : Json} (known : Json.truthy (header m) = true) :
    m ≠ .null := by
  rintro rfl
  cases known

/-- With a header nothing of the message but the header and its event is read. -/
theorem records_of_header {lastReplayId : Option Json} {m m' : Json}
    (known : Json.truthy (header m) = true) (headers : header m = header m')
    (events : m.property "event" = m'.property "event") :
    records lastReplayId m = records lastReplayId m' := by
  unfold records
  rw [handleRawMessage_eq (object_of_header known),
    handleRawMessage_eq (object_of_header (headers ▸ known)), if_pos known,
    if_pos (headers ▸ known), headers, events]

private theorem records_of_missing {lastReplayId : Option Json} {m : Json} (object : m ≠ .null)
    (missing : Json.truthy (header m) = false) :
    records lastReplayId m =
      [⟨.warn, .object [("rawMessage", m)], "CDC event missing ChangeEventHeader"⟩] := by
  unfold records
  rw [handleRawMessage_eq object, missing]
  rfl

/-- What the logger leaves of a message that is written as a whole shows its payload. -/
theorem redacted_message (m : Json) : ∃ w,
    Json.redact Logger.censor Logger.paths (.object [("rawMessage", m)]) =
      .object [("rawMessage", w)] ∧ Json.Keeps "payload" m w :=
  Json.redact_record Logger.censor "rawMessage" (by simp [Logger.paths, Json.selects]) m

/-- Two messages that differ in a lead's data leave the same records at every level just when
they have a header, or do not differ. -/
theorem records_alike_iff {m m' : Json} (alike : MessagesAlike m m') (lastReplayId : Option Json) :
    (∀ level, Logger.emitted level (records lastReplayId m) =
      Logger.emitted level (records lastReplayId m')) ↔
    Json.truthy (header m) = true ∨ m = m' := by
  constructor
  · intro same
    by_contra neither
    obtain ⟨known, different⟩ := not_or.mp neither
    have missing : Json.truthy (header m) = false := Bool.eq_false_iff.mpr known
    have nothing : Json.truthy (header m') = false := alike.header_eq ▸ missing
    have objects : m ≠ .null ∧ m' ≠ .null := by
      rcases Json.Alike.cases alike with rfl | ⟨f, g, rfl, rfl, _⟩
      · exact absurd rfl different
      · exact ⟨nofun, nofun⟩
    -- both messages are written, and each record shows the payload of its message
    have written := same .trace
    rw [records_of_missing objects.1 missing, records_of_missing objects.2 nothing] at written
    have fields := congrArg LogRecord.fields (List.cons.inj written).1
    obtain ⟨w, shown, kept⟩ := redacted_message m
    obtain ⟨w', shown', kept'⟩ := redacted_message m'
    simp only [Logger.redacted, shown, shown'] at fields
    cases fields
    refine different (Json.Alike.eq_of_keeps alike (fun key v w related other => ?_) kept kept')
    rwa [if_neg other] at related
  · rintro (known | rfl) level
    · rw [records_of_header known alike.header_eq alike.event_eq]
    · rfl

namespace Sample

def message (header : List (String × Json)) (email : String) : Json :=
  .object [("event", .object [("replayId", .number 7)]),
    ("payload", .object (header ++ [("Email", .string email), ("Status", .string "Open")]))]

def leadHeader : List (String × Json) :=
  [("ChangeEventHeader", .object [("recordIds", .array [.string "00Q000000000001"])])]

private theorem messages_alike (header : List (String × Json)) (email email' : String) :
    MessagesAlike (message header email) (message header email') := by
  refine .cons ⟨rfl, rfl⟩ (.cons ⟨rfl, ?_⟩ .nil)
  change if "payload" = "payload" then PayloadsAlike _ _ else _
  rw [if_pos rfl]
  refine List.rel_append (List.forall₂_same.mpr fun field _ => ⟨rfl, .inr rfl⟩) ?_
  exact .cons ⟨rfl, .inl List.mem_cons_self⟩ (.cons ⟨rfl, .inr rfl⟩ .nil)

end Sample

/-- With a header the address is in no record. -/
theorem records_alike_headed :
    MessagesAlike (Sample.message Sample.leadHeader "ada@example.com")
        (Sample.message Sample.leadHeader "bob@example.com") ∧
      ∀ level, Logger.emitted level
          (records none (Sample.message Sample.leadHeader "ada@example.com")) =
        Logger.emitted level (records none (Sample.message Sample.leadHeader "bob@example.com")) :=
  ⟨Sample.messages_alike _ _ _,
    (records_alike_iff (Sample.messages_alike _ _ _) none).mpr (.inl rfl)⟩

/-- Without one the address leaves the logger at its default level. -/
theorem address_logged :
    Logger.emitted .info (records none (Sample.message [] "ada@example.com")) =
        [⟨.warn, .object [("rawMessage", Sample.message [] "ada@example.com")],
          "CDC event missing ChangeEventHeader"⟩] ∧
      MessagesAlike (Sample.message [] "ada@example.com") (Sample.message [] "bob@example.com") ∧
      ¬ ∀ level, Logger.emitted level (records none (Sample.message [] "ada@example.com")) =
        Logger.emitted level (records none (Sample.message [] "bob@example.com")) := by
  have shown (email : String) : Logger.emitted .info (records none (Sample.message [] email)) =
      [⟨.warn, .object [("rawMessage", Sample.message [] email)],
        "CDC event missing ChangeEventHeader"⟩] := rfl
  refine ⟨shown _, Sample.messages_alike _ _ _, fun same => ?_⟩
  have here := same .info
  rw [shown, shown] at here
  simp [Sample.message] at here

end LoggedListener
end SalesforceTikTok
