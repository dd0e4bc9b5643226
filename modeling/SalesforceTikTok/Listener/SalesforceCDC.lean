import SalesforceTikTok.Concurrency.System
import SalesforceTikTok.Core.Types

/-!
# The CDC listener

`SalesforceCDCListener.handleRawMessage` and `fetchLead`, statement by statement.
The subscription callback starts a handler for each message and does not await
it, so handlers of different messages interleave. Up to its first await a handler
runs inside the callback; that part moves the replay position.
-/

namespace SalesforceTikTok

open Concurrency

/-! ## Messages -/

/-- `payload` of a raw message, whose header may be missing. -/
structure RawPayload where
  changeEventHeader : Option SalesforceCDCHeader
  fields : List (String × JsValue) := []

/-- A message as the subscription hands it over, unchecked. -/
inductive RawMessage where
  /-- `undefined` or `null`: reading any property throws. -/
  | nullish
  /-- Reading `event.replayId` throws when there is no `event`. -/
  | object (payload : Option RawPayload) (replayId : Option Int)

/-- The event `handleRawMessage` goes on with: it has a header and a replay id. -/
def RawMessage.cdcEvent : RawMessage → Option SalesforceCDCEvent
  | .nullish => none
  | .object payload replayId => do
      let payload ← payload
      let header ← payload.changeEventHeader
      let replayId ← replayId
      return ⟨⟨header, payload.fields⟩, replayId⟩

/-- `header.recordIds?.[0]`, unless it is empty or missing. -/
def SalesforceCDCHeader.firstRecordId (header : SalesforceCDCHeader) : Option String :=
  match (header.recordIds.getD []).head? with
  | some recordId => if recordId = "" then none else some recordId
  | none => none

/-! ## Commands -/

inductive ListenerCmd where
  /-- `conn.sobject('Lead').retrieve(leadId)`. -/
  | retrieve (leadId : String)
  /-- `setTimeout`. -/
  | sleep (milliseconds : Nat)
  /-- The constructor's callback, which server.ts wires to `pipeline.process`. -/
  | onEvent (cdcEvent : SalesforceCDCEvent) (lead : SalesforceLead)

abbrev ListenerCmd.Reply : ListenerCmd → Type
  | .retrieve _ => Option SalesforceLead
  | .sleep _ => Unit
  | .onEvent _ _ => Unit

inductive ListenerChoice where
  | retrieved (lead : Option SalesforceLead)
  | completed
  | fail (error : JsError)

structure ListenerWorld where
  /-- -1 = latest, -2 = all retained. -/
  lastReplayId : Int := -1

def listenerExec : (cmd : ListenerCmd) → ListenerChoice → ListenerWorld →
    Option (Except JsError cmd.Reply × ListenerWorld)
  | .retrieve _, .retrieved lead, w => some (.ok lead, w)
  | .retrieve _, .fail error, w => some (.error error, w)
  | .sleep _, .completed, w => some (.ok (), w)
  | .onEvent _ _, .completed, w => some (.ok (), w)
  | .onEvent _ _, .fail error, w => some (.error error, w)
  | _, _, _ => none

def listenerRuntime :
    Runtime ListenerCmd ListenerCmd.Reply JsError ListenerWorld ListenerChoice Empty where
  exec := listenerExec
  env := nofun

abbrev ListenerProg := Prog ListenerCmd ListenerCmd.Reply JsError

abbrev ListenerRecord := Record ListenerCmd ListenerCmd.Reply JsError ListenerChoice

abbrev listen (cmd : ListenerCmd) : ListenerProg cmd.Reply := Prog.call cmd

/-! ## The handler -/

namespace SalesforceCDCListener

def isNetwork (err : JsError) : Bool :=
  err.code = some "EADDRNOTAVAIL" ∨ err.errno = some "EADDRNOTAVAIL"

/-- The loop of `fetchLead` with this many attempts left. -/
def fetchLead (leadId : String) : Nat → ListenerProg (Option SalesforceLead)
  | 0 => pure none
  | remaining + 1 => do
      try
        listen (.retrieve leadId)
      catch err =>
        if isNetwork err = true ∧ 0 < remaining then do
          listen (.sleep 3000)
          fetchLead leadId remaining
        else
          pure none

/-- The default of `fetchLead`'s second argument. -/
def retries : Nat := 5

def onLead (cdcEvent : SalesforceCDCEvent) : Option SalesforceLead → ListenerProg Unit
  | none => pure ()
  | some lead => listen (.onEvent cdcEvent lead)

/-- The `try` block of `handleRawMessage` from its record id on, and its `catch`. -/
def handleRecord (cdcEvent : SalesforceCDCEvent) : ListenerProg Unit :=
  match cdcEvent.payload.changeEventHeader.firstRecordId with
  | none => pure ()
  | some recordId => do
      try
        let lead ← fetchLead recordId retries
        onLead cdcEvent lead
      catch _ =>
        pure ()

/-- The replay position after the synchronous part, and the handler that remains. A
message without header leaves the position alone, and so does one without `event`,
whose `TypeError` the `catch` swallows. -/
def handleRawMessage (rawMessage : RawMessage) (lastReplayId : Int) : Int × ListenerProg Unit :=
  match rawMessage.cdcEvent with
  | none => (lastReplayId, pure ())
  | some cdcEvent => (cdcEvent.replayId, handleRecord cdcEvent)

/-- One subscription: any messages, their handlers in any interleaving. -/
def system : System listenerRuntime Unit RawMessage (ListenerProg Unit) where
  view := Prog.view
  launch rawMessage w :=
    some ((handleRawMessage rawMessage w.lastReplayId).2,
      ⟨(handleRawMessage rawMessage w.lastReplayId).1⟩)

end SalesforceCDCListener
end SalesforceTikTok
