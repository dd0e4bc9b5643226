import SalesforceTikTok.Concurrency.Invariant
import SalesforceTikTok.Concurrency.Refinement
import SalesforceTikTok.Listener.SalesforceCDC

/-!
# The points of a message handler

A handler is retrieving the Lead, waiting before another attempt, awaiting
`onEvent`, or done. The table `ListenerTransition` lists what one answer can do.
-/

namespace SalesforceTikTok

open Concurrency

/-- Where a handler is suspended; `remaining` attempts follow the current one. -/
inductive ListenerPoint where
  | retrieving (cdcEvent : SalesforceCDCEvent) (recordId : String) (remaining : Nat)
  | waiting (cdcEvent : SalesforceCDCEvent) (recordId : String) (remaining : Nat)
  | handling (cdcEvent : SalesforceCDCEvent) (lead : SalesforceLead)
  | ended

namespace SalesforceCDCListener

/-- What `handleRecord` does with a `fetchLead` under way. -/
def onFetch (cdcEvent : SalesforceCDCEvent) (fetch : ListenerProg (Option SalesforceLead)) :
    ListenerProg Unit :=
  tryCatch (fetch >>= onLead cdcEvent) fun _ => pure ()

def startPoint (rawMessage : RawMessage) : ListenerPoint :=
  match rawMessage.cdcEvent with
  | none => .ended
  | some cdcEvent =>
      match cdcEvent.payload.changeEventHeader.firstRecordId with
      | none => .ended
      | some recordId => .retrieving cdcEvent recordId (retries - 1)

end SalesforceCDCListener

namespace ListenerPoint

open SalesforceCDCListener

def program : ListenerPoint → ListenerProg Unit
  | .retrieving cdcEvent recordId remaining =>
      onFetch cdcEvent (fetchLead recordId (remaining + 1))
  | .waiting cdcEvent recordId remaining =>
      onFetch cdcEvent (listen (.sleep 3000) >>= fun _ => fetchLead recordId (remaining + 1))
  | .handling cdcEvent lead => tryCatch (onLead cdcEvent (some lead)) fun _ => pure ()
  | .ended => pure ()

def afterFailure (cdcEvent : SalesforceCDCEvent) (recordId : String) (err : JsError) :
    Nat → ListenerPoint
  | 0 => .ended
  | remaining + 1 => if isNetwork err then .waiting cdcEvent recordId remaining else .ended

def view : ListenerPoint → View ListenerCmd ListenerCmd.Reply JsError Unit ListenerPoint
  | .retrieving cdcEvent recordId remaining =>
      .awaits (.retrieve recordId) fun
        | .ok (some lead) => .handling cdcEvent lead
        | .ok none => .ended
        | .error err => afterFailure cdcEvent recordId err remaining
  | .waiting cdcEvent recordId remaining =>
      .awaits (.sleep 3000) fun
        | .ok _ => .retrieving cdcEvent recordId remaining
        | .error _ => .ended
  | .handling cdcEvent lead => .awaits (.onEvent cdcEvent lead) fun _ => .ended
  | .ended => .ended (.ok ())

theorem view_program (x : ListenerPoint) : x.program.view = x.view.map program := by
  cases x with
  | retrieving cdcEvent recordId remaining =>
      refine View.awaits_ext (fun lead => ?_) fun err => ?_
      · cases lead <;> rfl
      · show onFetch cdcEvent (if isNetwork err = true ∧ 0 < remaining then
            listen (.sleep 3000) >>= fun _ => fetchLead recordId remaining else pure none) = _
        cases remaining with
        | zero =>
            rw [if_neg fun h => absurd h.2 (Nat.lt_irrefl 0)]
            rfl
        | succ remaining =>
            by_cases network : isNetwork err = true
            · have retry : isNetwork err = true ∧ 0 < remaining + 1 := ⟨network, by omega⟩
              simp only [if_pos retry, afterFailure, if_pos network]
              rfl
            · have stop : ¬ (isNetwork err = true ∧ 0 < remaining + 1) := fun h => network h.1
              simp only [if_neg stop, afterFailure, if_neg network]
              rfl
  | waiting cdcEvent recordId remaining => exact View.awaits_ext (fun _ => rfl) fun _ => rfl
  | handling cdcEvent lead => exact View.awaits_ext (fun _ => rfl) fun _ => rfl
  | ended => rfl

end ListenerPoint

namespace SalesforceCDCListener

def position (rawMessage : RawMessage) (lastReplayId : Int) : Int :=
  match rawMessage.cdcEvent with
  | none => lastReplayId
  | some cdcEvent => cdcEvent.replayId

def protocol : System listenerRuntime Unit RawMessage ListenerPoint where
  view := ListenerPoint.view
  launch rawMessage w := some (startPoint rawMessage, ⟨position rawMessage w.lastReplayId⟩)

theorem handleRawMessage_eq (rawMessage : RawMessage) (lastReplayId : Int) :
    handleRawMessage rawMessage lastReplayId =
      (position rawMessage lastReplayId, (startPoint rawMessage).program) := by
  unfold handleRawMessage position startPoint
  cases rawMessage.cdcEvent with
  | none => rfl
  | some cdcEvent =>
      simp only [handleRecord]
      cases cdcEvent.payload.changeEventHeader.firstRecordId <;> rfl

theorem protocol_refines : Refines protocol system ListenerPoint.program where
  view := ListenerPoint.view_program
  launch rawMessage w := by simp [protocol, system, handleRawMessage_eq]

end SalesforceCDCListener

/-! ## What one answer does -/

/-- Answers move a handler and leave the replay position alone. -/
inductive ListenerTransition (pid : Nat) : ListenerPoint → ListenerRecord → ListenerPoint → Prop where
  | retrieved {cdcEvent recordId remaining choice lead} :
      ListenerTransition pid (.retrieving cdcEvent recordId remaining)
        ⟨pid, .retrieve recordId, choice, .ok (some lead)⟩ (.handling cdcEvent lead)
  | missing {cdcEvent recordId remaining choice} :
      ListenerTransition pid (.retrieving cdcEvent recordId remaining)
        ⟨pid, .retrieve recordId, choice, .ok none⟩ .ended
  | unreachable {cdcEvent recordId remaining choice err}
      (network : SalesforceCDCListener.isNetwork err = true) :
      ListenerTransition pid (.retrieving cdcEvent recordId (remaining + 1))
        ⟨pid, .retrieve recordId, choice, .error err⟩ (.waiting cdcEvent recordId remaining)
  | failed {cdcEvent recordId remaining choice err}
      (final : remaining = 0 ∨ SalesforceCDCListener.isNetwork err = false) :
      ListenerTransition pid (.retrieving cdcEvent recordId remaining)
        ⟨pid, .retrieve recordId, choice, .error err⟩ .ended
  | slept {cdcEvent recordId remaining choice} :
      ListenerTransition pid (.waiting cdcEvent recordId remaining)
        ⟨pid, .sleep 3000, choice, .ok ()⟩ (.retrieving cdcEvent recordId remaining)
  | handled {cdcEvent lead choice} :
      ListenerTransition pid (.handling cdcEvent lead)
        ⟨pid, .onEvent cdcEvent lead, choice, .ok ()⟩ .ended
  | rejected {cdcEvent lead choice err} :
      ListenerTransition pid (.handling cdcEvent lead)
        ⟨pid, .onEvent cdcEvent lead, choice, .error err⟩ .ended

theorem ListenerPoint.transition {x : ListenerPoint} {cmd : ListenerCmd}
    {resume : Except JsError cmd.Reply → ListenerPoint} {choice : ListenerChoice}
    {w v : ListenerWorld} {reply : Except JsError cmd.Reply} (pid : Nat)
    (hv : x.view = .awaits cmd resume) (he : listenerExec cmd choice w = some (reply, v)) :
    v = w ∧ ListenerTransition pid x ⟨pid, cmd, choice, reply⟩ (resume reply) := by
  cases x with
  | retrieving cdcEvent recordId remaining =>
      cases hv
      cases choice with
      | retrieved lead =>
          cases he
          cases lead with
          | none => exact ⟨rfl, .missing⟩
          | some lead => exact ⟨rfl, .retrieved⟩
      | completed => cases he
      | fail err =>
          cases he
          refine ⟨rfl, ?_⟩
          cases remaining with
          | zero => exact .failed (.inl rfl)
          | succ remaining =>
              simp only [afterFailure]
              split
              next network => exact .unreachable network
              next final => exact .failed (.inr (by simpa using final))
  | waiting cdcEvent recordId remaining =>
      cases hv
      cases choice <;> cases he
      exact ⟨rfl, .slept⟩
  | handling cdcEvent lead =>
      cases hv
      cases choice <;> cases he
      · exact ⟨rfl, .handled⟩
      · exact ⟨rfl, .rejected⟩
  | ended => cases hv

/-! ## Invariant rules -/

abbrev ListenerConfig (X : Type) :=
  Config ListenerCmd ListenerCmd.Reply JsError ListenerWorld ListenerChoice RawMessage X

abbrev ListenerAction := Action RawMessage ListenerChoice Empty

namespace SalesforceCDCListener

theorem protocol_own (Own : RawMessage → ListenerPoint → List ListenerRecord → Prop)
    (launched : ∀ rawMessage, Own rawMessage (startPoint rawMessage) [])
    (answered : ∀ rawMessage x history pid r y, Own rawMessage x history →
      ListenerTransition pid x r y → Own rawMessage y (history ++ [r]))
    {w : ListenerWorld} {c : ListenerConfig ListenerPoint} {actions : List ListenerAction}
    (h : protocol.run (.initial w) actions = some c) {pid : Nat}
    {p : Proc RawMessage ListenerPoint} (hp : c.procs[pid]? = some p) :
    Own p.entry p.state (c.own pid) := by
  refine System.run_own (fun _ => True) Own ?_ ?_ h (fun _ _ => trivial) hp
  · intro rawMessage w x v hl
    cases hl
    exact launched rawMessage
  · intro rawMessage x history cmd resume pid choice reply w v own hv he _
    exact answered _ _ _ pid _ _ own (ListenerPoint.transition pid hv he).2

end SalesforceCDCListener
end SalesforceTikTok
