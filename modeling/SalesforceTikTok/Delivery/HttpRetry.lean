import SalesforceTikTok.Concurrency.Handler
import SalesforceTikTok.Delivery.Transitions

/-!
# The HTTP client under `sendEvents`

`this.http.post` goes through axios-retry: a request that fails is sent again while
retries are left and `retryCondition` allows it. Here the POST of the delivery programs
is carried out by that loop. A request leaves at one step and is answered at a later
one, whatever `retryDelay` was.
-/

namespace SalesforceTikTok

open Concurrency

/-! ## Requests -/

/-- What a request comes to: a response with its status, or no response at all. -/
inductive HttpAnswer where
  | response (status : Nat) (body : TikTokAPIResponse)
  | noResponse (error : JsError)

inductive HttpCmd where
  /-- What is no POST. -/
  | delivery (cmd : DeliveryCmd)
  /-- A request to `/event/track/` leaves. -/
  | send (payload : TikTokEventsPayload) (accessToken : String)
  /-- It is answered. -/
  | receive (payload : TikTokEventsPayload)

abbrev HttpCmd.Reply : HttpCmd → Type
  | .delivery cmd => cmd.Reply
  | .send _ _ => Unit
  | .receive _ => HttpAnswer

inductive HttpChoice where
  | delivery (choice : DeliveryChoice)
  | sent
  | answer (answer : HttpAnswer)

def httpExec (env : Env) : (cmd : HttpCmd) → HttpChoice → DeliveryWorld →
    Option (Except JsError cmd.Reply × DeliveryWorld)
  | .delivery cmd, .delivery choice, w => deliveryExec env cmd choice w
  | .send _ _, .sent, w => some (.ok (), w)
  | .receive _, .answer answer, w => some (.ok answer, w)
  | _, _, _ => none

abbrev httpRuntime (env : Env) :
    Runtime HttpCmd HttpCmd.Reply JsError DeliveryWorld HttpChoice DeliveryEvent where
  exec := httpExec env
  env := deliveryEnv

abbrev HttpProg := Prog HttpCmd HttpCmd.Reply JsError

abbrev HttpRecord := Record HttpCmd HttpCmd.Reply JsError HttpChoice

abbrev HttpConfig (X : Type) :=
  Config HttpCmd HttpCmd.Reply JsError DeliveryWorld HttpChoice DeliveryCall X

abbrev HttpAction := Action DeliveryCall HttpChoice DeliveryEvent

/-! ## The retry loop -/

def NON_RETRYABLE_CODES : List Nat := [400, 401, 403]

/-- A pipeline whose API clients are configured with `axiosRetry`. -/
structure HttpClient where
  pipeline : Pipeline
  /-- `axiosRetry.isNetworkError`. -/
  isNetworkError : JsError → Bool

/-- The `AxiosError` of a response outside `200..299`. -/
def requestFailed (status : Nat) : JsError where
  message := "Request failed with status code " ++ toString status
  code :=
    if status / 100 = 4 then some "ERR_BAD_REQUEST"
    else if status / 100 = 5 then some "ERR_BAD_RESPONSE"
    else none

/-- What the POST resolves or rejects with, unless it is sent again. -/
def HttpAnswer.outcome : HttpAnswer → Except JsError TikTokAPIResponse
  | .response status body =>
      if 200 ≤ status ∧ status < 300 then .ok body else .error (requestFailed status)
  | .noResponse error => .error error

namespace HttpClient

variable (H : HttpClient)

def retryCondition : HttpAnswer → Bool
  | .response status _ =>
      if status ∈ NON_RETRYABLE_CODES then false else status = 429 ∨ status ≥ 500
  | .noResponse error => H.isNetworkError error

def retries : Nat := H.pipeline.env.TIKTOK_MAX_RETRIES.toNat

abbrev http (cmd : HttpCmd) : HttpProg cmd.Reply := Prog.call cmd

/-- A request has left: its answer, or that of the request it is sent again with. -/
def receive (payload : TikTokEventsPayload) (accessToken : String) :
    Nat → HttpProg TikTokAPIResponse
  | 0 => do
      let answer : HttpAnswer ← http (.receive payload)
      match answer.outcome with
      | .ok body => return body
      | .error error => throw error
  | left + 1 => do
      let answer : HttpAnswer ← http (.receive payload)
      match answer.outcome with
      | .ok body => return body
      | .error error =>
          if H.retryCondition answer then
            http (.send payload accessToken)
            receive payload accessToken left
          else throw error

def post (payload : TikTokEventsPayload) (accessToken : String) : HttpProg TikTokAPIResponse := do
  http (.send payload accessToken)
  H.receive payload accessToken H.retries

def carry : (cmd : DeliveryCmd) → HttpProg cmd.Reply
  | .postEvents payload accessToken => H.post payload accessToken
  | cmd => http (.delivery cmd)

def system : System (httpRuntime H.pipeline.env) Unit DeliveryCall (HttpProg Unit) where
  view := Prog.view
  launch call w := some ((H.pipeline.program call).handle H.carry, w)

end HttpClient

/-! ## The points -/

/-- A point of the delivery protocol; while it awaits its POST, how often that may be sent
again and whether a request is out. -/
structure HttpPoint where
  point : DeliveryPoint
  left : Nat
  sent : Bool

namespace HttpClient

variable (H : HttpClient)

def enter (x : DeliveryPoint) : HttpPoint := ⟨x, H.retries, false⟩

def answered (x : HttpPoint) (answer : HttpAnswer)
    (resume : Except JsError TikTokAPIResponse → DeliveryPoint) : HttpPoint :=
  match answer.outcome, x.left with
  | .error _, left + 1 =>
      if H.retryCondition answer then ⟨x.point, left, false⟩
      else H.enter (resume answer.outcome)
  | outcome, _ => H.enter (resume outcome)

private theorem answered_cases (x : HttpPoint) (answer : HttpAnswer)
    (resume : Except JsError TikTokAPIResponse → DeliveryPoint) :
    H.answered x answer resume = H.enter (resume answer.outcome) ∨
      ∃ left, x.left = left + 1 ∧ H.retryCondition answer = true ∧
        H.answered x answer resume = ⟨x.point, left, false⟩ := by
  obtain ⟨point, left, sent⟩ := x
  unfold answered
  cases outcome : answer.outcome with
  | ok body => exact .inl rfl
  | error error =>
      cases left with
      | zero => exact .inl rfl
      | succ left =>
          by_cases again : H.retryCondition answer = true
          · exact .inr ⟨left, rfl, again, by simp only [if_pos again]⟩
          · exact .inl (by simp only [if_neg again])

def view (x : HttpPoint) : View HttpCmd HttpCmd.Reply JsError Unit HttpPoint :=
  match x.point.view H.pipeline with
  | .ended outcome => .ended outcome
  | .awaits (.postEvents payload accessToken) resume =>
      match x.sent with
      | false =>
          .awaits (.send payload accessToken) fun
            | .ok _ => { x with sent := true }
            | .error error => H.enter (resume (.error error))
      | true =>
          .awaits (.receive payload) fun
            | .ok answer => H.answered x answer resume
            | .error error => H.enter (resume (.error error))
  | .awaits cmd resume => .awaits (.delivery cmd) fun reply => H.enter (resume reply)

def protocol : System (httpRuntime H.pipeline.env) Unit DeliveryCall HttpPoint where
  view := H.view
  launch call w := some (H.enter (H.pipeline.startPoint call), w)

def program (x : HttpPoint) : HttpProg Unit :=
  match x.point.view H.pipeline with
  | .ended (.ok value) => .done value
  | .ended (.error error) => .fail error
  | .awaits (.postEvents payload accessToken) resume =>
      (match x.sent with
        | false => (do http (.send payload accessToken); H.receive payload accessToken x.left)
        | true => H.receive payload accessToken x.left).attempt >>= fun reply =>
          ((resume reply).program H.pipeline).handle H.carry
  | .awaits cmd resume =>
      .await (.delivery cmd) fun reply => ((resume reply).program H.pipeline).handle H.carry

private theorem enter_program (x : DeliveryPoint) :
    H.program (H.enter x) = (x.program H.pipeline).handle H.carry := by
  have shown := x.view_program H.pipeline
  unfold program enter
  cases hv : x.view H.pipeline with
  | ended outcome =>
      rw [hv] at shown
      cases outcome with
      | ok value => rw [Prog.eq_of_view_ok shown]; rfl
      | error error => rw [Prog.eq_of_view_error shown]; rfl
  | awaits cmd resume =>
      rw [hv] at shown
      rw [Prog.eq_of_view_awaits shown, Prog.handle_await]
      cases cmd with
      | postEvents payload accessToken => rfl
      | _ => exact (Prog.call_attempt_bind _ _).symm

theorem view_program (x : HttpPoint) : (H.program x).view = (H.view x).map H.program := by
  obtain ⟨point, left, sent⟩ := x
  cases hv : point.view H.pipeline with
  | ended outcome =>
      simp only [program, view, hv]
      cases outcome <;> rfl
  | awaits cmd resume =>
      cases cmd with
      | postEvents payload accessToken =>
          cases sent with
          | false =>
              simp only [program, view, hv]
              refine View.awaits_ext (fun _ => ?_) fun error => ?_
              · simp only [program, hv]
                rfl
              · exact (H.enter_program _).symm
          | true =>
              cases left with
              | zero =>
                  simp only [program, view, hv, answered]
                  refine View.awaits_ext (fun answer => ?_) fun error => ?_
                  · simp only [Prog.bind]
                    cases answer.outcome <;> exact (H.enter_program _).symm
                  · exact (H.enter_program _).symm
              | succ left =>
                  simp only [program, view, hv, answered]
                  refine View.awaits_ext (fun answer => ?_) fun error => ?_
                  · simp only [Prog.bind]
                    cases answer.outcome with
                    | ok body => exact (H.enter_program _).symm
                    | error error =>
                        by_cases again : H.retryCondition answer = true
                        · simp only [if_pos again, program, hv]
                          rfl
                        · simp only [if_neg again]
                          exact (H.enter_program _).symm
                  · exact (H.enter_program _).symm
      | _ =>
          simp only [program, view, hv]
          exact congrArg (View.awaits _) (funext fun reply => (H.enter_program _).symm)

theorem refines : Refines H.protocol H.system H.program where
  view := H.view_program
  launch call w := by
    simp only [protocol, system, Option.map_some, H.enter_program, H.pipeline.program_eq]

end HttpClient

/-! ## Transitions -/

def DeliveryChoice.isOk : DeliveryChoice → Bool
  | .ok => true
  | _ => false

/-- The payload a call is about to send, from its pending row or its pick-up of the job on. -/
def DeliveryPoint.sending : DeliveryPoint → Option TikTokEventsPayload
  | .loggingPending d | .acquiring d | .posting d _ => some d.payload
  | .jobAcquiring _ data | .jobPosting _ data _ => some data.payload
  | _ => none

theorem DeliveryPoint.sending_of_post {P : Pipeline} {x : DeliveryPoint}
    {payload : TikTokEventsPayload} {accessToken : String}
    {resume : Except JsError TikTokAPIResponse → DeliveryPoint}
    (hv : x.view P = .awaits (.postEvents payload accessToken) resume) :
    x.sending = some payload := by
  cases x with
  | posting d accessToken => cases hv; rfl
  | jobPosting id data accessToken => cases hv; rfl
  | _ => cases hv

/-- `HttpTransition H x w r y v`: at point `x` in world `w` the answer `r` leads to point `y` in
world `v`. -/
inductive HttpTransition (H : HttpClient) :
    HttpPoint → DeliveryWorld → HttpRecord → HttpPoint → DeliveryWorld → Prop where
  | delivery {x left sent w pid cmd choice reply y v}
      (t : DeliveryTransition H.pipeline x w ⟨pid, cmd, choice, reply⟩ y v) :
      HttpTransition H ⟨x, left, sent⟩ w ⟨pid, .delivery cmd, .delivery choice, reply⟩
        (H.enter y) v
  | sent {x left w pid payload accessToken} (sending : x.sending = some payload) :
      HttpTransition H ⟨x, left, false⟩ w ⟨pid, .send payload accessToken, .sent, .ok ()⟩
        ⟨x, left, true⟩ w
  | again {x left w pid payload answer} (sending : x.sending = some payload)
      (retried : H.retryCondition answer = true) :
      HttpTransition H ⟨x, left + 1, true⟩ w ⟨pid, .receive payload, .answer answer, .ok answer⟩
        ⟨x, left, false⟩ w
  | answered {x left w pid payload accessToken answer choice y}
      (t : DeliveryTransition H.pipeline x w
        ⟨pid, .postEvents payload accessToken, choice, answer.outcome⟩ y w) :
      HttpTransition H ⟨x, left, true⟩ w ⟨pid, .receive payload, .answer answer, .ok answer⟩
        (H.enter y) w

theorem HttpPoint.view_send {H : HttpClient} {x : HttpPoint} {payload : TikTokEventsPayload}
    {accessToken : String} {resume : Except JsError Unit → HttpPoint}
    (hv : H.view x = .awaits (.send payload accessToken) resume) :
    ∃ resume', x.point.view H.pipeline = .awaits (.postEvents payload accessToken) resume' := by
  obtain ⟨point, left, sent⟩ := x
  cases hp : point.view H.pipeline with
  | ended outcome =>
      simp only [HttpClient.view, hp] at hv
      cases hv
  | awaits cmd resume' =>
      simp only [HttpClient.view, hp] at hv
      cases cmd with
      | postEvents asked token =>
          cases sent with
          | false =>
              cases hv
              exact ⟨resume', rfl⟩
          | true => cases hv
      | _ => cases hv

def HttpAnswer.choice (answer : HttpAnswer) : DeliveryChoice :=
  match answer.outcome with
  | .ok body => .response body
  | .error error => .fail error

theorem HttpAnswer.exec (answer : HttpAnswer) (env : Env) (payload : TikTokEventsPayload)
    (accessToken : String) (w : DeliveryWorld) :
    deliveryExec env (.postEvents payload accessToken) answer.choice w =
      some (answer.outcome, w) := by
  unfold choice
  cases answer.outcome <;> rfl

theorem HttpPoint.transition {H : HttpClient} {x : HttpPoint} {cmd : HttpCmd}
    {resume : Except JsError cmd.Reply → HttpPoint} {choice : HttpChoice} {w v : DeliveryWorld}
    {reply : Except JsError cmd.Reply} (pid : Nat) (hv : H.view x = .awaits cmd resume)
    (he : httpExec H.pipeline.env cmd choice w = some (reply, v)) :
    HttpTransition H x w ⟨pid, cmd, choice, reply⟩ (resume reply) v := by
  obtain ⟨point, left, sent⟩ := x
  cases hp : point.view H.pipeline with
  | ended outcome =>
      simp only [HttpClient.view, hp] at hv
      cases hv
  | awaits dcmd dresume =>
      cases dcmd with
      | postEvents payload accessToken =>
          have sending := DeliveryPoint.sending_of_post hp
          cases sent with
          | false =>
              simp only [HttpClient.view, hp] at hv
              cases hv
              cases choice <;> cases he
              exact .sent sending
          | true =>
              simp only [HttpClient.view, hp] at hv
              cases hv
              cases choice <;> cases he
              next answer =>
                obtain done | ⟨n, rfl, retried, again⟩ := H.answered_cases ⟨point, left, true⟩
                  answer dresume
                · show HttpTransition H _ _ _ (H.answered _ _ _) _
                  rw [done]
                  exact .answered (DeliveryPoint.transition pid hp
                    (answer.exec H.pipeline.env payload accessToken w))
                · show HttpTransition H _ _ _ (H.answered _ _ _) _
                  rw [again]
                  exact .again sending retried
      | _ =>
          simp only [HttpClient.view, hp] at hv
          cases hv
          cases choice with
          | delivery choice => exact .delivery (DeliveryPoint.transition pid hp he)
          | _ => cases he

/-! ## The invariant rule -/

namespace HttpClient

/-- A fact about whole configurations, under a condition on the steps: enough to check it for
a started call, for every entry of the table and for the two events of the environment. -/
theorem protocol_invariant {H : HttpClient}
    (Step : HttpConfig HttpPoint → HttpAction → HttpConfig HttpPoint → Prop)
    (I : HttpConfig HttpPoint → Prop)
    (started : ∀ c call, I c →
      I { c with procs := c.procs ++ [⟨call, H.enter (H.pipeline.startPoint call)⟩] })
    (answered : ∀ c pid p r y v, I c → c.procs[pid]? = some p →
      (∃ resume, H.view p.state = .awaits r.cmd resume) → HttpTransition H p.state c.world r y v →
      Step c (.resume pid r.choice) ⟨v, c.procs.set pid ⟨p.entry, y⟩, c.trace ++ [r]⟩ →
      I ⟨v, c.procs.set pid ⟨p.entry, y⟩, c.trace ++ [r]⟩)
    (moved : ∀ c event v, I c → deliveryEnv event c.world = some v →
      Step c (.env event) { c with world := v } → I { c with world := v })
    {c c' : HttpConfig HttpPoint} {actions : List HttpAction}
    (h : H.protocol.run c actions = some c') (along : H.protocol.Along Step c actions)
    (initial : I c) : I c' := by
  refine System.run_invariant_along Step I ?_ h along initial
  intro c a c' hc hs hstep
  cases a with
  | start call =>
      obtain ⟨x, v, hl, rfl⟩ := System.step_start hs
      cases hl
      exact started c call hc
  | resume pid choice =>
      obtain ⟨p, cmd, resume, reply, v, hp, hv, he, rfl⟩ := System.step_resume hs
      exact answered c pid p _ _ _ hc hp ⟨resume, hv⟩ (HttpPoint.transition pid hv he) hstep
  | env event =>
      obtain ⟨v, hw, rfl⟩ := System.step_env hs
      exact moved c event v hc hw hstep

end HttpClient
end SalesforceTikTok
