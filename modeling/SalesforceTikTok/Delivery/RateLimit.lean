import SalesforceTikTok.Core.Numbers
import SalesforceTikTok.Delivery.HttpRetry

/-!
# The rate limiters

The pipeline and the worker each construct an API client of their own, and each client
a limiter of its own. `sendEvents` takes one token before its first request; the requests
that axios-retry sends again are below the limiter and take none. A caller that finds no
token sleeps and looks again.
-/

namespace SalesforceTikTok

open Concurrency

/-! ## The limiter -/

structure RateLimiter (Number : Type) where
  tokens : Number
  lastRefill : Int
  maxTokens : Number
  refillIntervalMs : Int

/-- What one round of the loop of `acquire` comes to: a token, or a sleep. -/
inductive Round where
  | granted (now : Int)
  | wait (milliseconds : Int)

namespace RateLimiter

variable {Number : Type}

def new (rps : Number) (now : Int) : RateLimiter Number where
  tokens := rps
  lastRefill := now
  maxTokens := rps
  refillIntervalMs := 1000

def refill (l : RateLimiter Number) (now : Int) : RateLimiter Number :=
  if now - l.lastRefill ≥ l.refillIntervalMs then
    { l with tokens := l.maxTokens, lastRefill := now }
  else l

/-- One round of the loop of `acquire`. -/
def round [LE Number] [DecidableLE Number] [One Number] [Sub Number] (l : RateLimiter Number)
    (now : Int) : Round × RateLimiter Number :=
  let refilled := l.refill now
  if refilled.tokens ≥ 1 then (.granted now, { refilled with tokens := refilled.tokens - 1 })
  else (.wait (max (refilled.refillIntervalMs - (now - refilled.lastRefill)) 10), refilled)

end RateLimiter

/-! ## Commands -/

/-- `new TikTokAPIClient()`, in the constructor of the pipeline and in `bootstrap`. -/
inductive ApiClient where
  | pipeline
  | worker
  deriving DecidableEq, Repr

inductive LimitCmd where
  /-- What takes no token and is no request. -/
  | http (cmd : HttpCmd)
  /-- A round of `acquire`; the payload only marks the call in the trace. -/
  | round (client : ApiClient) (payload : TikTokEventsPayload)
  /-- `setTimeout`. -/
  | sleep (milliseconds : Int)
  /-- A request to `/event/track/` leaves. `slot` tells when its call was granted the token
  that it goes out on; a request that is sent again has none. -/
  | send (client : ApiClient) (slot : Option Int) (payload : TikTokEventsPayload)
      (accessToken : String)

abbrev LimitCmd.Reply : LimitCmd → Type
  | .http cmd => cmd.Reply
  | .round _ _ => Round
  | .sleep _ => Unit
  | .send _ _ _ _ => Int

inductive LimitChoice where
  | http (choice : HttpChoice)
  | ok

structure LimitedWorld where
  delivery : DeliveryWorld
  limiter : ApiClient → RateLimiter Binary64

def limitExec (env : Env) : (cmd : LimitCmd) → LimitChoice → LimitedWorld →
    Option (Except JsError cmd.Reply × LimitedWorld)
  | .http cmd, .http choice, w =>
      (httpExec env cmd choice w.delivery).map fun answer =>
        (answer.1, { w with delivery := answer.2 })
  | .round client _, .ok, w =>
      let answer := (w.limiter client).round w.delivery.clock
      some (.ok answer.1, { w with limiter := Function.update w.limiter client answer.2 })
  | .sleep _, .ok, w => some (.ok (), w)
  | .send _ _ _ _, .ok, w => some (.ok w.delivery.clock, w)
  | _, _, _ => none

def limitEnv (event : DeliveryEvent) (w : LimitedWorld) : Option LimitedWorld :=
  (deliveryEnv event w.delivery).map fun delivery => { w with delivery := delivery }

abbrev limitRuntime (env : Env) :
    Runtime LimitCmd LimitCmd.Reply JsError LimitedWorld LimitChoice DeliveryEvent where
  exec := limitExec env
  env := limitEnv

abbrev LimitRecord := Record LimitCmd LimitCmd.Reply JsError LimitChoice

abbrev LimitConfig (X : Type) :=
  Config LimitCmd LimitCmd.Reply JsError LimitedWorld LimitChoice DeliveryCall X

abbrev LimitAction := Action DeliveryCall LimitChoice DeliveryEvent

/-! ## The delivery path under its limiters -/

/-- A point of the delivery path; while it acquires, whether it sleeps, and then the slot it
was granted until its request leaves. -/
structure LimitPoint where
  http : HttpPoint
  client : ApiClient
  slot : Option Int
  waiting : Option Int

/-- The two API clients with what they are configured with. -/
structure LimitedClients where
  http : HttpClient
  TIKTOK_RATE_LIMIT_RPS : Binary64

def DeliveryCall.client : DeliveryCall → ApiClient
  | .process _ _ => .pipeline
  | .runJob _ => .worker

namespace LimitedClients

variable (L : LimitedClients)

/-- The world when the clients have been constructed, each some milliseconds ago. -/
def world (age : ApiClient → Nat) (w : DeliveryWorld) : LimitedWorld where
  delivery := w
  limiter client := .new L.TIKTOK_RATE_LIMIT_RPS (w.clock - age client)

def enter (call : DeliveryCall) : LimitPoint where
  http := L.http.enter (L.http.pipeline.startPoint call)
  client := call.client
  slot := none
  waiting := none

/-- A caller that acquires goes round its loop; a request that leaves uses up its slot. -/
def view (x : LimitPoint) : View LimitCmd LimitCmd.Reply JsError Unit LimitPoint :=
  match L.http.view x.http with
  | .ended outcome => .ended outcome
  | .awaits (.delivery (.acquire payload)) resume =>
      match x.waiting with
      | none =>
          .awaits (.round x.client payload) fun
            | .ok (.granted now) => { x with http := resume (.ok ()), slot := some now }
            | .ok (.wait milliseconds) => { x with waiting := some milliseconds }
            | .error error => { x with http := resume (.error error) }
      | some milliseconds =>
          .awaits (.sleep milliseconds) fun
            | .ok _ => { x with waiting := none }
            | .error error => { x with http := resume (.error error), waiting := none }
  | .awaits (.send payload accessToken) resume =>
      .awaits (.send x.client x.slot payload accessToken) fun
        | .ok _ => { x with http := resume (.ok ()), slot := none }
        | .error error => { x with http := resume (.error error) }
  | .awaits cmd resume => .awaits (.http cmd) fun reply => { x with http := resume reply }

/-- The delivery path, its callers taking tokens of their own client's limiter. -/
def system : System (limitRuntime L.http.pipeline.env) Unit DeliveryCall LimitPoint where
  view := L.view
  launch call w := some (L.enter call, w)

end LimitedClients

/-! ## Transitions -/

/-- At point `x` of the HTTP layer the answer `r` leads to point `y` in world `v`. -/
def HttpClient.Answers (H : HttpClient) (x : HttpPoint) (w : DeliveryWorld) (r : HttpRecord)
    (y : HttpPoint) (v : DeliveryWorld) : Prop :=
  ∃ resume, H.view x = .awaits r.cmd resume ∧
    httpExec H.pipeline.env r.cmd r.choice w = some (r.reply, v) ∧ y = resume r.reply

theorem HttpClient.Answers.transition {H : HttpClient} {x y : HttpPoint} {w v : DeliveryWorld}
    {r : HttpRecord} (h : H.Answers x w r y v) : HttpTransition H x w r y v := by
  obtain ⟨resume, hv, he, rfl⟩ := h
  exact HttpPoint.transition r.pid hv he

/-- `LimitTransition L x w r y v`: at point `x` in world `w` the answer `r` leads to point `y` in
world `v`. -/
inductive LimitTransition (L : LimitedClients) :
    LimitPoint → LimitedWorld → LimitRecord → LimitPoint → LimitedWorld → Prop where
  | granted {x w pid payload choice y l} (waiting : x.waiting = none)
      (round : (w.limiter x.client).round w.delivery.clock = (.granted w.delivery.clock, l))
      (t : L.http.Answers x.http w.delivery
        ⟨pid, .delivery (.acquire payload), .delivery .ok, .ok ()⟩ y w.delivery) :
      LimitTransition L x w
        ⟨pid, .round x.client payload, choice, .ok (.granted w.delivery.clock)⟩
        { x with http := y, slot := some w.delivery.clock }
        { w with limiter := Function.update w.limiter x.client l }
  | denied {x w pid payload choice milliseconds l} (waiting : x.waiting = none)
      (round : (w.limiter x.client).round w.delivery.clock = (.wait milliseconds, l)) :
      LimitTransition L x w ⟨pid, .round x.client payload, choice, .ok (.wait milliseconds)⟩
        { x with waiting := some milliseconds }
        { w with limiter := Function.update w.limiter x.client l }
  | slept {x w pid choice milliseconds} (waiting : x.waiting = some milliseconds) :
      LimitTransition L x w ⟨pid, .sleep milliseconds, choice, .ok ()⟩ { x with waiting := none } w
  | sent {x w pid payload accessToken choice y}
      (t : L.http.Answers x.http w.delivery
        ⟨pid, .send payload accessToken, .sent, .ok ()⟩ y w.delivery) :
      LimitTransition L x w
        ⟨pid, .send x.client x.slot payload accessToken, choice, .ok w.delivery.clock⟩
        { x with http := y, slot := none } w
  | http {x w pid cmd choice reply y v} (acquires : ∀ payload, cmd ≠ .delivery (.acquire payload))
      (sends : ∀ payload accessToken, cmd ≠ .send payload accessToken)
      (t : L.http.Answers x.http w.delivery ⟨pid, cmd, choice, reply⟩ y v) :
      LimitTransition L x w ⟨pid, .http cmd, .http choice, reply⟩ { x with http := y }
        { w with delivery := v }

/-- A round ends with a token at this time or with a sleep. -/
theorem RateLimiter.round_cases (l : RateLimiter Binary64) (now : Int) :
    (1 ≤ (l.refill now).tokens ∧ l.round now =
      (.granted now, { l.refill now with tokens := (l.refill now).tokens - 1 })) ∨
    (¬ 1 ≤ (l.refill now).tokens ∧ ∃ milliseconds, l.round now =
      (.wait milliseconds, l.refill now)) := by
  unfold round
  by_cases token : (l.refill now).tokens ≥ 1
  · exact .inl ⟨token, if_pos token⟩
  · exact .inr ⟨token, _, if_neg token⟩

theorem LimitPoint.transition {L : LimitedClients} {x : LimitPoint} {cmd : LimitCmd}
    {resume : Except JsError cmd.Reply → LimitPoint} {choice : LimitChoice} {w v : LimitedWorld}
    {reply : Except JsError cmd.Reply} (pid : Nat) (hv : L.view x = .awaits cmd resume)
    (he : limitExec L.http.pipeline.env cmd choice w = some (reply, v)) :
    LimitTransition L x w ⟨pid, cmd, choice, reply⟩ (resume reply) v := by
  obtain ⟨http, client, slot, waiting⟩ := x
  -- a command of the HTTP layer other than those for a token and for a request
  have plain {asked : HttpCmd} {resume' : Except JsError asked.Reply → HttpPoint}
      (hq : L.http.view http = .awaits asked resume')
      (acquires : ∀ payload, asked ≠ .delivery (.acquire payload))
      (sends : ∀ payload accessToken, asked ≠ .send payload accessToken) (choice : LimitChoice)
      (reply : Except JsError asked.Reply) (v : LimitedWorld)
      (he : limitExec L.http.pipeline.env (.http asked) choice w = some (reply, v)) :
      LimitTransition L ⟨http, client, slot, waiting⟩ w ⟨pid, .http asked, choice, reply⟩
        ⟨resume' reply, client, slot, waiting⟩ v := by
    cases choice with
    | ok => cases he
    | http choice =>
        obtain ⟨_, exec, same⟩ := Option.map_eq_some_iff.mp he
        cases same
        exact .http acquires sends ⟨resume', hq, exec, rfl⟩
  cases hq : L.http.view http with
  | ended outcome =>
      simp only [LimitedClients.view, hq] at hv
      cases hv
  | awaits asked resume' =>
      cases asked with
      | delivery asked =>
          cases asked with
          | acquire payload =>
              cases waiting with
              | none =>
                  simp only [LimitedClients.view, hq] at hv
                  cases hv
                  cases choice with
                  | http choice => cases he
                  | ok =>
                      rcases (w.limiter client).round_cases w.delivery.clock with
                        ⟨_, round⟩ | ⟨_, milliseconds, round⟩
                      · simp only [limitExec, round] at he
                        cases he
                        exact .granted rfl round ⟨resume', hq, rfl, rfl⟩
                      · simp only [limitExec, round] at he
                        cases he
                        exact .denied rfl round
              | some milliseconds =>
                  simp only [LimitedClients.view, hq] at hv
                  cases hv
                  cases choice <;> cases he
                  exact .slept rfl
          | _ =>
              simp only [LimitedClients.view, hq] at hv
              cases hv
              exact plain hq (by simp) (by simp) _ _ _ he
      | send payload accessToken =>
          simp only [LimitedClients.view, hq] at hv
          cases hv
          cases choice <;> cases he
          exact .sent ⟨resume', hq, rfl, rfl⟩
      | receive payload =>
          simp only [LimitedClients.view, hq] at hv
          cases hv
          exact plain hq (by simp) (by simp) _ _ _ he

/-- What one step can do: start a call, answer one by an entry of the table, or let the
environment move. -/
theorem LimitedClients.step_cases {L : LimitedClients} {c c' : LimitConfig LimitPoint}
    {a : LimitAction} (h : L.system.step c a = some c') :
    (∃ call, a = .start call ∧ c' = { c with procs := c.procs ++ [⟨call, L.enter call⟩] }) ∨
    (∃ p r resume y v, a = .resume r.pid r.choice ∧ c.procs[r.pid]? = some p ∧
      L.view p.state = .awaits r.cmd resume ∧ LimitTransition L p.state c.world r y v ∧
        c' = ⟨v, c.procs.set r.pid ⟨p.entry, y⟩, c.trace ++ [r]⟩) ∨
    ∃ event v, a = .env event ∧ deliveryEnv event c.world.delivery = some v ∧
      c' = { c with world := { c.world with delivery := v } } := by
  cases a with
  | start call =>
      obtain ⟨x, w, hl, rfl⟩ := System.step_start h
      cases hl
      exact .inl ⟨call, rfl, rfl⟩
  | resume pid choice =>
      obtain ⟨p, cmd, resume, reply, v, hp, hv, he, rfl⟩ := System.step_resume h
      exact .inr (.inl ⟨p, ⟨pid, cmd, choice, reply⟩, resume, _, v, rfl, hp, hv,
        LimitPoint.transition pid hv he, rfl⟩)
  | env event =>
      obtain ⟨w, hw, rfl⟩ := System.step_env h
      obtain ⟨v, moved, rfl⟩ := Option.map_eq_some_iff.mp hw
      exact .inr (.inr ⟨event, v, rfl, moved, rfl⟩)

/-! ## The HTTP layer underneath -/

/-- The record of the HTTP layer: a granted token is the end of its `acquire`. -/
def httpRecord : LimitRecord → Option HttpRecord
  | ⟨pid, .http cmd, .http choice, reply⟩ => some ⟨pid, cmd, choice, reply⟩
  | ⟨pid, .round _ payload, _, .ok (.granted _)⟩ =>
      some ⟨pid, .delivery (.acquire payload), .delivery .ok, .ok ()⟩
  | ⟨pid, .send _ _ payload accessToken, _, .ok _⟩ =>
      some ⟨pid, .send payload accessToken, .sent, .ok ()⟩
  | _ => none

def httpConfig (c : LimitConfig LimitPoint) : HttpConfig HttpPoint where
  world := c.world.delivery
  procs := c.procs.map fun p => ⟨p.entry, p.state.http⟩
  trace := c.trace.filterMap httpRecord

private theorem httpConfig_answered {c : LimitConfig LimitPoint} {p : Proc DeliveryCall LimitPoint}
    {pid : Nat} (v : LimitedWorld) (y : LimitPoint) (r : LimitRecord) :
    httpConfig ⟨v, c.procs.set pid ⟨p.entry, y⟩, c.trace ++ [r]⟩ =
      ⟨v.delivery, (httpConfig c).procs.set pid ⟨p.entry, y.http⟩,
        (httpConfig c).trace ++ (httpRecord r).toList⟩ := by
  cases hr : httpRecord r <;> simp [httpConfig, List.map_set, List.filterMap_append, hr]

namespace LimitedClients

variable {L : LimitedClients}

/-- A step under the limiters is a step of the HTTP layer, or none. -/
theorem step_http {c c' : LimitConfig LimitPoint} {a : LimitAction}
    (h : L.system.step c a = some c') :
    httpConfig c' = httpConfig c ∨
      ∃ a', L.http.protocol.step (httpConfig c) a' = some (httpConfig c') := by
  rcases step_cases h with ⟨call, rfl, rfl⟩ | ⟨p, r, resume, y, v, rfl, hp, _, t, rfl⟩ |
    ⟨event, v, rfl, moved, rfl⟩
  · refine .inr ⟨.start call, ?_⟩
    simp [System.step, httpConfig, HttpClient.protocol, enter]
  · have hp' : (httpConfig c).procs[r.pid]? = some ⟨p.entry, p.state.http⟩ := by
      simp [httpConfig, hp]
    have answered {q : HttpRecord} {y : HttpPoint} {v : DeliveryWorld}
        (t : L.http.Answers p.state.http c.world.delivery q y v) (here : q.pid = r.pid) :
        L.http.protocol.step (httpConfig c) (.resume r.pid q.choice) =
          some ⟨v, (httpConfig c).procs.set r.pid ⟨p.entry, y⟩, (httpConfig c).trace ++ [q]⟩ := by
      obtain ⟨resume, hq, exec, rfl⟩ := t
      rw [System.step_answer hp' hq exec, ← here]
    have stays : (httpConfig c).procs.set r.pid ⟨p.entry, p.state.http⟩ = (httpConfig c).procs := by
      obtain ⟨bound, same⟩ := List.getElem?_eq_some_iff.mp hp'
      rw [← same]
      exact List.set_getElem_self bound
    rw [httpConfig_answered]
    cases t with
    | granted waiting round t => exact .inr ⟨_, answered t rfl⟩
    | sent t => exact .inr ⟨_, answered t rfl⟩
    | http acquires sends t => exact .inr ⟨_, answered t rfl⟩
    | denied waiting round =>
        left
        simp only at stays ⊢
        rw [stays]
        simp [httpRecord, httpConfig]
    | slept waiting =>
        left
        simp only at stays ⊢
        rw [stays]
        simp [httpRecord, httpConfig]
  · refine .inr ⟨.env event, ?_⟩
    simp [System.step, httpConfig, moved]

theorem run_http {w : LimitedWorld} {c : LimitConfig LimitPoint} {actions : List LimitAction}
    (h : L.system.run (.initial w) actions = some c) :
    ∃ actions', L.http.protocol.run (.initial w.delivery) actions' = some (httpConfig c) := by
  refine System.run_invariant (fun d => ∃ actions',
    L.http.protocol.run (.initial w.delivery) actions' = some (httpConfig d)) ?_ h ⟨[], rfl⟩
  rintro d a d' ⟨actions', reached⟩ hs
  rcases step_http hs with same | ⟨a', taken⟩
  · exact ⟨actions', same ▸ reached⟩
  · refine ⟨actions' ++ [a'], ?_⟩
    rw [System.run_append, reached]
    simp [System.run, taken]

end LimitedClients
end SalesforceTikTok
