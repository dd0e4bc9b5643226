import Mathlib.Tactic.Linarith
import SalesforceTikTok.Delivery.Effects
import SalesforceTikTok.Delivery.History
import SalesforceTikTok.Delivery.RateLimit

/-!
# The rate of requests

How many requests leave within 1000 ms. A limiter counts what it lets out since its last
refill, and no more: not what it let out before, not what axios-retry sends again, not what
the other client sends. The configured rate is kept as long as none of these left within the
last 1000 ms, and the limiter misses the tokens that it hands out.
-/

namespace SalesforceTikTok

open Concurrency

/-! ## Windows over a list of times -/

/-- The times within 1000 ms from `t` on. -/
def window (times : List Int) (t : Int) : Nat := times.countP fun s => t ≤ s ∧ s < t + 1000

def lately (times : List Int) (now : Int) : Nat := times.countP fun s => now - 1000 < s

def Admits (bound : Binary64) (n : Nat) : Prop := n = 0 ∨ bound.AtLeast n

/-- If the last 1000 ms before each new time leave room for it, every window does. -/
theorem window_append {times : List Int} {now : Int} {bound : Binary64}
    (earlier : ∀ t, Admits bound (window times t)) (here : bound.AtLeast (lately times now + 1 : ℕ))
    (t : Int) : Admits bound (window (times ++ [now]) t) := by
  by_cases inside : t ≤ now ∧ now < t + 1000
  · have fewer : window times t ≤ lately times now := by
      refine List.countP_mono_left fun s _ within => ?_
      simp only [decide_eq_true_eq] at within ⊢
      omega
    have split : window (times ++ [now]) t = window times t + 1 := by
      simp [window, List.countP_append, inside]
    rw [split]
    exact .inr (here.mono (by exact_mod_cast Nat.succ_le_succ fewer))
  · have same : window (times ++ [now]) t = window times t := by
      simp [window, List.countP_append, inside]
    rw [same]
    exact earlier t

/-! ## Requests and tokens -/

def startedAt : LimitRecord → Option Int
  | ⟨_, .send _ _ _ _, _, .ok time⟩ => some time
  | _ => none

def starts (trace : List LimitRecord) : List Int := trace.filterMap startedAt

/-- At most `rps` requests start in any 1000 ms; a negative rate admits none, as zero does. -/
def RateLimited (rps : Binary64) (trace : List LimitRecord) : Prop :=
  ∀ t, Admits rps (window (starts trace) t)

def grantedSince (client : ApiClient) (since : Int) : LimitRecord → Bool
  | ⟨_, .round other _, _, .ok (.granted now)⟩ => other = client ∧ since ≤ now
  | _ => false

def letOutSince (client : ApiClient) (since : Int) : LimitRecord → Bool
  | ⟨_, .send other (some slot) _ _, _, .ok _⟩ => other = client ∧ since ≤ slot
  | _ => false

def LimitPoint.holdsSince (client : ApiClient) (since : Int) (x : LimitPoint) : Bool :=
  match x.slot with
  | some slot => x.client = client ∧ since ≤ slot
  | none => false

/-- The requests of the last 1000 ms that the limiter has not let out from then on. -/
def unseen (trace : List LimitRecord) (client : ApiClient) (since now : Int) : Nat :=
  trace.countP fun r => (startedAt r).any (now - 1000 < ·) && !letOutSince client since r

/-- The limiter of the client as its next round finds it. -/
def LimitConfig.limiter (c : LimitConfig LimitPoint) (client : ApiClient) :
    RateLimiter Binary64 :=
  (c.world.limiter client).refill c.world.delivery.clock

def LimitCmd.Seen (c : LimitConfig LimitPoint) : LimitCmd → Prop
  -- a token that is taken is missing: a large double less one is the same double
  | .round client _ =>
      1 ≤ (c.limiter client).tokens → (c.limiter client).tokens - 1 < (c.limiter client).tokens
  -- the request has a token of its limiter's present period, and in that period the limiter has
  -- let out all the requests of the last 1000 ms
  | .send client slot _ _ => (∃ time ∈ slot, (c.limiter client).lastRefill ≤ time) ∧
      unseen c.trace client (c.limiter client).lastRefill c.world.delivery.clock = 0
  | _ => True

/-- A step at which the limiters see what leaves. -/
def SeenByLimiter (L : LimitedClients) (c : LimitConfig LimitPoint) : LimitAction → Prop
  | .resume pid _ => ∀ p ∈ c.procs[pid]?,
      match L.view p.state with
      | .awaits cmd _ => cmd.Seen c
      | .ended _ => True
  | _ => True

instance (c : LimitConfig LimitPoint) (cmd : LimitCmd) : Decidable (cmd.Seen c) := by
  unfold LimitCmd.Seen
  split <;> infer_instance

instance (L : LimitedClients) (c : LimitConfig LimitPoint) (a : LimitAction) :
    Decidable (SeenByLimiter L c a) := by
  unfold SeenByLimiter
  split
  · refine @Option.decidableForallMem _ _ (fun p => ?_) _
    split <;> infer_instance
  · infer_instance

theorem SeenByLimiter.here {L : LimitedClients} {c : LimitConfig LimitPoint} {pid : Nat}
    {choice : LimitChoice} (seen : SeenByLimiter L c (.resume pid choice))
    {p : Proc DeliveryCall LimitPoint} (hp : c.procs[pid]? = some p) {cmd : LimitCmd}
    {resume : Except JsError cmd.Reply → LimitPoint} (hv : L.view p.state = .awaits cmd resume) :
    cmd.Seen c := by
  have seen := seen p hp
  rwa [hv] at seen

/-! ## One token for each call -/

def DeliveryPoint.acquires : DeliveryPoint → Bool
  | .resolving _ _ _ _ | .timing _ _ _ _ | .marking _ | .loggingPending _ | .acquiring _
  | .taking _ | .jobAcquiring _ _ => true
  | _ => false

theorem DeliveryTransition.acquires {P : Pipeline} {x y : DeliveryPoint} {w v : DeliveryWorld}
    {r : DeliveryRecord} (t : DeliveryTransition P x w r y v) :
    (∀ payload, r.cmd = .acquire payload → x.acquires = true ∧ y.acquires = false) ∧
      (y.acquires = true → x.acquires = true) := by
  cases t with
  | resolved => exact ⟨nofun, fun _ => rfl⟩
  | _ => simp [DeliveryPoint.acquires]

theorem HttpTransition.acquires {H : HttpClient} {x y : HttpPoint} {w v : DeliveryWorld}
    {r : HttpRecord} (t : HttpTransition H x w r y v) :
    (∀ payload, r.cmd = .delivery (.acquire payload) →
      x.point.acquires = true ∧ y.point.acquires = false) ∧
      (y.point.acquires = true → x.point.acquires = true) := by
  cases t with
  | delivery t =>
      refine ⟨fun payload same => t.acquires.1 payload ?_, t.acquires.2⟩
      cases same
      rfl
  | answered t => exact ⟨nofun, t.acquires.2⟩
  | _ => exact ⟨nofun, id⟩

/-! ## What a limiter has let out -/

private theorem grantedSince_mono {client : ApiClient} {since later : Int} (h : since ≤ later)
    {r : LimitRecord} (granted : grantedSince client later r = true) :
    grantedSince client since r = true := by
  unfold grantedSince at granted ⊢
  split at granted
  · simp only [decide_eq_true_eq] at granted ⊢
    exact ⟨granted.1, h.trans granted.2⟩
  · cases granted

namespace RateLimiter

/-- The bucket is filled all at once, or left alone within its interval. -/
theorem refill_cases (l : RateLimiter Binary64) (now : Int) :
    (l.lastRefill + l.refillIntervalMs ≤ now ∧
      l.refill now = { l with tokens := l.maxTokens, lastRefill := now }) ∨
    now < l.lastRefill + l.refillIntervalMs ∧ l.refill now = l := by
  unfold refill
  by_cases due : now - l.lastRefill ≥ l.refillIntervalMs
  · exact .inl ⟨by omega, if_pos due⟩
  · exact .inr ⟨by omega, if_neg due⟩

end RateLimiter

/-- The tokens handed out since the last refill are missing in the bucket, which is never
overdrawn, and all of them were handed out within its interval. -/
structure Metered (rps : Binary64) (trace : List LimitRecord) (client : ApiClient) (now : Int)
    (l : RateLimiter Binary64) : Prop where
  maxTokens : l.maxTokens = rps
  interval : l.refillIntervalMs = 1000
  begun : l.lastRefill ≤ now
  spent : l.tokens = rps ∧ trace.countP (grantedSince client l.lastRefill) = 0 ∨
    ∃ left representable, l.tokens = .finite left representable ∧ 0 ≤ left ∧
      rps.AtLeast (trace.countP (grantedSince client l.lastRefill) + left)
  recent : ∀ r ∈ trace, grantedSince client (l.lastRefill + 1000) r = false

namespace Metered

variable {rps : Binary64} {trace : List LimitRecord} {client : ApiClient} {now : Int}
  {l : RateLimiter Binary64}

theorem new (ago : Nat) : Metered rps [] client now (.new rps (now - ago)) where
  maxTokens := rfl
  interval := rfl
  begun := by
    simp only [RateLimiter.new]
    omega
  spent := .inl ⟨rfl, rfl⟩
  recent r hr := absurd hr List.not_mem_nil

theorem later (h : Metered rps trace client now l) {after : Int} (le : now ≤ after) :
    Metered rps trace client after l := { h with begun := h.begun.trans le }

/-- No token is handed out later than the interval of its refill. -/
theorem none_since (h : Metered rps trace client now l) {since : Int}
    (late : l.lastRefill + 1000 ≤ since) :
    ∀ r ∈ trace, grantedSince client since r = false := by
  intro r hr
  by_contra granted
  have earlier := grantedSince_mono late (Bool.eq_true_of_not_eq_false granted)
  rw [h.recent r hr] at earlier
  cases earlier

theorem refill (h : Metered rps trace client now l) :
    Metered rps trace client now (l.refill now) := by
  rcases l.refill_cases now with ⟨due, same⟩ | ⟨_, same⟩
  · rw [h.interval] at due
    rw [same]
    have fresh : trace.countP (grantedSince client now) = 0 := by
      refine List.countP_eq_zero.mpr fun r hr => ?_
      simp [h.none_since due r hr]
    refine ⟨h.maxTokens, h.interval, le_rfl, .inl ⟨h.maxTokens, fresh⟩, h.none_since ?_⟩
    simp only
    omega
  · rw [same]
    exact h

/-- The time is within the interval of a bucket that has just been looked at. -/
theorem refill_recent (h : Metered rps trace client now l) :
    now < (l.refill now).lastRefill + 1000 := by
  rcases l.refill_cases now with ⟨_, same⟩ | ⟨within, same⟩
  · rw [same]
    simp only
    omega
  · rw [same, ← h.interval]
    exact within

/-- A record that is no token of this client changes nothing. -/
theorem append (h : Metered rps trace client now l) {r : LimitRecord}
    (other : ∀ since, grantedSince client since r = false) :
    Metered rps (trace ++ [r]) client now l where
  maxTokens := h.maxTokens
  interval := h.interval
  begun := h.begun
  spent := by simpa [List.countP_append, other] using h.spent
  recent := by
    intro r' hr'
    rcases List.mem_append.mp hr' with earlier | here
    · exact h.recent r' earlier
    · rw [List.mem_singleton.mp here]
      exact other _

theorem grant (h : Metered rps trace client now l) (within : now < l.lastRefill + 1000)
    (token : 1 ≤ l.tokens) (missing : l.tokens - 1 < l.tokens) (pid : Nat)
    (payload : TikTokEventsPayload) (choice : LimitChoice) :
    Metered rps (trace ++ [⟨pid, .round client payload, choice, .ok (.granted now)⟩]) client now
      { l with tokens := l.tokens - 1 } where
  maxTokens := h.maxTokens
  interval := h.interval
  begun := h.begun
  spent := by
    obtain ⟨held, left, _, _, before, after, nonneg, less⟩ := Binary64.sub_one_of_lt token missing
    have one : ([⟨pid, .round client payload, choice, .ok (.granted now)⟩] :
        List LimitRecord).countP (grantedSince client l.lastRefill) = 1 := by
      simp [grantedSince, h.begun]
    refine .inr ⟨left, _, after, nonneg, ?_⟩
    rw [List.countP_append, one]
    rcases h.spent with ⟨full, none⟩ | ⟨rest, _, same, _, room⟩
    · rw [none, ← full, before]
      show ((0 + 1 : ℕ) : ℚ) + left ≤ held
      push_cast
      linarith
    · obtain rfl : held = rest := by
        rw [before] at same
        exact (Binary64.finite.injEq ..).mp same
      refine room.mono ?_
      push_cast
      linarith
  recent := by
    intro r hr
    rcases List.mem_append.mp hr with earlier | here
    · exact h.recent r earlier
    · rw [List.mem_singleton.mp here]
      simp [grantedSince, within]

private theorem room (h : Metered rps trace client now l) {n : ℕ} (some_granted : 0 < n)
    (granted : n ≤ trace.countP (grantedSince client l.lastRefill)) : rps.AtLeast n := by
  rcases h.spent with ⟨_, none⟩ | ⟨left, _, _, nonneg, room⟩
  · omega
  · have more : (n : ℚ) ≤ trace.countP (grantedSince client l.lastRefill) := by
      exact_mod_cast granted
    exact room.mono (by linarith)

end Metered

/-! ## What a step does to the accounts -/

theorem HttpTransition.clock_eq {H : HttpClient} {x y : HttpPoint} {w v : DeliveryWorld}
    {r : HttpRecord} (t : HttpTransition H x w r y v) : v.clock = w.clock := by
  cases t with
  | delivery t => exact t.clock_eq
  | _ => rfl

namespace LimitTransition

variable {L : LimitedClients} {x y : LimitPoint} {w v : LimitedWorld} {r : LimitRecord}

theorem clock_eq (t : LimitTransition L x w r y v) : v.delivery.clock = w.delivery.clock := by
  cases t with
  | http acquires sends t => exact t.transition.clock_eq
  | _ => rfl

/-- A call has a slot only between its token and its request. -/
theorem free (t : LimitTransition L x w r y v)
    (before : x.http.point.acquires = true → x.slot = none) :
    y.http.point.acquires = true → y.slot = none := by
  cases t with
  | granted waiting round t =>
      intro acquires
      rw [(t.transition.acquires.1 _ rfl).2] at acquires
      cases acquires
  | denied waiting round => exact before
  | slept waiting => exact before
  | sent t => exact fun _ => rfl
  | http acquires sends t => exact fun later => before (t.transition.acquires.2 later)

/-- A token that is handed out is held until the request goes out on it. -/
theorem slot_balance (t : LimitTransition L x w r y v)
    (before : x.http.point.acquires = true → x.slot = none) (client : ApiClient) (since : Int) :
    (grantedSince client since r).toNat + (x.holdsSince client since).toNat =
      (letOutSince client since r).toNat + (y.holdsSince client since).toNat := by
  cases t with
  | granted waiting round t =>
      have unheld := before (t.transition.acquires.1 _ rfl).1
      simp [grantedSince, letOutSince, LimitPoint.holdsSince, unheld]
  | denied waiting round => simp [grantedSince, letOutSince, LimitPoint.holdsSince]
  | slept waiting => simp [grantedSince, letOutSince, LimitPoint.holdsSince]
  | sent t =>
      cases slot : x.slot with
      | none => simp [grantedSince, letOutSince, LimitPoint.holdsSince, slot]
      | some time => simp [grantedSince, letOutSince, LimitPoint.holdsSince, slot]
  | http acquires sends t => simp [grantedSince, letOutSince, LimitPoint.holdsSince]

/-- Each limiter stays in step with the tokens in the trace. -/
theorem metered (t : LimitTransition L x w r y v) {rps : Binary64} {trace : List LimitRecord}
    (before : ∀ client, Metered rps trace client w.delivery.clock (w.limiter client))
    (missing : ∀ payload, r.cmd = .round x.client payload →
      let l := (w.limiter x.client).refill w.delivery.clock
      1 ≤ l.tokens → l.tokens - 1 < l.tokens)
    (client : ApiClient) :
    Metered rps (trace ++ [r]) client v.delivery.clock (v.limiter client) := by
  have looked := (before client).refill
  rw [t.clock_eq]
  cases t with
  | granted waiting round t =>
      by_cases own : client = x.client
      · subst own
        rcases (w.limiter x.client).round_cases w.delivery.clock with
          ⟨token, same⟩ | ⟨_, milliseconds, same⟩
        · rw [same] at round
          cases round
          simp only [Function.update_self]
          exact looked.grant (before x.client).refill_recent token (missing _ rfl token) _ _ _
        · rw [same] at round
          cases round
      · simp only [Function.update_of_ne own]
        exact (before client).append fun since => by simp [grantedSince, Ne.symm own]
  | denied waiting round =>
      by_cases own : client = x.client
      · subst own
        rcases (w.limiter x.client).round_cases w.delivery.clock with
          ⟨_, same⟩ | ⟨_, milliseconds, same⟩
        · rw [same] at round
          cases round
        · rw [same] at round
          cases round
          simp only [Function.update_self]
          exact looked.append fun since => rfl
      · simp only [Function.update_of_ne own]
        exact (before client).append fun since => rfl
  | slept waiting => exact (before client).append fun since => rfl
  | sent t => exact (before client).append fun since => rfl
  | http acquires sends t => exact (before client).append fun since => rfl

end LimitTransition

/-! ## The accounts of a run -/

/-- Limiters, calls and requests in step: each limiter with the tokens it handed out, and the
tokens with the calls that hold them and the requests that went out on them. -/
structure Accounts (L : LimitedClients) (c : LimitConfig LimitPoint) : Prop where
  metered : ∀ client, Metered L.TIKTOK_RATE_LIMIT_RPS c.trace client c.world.delivery.clock
    (c.world.limiter client)
  slots : ∀ client since, c.trace.countP (grantedSince client since) =
    c.trace.countP (letOutSince client since) +
      c.procs.countP fun p => p.state.holdsSince client since
  free : ∀ p ∈ c.procs, p.state.http.point.acquires = true → p.state.slot = none

namespace Accounts

variable {L : LimitedClients} {c : LimitConfig LimitPoint}

theorem started (hc : Accounts L c) (call : DeliveryCall) :
    Accounts L { c with procs := c.procs ++ [⟨call, L.enter call⟩] } := by
  refine ⟨hc.metered, fun client since => ?_, fun p hp acquires => ?_⟩
  · have unheld : (L.enter call).holdsSince client since = false := rfl
    simpa [List.countP_append, unheld] using hc.slots client since
  · rcases List.mem_append.mp hp with old | fresh
    · exact hc.free p old acquires
    · rw [List.mem_singleton.mp fresh]
      rfl

theorem answered (hc : Accounts L c) {r : LimitRecord} {p : Proc DeliveryCall LimitPoint}
    (hp : c.procs[r.pid]? = some p) {y : LimitPoint} {v : LimitedWorld}
    (t : LimitTransition L p.state c.world r y v) (seen : r.cmd.Seen c) :
    Accounts L ⟨v, c.procs.set r.pid ⟨p.entry, y⟩, c.trace ++ [r]⟩ := by
  have free := hc.free p (List.mem_of_getElem? hp)
  refine ⟨t.metered hc.metered fun payload same => ?_, fun client since => ?_,
    fun q hq acquires => ?_⟩
  · rw [same] at seen
    exact seen
  · have before := hc.slots client since
    have balance := t.slot_balance free client since
    have moved := System.countP_answered hp (fun p => p.state.holdsSince client since)
      ⟨p.entry, y⟩
    have singleton (f : LimitRecord → Bool) : [r].countP f = (f r).toNat := by
      cases here : f r <;> simp [here]
    rw [List.countP_append, List.countP_append, singleton, singleton]
    simp only at before moved ⊢
    omega
  · rcases List.mem_or_eq_of_mem_set hq with old | rfl
    · exact hc.free q old acquires
    · exact t.free free acquires

theorem moved (hc : Accounts L c) {event : DeliveryEvent} {v : DeliveryWorld}
    (h : deliveryEnv event c.world.delivery = some v) :
    Accounts L { c with world := { c.world with delivery := v } } := by
  have later : c.world.delivery.clock ≤ v.clock := by
    rcases deliveryEnv_cases h with ⟨elapsed, rfl⟩ | ⟨jobs, rfl⟩
    · simp only
      omega
    · exact le_rfl
  exact ⟨fun client => (hc.metered client).later later, hc.slots, hc.free⟩

end Accounts

namespace LimitedClients

variable {L : LimitedClients}

private theorem initial_accounts (age : ApiClient → Nat) (w : DeliveryWorld) :
    Accounts L (.initial (L.world age w)) where
  metered client := .new (age client)
  slots _ _ := rfl
  free _ hp := absurd hp List.not_mem_nil

private theorem step_accounts {c c' : LimitConfig LimitPoint} {a : LimitAction} (hc : Accounts L c)
    (h : L.system.step c a = some c') (seen : SeenByLimiter L c a) : Accounts L c' := by
  rcases step_cases h with ⟨call, rfl, rfl⟩ | ⟨p, r, resume, y, v, rfl, hp, hv, t, rfl⟩ |
    ⟨event, v, rfl, moved, rfl⟩
  · exact hc.started call
  · exact hc.answered hp t (seen.here hp hv)
  · exact hc.moved moved

/-! ## The requests a step starts -/

private theorem starts_of_send {c d : LimitConfig LimitPoint} {pid : Nat} {choice : LimitChoice}
    {client : ApiClient} {slot : Option Int} {payload : TikTokEventsPayload} {accessToken : String}
    (h : L.system.step c (.resume pid choice) = some d)
    (awaited : L.system.Awaits c pid (.send client slot payload accessToken)) :
    starts d.trace = starts c.trace ++ [c.world.delivery.clock] := by
  obtain ⟨q, resume', hq, hv'⟩ := awaited
  obtain ⟨p, cmd, resume, reply, v, hp, hv, he, rfl⟩ := System.step_resume h
  obtain rfl : p = q := by simpa [hq] using hp.symm
  rw [hv'] at hv
  cases hv
  cases choice <;> cases he
  simp [starts, List.filterMap_append, startedAt]

private theorem starts_cases {c d : LimitConfig LimitPoint} {a : LimitAction}
    (h : L.system.step c a = some d) :
    starts d.trace = starts c.trace ∨
      ∃ pid choice client slot payload accessToken, a = .resume pid choice ∧
        L.system.Awaits c pid (.send client slot payload accessToken) := by
  cases a with
  | start call =>
      obtain ⟨x, w, _, rfl⟩ := System.step_start h
      exact .inl rfl
  | resume pid choice =>
      obtain ⟨p, cmd, resume, reply, v, hp, hv, he, rfl⟩ := System.step_resume h
      cases cmd with
      | send client slot payload accessToken =>
          exact .inr ⟨pid, choice, client, slot, payload, accessToken, rfl, p, resume, hp, hv⟩
      | _ =>
          left
          simp [starts, List.filterMap_append, startedAt]
  | env event =>
      obtain ⟨w, _, rfl⟩ := System.step_env h
      exact .inl rfl

end LimitedClients

private theorem lately_starts (trace : List LimitRecord) (now : Int) :
    lately (starts trace) now = trace.countP fun r => (startedAt r).any (now - 1000 < ·) := by
  rw [lately, starts, List.countP_filterMap]
  refine List.countP_congr fun r _ => ?_
  cases startedAt r <;> simp

/-- If none is unseen, the limiter has let out the requests of the last 1000 ms. -/
theorem lately_le_letOut {trace : List LimitRecord} {client : ApiClient} {since now : Int}
    (none : unseen trace client since now = 0) :
    lately (starts trace) now ≤ trace.countP (letOutSince client since) := by
  rw [lately_starts]
  refine List.countP_mono_left fun r hr recent => ?_
  have seen := List.countP_eq_zero.mp none r hr
  simpa [recent] using seen

/-- A request goes out for the client of its call, on the call's slot. -/
theorem LimitPoint.slot_of_send {L : LimitedClients} {x : LimitPoint} {client : ApiClient}
    {slot : Option Int} {payload : TikTokEventsPayload} {accessToken : String}
    {resume : Except JsError Int → LimitPoint}
    (hv : L.view x = .awaits (.send client slot payload accessToken) resume) :
    x.client = client ∧ x.slot = slot := by
  unfold LimitedClients.view at hv
  split at hv
  · cases hv
  · split at hv <;> cases hv
  · cases hv
    exact ⟨rfl, rfl⟩
  · cases hv

namespace LimitedClients

variable {L : LimitedClients} {c d : LimitConfig LimitPoint} {a : LimitAction}

private theorem limited_of_seen (hc : Accounts L c) (h : L.system.step c a = some d)
    (limited : RateLimited L.TIKTOK_RATE_LIMIT_RPS c.trace) (seen : SeenByLimiter L c a) :
    RateLimited L.TIKTOK_RATE_LIMIT_RPS d.trace := by
  rcases starts_cases h with same | ⟨pid, choice, client, slot, payload, accessToken, rfl, awaited⟩
  · intro t
    rw [same]
    exact limited t
  · intro t
    rw [starts_of_send h awaited]
    refine window_append limited ?_ t
    obtain ⟨p, resume, hp, hv⟩ := awaited
    obtain ⟨⟨time, here, later⟩, none⟩ := seen.here hp hv
    obtain rfl : slot = some time := here
    -- the token of the request is one more than those of the requests let out
    have holds : 0 < c.procs.countP fun p =>
        p.state.holdsSince client (c.limiter client).lastRefill := by
      refine List.countP_pos_iff.mpr ⟨p, List.mem_of_getElem? hp, ?_⟩
      obtain ⟨own, held⟩ := LimitPoint.slot_of_send hv
      simp [LimitPoint.holdsSince, own, held, later]
    have balance := hc.slots client (c.limiter client).lastRefill
    have fewer := lately_le_letOut none
    exact (hc.metered client).refill.room (Nat.succ_pos _) (by
      simp only [LimitConfig.limiter] at balance fewer holds ⊢
      omega)

end LimitedClients

/-! ## The rate of a run -/

/-- The rate is kept in a run along which the limiters see what leaves; an infinite one is kept
anyway. -/
theorem rate_limited_of_seen {L : LimitedClients} {age : ApiClient → Nat} {w : DeliveryWorld}
    {c : LimitConfig LimitPoint} {actions : List LimitAction}
    (h : L.system.run (.initial (L.world age w)) actions = some c)
    (seen : L.TIKTOK_RATE_LIMIT_RPS = .infinite false ∨
      L.system.Along (fun b a _ => SeenByLimiter L b a) (.initial (L.world age w)) actions) :
    RateLimited L.TIKTOK_RATE_LIMIT_RPS c.trace := by
  rcases seen with unlimited | seen
  · intro t
    rw [unlimited]
    exact .inr rfl
  · have start : RateLimited L.TIKTOK_RATE_LIMIT_RPS [] := fun t => .inl rfl
    refine (System.run_invariant_along (fun b a _ => SeenByLimiter L b a)
      (fun b => Accounts L b ∧ RateLimited L.TIKTOK_RATE_LIMIT_RPS b.trace) ?_ h seen
      ⟨L.initial_accounts age w, start⟩).2
    rintro b a d ⟨hb, limited⟩ hs here
    exact ⟨LimitedClients.step_accounts hb hs here,
      LimitedClients.limited_of_seen hb hs limited here⟩

/-! ## Two leads -/

namespace Sample

def limited (rps : Nat) : LimitedClients where
  http := ⟨pipeline, fun _ => false⟩
  TIKTOK_RATE_LIMIT_RPS := rps

def logPending (pid : Nat) : List LimitAction :=
  [.resume pid (.http (.delivery .ok)), .resume pid (.http (.delivery .ok))]

def deliverTwo (before between : Nat) : List LimitAction :=
  [.start call, .start (.process cdcEvent { lead with id := "lead-002" })] ++ logPending 0 ++
    logPending 1 ++ [.env (.tick before), .resume 0 .ok, .resume 0 .ok, .env (.tick between),
      .resume 1 .ok, .resume 1 .ok]

end Sample

open Sample in
/-- Both leads take their tokens in one period. -/
theorem rate_limited_of_seen_two :
    ∃ c, (limited 2).system.run (.initial ((limited 2).world (fun _ => 0) (.fresh 0)))
        (deliverTwo 0 1) = some c ∧ starts c.trace = [0, 1] ∧ RateLimited 2 c.trace := by
  let b : LimitConfig LimitPoint := .initial ((limited 2).world (fun _ => 0) (.fresh 0))
  let c := (limited 2).system.result b (deliverTwo 0 1) (by decide +kernel)
  have seen : (limited 2).system.Along (fun b a _ => SeenByLimiter (limited 2) b a) b
      (deliverTwo 0 1) := by decide +kernel
  exact ⟨c, System.run_result _, by decide +kernel,
    rate_limited_of_seen (System.run_result _) (.inr seen)⟩

open Sample in
/-- One lead takes its token at the end of a period, the other at the beginning of the next: two
requests 1 ms apart. -/
theorem rate_exceeded :
    ∃ c, (limited 1).system.run (.initial ((limited 1).world (fun _ => 0) (.fresh 0)))
        (deliverTwo 999 1) = some c ∧ starts c.trace = [999, 1000] ∧
      ¬ RateLimited (limited 1).TIKTOK_RATE_LIMIT_RPS c.trace := by
  let c := (limited 1).system.result (.initial ((limited 1).world (fun _ => 0) (.fresh 0)))
    (deliverTwo 999 1) (by decide +kernel)
  have two : starts c.trace = [999, 1000] := by decide +kernel
  refine ⟨c, System.run_result _, two, fun kept => ?_⟩
  have both := kept 999
  have inside : window [999, 1000] 999 = 2 := by decide
  rw [two, inside] at both
  rcases both with none | few
  · exact absurd none (by decide)
  · have more := (Binary64.natCast_le_iff (by norm_num)).mpr few
    exact absurd more (by decide +kernel)

end SalesforceTikTok
