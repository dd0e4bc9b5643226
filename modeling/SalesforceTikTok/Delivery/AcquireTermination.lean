import SalesforceTikTok.Delivery.TokenBucket

/-!
# A call that acquires alone

A call of `acquire` without competition looks once, and if it finds no token sleeps until the
limiter is due, so that its second look refills the bucket. A bucket that holds a whole token
lets it return then; one that holds less is refilled to less, and no call ever returns.
-/

namespace SalesforceTikTok

open Concurrency

section

variable {Number : Type} [LE Number] [DecidableLE Number] [One Number] [Sub Number]

/-! ## One call alone -/

def entered (b : BucketConfig Number) : BucketConfig Number :=
  { b with procs := b.procs ++ [⟨(), .looking⟩] }

/-- Only this call moves, and a sleep lasts no less than it was requested to. -/
structure Solo (pid : Nat) (c : BucketConfig Number) (a : BucketAction) : Prop where
  unstarted : a ≠ .start ()
  alone : ∀ q choice, a = .resume q choice → q = pid
  punctual : ∀ q choice since milliseconds, a = .resume q choice →
    (acquireSystem Number).Awaits c q (.sleep since milliseconds) →
      since + milliseconds ≤ c.world.clock

def isAttempt : BucketRecord → Bool
  | ⟨_, .attempt, _, _⟩ => true
  | _ => false

def attempts (c : BucketConfig Number) (pid : Nat) : Nat := (c.own pid).countP isAttempt

def CanReturn (pid : Nat) (c : BucketConfig Number) : Prop :=
  ∃ further d, (acquireSystem Number).run c further = some d ∧
    (acquireSystem Number).Along (fun e a _ => Solo pid e a) c further ∧
    (acquireSystem Number).Ended d pid (.ok ())

/-- Started here and without competition, a call makes at most two iterations, has returned after
the second, and at no point is kept from returning. -/
def ReturnsInTwo (b : BucketConfig Number) : Prop :=
  ∀ more c, (acquireSystem Number).run (entered b) more = some c →
    (acquireSystem Number).Along (fun e a _ => Solo b.procs.length e a) (entered b) more →
      attempts c b.procs.length ≤ 2 ∧
      (attempts c b.procs.length = 2 →
        (acquireSystem Number).Ended c b.procs.length (.ok ())) ∧
      CanReturn b.procs.length c

end

/-! ## Rates of one or more -/

section

variable {Number : Type}

/-- How far a call is that acquires alone: how many iterations it has made, and when it looks
again. -/
inductive AcquireStage : Nat → AcquirePoint → Bucket Number → Prop where
  | first {w} : AcquireStage 0 .looking w
  | asleep {w since milliseconds} (due : w.limiter.lastRefill + 1000 ≤ since + milliseconds) :
      AcquireStage 1 (.sleeping since milliseconds) w
  | second {w} (due : w.limiter.lastRefill + 1000 ≤ w.clock) : AcquireStage 1 .looking w
  | returned {n w} (few : n ≤ 2) : AcquireStage n .returned w

theorem AcquireStage.few {n : Nat} {x : AcquirePoint} {w : Bucket Number}
    (h : AcquireStage n x w) : n ≤ 2 := by
  cases h with
  | returned few => exact few
  | _ => decide

theorem AcquireStage.tick {n : Nat} {x : AcquirePoint} {w : Bucket Number}
    (h : AcquireStage n x w) (milliseconds : Nat) :
    AcquireStage n x { w with clock := w.clock + milliseconds } := by
  cases h with
  | first => exact .first
  | asleep due => exact .asleep due
  | second due => exact .second (by simp only; omega)
  | returned few => exact .returned few

private theorem attempts_append (c : BucketConfig Number) (r : BucketRecord) (w : Bucket Number)
    (procs : List (Proc Unit AcquirePoint)) :
    attempts ⟨w, procs, c.trace ++ [r]⟩ r.pid = attempts c r.pid + (isAttempt r).toNat := by
  unfold attempts
  rw [System.own_append_self, List.countP_append, List.countP_singleton]
  cases isAttempt r <;> rfl

variable {rate : Number} {w v : Bucket Number}

/-- What the constructor set stays, and no refill lies ahead. -/
structure Configured (rate : Number) (w : Bucket Number) : Prop where
  maxTokens : w.limiter.maxTokens = rate
  interval : w.limiter.refillIntervalMs = 1000
  begun : w.limiter.lastRefill ≤ w.clock

theorem Configured.refill (h : Configured rate w)
    {later : Int} (after : w.clock ≤ later) :
    Configured rate ⟨later, w.limiter.refill w.clock⟩ := by
  unfold RateLimiter.refill
  split
  · exact ⟨h.maxTokens, h.interval, after⟩
  · exact ⟨h.maxTokens, h.interval, h.begun.trans after⟩

private theorem refill_due (h : Configured rate w)
    (due : w.limiter.lastRefill + 1000 ≤ w.clock) :
    (w.limiter.refill w.clock).tokens = rate := by
  unfold RateLimiter.refill
  rw [if_pos (by rw [h.interval]; omega)]
  exact h.maxTokens

variable [LE Number] [One Number] [Sub Number] {x y : AcquirePoint} {r : BucketRecord}

theorem AcquireTransition.configured (t : AcquireTransition x w r y v)
    (h : Configured rate w) : Configured rate v := by
  cases t with
  | granted after token =>
      have looked := h.refill after
      exact ⟨looked.maxTokens, looked.interval, looked.begun⟩
  | denied after token milliseconds delay => exact h.refill after
  | slept => exact h

theorem AcquireTransition.stage (whole : 1 ≤ rate) (t : AcquireTransition x w r y v) {n : Nat}
    (h : AcquireStage n x w) (configured : Configured rate w)
    (punctual : ∀ since milliseconds, x = .sleeping since milliseconds →
      since + milliseconds ≤ w.clock) :
    AcquireStage (n + (isAttempt r).toNat) y v := by
  cases t with
  | granted after token =>
      cases h with
      | first => exact .returned (by simp [isAttempt])
      | second due => exact .returned (by simp [isAttempt])
  | denied after token milliseconds delay =>
      cases h with
      | first =>
          refine .asleep ?_
          rw [delay, (configured.refill after).interval]
          simp only
          omega
      | second due =>
          rw [refill_due configured due] at token
          exact absurd whole token
  | slept =>
      cases h with
      | asleep due => exact .second (due.trans (punctual _ _ rfl))

end

section

variable {Number : Type} [LE Number] [DecidableLE Number] [One Number] [Sub Number]
  {rate : Number} {pid : Nat} {c d : BucketConfig Number}

def OnItsWay (rate : Number) (pid : Nat) (c : BucketConfig Number) : Prop :=
  ∃ x, c.procs[pid]? = some ⟨(), x⟩ ∧ AcquireStage (attempts c pid) x c.world ∧
    Configured rate c.world

theorem OnItsWay.step (whole : 1 ≤ rate) (h : OnItsWay rate pid c) {a : BucketAction}
    (hs : (acquireSystem Number).step c a = some d) (solo : Solo pid c a) :
    OnItsWay rate pid d := by
  obtain ⟨x, here, stage, configured⟩ := h
  rcases acquire_step_cases hs with ⟨rfl, rfl⟩ | ⟨p, r, y, v, rfl, hp, t, rfl⟩ |
    ⟨milliseconds, rfl, rfl⟩
  · exact absurd rfl solo.unstarted
  · obtain rfl := solo.alone _ _ rfl
    obtain rfl : p = ⟨(), x⟩ := by simpa [here] using hp.symm
    have bound := (List.getElem?_eq_some_iff.mp here).choose
    refine ⟨y, List.getElem?_set_self bound, ?_, t.configured configured⟩
    rw [attempts_append]
    refine t.stage whole stage configured fun since milliseconds same => ?_
    simp only at same
    subst same
    exact solo.punctual _ _ since milliseconds rfl ⟨⟨(), _⟩, _, here, rfl⟩
  · have begun := configured.begun
    refine ⟨x, here, stage.tick milliseconds, configured.maxTokens, configured.interval, ?_⟩
    simp only
    omega

theorem CanReturn.of_step {a : BucketAction} (hs : (acquireSystem Number).step c a = some d)
    (solo : Solo pid c a) (later : CanReturn pid d) : CanReturn pid c := by
  obtain ⟨further, e, run, along, ended⟩ := later
  refine ⟨a :: further, e, by simpa [System.run, hs] using run, fun d' hd => ?_, ended⟩
  obtain rfl : d = d' := Option.some.inj (hs.symm.trans hd)
  exact ⟨solo, along⟩

theorem Solo.resume {choice : BucketChoice} {x : AcquirePoint}
    (here : c.procs[pid]? = some ⟨(), x⟩)
    (punctual : ∀ since milliseconds, x = .sleeping since milliseconds →
      since + milliseconds ≤ c.world.clock) :
    Solo pid c (.resume pid choice) := by
  refine ⟨nofun, fun q choice same => ?_, ?_⟩
  · cases same
    rfl
  · rintro q choice since milliseconds same ⟨p, resume, hp, hv⟩
    cases same
    obtain rfl : p = ⟨(), x⟩ := by simpa [here] using hp.symm
    cases x with
    | looking => cases hv
    | sleeping since milliseconds =>
        cases hv
        exact punctual _ _ rfl
    | returned => cases hv

/-- A call that looks can do so, and has made an iteration more then. -/
theorem look_step (here : c.procs[pid]? = some ⟨(), .looking⟩) :
    ∃ d, (acquireSystem Number).step c (.resume pid (.passes 0)) = some d ∧
      attempts d pid = attempts c pid + 1 :=
  ⟨_, System.step_answer here rfl rfl, attempts_append c ⟨pid, .attempt, .passes 0, _⟩ _ _⟩

private theorem wake_step {since milliseconds : Int}
    (here : c.procs[pid]? = some ⟨(), .sleeping since milliseconds⟩) :
    ∃ d, (acquireSystem Number).step c (.resume pid .fires) = some d ∧
      d.procs[pid]? = some ⟨(), .looking⟩ ∧ attempts d pid = attempts c pid := by
  have bound := (List.getElem?_eq_some_iff.mp here).choose
  exact ⟨_, System.step_answer here rfl rfl, List.getElem?_set_self bound,
    attempts_append c ⟨pid, .sleep since milliseconds, .fires, .ok ()⟩ _ _⟩

theorem OnItsWay.ended (h : OnItsWay rate pid c) (two : attempts c pid = 2) :
    (acquireSystem Number).Ended c pid (.ok ()) := by
  obtain ⟨x, here, stage, _⟩ := h
  rw [two] at stage
  cases stage with
  | returned few => exact ⟨_, here, rfl⟩

theorem OnItsWay.canReturn (whole : 1 ≤ rate) (left : Nat) (h : OnItsWay rate pid c)
    (rest : attempts c pid + left = 2) : CanReturn pid c := by
  induction left generalizing c with
  | zero => exact ⟨[], c, rfl, trivial, h.ended rest⟩
  | succ left ih =>
      have looks {d : BucketConfig Number} (h : OnItsWay rate pid d)
          (here : d.procs[pid]? = some ⟨(), .looking⟩) (same : attempts d pid = attempts c pid) :
          CanReturn pid d := by
        obtain ⟨e, hs, more⟩ := look_step here
        have solo : Solo pid d (.resume pid (.passes 0)) := .resume here nofun
        exact .of_step hs solo (ih (h.step whole hs solo) (by omega))
      obtain ⟨x, here, stage, _⟩ := id h
      cases x with
      | looking => exact looks h here rfl
      | sleeping since milliseconds =>
          let passed := (since + milliseconds - c.world.clock).toNat
          let d : BucketConfig Number :=
            { c with world := { c.world with clock := c.world.clock + passed } }
          have ticked : (acquireSystem Number).step c (.env passed) = some d := rfl
          have idle : Solo pid c (.env passed) := ⟨nofun, nofun, nofun⟩
          have due : since + milliseconds ≤ d.world.clock := by
            simp only [d, passed]
            omega
          obtain ⟨e, woken, looking, same⟩ := wake_step (c := d) here
          have solo : Solo pid d (.resume pid .fires) := .resume here fun _ _ same => by
            cases same
            exact due
          have later := (h.step whole ticked idle).step whole woken solo
          exact .of_step ticked idle (.of_step woken solo (looks later looking same))
      | returned => exact ⟨[], c, rfl, trivial, ⟨_, here, rfl⟩⟩

/-- Every configuration of a limiter is as its constructor set it up. -/
theorem run_configured {began : Int} {actions : List BucketAction}
    (reached : (acquireSystem Number).run (.initial (.new rate began)) actions = some c) :
    Configured rate c.world := by
  refine System.run_invariant (fun d => Configured rate d.world) ?_ reached ⟨rfl, rfl, le_rfl⟩
  intro d a d' h hs
  rcases acquire_step_cases hs with ⟨rfl, rfl⟩ | ⟨p, r, y, v, rfl, hp, t, rfl⟩ |
    ⟨milliseconds, rfl, rfl⟩
  · exact h
  · exact t.configured h
  · have begun := h.begun
    exact ⟨h.maxTokens, h.interval, by simp only; omega⟩

private theorem returnsInTwo_of_whole (whole : 1 ≤ rate) {began : Int} {actions : List BucketAction}
    (reached : (acquireSystem Number).run (.initial (.new rate began)) actions = some c) :
    ReturnsInTwo c := by
  intro more d run along
  have fresh : attempts (entered c) c.procs.length = 0 := by
    refine List.countP_eq_zero.mpr fun r hr => ?_
    obtain ⟨earlier, same⟩ := System.mem_own.mp hr
    have := System.run_pid_bound reached r earlier
    omega
  have configured := run_configured reached
  have start : OnItsWay rate c.procs.length (entered c) :=
    ⟨.looking, List.getElem?_concat_length, fresh ▸ .first, configured⟩
  have onItsWay : OnItsWay rate c.procs.length d :=
    System.run_invariant_along (fun e a _ => Solo c.procs.length e a)
      (OnItsWay rate c.procs.length) (fun e a e' h hs solo => h.step whole hs solo) run along start
  have few : attempts d c.procs.length ≤ 2 := by
    obtain ⟨x, _, stage, _⟩ := onItsWay
    exact stage.few
  exact ⟨few, onItsWay.ended, onItsWay.canReturn whole _ (Nat.add_sub_of_le few)⟩

/-! ## Rates below one -/

/-- The bucket is as full as it gets, and no call has returned. -/
structure Starved (rate : Number) (c : BucketConfig Number) : Prop where
  maxTokens : c.world.limiter.maxTokens = rate
  tokens : c.world.limiter.tokens = rate
  pending : ∀ p ∈ c.procs, p.state ≠ .returned

theorem Starved.step (small : ¬ 1 ≤ rate) (h : Starved rate c) {a : BucketAction}
    (hs : (acquireSystem Number).step c a = some d) : Starved rate d := by
  have full : (c.world.limiter.refill c.world.clock).tokens = rate := by
    unfold RateLimiter.refill
    split
    · exact h.maxTokens
    · exact h.tokens
  have size : (c.world.limiter.refill c.world.clock).maxTokens = rate := by
    unfold RateLimiter.refill
    split <;> exact h.maxTokens
  have others {pid : Nat} {p : Proc Unit AcquirePoint} (hp : p.state ≠ .returned) :
      ∀ q ∈ c.procs.set pid p, q.state ≠ .returned := by
    intro q hq
    rcases List.mem_or_eq_of_mem_set hq with old | rfl
    · exact h.pending q old
    · exact hp
  rcases acquire_step_cases hs with ⟨rfl, rfl⟩ | ⟨p, r, y, v, rfl, hp, t, rfl⟩ |
    ⟨milliseconds, rfl, rfl⟩
  · refine ⟨h.maxTokens, h.tokens, fun p hp => ?_⟩
    rcases List.mem_append.mp hp with old | fresh
    · exact h.pending p old
    · rw [List.mem_singleton.mp fresh]
      nofun
  · generalize p.state = x at t
    cases t with
    | granted after token =>
        rw [full] at token
        exact absurd token small
    | denied after token milliseconds delay => exact ⟨size, full, others nofun⟩
    | slept => exact ⟨h.maxTokens, h.tokens, others nofun⟩
  · exact ⟨h.maxTokens, h.tokens, h.pending⟩

private theorem not_returnsInTwo_of_small (small : ¬ 1 ≤ rate) {began : Int}
    {actions : List BucketAction}
    (reached : (acquireSystem Number).run (.initial (.new rate began)) actions = some c) :
    ¬ ReturnsInTwo c := by
  intro returns
  have start : Starved rate c := System.run_invariant (Starved rate)
    (fun e a e' h hs => h.step small hs) reached ⟨rfl, rfl, nofun⟩
  have begun : Starved rate (entered c) :=
    start.step small (a := .start ()) rfl
  obtain ⟨_, _, further, d, run, _, p, hp, ended⟩ := returns [] (entered c) rfl trivial
  have starved : Starved rate d := System.run_invariant (Starved rate)
    (fun e a e' h hs => h.step small hs) run begun
  have pending := starved.pending p (List.mem_of_getElem? hp)
  change p.state.view = _ at ended
  cases here : p.state with
  | looking =>
      rw [here] at ended
      cases ended
  | sleeping since milliseconds =>
      rw [here] at ended
      cases ended
  | returned => exact pending here

end

/-- Whatever calls came before, a call that acquires alone returns within two iterations just when
the rate is one or more. -/
theorem acquire_returns_iff {rps : Binary64} {began : Int} {actions : List BucketAction}
    {b : BucketConfig Binary64}
    (reached : (acquireSystem Binary64).run (.initial (.new rps began)) actions = some b) :
    ReturnsInTwo b ↔ 1 ≤ rps :=
  ⟨fun returns => not_not.mp fun small => not_returnsInTwo_of_small small reached returns,
    fun whole => returnsInTwo_of_whole whole reached⟩

/-- At a rate of one a call that finds the token gone waits for the next. -/
theorem acquire_returns_after_grant :
    ∃ b, (acquireSystem Binary64).run (.initial (.new 1 0)) [.start (), .resume 0 (.passes 0)] =
        some b ∧ b.world.limiter.tokens = 0 ∧ ReturnsInTwo b := by
  let b := (acquireSystem Binary64).result (.initial (.new 1 0))
    [.start (), .resume 0 (.passes 0)] (by decide +kernel)
  exact ⟨b, System.run_result _, by decide +kernel,
    (acquire_returns_iff (System.run_result _)).mpr (by decide +kernel)⟩

/-- A rate of one half is admitted, and no call returns. -/
theorem half_rate_starves :
    TIKTOK_RATE_LIMIT_RPS (some (.ofRat 0.5)) = some (.ofRat 0.5) ∧
      ¬ ReturnsInTwo (.initial (.new (.ofRat 0.5) 0) : BucketConfig Binary64) :=
  ⟨by decide +kernel,
    not_returnsInTwo_of_small (by decide +kernel) (rfl : System.run _ _ [] = some _)⟩

end SalesforceTikTok
