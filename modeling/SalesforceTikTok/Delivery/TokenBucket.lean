import SalesforceTikTok.Core.Numbers
import SalesforceTikTok.Concurrency.Invariant
import SalesforceTikTok.Delivery.RateLimit

/-!
# Callers of one limiter

Any number of calls of `acquire` on one limiter. The loop reads the clock twice, in
`refill` and where it computes its delay, and time may pass in between; a call that found
no token sleeps and looks again. As long as the tokens are counted one by one, a period of the
limiter hands out no more of them than the rate: an interval that meets few periods sees few
calls complete. A double that is large enough is the same double less one.
-/

namespace SalesforceTikTok

open Concurrency

section

variable {Number : Type} [LE Number] [DecidableLE Number] [One Number] [Sub Number]

/-! ## The loop -/

/-- An iteration of the loop of `acquire`, its delay computed at a later reading of the clock. -/
def RateLimiter.attempt (l : RateLimiter Number) (now later : Int) : Round × RateLimiter Number :=
  let refilled := l.refill now
  if refilled.tokens ≥ 1 then (.granted now, { refilled with tokens := refilled.tokens - 1 })
  else (.wait (max (refilled.refillIntervalMs - (later - refilled.lastRefill)) 10), refilled)

/-- A round of `acquire` is an iteration in which no time passes. -/
theorem RateLimiter.round_eq_attempt (l : RateLimiter Number) (now : Int) :
    l.round now = l.attempt now now := rfl

inductive BucketCmd where
  /-- An iteration of the loop, up to its `return` or its `await`. -/
  | attempt
  /-- `setTimeout`, called at this time. -/
  | sleep (since milliseconds : Int)

abbrev BucketCmd.Reply : BucketCmd → Type
  | .attempt => Round × Int
  | .sleep _ _ => Unit

inductive BucketChoice where
  /-- So much time passes between the two readings of the clock. -/
  | passes (milliseconds : Nat)
  | fires

structure Bucket (Number : Type) where
  clock : Int
  limiter : RateLimiter Number

def bucketExec : (cmd : BucketCmd) → BucketChoice → Bucket Number →
    Option (Except Empty cmd.Reply × Bucket Number)
  | .attempt, .passes milliseconds, w =>
      let later := w.clock + milliseconds
      let answer := w.limiter.attempt w.clock later
      some (.ok (answer.1, later), ⟨later, answer.2⟩)
  | .sleep _ _, .fires, w => some (.ok (), w)
  | _, _, _ => none

def bucketEnv (milliseconds : Nat) (w : Bucket Number) : Option (Bucket Number) :=
  some { w with clock := w.clock + milliseconds }

variable (Number) in
abbrev bucketRuntime :
    Runtime BucketCmd BucketCmd.Reply Empty (Bucket Number) BucketChoice Nat where
  exec := bucketExec
  env := bucketEnv

/-- Where a call of `acquire` stands. -/
inductive AcquirePoint where
  | looking
  | sleeping (since milliseconds : Int)
  | returned

abbrev BucketRecord := Record BucketCmd BucketCmd.Reply Empty BucketChoice

abbrev BucketConfig (Number : Type) :=
  Config BucketCmd BucketCmd.Reply Empty (Bucket Number) BucketChoice Unit AcquirePoint

abbrev BucketAction := Action Unit BucketChoice Nat

namespace AcquirePoint

def attempted : Except Empty (Round × Int) → AcquirePoint
  | .ok (.granted _, _) => returned
  | .ok (.wait milliseconds, since) => sleeping since milliseconds

def view : AcquirePoint → View BucketCmd BucketCmd.Reply Empty Unit AcquirePoint
  | looking => .awaits .attempt attempted
  | sleeping since milliseconds => .awaits (.sleep since milliseconds) fun _ => looking
  | returned => .ended (.ok ())

end AcquirePoint

variable (Number) in
/-- The calls of `acquire` on one limiter. -/
def acquireSystem : System (bucketRuntime Number) Unit Unit AcquirePoint where
  view := AcquirePoint.view
  launch _ w := some (.looking, w)

/-- `new RateLimiter(rps)` at this time. -/
def Bucket.new (rps : Number) (clock : Int) : Bucket Number := ⟨clock, .new rps clock⟩

/-! ## Transitions -/

/-- `AcquireTransition x w r y v`: at point `x` in world `w` the answer `r` leads to point `y` in
world `v`. -/
inductive AcquireTransition :
    AcquirePoint → Bucket Number → BucketRecord → AcquirePoint → Bucket Number → Prop where
  | granted {w : Bucket Number} {pid later passed} (after : w.clock ≤ later)
      (token : 1 ≤ (w.limiter.refill w.clock).tokens) :
      AcquireTransition .looking w
        ⟨pid, .attempt, passed, .ok (.granted w.clock, later)⟩ .returned
        ⟨later, { w.limiter.refill w.clock with
          tokens := (w.limiter.refill w.clock).tokens - 1 }⟩
  | denied {w : Bucket Number} {pid later passed} (after : w.clock ≤ later)
      (token : ¬ 1 ≤ (w.limiter.refill w.clock).tokens) (milliseconds : Int)
      (delay : milliseconds = max ((w.limiter.refill w.clock).refillIntervalMs -
        (later - (w.limiter.refill w.clock).lastRefill)) 10) :
      AcquireTransition .looking w ⟨pid, .attempt, passed, .ok (.wait milliseconds, later)⟩
        (.sleeping later milliseconds) ⟨later, w.limiter.refill w.clock⟩
  | slept {w : Bucket Number} {pid since milliseconds fired} :
      AcquireTransition (.sleeping since milliseconds) w
        ⟨pid, .sleep since milliseconds, fired, .ok ()⟩ .looking w

theorem AcquirePoint.transition {x : AcquirePoint} {cmd : BucketCmd}
    {resume : Except Empty cmd.Reply → AcquirePoint} {choice : BucketChoice} {w v : Bucket Number}
    {reply : Except Empty cmd.Reply} (pid : Nat) (hv : x.view = .awaits cmd resume)
    (he : bucketExec cmd choice w = some (reply, v)) :
    AcquireTransition x w ⟨pid, cmd, choice, reply⟩ (resume reply) v := by
  cases x with
  | looking =>
      cases hv
      cases choice with
      | fires => cases he
      | passes milliseconds =>
          have after : w.clock ≤ w.clock + milliseconds := by omega
          by_cases token : (w.limiter.refill w.clock).tokens ≥ 1
          · simp only [bucketExec, RateLimiter.attempt, if_pos token] at he
            cases he
            exact .granted after token
          · simp only [bucketExec, RateLimiter.attempt, if_neg token] at he
            cases he
            exact .denied after token _ rfl
  | sleeping since milliseconds =>
      cases hv
      cases choice <;> cases he
      exact .slept
  | returned => cases hv

/-- What one step can do: start a call, answer one by an entry of the table, or let time pass. -/
theorem acquire_step_cases {c c' : BucketConfig Number} {a : BucketAction}
    (h : (acquireSystem Number).step c a = some c') :
    (a = .start () ∧ c' = { c with procs := c.procs ++ [⟨(), .looking⟩] }) ∨
    (∃ p r y v, a = .resume r.pid r.choice ∧ c.procs[r.pid]? = some p ∧
      AcquireTransition p.state c.world r y v ∧
        c' = ⟨v, c.procs.set r.pid ⟨p.entry, y⟩, c.trace ++ [r]⟩) ∨
    ∃ milliseconds : Nat, a = .env milliseconds ∧
      c' = { c with world := { c.world with clock := c.world.clock + milliseconds } } := by
  cases a with
  | start call =>
      obtain ⟨x, w, hl, rfl⟩ := System.step_start h
      cases hl
      exact .inl ⟨rfl, rfl⟩
  | resume pid choice =>
      obtain ⟨p, cmd, resume, reply, v, hp, hv, he, rfl⟩ := System.step_resume h
      exact .inr (.inl ⟨p, ⟨pid, cmd, choice, reply⟩, _, v, rfl, hp,
        AcquirePoint.transition pid hv he, rfl⟩)
  | env milliseconds =>
      obtain ⟨w, hw, rfl⟩ := System.step_env h
      cases hw
      exact .inr (.inr ⟨milliseconds, rfl, rfl⟩)

end

/-! ## Counting tokens -/

/-- Numbers among which the tokens of a rate are counted one by one. -/
structure CountsDown {Number : Type} [LE Number] [Zero Number] [One Number] [Sub Number]
    (value : ℕ → Number) (rps : ℕ) : Prop where
  token : ∀ n ≤ rps, 1 ≤ value n ↔ 1 ≤ n
  taken : ∀ n < rps, value (n + 1) - 1 = value n
  nonneg : ∀ n ≤ rps, 0 ≤ value n
  full : ∀ n ≤ rps, value n ≤ value rps

/-- The periods of the limiter that an interval can meet which starts so long before the last
refill, and ends in its period. -/
def periods (length : Int) : ℕ := if length < 0 then 1 else 2 + (length / 1000).toNat

private theorem periods_next {length later : Int} (nonneg : 0 ≤ later)
    (apart : length + 1000 ≤ later) : periods length + 1 ≤ periods later := by
  unfold periods
  split <;> split <;> omega

private theorem periods_le {length : Int} {k : ℕ} (some_period : 1 ≤ k)
    (short : length < k * 1000) : periods length ≤ k + 1 := by
  unfold periods
  split <;> omega

def completed (times : List Int) (t u : Int) : ℕ := times.countP fun s => t ≤ s ∧ s ≤ u

/-- How many are not before `t`. -/
def completedSince (times : List Int) (t : Int) : ℕ := times.countP fun s => t ≤ s

private theorem completed_le (times : List Int) (t u : Int) :
    completed times t u ≤ completedSince times t := by
  refine List.countP_mono_left fun s _ inside => ?_
  simp only [decide_eq_true_eq] at inside ⊢
  exact inside.1

private theorem completedSince_append (times : List Int) (now t : Int) :
    completedSince (times ++ [now]) t ≤ completedSince times t + 1 := by
  unfold completedSince
  rw [List.countP_append, List.countP_singleton]
  split <;> omega

/-- If since the start of each interval that the new time ends there were few enough, every
interval has few enough. -/
theorem completed_append {times : List Int} {now t u : Int} {bound : ℕ}
    (earlier : completed times t u ≤ bound)
    (here : t ≤ now → now ≤ u → completedSince (times ++ [now]) t ≤ bound) :
    completed (times ++ [now]) t u ≤ bound := by
  by_cases inside : t ≤ now ∧ now ≤ u
  · exact (completed_le _ t u).trans (here inside.1 inside.2)
  · unfold completed at earlier ⊢
    rw [List.countP_append, List.countP_singleton, if_neg (by simpa using inside)]
    exact earlier

/-- The calls that completed since any time and the tokens left are no more than the periods of
the limiter since then had. -/
structure TokenLedger {Number : Type} (value : ℕ → Number) (rps : ℕ) (times : List Int)
    (now : Int) (l : RateLimiter Number) : Prop where
  maxTokens : l.maxTokens = value rps
  interval : l.refillIntervalMs = 1000
  begun : l.lastRefill ≤ now
  past : ∀ s ∈ times, s ≤ now
  left : ∃ left ≤ rps, l.tokens = value left ∧
    ∀ t, completedSince times t + left ≤ rps * periods (l.lastRefill - t)

namespace TokenLedger

variable {Number : Type} {value : ℕ → Number} {rps : ℕ} {times : List Int} {now : Int}
  {l : RateLimiter Number}

theorem new : TokenLedger value rps [] now (.new (value rps) now) where
  maxTokens := rfl
  interval := rfl
  begun := le_rfl
  past := nofun
  left := by
    refine ⟨rps, le_rfl, rfl, fun t => ?_⟩
    have positive : 1 ≤ periods (now - t) := by
      unfold periods
      split <;> omega
    calc completedSince [] t + rps = rps * 1 := by simp [completedSince]
      _ ≤ rps * periods (now - t) := Nat.mul_le_mul_left _ positive

theorem later (h : TokenLedger value rps times now l) {after : Int} (le : now ≤ after) :
    TokenLedger value rps times after l :=
  { h with begun := h.begun.trans le, past := fun s hs => (h.past s hs).trans le }

/-- A new period adds its tokens to every interval that meets it. -/
theorem refill (h : TokenLedger value rps times now l) :
    TokenLedger value rps times now (l.refill now) := by
  unfold RateLimiter.refill
  split
  next due =>
    refine ⟨h.maxTokens, h.interval, le_rfl, h.past, rps, le_rfl, h.maxTokens, fun t => ?_⟩
    obtain ⟨left, _, _, counted⟩ := h.left
    rw [h.interval] at due
    rcases lt_or_ge now t with before | met
    · have none : completedSince times t = 0 := by
        refine List.countP_eq_zero.mpr fun s hs => ?_
        have := h.past s hs
        simp only [decide_eq_true_eq]
        omega
      have one : periods (now - t) = 1 := if_pos (by omega)
      simp only [none, one]
      omega
    · have next : periods (l.lastRefill - t) + 1 ≤ periods (now - t) :=
        periods_next (by omega) (by omega)
      have grown := Nat.mul_le_mul_left rps next
      have earlier := counted t
      rw [Nat.mul_add] at grown
      simp only
      omega
  next => exact h

theorem grant [LE Number] [Zero Number] [One Number] [Sub Number]
    (h : TokenLedger value rps times now l) (counts : CountsDown value rps)
    (token : 1 ≤ l.tokens) {after : Int} (le : now ≤ after) :
    TokenLedger value rps (times ++ [after]) after { l with tokens := l.tokens - 1 } := by
  obtain ⟨left, within, same, counted⟩ := h.left
  rw [same] at token
  obtain ⟨less, rfl⟩ : ∃ less, left = less + 1 :=
    ⟨left - 1, by have := (counts.token left within).mp token; omega⟩
  refine ⟨h.maxTokens, h.interval, h.begun.trans le, ?_, less, by omega, ?_, fun t => ?_⟩
  · intro s hs
    rcases List.mem_append.mp hs with earlier | here
    · exact (h.past s earlier).trans le
    · rw [List.mem_singleton.mp here]
  · simp only [same]
    exact counts.taken less within
  · have more := completedSince_append times after t
    have before := counted t
    simp only
    omega

/-- An interval that ends after the last refill meets few enough periods. -/
theorem interval_le (h : TokenLedger value rps times now l) {k : ℕ} (some_period : 1 ≤ k)
    {t u : Int} (short : u - t < k * 1000) (ends : l.lastRefill ≤ u) :
    completedSince times t ≤ (k + 1) * rps := by
  obtain ⟨left, _, _, counted⟩ := h.left
  have few := periods_le some_period (show l.lastRefill - t < k * 1000 by omega)
  have bound := Nat.mul_le_mul_left rps few
  have here := counted t
  rw [Nat.mul_comm (k + 1)]
  omega

end TokenLedger

/-! ## The bound -/

def completedAt : BucketRecord → Option Int
  | ⟨_, .attempt, _, .ok (.granted _, time)⟩ => some time
  | _ => none

def completions (trace : List BucketRecord) : List Int := trace.filterMap completedAt

private theorem completions_append (trace : List BucketRecord) (r : BucketRecord) :
    completions (trace ++ [r]) = completions trace ++ (completedAt r).toList := by
  cases done : completedAt r <;> simp [completions, List.filterMap_append, done]

/-- A limiter of this rate never holds fewer tokens than none or more than the rate, and in an
interval shorter than `k` of its periods at most `k + 1` times the rate of calls complete. -/
def Bounded {Number : Type} [LE Number] [DecidableLE Number] [Zero Number] [One Number]
    [Sub Number] (rps : ℕ) (rate : Number) : Prop :=
  ∀ began actions c, (acquireSystem Number).run (.initial (.new rate began)) actions = some c →
    (0 ≤ c.world.limiter.tokens ∧ c.world.limiter.tokens ≤ rate) ∧
      ∀ (k : ℕ) (t u : Int), 1 ≤ k → u - t < k * 1000 →
        completed (completions c.trace) t u ≤ (k + 1) * rps

section

variable {Number : Type} [LE Number] [Zero Number] [One Number] [Sub Number]
  {value : ℕ → Number} {rps : ℕ}

/-- What a step keeps: the ledger of the limiter, and the bound on every interval. -/
structure WithinRate (value : ℕ → Number) (rps : ℕ) (times : List Int) (w : Bucket Number) :
    Prop where
  ledger : TokenLedger value rps times w.clock w.limiter
  intervals : ∀ (k : ℕ) (t u : Int), 1 ≤ k → u - t < k * 1000 → completed times t u ≤ (k + 1) * rps

theorem AcquireTransition.withinRate (counts : CountsDown value rps) {x y : AcquirePoint}
    {w v : Bucket Number} {r : BucketRecord} (t : AcquireTransition x w r y v)
    {trace : List BucketRecord} (h : WithinRate value rps (completions trace) w) :
    WithinRate value rps (completions (trace ++ [r])) v := by
  have looked := h.ledger.refill
  rw [completions_append]
  cases t with
  | granted after token =>
      have granted := looked.grant counts token after
      refine ⟨granted, fun k t u some_period short => ?_⟩
      refine completed_append (h.intervals k t u some_period short) fun _ ends => ?_
      exact granted.interval_le some_period short (granted.begun.trans ends)
  | denied after token milliseconds delay =>
      change WithinRate value rps (completions trace ++ []) _
      rw [List.append_nil]
      exact ⟨looked.later after, h.intervals⟩
  | slept =>
      change WithinRate value rps (completions trace ++ []) _
      rw [List.append_nil]
      exact h

private theorem bounded_of_countsDown [DecidableLE Number] (counts : CountsDown value rps) :
    Bounded rps (value rps) := by
  intro began actions c reached
  have within : WithinRate value rps (completions c.trace) c.world := by
    refine System.run_invariant (fun d => WithinRate value rps (completions d.trace) d.world)
      ?_ reached ⟨.new, fun k t u _ _ => Nat.zero_le _⟩
    intro d a d' h hs
    rcases acquire_step_cases hs with ⟨rfl, rfl⟩ | ⟨p, r, y, v, rfl, hp, t, rfl⟩ |
      ⟨milliseconds, rfl, rfl⟩
    · exact h
    · exact t.withinRate counts h
    · exact ⟨h.ledger.later (by simp), h.intervals⟩
  obtain ⟨left, most, same, _⟩ := within.ledger.left
  rw [same]
  exact ⟨⟨counts.nonneg left most, counts.full left most⟩, within.intervals⟩

end

theorem Bounded.mono {Number : Type} [LE Number] [DecidableLE Number] [Zero Number] [One Number]
    [Sub Number] {m n : ℕ} {rate : Number} (h : Bounded m rate) (le : m ≤ n) : Bounded n rate := by
  intro began actions c reached
  obtain ⟨tokens, intervals⟩ := h began actions c reached
  refine ⟨tokens, fun k t u some_period short => ?_⟩
  calc completed (completions c.trace) t u ≤ (k + 1) * m := intervals k t u some_period short
    _ ≤ (k + 1) * n := Nat.mul_le_mul_left _ le

private theorem countsDown_binary64 {rps : ℕ} (short : rps ≤ 2 ^ 53) :
    CountsDown (Nat.cast : ℕ → Binary64) rps where
  token n most := by
    rw [Binary64.one_eq]
    exact Binary64.natCast_le_natCast (by norm_num) (most.trans short)
  taken n less := Binary64.natCast_sub_one (by omega)
  nonneg n most := by
    rw [Binary64.zero_eq_natCast]
    exact (Binary64.natCast_le_natCast (by norm_num) (most.trans short)).mpr (Nat.zero_le n)
  full n most := (Binary64.natCast_le_natCast (most.trans short) short).mpr most

/-! ## Rates that doubles do not count down -/

section

variable {Number : Type} [LE Number] [DecidableLE Number] [One Number] [Sub Number]

/-- So many calls have completed at once, and the bucket still has plenty. -/
structure Overflowing (Plenty : Number → Prop) (n : ℕ) (c : BucketConfig Number) : Prop where
  clock : c.world.clock = 0
  refilled : c.world.limiter.lastRefill = 0
  interval : c.world.limiter.refillIntervalMs = 1000
  tokens : Plenty c.world.limiter.tokens
  completions : completions c.trace = List.replicate n 0

theorem Overflowing.next {Plenty : Number → Prop} (token : ∀ x, Plenty x → 1 ≤ x)
    (taken : ∀ x, Plenty x → Plenty (x - 1)) {n : ℕ} {c : BucketConfig Number}
    (h : Overflowing Plenty n c) :
    ∃ d, (acquireSystem Number).run c [.start (), .resume c.procs.length (.passes 0)] = some d ∧
      Overflowing Plenty (n + 1) d := by
  have full : c.world.limiter.refill c.world.clock = c.world.limiter := by
    refine if_neg ?_
    rw [h.clock, h.refilled, h.interval]
    decide
  have granted : c.world.limiter.attempt c.world.clock (c.world.clock + (0 : Nat)) =
      (.granted c.world.clock,
        { c.world.limiter with tokens := c.world.limiter.tokens - 1 }) := by
    unfold RateLimiter.attempt
    rw [full]
    exact if_pos (token _ h.tokens)
  let started : BucketConfig Number := { c with procs := c.procs ++ [⟨(), .looking⟩] }
  have looks : started.procs[c.procs.length]? = some ⟨(), .looking⟩ := List.getElem?_concat_length
  let after : Bucket Number := ⟨c.world.clock + (0 : Nat),
    { c.world.limiter with tokens := c.world.limiter.tokens - 1 }⟩
  let r : BucketRecord := ⟨c.procs.length, .attempt, .passes 0,
    .ok (.granted c.world.clock, c.world.clock + (0 : Nat))⟩
  have exec : (bucketRuntime Number).exec .attempt (.passes 0) started.world =
      some (r.reply, after) := by
    simp only [bucketExec, started, granted, r, after]
  have entered : (acquireSystem Number).step c (.start ()) = some started := rfl
  have answered : (acquireSystem Number).step started (.resume r.pid r.choice) =
      some ⟨after, started.procs.set r.pid ⟨(), .returned⟩, c.trace ++ [r]⟩ :=
    by
      rw [System.step_answer looks rfl exec]
      rfl
  refine ⟨⟨after, started.procs.set r.pid ⟨(), .returned⟩, c.trace ++ [r]⟩, ?_, ?_⟩
  · simp only [System.run, entered]
    rw [answered]
  · refine ⟨by simp [after, h.clock], h.refilled, h.interval, taken _ h.tokens, ?_⟩
    rw [completions_append, h.completions, List.replicate_succ']
    simp [r, completedAt, h.clock]

private theorem overflows {Plenty : Number → Prop} (token : ∀ x, Plenty x → 1 ≤ x)
    (taken : ∀ x, Plenty x → Plenty (x - 1)) {rate : Number} (full : Plenty rate) (n : ℕ) :
    ∃ actions c, (acquireSystem Number).run (.initial (.new rate 0)) actions = some c ∧
      Overflowing Plenty n c := by
  induction n with
  | zero => exact ⟨[], _, rfl, rfl, rfl, rfl, full, rfl⟩
  | succ n ih =>
      obtain ⟨actions, c, reached, overflowing⟩ := ih
      obtain ⟨d, more, next⟩ := overflowing.next token taken
      refine ⟨actions ++ [.start (), .resume c.procs.length (.passes 0)], d, ?_, next⟩
      rw [System.run_append, reached, Option.bind_some, more]

/-- A bucket with plenty of tokens that has plenty after each call limits nothing. -/
theorem not_bounded_of_plenty [Zero Number] {Plenty : Number → Prop}
    (token : ∀ x, Plenty x → 1 ≤ x) (taken : ∀ x, Plenty x → Plenty (x - 1)) {rate : Number}
    (full : Plenty rate) (rps : ℕ) : ¬ Bounded rps rate := by
  intro bounded
  obtain ⟨actions, c, reached, overflowing⟩ := overflows token taken full (2 * rps + 1)
  have few := (bounded 0 actions c reached).2 1 0 0 le_rfl (by decide)
  have all : completed (completions c.trace) 0 0 = 2 * rps + 1 := by
    rw [overflowing.completions]
    exact (List.countP_replicate ..).trans (if_pos (by decide))
  omega

end

/-- From `2 ^ 53 + 4` on a double less one is no smaller than that. -/
theorem plenty_taken (x : Binary64) (plenty : x.AtLeast (2 ^ 53 + 4)) :
    (x - 1).AtLeast (2 ^ 53 + 4) := by
  have rounded : Binary64.round (2 ^ 53 + 3) = 2 ^ 53 + 4 := by decide +kernel
  cases x with
  | finite q _ =>
      rw [Binary64.sub_one, ← rounded]
      refine Binary64.atLeast_ofRat (by norm_num) ?_
      have here : (2 : ℚ) ^ 53 + 4 ≤ q := plenty
      linarith
  | infinite negative =>
      rw [Binary64.infinite_sub_one]
      exact plenty
  | nan => exact plenty.elim

private theorem not_bounded_of_large {rps : ℕ} (large : 2 ^ 53 + 3 ≤ rps) :
    ¬ Bounded rps (rps : Binary64) := by
  have rounded : Binary64.round (2 ^ 53 + 3) = 2 ^ 53 + 4 := by decide +kernel
  have full : (rps : Binary64).AtLeast (2 ^ 53 + 4) := by
    rw [← rounded]
    exact Binary64.atLeast_ofRat (by norm_num) (by exact_mod_cast large)
  exact not_bounded_of_plenty
    (fun x plenty => Binary64.one_le_iff.mpr (plenty.mono (by norm_num))) plenty_taken full rps

/-- The tokens that a bucket of `2 ^ 53 + 2` goes through: its first call takes two. -/
def aboveTheLast (n : ℕ) : Binary64 := if n ≤ 2 ^ 53 then n else (2 ^ 53 + 2 : ℕ)

private theorem aboveTheLast_of_le {n : ℕ} (short : n ≤ 2 ^ 53) : aboveTheLast n = n := if_pos short

private theorem countsDown_aboveTheLast : CountsDown aboveTheLast (2 ^ 53 + 1) where
  token n most := by
    rw [Binary64.one_eq]
    rcases le_or_gt n (2 ^ 53) with short | beyond
    · rw [aboveTheLast_of_le short]
      exact Binary64.natCast_le_natCast (by norm_num) short
    · rw [aboveTheLast, if_neg beyond.not_ge]
      exact iff_of_true (by decide +kernel) (by omega)
  taken n less := by
    rw [aboveTheLast_of_le (n := n) (by omega)]
    rcases (Nat.lt_succ_iff.mp less).lt_or_eq with short | rfl
    · rw [aboveTheLast_of_le (by omega)]
      exact Binary64.natCast_sub_one (by omega)
    · decide +kernel
  nonneg n most := by
    rw [Binary64.zero_eq_natCast]
    rcases le_or_gt n (2 ^ 53) with short | beyond
    · rw [aboveTheLast_of_le short]
      exact (Binary64.natCast_le_natCast (by norm_num) short).mpr (Nat.zero_le n)
    · rw [aboveTheLast, if_neg beyond.not_ge]
      decide +kernel
  full n most := by
    rcases le_or_gt n (2 ^ 53) with short | beyond
    · have top : (aboveTheLast (2 ^ 53 + 1)).AtLeast (2 ^ 53) :=
        (Binary64.natCast_le_iff le_rfl).mp (by decide +kernel)
      rw [aboveTheLast_of_le short, Binary64.natCast_le_iff short]
      exact top.mono (by exact_mod_cast short)
    · obtain rfl : n = 2 ^ 53 + 1 := by omega
      decide +kernel

private theorem bounded_of_small {rps : ℕ} (small : rps ≤ 2 ^ 53 + 2) :
    Bounded rps (rps : Binary64) := by
  rcases le_or_gt rps (2 ^ 53) with short | beyond
  · exact bounded_of_countsDown (countsDown_binary64 short)
  · obtain rfl | rfl : rps = 2 ^ 53 + 1 ∨ rps = 2 ^ 53 + 2 := by omega
    · have rounded : ((2 ^ 53 + 1 : ℕ) : Binary64) = (2 ^ 53 : ℕ) := by decide +kernel
      rw [rounded]
      exact (bounded_of_countsDown (countsDown_binary64 le_rfl)).mono (by omega)
    · exact (bounded_of_countsDown countsDown_aboveTheLast).mono (by omega)

/-- The bound holds for the whole rates that doubles count down, and for no others. -/
theorem acquire_bounded_iff (rps : ℕ) : Bounded rps (rps : Binary64) ↔ rps ≤ 2 ^ 53 + 2 :=
  ⟨fun bounded => by
    by_contra large
    exact not_bounded_of_large (by omega) bounded, bounded_of_small⟩

/-- At a rate of `2 ^ 54` a call leaves as many tokens as it found. -/
theorem acquire_unbounded :
    TIKTOK_RATE_LIMIT_RPS (some (2 ^ 54 : ℕ)) = some (2 ^ 54 : ℕ) ∧
      ¬ Bounded (2 ^ 54) ((2 ^ 54 : ℕ) : Binary64) :=
  ⟨by decide +kernel, not_bounded_of_large (by norm_num)⟩

end SalesforceTikTok
