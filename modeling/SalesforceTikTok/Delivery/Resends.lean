import SalesforceTikTok.Concurrency.Handler
import SalesforceTikTok.Delivery.NoLostEvent

/-!
# The Redis client under `isDuplicate`

The client sends a command again when the connection drops before its reply, and
the server may have executed it by then. A `SET … NX` that is executed twice is
answered `null` the second time, as if another call had set the key.
-/

namespace SalesforceTikTok

open Concurrency

/-! ## Transmissions -/

inductive RedisCmd where
  /-- What is no `SET`. -/
  | delivery (cmd : DeliveryCmd)
  /-- `SET key '1' EX ttlSeconds NX` goes out, and the client waits for the reply. -/
  | set (key : String) (ttlSeconds : Int)

abbrev RedisCmd.Reply : RedisCmd → Type
  | .delivery cmd => cmd.Reply
  | .set _ _ => Option SetReply

inductive RedisChoice where
  | delivery (choice : DeliveryChoice)
  /-- The command is executed and answered. -/
  | reply
  /-- The command is executed, and the connection drops before the reply. -/
  | replyLost
  /-- The connection drops before the command is executed. -/
  | commandLost
  /-- The client gives up, or the server answers with an error. -/
  | fail (error : JsError)

def redisExec (env : Env) : (cmd : RedisCmd) → RedisChoice → DeliveryWorld →
    Option (Except JsError cmd.Reply × DeliveryWorld)
  | .delivery cmd, .delivery choice, w => deliveryExec env cmd choice w
  | .set key ttl, .reply, w => some ((w.setNx key ttl).1.map some, (w.setNx key ttl).2)
  | .set key ttl, .replyLost, w => some (.ok none, (w.setNx key ttl).2)
  | .set _ _, .commandLost, w => some (.ok none, w)
  | .set _ _, .fail error, w => some (.error error, w)
  | _, _, _ => none

abbrev redisRuntime (env : Env) :
    Runtime RedisCmd RedisCmd.Reply JsError DeliveryWorld RedisChoice DeliveryEvent where
  exec := redisExec env
  env := deliveryEnv

abbrev RedisProg := Prog RedisCmd RedisCmd.Reply JsError

abbrev RedisRecord := Record RedisCmd RedisCmd.Reply JsError RedisChoice

abbrev RedisAction := Action String RedisChoice DeliveryEvent

abbrev RedisConfig :=
  Config RedisCmd RedisCmd.Reply JsError DeliveryWorld RedisChoice String (RedisProg Bool)

namespace RedisClient

abbrev redis (cmd : RedisCmd) : RedisProg cmd.Reply := Prog.call cmd

/-- An unanswered command goes out again after the reconnect, `maxRetriesPerRequest` times. -/
def set (key : String) (ttlSeconds : Int) : Nat → RedisProg SetReply
  | 0 => do
      let reply : Option SetReply ← redis (.set key ttlSeconds)
      match reply with
      | some reply => return reply
      | none => throw { message := "Reached the max retries per request limit" }
  | left + 1 => do
      let reply : Option SetReply ← redis (.set key ttlSeconds)
      match reply with
      | some reply => return reply
      | none => set key ttlSeconds left

def carry (maxRetriesPerRequest : Nat) : (cmd : DeliveryCmd) → RedisProg cmd.Reply
  | .setNx key ttl => set key ttl maxRetriesPerRequest
  | cmd => redis (.delivery cmd)

/-- `isDuplicate` over a client that may send its command so often again. -/
def isDuplicate (env : Env) (left : Nat) (eventId : String) : RedisProg Bool :=
  (EventDeduplicator.isDuplicate env eventId).handle (carry left)

/-- Calls of `isDuplicate`, in any interleaving. -/
def system (env : Env) (maxRetriesPerRequest : Nat) :
    System (redisRuntime env) Bool String (RedisProg Bool) where
  view := Prog.view
  launch eventId w := some (isDuplicate env maxRetriesPerRequest eventId, w)

/-! ## One call -/

/-- A call awaits a reply, with so many retries left, or has ended with its verdict. -/
inductive CallState (env : Env) (eventId : String) : RedisProg Bool → Prop where
  | sending (left : Nat) : CallState env eventId (isDuplicate env left eventId)
  | ended (verdict : Bool) : CallState env eventId (.done verdict)

/-- A call that is not answered sends its command again, or gives up and lets the event pass. -/
def again (env : Env) (eventId : String) : Nat → RedisProg Bool
  | 0 => .done false
  | left + 1 => isDuplicate env left eventId

private theorem again_state (env : Env) (eventId : String) (left : Nat) :
    CallState env eventId (again env eventId left) := by
  cases left with
  | zero => exact .ended false
  | succ left => exact .sending left

def verdict : Except JsError SetReply → RedisProg Bool
  | .ok reply => .done (reply = .null)
  | .error _ => .done false

private theorem isDuplicate_eq (env : Env) (left : Nat) (eventId : String) :
    isDuplicate env left eventId =
      (set (DEDUP_KEY_PREFIX ++ eventId) env.REDIS_DEDUP_TTL_SECONDS left).attempt >>= verdict := by
  refine congrArg (fun next => _ >>= next) (funext fun reply => ?_)
  cases reply with
  | ok reply => rfl
  | error error => rfl

private theorem isDuplicate_view (env : Env) (left : Nat) (eventId : String) :
    ∃ resume, (isDuplicate env left eventId).view =
        .awaits (.set (DEDUP_KEY_PREFIX ++ eventId) env.REDIS_DEDUP_TTL_SECONDS) resume ∧
      (∀ reply, resume (.ok (some reply)) = .done (reply = .null)) ∧
      (∀ error, resume (.error error) = .done false) ∧
      resume (.ok none) = again env eventId left := by
  rw [isDuplicate_eq]
  cases left with
  | zero => exact ⟨_, rfl, fun _ => rfl, fun _ => rfl, rfl⟩
  | succ left =>
      refine ⟨_, rfl, fun _ => rfl, fun _ => rfl, ?_⟩
      exact (isDuplicate_eq env left eventId).symm

private theorem isDuplicate_ne_done (env : Env) (left : Nat) (eventId : String) (verdict : Bool) :
    isDuplicate env left eventId ≠ .done verdict := by
  intro said
  obtain ⟨resume, shown, _⟩ := isDuplicate_view env left eventId
  rw [said] at shown
  cases shown

private theorem again_ne_true (env : Env) (eventId : String) (left : Nat) :
    again env eventId left ≠ .done true := by
  cases left with
  | zero =>
      intro said
      cases said
  | succ left => exact isDuplicate_ne_done env left eventId true

/-! ## Whose command was executed -/

def executed (r : RedisRecord) : Bool :=
  match r.choice with
  | .reply | .replyLost => true
  | _ => false

/-- A call other than `pid` for this id executed its command before `pid` was last answered. -/
def Preceded (entries : List String) (trace : List RedisRecord) (pid : Nat) (eventId : String) :
    Prop :=
  ∃ first r rest, trace = first ++ r :: rest ∧ r.pid = pid ∧
    ∃ r' ∈ first, r'.pid ≠ pid ∧ entries[r'.pid]? = some eventId ∧ executed r' = true

/-- A call that says `true` was preceded by another call for its id. -/
def DuplicatesPreceded (env : Env) (maxRetriesPerRequest : Nat) (c : RedisConfig) : Prop :=
  ∀ pid eventId, (system env maxRetriesPerRequest).Ended c pid (.ok true) →
    c.entries[pid]? = some eventId → Preceded c.entries c.trace pid eventId

/-- The reply to a command sent again, after an execution whose reply was lost: the key is
held, and no other call for the id has executed its command. -/
def Echo (b : RedisConfig) (a : RedisAction) : Prop :=
  ∃ pid p, a = .resume pid .reply ∧ b.procs[pid]? = some p ∧ b.world.stored p.entry = true ∧
    (∃ r ∈ b.own pid, executed r = true) ∧
    ∀ r ∈ b.trace, r.pid ≠ pid → b.entries[r.pid]? = some p.entry → executed r = false

private theorem preceded_other {entries : List String} {trace : List RedisRecord}
    {last : RedisRecord} {pid : Nat} (other : last.pid ≠ pid) (eventId : String) :
    Preceded entries (trace ++ [last]) pid eventId ↔ Preceded entries trace pid eventId := by
  constructor
  · rintro ⟨first, r, rest, split, own, earlier⟩
    rcases List.eq_nil_or_concat rest with rfl | ⟨rest, final, rfl⟩
    · obtain ⟨_, rfl⟩ : trace = first ∧ last = r := by simpa using split
      exact absurd own other
    · have same : trace ++ [last] = (first ++ r :: rest) ++ [final] := by
        rw [split]
        simp
      exact ⟨first, r, rest, List.append_inj_left' same rfl, own, earlier⟩
  · rintro ⟨first, r, rest, rfl, own, earlier⟩
    exact ⟨first, r, rest ++ [last], by simp, own, earlier⟩

private theorem preceded_own {entries : List String} {trace : List RedisRecord} {last : RedisRecord}
    (eventId : String) : Preceded entries (trace ++ [last]) last.pid eventId ↔
      ∃ r' ∈ trace, r'.pid ≠ last.pid ∧ entries[r'.pid]? = some eventId ∧ executed r' = true := by
  constructor
  · rintro ⟨first, r, rest, split, own, r', earlier, facts⟩
    refine ⟨r', ?_, facts⟩
    rcases List.eq_nil_or_concat rest with rfl | ⟨rest, final, rfl⟩
    · obtain ⟨rfl, _⟩ : trace = first ∧ last = r := by simpa using split
      exact earlier
    · have same : trace ++ [last] = (first ++ r :: rest) ++ [final] := by
        rw [split]
        simp
      rw [List.append_inj_left' same rfl]
      exact List.mem_append_left _ earlier
  · rintro ⟨r', there, facts⟩
    exact ⟨trace, last, [], rfl, rfl, r', there, facts⟩

/-! ## Transitions -/

/-- `CallTransition env eventId w choice y v`: in world `w` the choice leads a call for the id to
`y` in world `v`. -/
inductive CallTransition (env : Env) (eventId : String) (w : DeliveryWorld) :
    RedisChoice → RedisProg Bool → DeliveryWorld → Prop where
  | found (held : w.stored eventId = true) (positive : 0 < env.REDIS_DEDUP_TTL_SECONDS) :
      CallTransition env eventId w .reply (.done true) w
  | marked (free : w.stored eventId = false) (positive : 0 < env.REDIS_DEDUP_TTL_SECONDS) :
      CallTransition env eventId w .reply (.done false)
        { w with
          dedup := w.dedup.insert (DEDUP_KEY_PREFIX ++ eventId)
            (w.clock + env.REDIS_DEDUP_TTL_SECONDS * 1000) }
  | refused (expiry : env.REDIS_DEDUP_TTL_SECONDS ≤ 0) :
      CallTransition env eventId w .reply (.done false) w
  | replyLost (left : Nat) :
      CallTransition env eventId w .replyLost (again env eventId left)
        (w.setNx (DEDUP_KEY_PREFIX ++ eventId) env.REDIS_DEDUP_TTL_SECONDS).2
  | commandLost (left : Nat) :
      CallTransition env eventId w .commandLost (again env eventId left) w
  | failed (error : JsError) : CallTransition env eventId w (.fail error) (.done false) w

private theorem step_answered {env : Env} {maxRetriesPerRequest : Nat} {b d : RedisConfig}
    {pid : Nat} {choice : RedisChoice}
    (hs : (system env maxRetriesPerRequest).step b (.resume pid choice) = some d)
    (states : ∀ p ∈ b.procs, CallState env p.entry p.state) :
    ∃ eventId left y v r, b.procs[pid]? = some ⟨eventId, isDuplicate env left eventId⟩ ∧
      r.pid = pid ∧ r.choice = choice ∧
      d = ⟨v, b.procs.set pid ⟨eventId, y⟩, b.trace ++ [r]⟩ ∧
      CallTransition env eventId b.world choice y v := by
  obtain ⟨p, cmd, resume, reply, v, hp, hv, he, rfl⟩ := System.step_resume hs
  obtain ⟨eventId, state⟩ := p
  have here := states _ (List.mem_of_getElem? hp)
  dsimp only at here hv
  cases here with
  | ended verdict => cases hv
  | sending left =>
      obtain ⟨resume', shown, replied, failed, dropped⟩ := isDuplicate_view env left eventId
      have asked := hv.symm.trans shown
      cases asked
      refine ⟨eventId, left, _, v, _, hp, rfl, rfl, rfl, ?_⟩
      cases choice with
      | delivery choice => cases he
      | reply =>
          rcases Int.lt_or_le 0 env.REDIS_DEDUP_TTL_SECONDS with positive | refused
          · obtain ⟨held, found⟩ | ⟨free, set⟩ :=
              b.world.setNx_cases positive (DEDUP_KEY_PREFIX ++ eventId)
            · simp only [redisExec, found] at he
              cases he
              rw [Except.map, replied]
              exact .found held positive
            · simp only [redisExec, set] at he
              cases he
              rw [Except.map, replied]
              exact .marked free positive
          · have rejected : b.world.setNx (DEDUP_KEY_PREFIX ++ eventId)
                env.REDIS_DEDUP_TTL_SECONDS =
                  (.error { message := "ERR invalid expire time in 'set' command" }, b.world) :=
              if_pos refused
            simp only [redisExec, rejected] at he
            cases he
            rw [Except.map, failed]
            exact .refused refused
      | replyLost =>
          cases he
          rw [dropped]
          exact .replyLost left
      | commandLost =>
          cases he
          rw [dropped]
          exact .commandLost left
      | fail error =>
          cases he
          rw [failed]
          exact .failed error

theorem CallTransition.state {env : Env} {eventId : String} {w v : DeliveryWorld}
    {choice : RedisChoice} {y : RedisProg Bool} (t : CallTransition env eventId w choice y v) :
    CallState env eventId y := by
  cases t with
  | replyLost left => exact again_state env eventId left
  | commandLost left => exact again_state env eventId left
  | _ => exact .ended _

/-- A key that is there was there before, or the answered command set it. -/
theorem CallTransition.lookup {env : Env} {eventId : String} {w v : DeliveryWorld}
    {choice : RedisChoice} {y : RedisProg Bool} (t : CallTransition env eventId w choice y v)
    {key : String} (present : (v.dedup.lookup key).isSome = true) :
    (w.dedup.lookup key).isSome = true ∨ key = DEDUP_KEY_PREFIX ++ eventId ∧
      0 < env.REDIS_DEDUP_TTL_SECONDS ∧ (choice = .reply ∨ choice = .replyLost) := by
  have inserted {expiry : Int} (positive : 0 < env.REDIS_DEDUP_TTL_SECONDS)
      (chosen : choice = .reply ∨ choice = .replyLost)
      (found : ((w.dedup.insert (DEDUP_KEY_PREFIX ++ eventId) expiry).lookup key).isSome = true) :
      (w.dedup.lookup key).isSome = true ∨ key = DEDUP_KEY_PREFIX ++ eventId ∧
        0 < env.REDIS_DEDUP_TTL_SECONDS ∧ (choice = .reply ∨ choice = .replyLost) := by
    obtain ⟨value, found⟩ := Option.isSome_iff_exists.mp found
    obtain ⟨same, _⟩ | before := Storage.lookup_insert_cases found
    · exact .inr ⟨same, positive, chosen⟩
    · exact .inl (by rw [before]; rfl)
  cases t with
  | marked free positive => exact inserted positive (.inl rfl) present
  | replyLost left =>
      rcases Int.lt_or_le 0 env.REDIS_DEDUP_TTL_SECONDS with positive | refused
      · obtain ⟨_, found⟩ | ⟨_, set⟩ := w.setNx_cases positive (DEDUP_KEY_PREFIX ++ eventId)
        · rw [found] at present
          exact .inl present
        · rw [set] at present
          exact inserted positive (.inr rfl) present
      · rw [DeliveryWorld.setNx, if_pos refused] at present
        exact .inl present
  | _ => exact .inl present

/-! ## Runs -/

/-- Every call is at its one command or has ended, every command belongs to a call, and a key
that is there was set by a call for its id. -/
structure Traced (env : Env) (c : RedisConfig) : Prop where
  states : ∀ p ∈ c.procs, CallState env p.entry p.state
  started : ∀ r ∈ c.trace, r.pid < c.procs.length
  set : ∀ eventId, (c.world.dedup.lookup (DEDUP_KEY_PREFIX ++ eventId)).isSome = true →
    0 < env.REDIS_DEDUP_TTL_SECONDS ∧
      ∃ r ∈ c.trace, c.entries[r.pid]? = some eventId ∧ executed r = true

section

variable {env : Env} {maxRetriesPerRequest : Nat} {b d : RedisConfig}

private theorem entries_get {pid : Nat} {p : Proc String (RedisProg Bool)}
    (hp : b.procs[pid]? = some p) : b.entries[pid]? = some p.entry := by
  rw [Config.entries, List.getElem?_map, hp]
  rfl

theorem Traced.step {a : RedisAction} (h : Traced env b)
    (hs : (system env maxRetriesPerRequest).step b a = some d) : Traced env d := by
  cases a with
  | start eventId =>
      obtain ⟨x, v, hl, rfl⟩ := System.step_start hs
      cases hl
      refine ⟨fun p hp => ?_, fun r hr => ?_, fun id present => ?_⟩
      · rcases List.mem_append.mp hp with hp | hp
        · exact h.states p hp
        · obtain rfl := List.mem_singleton.mp hp
          exact .sending _
      · have bound := h.started r hr
        simp only [List.length_append]
        omega
      · obtain ⟨positive, r, hr, entry, ex⟩ := h.set id present
        refine ⟨positive, r, hr, ?_, ex⟩
        rw [Config.entries, List.map_append, List.getElem?_append_left]
        · exact entry
        · rw [List.length_map]
          exact h.started r hr
  | resume pid choice =>
      obtain ⟨eventId, left, y, v, r, hp, own, chosen, rfl, t⟩ := step_answered hs h.states
      have entries : Config.entries ⟨v, b.procs.set pid ⟨eventId, y⟩, b.trace ++ [r]⟩ =
          b.entries := System.entries_answered hp y
      have bound : pid < b.procs.length := (List.getElem?_eq_some_iff.mp hp).choose
      refine ⟨fun p hp' => ?_, fun r' hr' => ?_, fun id present => ?_⟩
      · rcases List.mem_or_eq_of_mem_set hp' with hp' | rfl
        · exact h.states p hp'
        · exact t.state
      · rw [List.length_set]
        rcases List.mem_append.mp hr' with hr' | hr'
        · exact h.started r' hr'
        · obtain rfl := List.mem_singleton.mp hr'
          rwa [own]
      · rw [entries]
        obtain before | ⟨same, positive, sent⟩ := t.lookup present
        · obtain ⟨positive, r', hr', facts⟩ := h.set id before
          exact ⟨positive, r', List.mem_append_left _ hr', facts⟩
        · obtain rfl := dedupKey_inj.mp same
          refine ⟨positive, r, by simp, ?_, ?_⟩
          · rw [own]
            exact entries_get hp
          · unfold executed
            rw [chosen]
            rcases sent with rfl | rfl <;> rfl
  | env event =>
      obtain ⟨v, hv, rfl⟩ := System.step_env hs
      obtain ⟨elapsed, rfl⟩ | ⟨jobId, rfl⟩ := deliveryEnv_cases hv
      · exact ⟨h.states, h.started, h.set⟩
      · exact ⟨h.states, h.started, h.set⟩

theorem Traced.initial (clock : Int) : Traced env (.initial (.fresh clock)) :=
  ⟨by simp [Config.initial], by simp [Config.initial], fun _ present => by cases present⟩

private theorem ended_true {pid : Nat} {p : Proc String (RedisProg Bool)}
    (hp : b.procs[pid]? = some p) :
    (system env maxRetriesPerRequest).Ended b pid (.ok true) ↔ p.state = .done true := by
  constructor
  · intro ended
    exact Prog.eq_of_view_ok (ended.view_eq hp)
  · intro said
    exact ⟨p, hp, by rw [said]; rfl⟩

private theorem preceded_entries {entries more : List String} {trace : List RedisRecord} {pid : Nat}
    {eventId : String} (started : ∀ r ∈ trace, r.pid < entries.length) :
    Preceded (entries ++ more) trace pid eventId ↔ Preceded entries trace pid eventId := by
  have same {first rest : List RedisRecord} {r r' : RedisRecord}
      (split : trace = first ++ r :: rest) (hr' : r' ∈ first) :
      (entries ++ more)[r'.pid]? = entries[r'.pid]? := by
    refine List.getElem?_append_left (started r' ?_)
    rw [split]
    exact List.mem_append_left _ hr'
  constructor
  · rintro ⟨first, r, rest, split, own, r', hr', other, entry, ex⟩
    exact ⟨first, r, rest, split, own, r', hr', other, (same split hr').symm.trans entry, ex⟩
  · rintro ⟨first, r, rest, split, own, r', hr', other, entry, ex⟩
    exact ⟨first, r, rest, split, own, r', hr', other, (same split hr').trans entry, ex⟩

/-- An answer to a call adds its own verdict to those that have to be preceded. -/
theorem duplicates_answered {pid left : Nat} {eventId : String}
    {y : RedisProg Bool} {v : DeliveryWorld} {r : RedisRecord}
    (hp : b.procs[pid]? = some ⟨eventId, isDuplicate env left eventId⟩) (own : r.pid = pid) :
    DuplicatesPreceded env maxRetriesPerRequest
        ⟨v, b.procs.set pid ⟨eventId, y⟩, b.trace ++ [r]⟩ ↔
      DuplicatesPreceded env maxRetriesPerRequest b ∧
        (y = .done true → Preceded b.entries (b.trace ++ [r]) pid eventId) := by
  have entries : Config.entries ⟨v, b.procs.set pid ⟨eventId, y⟩, b.trace ++ [r]⟩ = b.entries :=
    System.entries_answered hp y
  have bound : pid < b.procs.length := (List.getElem?_eq_some_iff.mp hp).choose
  have here : (b.procs.set pid ⟨eventId, y⟩)[pid]? = some ⟨eventId, y⟩ :=
    List.getElem?_set_self bound
  have running : ¬ (system env maxRetriesPerRequest).Ended b pid (.ok true) := by
    rw [ended_true hp]
    exact isDuplicate_ne_done env left eventId true
  constructor
  · intro preceded
    constructor
    · intro q id ended entry
      have other : r.pid ≠ q := by
        rintro rfl
        rw [own] at ended
        exact running ended
      obtain ⟨p, hq, hv⟩ := ended
      have kept : (b.procs.set pid ⟨eventId, y⟩)[q]? = some p := by
        rw [List.getElem?_set_ne (own ▸ other)]
        exact hq
      have result := preceded q id ⟨p, kept, hv⟩ (by rw [entries]; exact entry)
      rw [entries] at result
      exact (preceded_other other id).mp result
    · rintro rfl
      have result := preceded pid eventId ⟨_, here, rfl⟩ (by rw [entries]; exact entries_get hp)
      rwa [entries] at result
  · rintro ⟨before, now⟩ q id ⟨p, hq, hv⟩ entry
    rw [entries] at entry ⊢
    obtain ⟨rfl, rfl⟩ | ⟨other, hq⟩ := System.get_answered hq
    · obtain rfl : eventId = id := by
        rw [entries_get hp] at entry
        exact Option.some.inj entry
      exact now (Prog.eq_of_view_ok hv)
    · exact (preceded_other (own ▸ Ne.symm other) id).mpr (before q id ⟨p, hq, hv⟩ entry)

/-- A call that starts has no verdict, and the commands before it are those of older calls. -/
theorem duplicates_started (h : Traced env b) (eventId : String) :
    DuplicatesPreceded env maxRetriesPerRequest ⟨b.world, b.procs ++
        [⟨eventId, isDuplicate env maxRetriesPerRequest eventId⟩], b.trace⟩ ↔
      DuplicatesPreceded env maxRetriesPerRequest b := by
  have started : ∀ r ∈ b.trace, r.pid < b.entries.length := by
    intro r hr
    rw [Config.entries, List.length_map]
    exact h.started r hr
  have entries : Config.entries ⟨b.world, b.procs ++
      [⟨eventId, isDuplicate env maxRetriesPerRequest eventId⟩], b.trace⟩ =
        b.entries ++ [eventId] := by simp [Config.entries]
  have older {q : Nat} {p : Proc String (RedisProg Bool)} (hq : b.procs[q]? = some p) :
      q < b.procs.length ∧ (b.entries ++ [eventId])[q]? = b.entries[q]? := by
    have bound : q < b.procs.length := (List.getElem?_eq_some_iff.mp hq).choose
    exact ⟨bound, List.getElem?_append_left (by rw [Config.entries, List.length_map]; exact bound)⟩
  constructor
  · rintro preceded q id ⟨p, hq, hv⟩ entry
    obtain ⟨bound, same⟩ := older hq
    have later := preceded q id ⟨p, by rw [List.getElem?_append_left bound]; exact hq, hv⟩
    rw [entries, preceded_entries started] at later
    exact later (same.trans entry)
  · rintro preceded q id ⟨p, hq, hv⟩ entry
    rw [entries] at entry
    rw [entries, preceded_entries started]
    obtain hq | ⟨rfl, rfl⟩ := System.get_started hq
    · exact preceded q id ⟨p, hq, hv⟩ ((older hq).2.symm.trans entry)
    · obtain ⟨resume, shown, _⟩ := isDuplicate_view env maxRetriesPerRequest eventId
      cases hv.symm.trans shown

private theorem echo_resume {pid : Nat} {choice : RedisChoice} {eventId : String}
    {y : RedisProg Bool} (hp : b.procs[pid]? = some ⟨eventId, y⟩) :
    Echo b (.resume pid choice) ↔
      choice = .reply ∧ b.world.stored eventId = true ∧ (∃ r ∈ b.own pid, executed r = true) ∧
        ∀ r ∈ b.trace, r.pid ≠ pid → b.entries[r.pid]? = some eventId → executed r = false := by
  constructor
  · rintro ⟨q, p, same, hq, held, resent, alone⟩
    cases same
    cases hp.symm.trans hq
    exact ⟨rfl, held, resent, alone⟩
  · rintro ⟨rfl, held, resent, alone⟩
    exact ⟨pid, _, rfl, hp, held, resent, alone⟩

/-- Where the key is held, either another call for the id has executed its command, or the reply
is an echo. -/
theorem Traced.found (h : Traced env b) {pid : Nat} {eventId : String} {y : RedisProg Bool}
    (hp : b.procs[pid]? = some ⟨eventId, y⟩) (held : b.world.stored eventId = true) :
    (∃ r ∈ b.trace, r.pid ≠ pid ∧ b.entries[r.pid]? = some eventId ∧ executed r = true) ↔
      ¬ Echo b (.resume pid .reply) := by
  rw [echo_resume hp]
  constructor
  · rintro ⟨r, hr, other, entry, ex⟩ ⟨_, _, _, alone⟩
    rw [alone r hr other entry] at ex
    cases ex
  · intro quiet
    by_contra none
    have alone : ∀ r ∈ b.trace, r.pid ≠ pid → b.entries[r.pid]? = some eventId →
        executed r = false := by
      intro r hr other entry
      rw [← Bool.not_eq_true]
      exact fun ex => none ⟨r, hr, other, entry, ex⟩
    -- the key was set by a call for this id, and that can only be this call itself
    obtain ⟨_, r, hr, entry, ex⟩ := h.set eventId (DeliveryWorld.lookup_of_holds held)
    have itself : r.pid = pid := by
      by_contra other
      exact none ⟨r, hr, other, entry, ex⟩
    exact quiet ⟨rfl, held, ⟨r, System.mem_own.mpr ⟨hr, itself⟩, ex⟩, alone⟩

theorem CallTransition.said {eventId : String} {w v : DeliveryWorld} {choice : RedisChoice}
    (t : CallTransition env eventId w choice (.done true) v) :
    choice = .reply ∧ w.stored eventId = true := by
  generalize said : Prog.done true = y at t
  cases t with
  | found held => exact ⟨rfl, held⟩
  | marked | refused | failed => cases said
  | replyLost left => exact absurd said.symm (again_ne_true env eventId left)
  | commandLost left => exact absurd said.symm (again_ne_true env eventId left)

theorem CallTransition.tells {eventId : String} {w v : DeliveryWorld} {y : RedisProg Bool}
    (positive : 0 < env.REDIS_DEDUP_TTL_SECONDS) (held : w.stored eventId = true)
    (t : CallTransition env eventId w .reply y v) : y = .done true := by
  cases t with
  | found => rfl
  | marked free =>
      rw [free] at held
      cases held
  | refused expiry => omega

/-- The duplicates of a run stay preceded exactly in the steps that are no echo. -/
theorem duplicates_step {a : RedisAction} (h : Traced env b)
    (hs : (system env maxRetriesPerRequest).step b a = some d) :
    DuplicatesPreceded env maxRetriesPerRequest d ↔
      DuplicatesPreceded env maxRetriesPerRequest b ∧ ¬ Echo b a := by
  cases a with
  | start eventId =>
      obtain ⟨x, v, hl, rfl⟩ := System.step_start hs
      cases hl
      have quiet : ¬ Echo b (.start eventId) := by
        rintro ⟨_, _, same, _⟩
        cases same
      rw [and_iff_left quiet]
      exact duplicates_started h eventId
  | resume pid choice =>
      obtain ⟨eventId, left, y, v, r, hp, rfl, chosen, rfl, t⟩ := step_answered hs h.states
      rw [duplicates_answered hp rfl]
      refine and_congr_right fun _ => ?_
      constructor
      · -- an echo tells the call `true`, and no other call precedes it
        intro preceded echo
        obtain ⟨rfl, held, _⟩ := (echo_resume hp).mp echo
        have positive := (h.set eventId (DeliveryWorld.lookup_of_holds held)).1
        have other := (preceded_own eventId).mp (preceded (t.tells positive held))
        exact (h.found hp held).mp other echo
      · rintro quiet rfl
        obtain ⟨rfl, held⟩ := t.said
        exact (preceded_own eventId).mpr ((h.found hp held).mpr quiet)
  | env event =>
      obtain ⟨v, hv, rfl⟩ := System.step_env hs
      have quiet : ¬ Echo b (.env event) := by
        rintro ⟨_, _, same, _⟩
        cases same
      rw [and_iff_left quiet]
      exact Iff.rfl

end

/-- From an empty store, every duplicate was preceded by another call for its id exactly in the
runs without an echo. -/
theorem duplicates_preceded_iff {env : Env} {maxRetriesPerRequest : Nat} {clock : Int}
    {c : RedisConfig} {actions : List RedisAction}
    (h : (system env maxRetriesPerRequest).run (.initial (.fresh clock)) actions = some c) :
    DuplicatesPreceded env maxRetriesPerRequest c ↔
      (system env maxRetriesPerRequest).Along (fun b a _ => ¬ Echo b a)
        (.initial (.fresh clock)) actions := by
  have runs := System.run_induction (S := system env maxRetriesPerRequest)
    (fun taken d => Traced env d ∧ (DuplicatesPreceded env maxRetriesPerRequest d ↔
      (system env maxRetriesPerRequest).Along (fun b a _ => ¬ Echo b a)
        (.initial (.fresh clock)) taken)) ?_ h ⟨.initial clock, ?_⟩
  · exact runs.2
  · rintro taken d a d' reached ⟨traced, same⟩ hs
    refine ⟨traced.step hs, ?_⟩
    rw [duplicates_step traced hs, same, System.along_concat reached hs]
  · refine iff_of_true ?_ trivial
    rintro pid eventId ⟨p, hp, _⟩ _
    simp [Config.initial] at hp

def checkTwice : List RedisAction :=
  [.start "e1", .resume 0 .commandLost, .resume 0 .reply, .start "e1", .resume 1 .reply]

theorem duplicates_preceded_twice :
    (system {} 20).Along (fun b a _ => ¬ Echo b a) (.initial (.fresh 0)) checkTwice := by
  let c := (system {} 20).result (.initial (.fresh 0)) checkTwice (by decide)
  refine (duplicates_preceded_iff (c := c) (System.run_result _)).mp ?_
  rintro pid eventId ⟨p, hp, hv⟩ entry
  match pid with
  | 0 =>
      cases hp
      cases hv
  | 1 =>
      cases entry
      exact ⟨[_, _], _, [], rfl, rfl, _, List.mem_cons_of_mem _ List.mem_cons_self, by decide, rfl,
        rfl⟩
  | _ + 2 => cases hp

def loseReply : List RedisAction := [.start "e1", .resume 0 .replyLost, .resume 0 .reply]

/-- The call takes its own event for a duplicate. -/
theorem lost_reply_duplicates :
    let c := (system {} 20).result (.initial (.fresh 0)) loseReply (by decide)
    (system {} 20).Ended c 0 (.ok true) ∧ c.entries = ["e1"] ∧
      ¬ DuplicatesPreceded {} 20 c := by
  intro c
  have ended : (system {} 20).Ended c 0 (.ok true) := ⟨_, rfl, rfl⟩
  refine ⟨ended, rfl, fun preceded => ?_⟩
  obtain ⟨first, r, rest, split, _, r', hr', other, _⟩ := preceded 0 "e1" ended rfl
  have alone : c.trace.all (fun r => r.pid = 0) = true := rfl
  have there : r' ∈ c.trace := by
    rw [split]
    exact List.mem_append_left _ hr'
  exact other (by simpa using List.all_eq_true.mp alone r' there)

end RedisClient
end SalesforceTikTok
