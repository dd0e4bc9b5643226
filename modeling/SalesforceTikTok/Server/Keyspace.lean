import SalesforceTikTok.Auth.Effects
import SalesforceTikTok.Delivery.Transitions
import SalesforceTikTok.EventSet.Transitions
import SalesforceTikTok.Server.Requests

/-!
# The keys of OAuth states

All components write to one Redis, each under a prefix of its own. The keys under
the prefix of OAuth states are therefore those of the states table, and only the
request that generated a state gives its key a value.
-/

namespace SalesforceTikTok

open Concurrency Storage
open TokenStore (stateKey)

/-! ## Prefixes -/

/-- Texts that differ where both have a character are different. -/
theorem append_ne_append {first second : String} (n : Nat)
    (short : n ≤ first.toList.length ∧ n ≤ second.toList.length)
    (differ : first.toList.take n ≠ second.toList.take n) (s t : String) :
    first ++ s ≠ second ++ t := by
  intro same
  have lists := congrArg (fun text => text.toList.take n) same
  simp only [String.toList_append, List.take_append_of_le_length short.1,
    List.take_append_of_le_length short.2] at lists
  exact differ lists

theorem stateKey_ne_token (state a : String) : stateKey state ≠ TokenStore.cacheKey a :=
  append_ne_append 8 (by decide) (by decide) state a

theorem stateKey_ne_eventSet (state a : String) :
    stateKey state ≠ CRMEventSetManager.cacheKey a :=
  append_ne_append 8 (by decide) (by decide) state a

theorem stateKey_ne_dedup (state eventId : String) :
    stateKey state ≠ DEDUP_KEY_PREFIX ++ eventId :=
  append_ne_append 8 (by decide) (by decide) state eventId

theorem stateKey_inj {state state' : String} : stateKey state = stateKey state' ↔ state = state' :=
  String.append_right_inj OAUTH_STATE_PREFIX

/-! ## What a component does to a key it does not write -/

theorem tokenExec_key {cmd : TokenCmd} {choice : TokenChoice} {w v : TokenWorld}
    {reply : Except JsError cmd.Reply} (h : tokenExec cmd choice w = some (reply, v)) :
    v.clock = w.clock ∧ ∀ key, (∀ value ttl, cmd ≠ .cacheSet key value ttl) →
      w.cache.get w.clock key = none → v.cache.get v.clock key = none := by
  rcases tokenExec_effect h with rfl | rfl
  · exact ⟨rfl, fun _ _ free => free⟩
  · cases cmd with
    | cacheSet key value ttl =>
        refine ⟨rfl, fun key' other free => ?_⟩
        have ne : key' ≠ key := fun same => other value ttl (by rw [same])
        exact (Expiring.get_set_ne ne _ _).trans free
    | cacheDel key => exact ⟨rfl, fun key' _ free => Expiring.get_del free⟩
    | _ => exact ⟨rfl, fun _ _ free => free⟩

theorem eventSetExec_key {cmd : EventSetCmd} {choice : EventSetChoice} {w v : EventSetWorld}
    {reply : Except JsError cmd.Reply} (h : eventSetExec cmd choice w = some (reply, v)) :
    v.clock = w.clock ∧ ∀ key, (∀ value ttl, cmd ≠ .cacheSet key value ttl) →
      w.cache.get w.clock key = none → v.cache.get v.clock key = none := by
  obtain ⟨clock, _, cache⟩ | ⟨key, eventSetId, ttl, rfl, rfl⟩ | ⟨row, rfl, rfl⟩ :=
    eventSetExec_effect h
  · exact ⟨clock, fun key _ free => by rwa [clock, cache]⟩
  · refine ⟨rfl, fun key' other free => ?_⟩
    have ne : key' ≠ key := fun same => other eventSetId ttl (by rw [same])
    exact (Expiring.get_set_ne ne _ _).trans free
  · exact ⟨rfl, fun _ _ free => free⟩

private theorem deliveryExec_key {env : Env} {cmd : DeliveryCmd} {choice : DeliveryChoice}
    {w v : DeliveryWorld} {reply : Except JsError cmd.Reply}
    (h : deliveryExec env cmd choice w = some (reply, v)) {key : String}
    (other : ∀ ttl, cmd ≠ .setNx key ttl) (free : w.holds key = false) : v.holds key = false := by
  have same {v : DeliveryWorld} (clock : v.clock = w.clock) (dedup : v.dedup = w.dedup) :
      v.holds key = false := by
    rwa [DeliveryWorld.holds_congr clock (by rw [dedup])]
  cases cmd with
  | now =>
      cases choice <;> cases h
      exact free
  | resolveEventSet a =>
      cases choice <;> cases h <;> exact free
  | setNx key' ttl =>
      have ne : key ≠ key' := fun same => other ttl (by rw [same])
      have written : (w.setNx key' ttl).2.holds key = false := by
        unfold DeliveryWorld.setNx
        split
        · exact free
        · split
          · exact free
          · have kept : DeliveryWorld.holds
                { w with dedup := w.dedup.insert key' (w.clock + ttl * 1000) } key = w.holds key :=
              DeliveryWorld.holds_congr rfl (AList.lookup_insert_ne ne)
            exact kept.trans free
      obtain ⟨_, same'⟩ | ⟨_, _, ⟨_, rfl⟩ | ⟨_, rfl⟩⟩ := faulty_cases h
      · rw [same'] at written
        exact written
      · exact free
      · exact written
  | insertLog eventId record =>
      obtain ⟨_, _, rfl⟩ | ⟨_, _, _, rfl | rfl⟩ := faulty_unit h
      · exact same rfl rfl
      · exact free
      · exact same rfl rfl
  | updateLog eventId status response error =>
      obtain ⟨_, _, rfl⟩ | ⟨_, _, _, rfl | rfl⟩ := faulty_unit h
      · exact same rfl rfl
      · exact free
      · exact same rfl rfl
  | acquire payload =>
      cases choice <;> cases h
      exact free
  | postEvents payload accessToken =>
      cases choice <;> cases h <;> exact free
  | addJob jobId data =>
      obtain ⟨_, same'⟩ | ⟨_, _, ⟨_, rfl⟩ | ⟨_, rfl⟩⟩ := faulty_cases h
      · cases same'
        exact same (w.addJob_clock jobId data) (w.addJob_dedup jobId data)
      · exact free
      · exact same (w.addJob_clock jobId data) (w.addJob_dedup jobId data)
  | takeJob jobId =>
      cases choice with
      | ok =>
          obtain ⟨⟨data, v'⟩, taken, same'⟩ := Option.map_eq_some_iff.mp h
          cases same'
          obtain ⟨job, _, _, rfl⟩ := DeliveryWorld.takeJob_spec taken
          exact same rfl rfl
      | _ => cases h
  | settleJob jobId succeeded =>
      cases choice <;> cases h
      exact same rfl rfl

/-! ## The states table -/

namespace ServerWorld

/-- No other component holds a key under the prefix of OAuth states. -/
structure Apart (w : ServerWorld) : Prop where
  eventSets : ∀ state, w.eventSet.cache.get w.eventSet.clock (stateKey state) = none
  tokens : ∀ state, w.token.cache.get w.token.clock (stateKey state) = none
  dedup : ∀ state, w.delivery.holds (stateKey state) = false

def Live (w : ServerWorld) (state value : String) (expiry : Int) : Prop :=
  w.states.lookup (stateKey state) = some (value, expiry) ∧ w.clock < expiry

theorem redisGet_of_apart {w : ServerWorld} (apart : w.Apart) (copyText : ActiveToken → String)
    (state : String) :
    w.redisGet copyText (stateKey state) = w.states.get w.clock (stateKey state) := by
  unfold redisGet
  rw [apart.eventSets, apart.tokens, apart.dedup]
  cases w.states.get w.clock (stateKey state) <;> rfl

/-- Before any state was issued, nothing is stored under its key. -/
theorem apart_of_unissued {w : ServerWorld} {copyText : ActiveToken → String}
    (unissued : ∀ state, w.redisGet copyText (stateKey state) = none) :
    w.Apart ∧ ∀ state, w.states.get w.clock (stateKey state) = none := by
  have each (state : String) : w.states.get w.clock (stateKey state) = none ∧
      w.eventSet.cache.get w.eventSet.clock (stateKey state) = none ∧
      w.token.cache.get w.token.clock (stateKey state) = none ∧
      w.delivery.holds (stateKey state) = false := by
    have none := unissued state
    unfold redisGet at none
    cases stored : w.states.get w.clock (stateKey state) with
    | some value => simp [stored] at none
    | none =>
        cases cached : w.eventSet.cache.get w.eventSet.clock (stateKey state) with
        | some id => simp [stored, cached] at none
        | none =>
            cases copied : w.token.cache.get w.token.clock (stateKey state) with
            | some copy => simp [stored, cached, copied] at none
            | none => simpa [stored, cached, copied] using none
  exact ⟨⟨fun s => (each s).2.1, fun s => (each s).2.2.1, fun s => (each s).2.2.2⟩,
    fun s => (each s).1⟩

theorem not_live_of_get {w : ServerWorld} {state : String}
    (free : w.states.get w.clock (stateKey state) = none) (value : String) (expiry : Int) :
    ¬ w.Live state value expiry := by
  rintro ⟨stored, live⟩
  rw [Expiring.get_eq_some.mpr ⟨expiry, stored, live⟩] at free
  cases free

theorem Apart.redisDel {w : ServerWorld} (apart : w.Apart) (key : String) :
    (w.redisDel key).Apart where
  eventSets state := Expiring.get_del (apart.eventSets state)
  tokens state := Expiring.get_del (apart.tokens state)
  dedup state := by
    have free := apart.dedup state
    by_cases same : stateKey state = key
    · subst same
      simp [ServerWorld.redisDel, DeliveryWorld.holds]
    · have kept : (w.redisDel key).delivery.holds (stateKey state) =
          w.delivery.holds (stateKey state) :=
        DeliveryWorld.holds_congr rfl (AList.lookup_erase_ne same)
      exact kept.trans free

theorem Apart.redisSet {w : ServerWorld} (apart : w.Apart) (key value : String) (ttl : Int) :
    (w.redisSet key value ttl).Apart :=
  ⟨(apart.redisDel key).eventSets, (apart.redisDel key).tokens, (apart.redisDel key).dedup⟩

/-- What is live after a deletion was live before, under another key. -/
theorem live_of_redisDel {w : ServerWorld} {key state value : String} {expiry : Int}
    (h : (w.redisDel key).Live state value expiry) :
    stateKey state ≠ key ∧ w.Live state value expiry := by
  obtain ⟨stored, live⟩ := h
  refine ⟨?_, Expiring.lookup_of_del stored, live⟩
  rintro rfl
  rw [show (w.redisDel (stateKey state)).states = w.states.del (stateKey state) from rfl,
    Expiring.lookup_del] at stored
  cases stored

theorem live_of_redisSet {w : ServerWorld} {state text value : String} {ttl expiry : Int}
    (h : (w.redisSet (stateKey state) text ttl).Live state value expiry) :
    value = text ∧ expiry = w.clock + ttl * 1000 := by
  have stored := h.1
  rw [show (w.redisSet (stateKey state) text ttl).states =
    w.states.set (stateKey state) text (w.clock + ttl * 1000) from rfl,
    Expiring.set, AList.lookup_insert] at stored
  cases stored
  exact ⟨rfl, rfl⟩

theorem le_later (clock : Int) (elapsed : Nat) : clock ≤ clock + elapsed := by omega

theorem Apart.tick {w : ServerWorld} (apart : w.Apart) (elapsed : Nat) :
    (w.tick elapsed).Apart where
  eventSets state := Expiring.get_later (le_later _ elapsed) (apart.eventSets state)
  tokens state := Expiring.get_later (le_later _ elapsed) (apart.tokens state)
  dedup state := DeliveryWorld.free_later (apart.dedup state) elapsed

theorem live_of_tick {w : ServerWorld} {elapsed : Nat} {state value : String} {expiry : Int}
    (h : (w.tick elapsed).Live state value expiry) : w.Live state value expiry := by
  obtain ⟨stored, live⟩ := h
  exact ⟨stored, Int.lt_of_le_of_lt (le_later w.token.clock elapsed) live⟩

/-- Time and the removal of jobs leave the keys apart and revive no state. -/
theorem env_states {event : ServerEvent} {w v : ServerWorld} (h : serverEnv event w = some v)
    (apart : w.Apart) : v.Apart ∧ ∀ state value expiry, v.Live state value expiry →
      w.Live state value expiry := by
  cases event with
  | tick elapsed =>
      cases h
      exact ⟨apart.tick elapsed, fun _ _ _ => live_of_tick⟩
  | evict jobId =>
      obtain ⟨delivery, he, rfl⟩ := Option.map_eq_some_iff.mp h
      have free (key : String) (free : w.delivery.holds key = false) :
          delivery.holds key = false := by
        rcases deliveryEnv_cases he with ⟨elapsed, rfl⟩ | ⟨jobId', rfl⟩
        · exact DeliveryWorld.free_later free elapsed
        · exact free
      exact ⟨⟨apart.eventSets, apart.tokens, fun state => free _ (apart.dedup state)⟩,
        fun _ _ _ live => live⟩

theorem enter_states {call : ServerCall} {w v : ServerWorld} (h : Server.enter call w = some v)
    (apart : w.Apart) : v.Apart ∧ ∀ state value expiry, v.Live state value expiry →
      w.Live state value expiry := by
  cases call with
  | message rawMessage =>
      cases h
      exact ⟨⟨apart.eventSets, apart.tokens, apart.dedup⟩, fun _ _ _ live => live⟩
  | refreshOne a =>
      obtain ⟨token, he, rfl⟩ := Option.map_eq_some_iff.mp h
      simp only [TokenCall.enter] at he
      split at he <;> cases he
      exact ⟨⟨apart.eventSets, apart.tokens, apart.dedup⟩, fun _ _ _ live => live⟩
  | _ =>
      cases h
      exact ⟨apart, fun _ _ _ live => live⟩

end ServerWorld

open ServerWorld in
/-- A command that a call may await leaves the keys apart; it gives a value only to the key
of the state it stores. -/
theorem exec_states {S : Server} {call : ServerCall} {history : List ServerAnswer}
    {cmd : ServerCmd} {choice : ServerChoice} {w v : ServerWorld}
    {reply : Except JsError cmd.Reply} (asked : S.Asks call history cmd)
    (h : serverExec S.env S.copyText cmd choice w = some (reply, v)) (apart : w.Apart) :
    v.Apart ∧ ∀ state, (∀ value ttl, cmd ≠ .setState (stateKey state) value ttl) →
      ∀ value expiry, v.Live state value expiry → w.Live state value expiry := by
  have untouched {v : ServerWorld} (apart : v.Apart) (states : v.states = w.states)
      (clock : v.clock = w.clock) : v.Apart ∧ ∀ state,
        (∀ value ttl, cmd ≠ .setState (stateKey state) value ttl) →
          ∀ value expiry, v.Live state value expiry → w.Live state value expiry := by
    refine ⟨apart, fun state _ value expiry live => ?_⟩
    rwa [Live, states, clock] at live
  cases serverExec_effect h with
  | token he =>
      obtain ⟨clock, keys⟩ := tokenExec_key he
      refine untouched ⟨apart.eventSets, fun state => ?_, apart.dedup⟩ rfl clock
      refine keys _ ?_ (apart.tokens state)
      rintro value ttl rfl
      obtain ⟨a, same⟩ := asked
      exact stateKey_ne_token state a same
  | eventSet he =>
      obtain ⟨clock, keys⟩ := eventSetExec_key he
      refine untouched ⟨fun state => ?_, apart.tokens, apart.dedup⟩ rfl rfl
      refine keys _ ?_ (apart.eventSets state)
      rintro value ttl rfl
      obtain ⟨a, same⟩ := asked
      exact stateKey_ne_eventSet state a same
  | delivery he =>
      refine untouched ⟨apart.eventSets, apart.tokens, fun state => ?_⟩ rfl rfl
      refine deliveryExec_key he ?_ (apart.dedup state)
      rintro ttl rfl
      obtain ⟨eventId, same⟩ := asked
      exact stateKey_ne_dedup state eventId same
  | listener he => exact untouched ⟨apart.eventSets, apart.tokens, apart.dedup⟩ rfl rfl
  | @setState key value ttl _ _ _ effect =>
      rcases effect with rfl | rfl
      · exact untouched apart rfl rfl
      · refine ⟨apart.redisSet key value ttl, fun state other value' expiry live => ?_⟩
        have ne : stateKey state ≠ key := fun same => other value ttl (by rw [same])
        exact ⟨(Expiring.lookup_set_ne ne _ _).symm.trans live.1, live.2⟩
  | @getDelState key _ _ _ effect =>
      rcases effect with rfl | rfl
      · exact untouched apart rfl rfl
      · exact ⟨apart.redisDel key, fun _ _ _ _ live => (live_of_redisDel live).2⟩
  | _ => exact untouched apart rfl rfl

end SalesforceTikTok
