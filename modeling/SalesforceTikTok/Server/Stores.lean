import SalesforceTikTok.Auth.TikTokOAuth
import SalesforceTikTok.Concurrency.Contract
import SalesforceTikTok.Delivery.Pipeline
import SalesforceTikTok.EventSet.CRMEventSetManager
import SalesforceTikTok.Listener.SalesforceCDC

/-!
# Stores behind the server

The stores of the components side by side, and what the routes add: the OAuth
states in Redis, the random generator and the HTTP responses. All Redis keys
live in one keyspace. The components write under prefixes of their own, so each
keeps its own table here; a command that reads or removes a key of unknown
origin looks at every table.
-/

namespace SalesforceTikTok

open Storage Concurrency

/-! ## Responses -/

/-- What a route sends: `res.status(status).json(body)` or `res.redirect(url)`. -/
inductive HttpResponse where
  | json (status : Nat) (body : JsValue)
  | redirect (url : String)

/-! ## Commands -/

inductive ServerCmd where
  | token (cmd : TokenCmd)
  | eventSet (cmd : EventSetCmd)
  | delivery (cmd : DeliveryCmd)
  | listener (cmd : ListenerCmd)
  /-- `randomBytes(32).toString('hex')`. -/
  | randomState
  /-- `redis.set(key, value, 'EX', ttlSeconds)` of an OAuth state. -/
  | setState (key value : String) (ttlSeconds : Int)
  /-- `redis.getdel(key)`. -/
  | getDelState (key : String)
  /-- A route sends its response. -/
  | respond (response : HttpResponse)

abbrev ServerCmd.Reply : ServerCmd → Type
  | .token cmd => cmd.Reply
  | .eventSet cmd => cmd.Reply
  | .delivery cmd => cmd.Reply
  | .listener cmd => cmd.Reply
  | .randomState => String
  | .setState _ _ _ => Unit
  | .getDelState _ => Option String
  | .respond _ => Unit

inductive ServerChoice where
  | ok
  | fail (error : JsError)
  | failAfter (error : JsError)
  | random (state : String)
  | token (choice : TokenChoice)
  | eventSet (choice : EventSetChoice)
  | delivery (choice : DeliveryChoice)
  | listener (choice : ListenerChoice)

/-! ## The stores -/

structure ServerWorld where
  token : TokenWorld
  eventSet : EventSetWorld
  delivery : DeliveryWorld
  listener : ListenerWorld
  /-- The Redis keys that hold OAuth states. -/
  states : Expiring String String

def ServerWorld.fresh (clock : Int) : ServerWorld where
  token := .fresh clock
  eventSet := .fresh clock
  delivery := .fresh clock
  listener := {}
  states := ∅

namespace ServerWorld

/-- Redis and Postgres read one clock, which all components share. -/
def clock (w : ServerWorld) : Int := w.token.clock

/-- The text under a key of the common keyspace. A deduplication key holds `'1'`, a copy of a
token its JSON text. -/
def redisGet (copyText : ActiveToken → String) (w : ServerWorld) (key : String) : Option String :=
  match w.states.get w.clock key with
  | some value => some value
  | none =>
      match w.eventSet.cache.get w.eventSet.clock key with
      | some eventSetId => some eventSetId
      | none =>
          match w.token.cache.get w.token.clock key with
          | some copy => some (copyText copy)
          | none => if w.delivery.holds key then some "1" else none

def redisDel (w : ServerWorld) (key : String) : ServerWorld :=
  { w with
    token := w.token.cacheDel key
    eventSet := { w.eventSet with cache := w.eventSet.cache.del key }
    delivery := { w.delivery with dedup := w.delivery.dedup.erase key }
    states := w.states.del key }

/-- `SET` replaces what the key held, of whatever origin. -/
def redisSet (w : ServerWorld) (key value : String) (ttlSeconds : Int) : ServerWorld :=
  { w.redisDel key with states := w.states.set key value (w.clock + ttlSeconds * 1000) }

def tick (w : ServerWorld) (elapsed : Nat) : ServerWorld :=
  { w with
    token := { w.token with clock := w.token.clock + elapsed }
    eventSet := { w.eventSet with clock := w.eventSet.clock + elapsed }
    delivery := { w.delivery with clock := w.delivery.clock + elapsed } }

end ServerWorld

/-- A Redis command answered regularly, or failing before or after its effect. -/
def ServerChoice.apply {α : Type} (choice : ServerChoice) (w : ServerWorld) (value : α)
    (effect : ServerWorld) : Option (Except JsError α × ServerWorld) :=
  match choice with
  | .ok => some (.ok value, effect)
  | .fail error => some (.error error, w)
  | .failAfter error => some (.error error, effect)
  | _ => none

def serverExec (env : Env) (copyText : ActiveToken → String) :
    (cmd : ServerCmd) → ServerChoice → ServerWorld →
      Option (Except JsError cmd.Reply × ServerWorld)
  | .token cmd, .token choice, w =>
      (tokenExec cmd choice w.token).map fun answer => (answer.1, { w with token := answer.2 })
  | .eventSet cmd, .eventSet choice, w =>
      (eventSetExec cmd choice w.eventSet).map fun answer =>
        (answer.1, { w with eventSet := answer.2 })
  | .delivery cmd, .delivery choice, w =>
      (deliveryExec env cmd choice w.delivery).map fun answer =>
        (answer.1, { w with delivery := answer.2 })
  | .listener cmd, .listener choice, w =>
      (listenerExec cmd choice w.listener).map fun answer =>
        (answer.1, { w with listener := answer.2 })
  | .randomState, .random state, w => some (.ok state, w)
  | .setState key value ttl, choice, w => choice.apply w () (w.redisSet key value ttl)
  | .getDelState key, choice, w => choice.apply w (w.redisGet copyText key) (w.redisDel key)
  | .respond _, .ok, w => some (.ok (), w)
  | _, _, _ => none

theorem ServerChoice.apply_cases {α : Type} {choice : ServerChoice} {w v effect : ServerWorld}
    {value : α} {reply : Except JsError α} (h : choice.apply w value effect = some (reply, v)) :
    (reply = .ok value ∧ v = effect) ∨ ∃ error, reply = .error error ∧ (v = w ∨ v = effect) := by
  cases choice with
  | ok => cases h; exact .inl ⟨rfl, rfl⟩
  | fail error => cases h; exact .inr ⟨error, rfl, .inl rfl⟩
  | failAfter error => cases h; exact .inr ⟨error, rfl, .inr rfl⟩
  | _ => cases h

/-- What an answered command has done: the commands of the components reach their own stores,
those of the routes Redis. -/
inductive ServerEffect (env : Env) (w : ServerWorld) :
    (cmd : ServerCmd) → ServerChoice → Except JsError cmd.Reply → ServerWorld → Prop where
  | token {cmd choice reply v} (he : tokenExec cmd choice w.token = some (reply, v)) :
      ServerEffect env w (.token cmd) (.token choice) reply { w with token := v }
  | eventSet {cmd choice reply v} (he : eventSetExec cmd choice w.eventSet = some (reply, v)) :
      ServerEffect env w (.eventSet cmd) (.eventSet choice) reply { w with eventSet := v }
  | delivery {cmd choice reply v} (he : deliveryExec env cmd choice w.delivery = some (reply, v)) :
      ServerEffect env w (.delivery cmd) (.delivery choice) reply { w with delivery := v }
  | listener {cmd choice reply v} (he : listenerExec cmd choice w.listener = some (reply, v)) :
      ServerEffect env w (.listener cmd) (.listener choice) reply { w with listener := v }
  | setState {key value ttl choice reply v} (effect : v = w ∨ v = w.redisSet key value ttl) :
      ServerEffect env w (.setState key value ttl) choice reply v
  | getDelState {key choice reply v} (effect : v = w ∨ v = w.redisDel key) :
      ServerEffect env w (.getDelState key) choice reply v
  | randomState {state} : ServerEffect env w .randomState (.random state) (.ok state) w
  | respond {response} : ServerEffect env w (.respond response) .ok (.ok ()) w

theorem serverExec_effect {env : Env} {copyText : ActiveToken → String} {cmd : ServerCmd}
    {choice : ServerChoice} {w v : ServerWorld} {reply : Except JsError cmd.Reply}
    (h : serverExec env copyText cmd choice w = some (reply, v)) :
    ServerEffect env w cmd choice reply v := by
  cases cmd with
  | token cmd =>
      cases choice with
      | token choice =>
          obtain ⟨_, he, same⟩ := Option.map_eq_some_iff.mp h
          cases same
          exact .token he
      | _ => cases h
  | eventSet cmd =>
      cases choice with
      | eventSet choice =>
          obtain ⟨_, he, same⟩ := Option.map_eq_some_iff.mp h
          cases same
          exact .eventSet he
      | _ => cases h
  | delivery cmd =>
      cases choice with
      | delivery choice =>
          obtain ⟨_, he, same⟩ := Option.map_eq_some_iff.mp h
          cases same
          exact .delivery he
      | _ => cases h
  | listener cmd =>
      cases choice with
      | listener choice =>
          obtain ⟨_, he, same⟩ := Option.map_eq_some_iff.mp h
          cases same
          exact .listener he
      | _ => cases h
  | randomState =>
      cases choice <;> cases h
      exact .randomState
  | setState key value ttl =>
      obtain ⟨_, effect⟩ | ⟨_, _, effect⟩ := ServerChoice.apply_cases h
      · exact .setState (.inr effect)
      · exact .setState effect
  | getDelState key =>
      obtain ⟨_, effect⟩ | ⟨_, _, effect⟩ := ServerChoice.apply_cases h
      · exact .getDelState (.inr effect)
      · exact .getDelState effect
  | respond response =>
      cases choice <;> cases h
      exact .respond

inductive ServerEvent where
  | tick (elapsed : Nat)
  /-- `removeOnComplete` / `removeOnFail` drop a finished job. -/
  | evict (jobId : String)

def serverEnv : ServerEvent → ServerWorld → Option ServerWorld
  | .tick elapsed, w => some (w.tick elapsed)
  | .evict jobId, w =>
      (deliveryEnv (.evict jobId) w.delivery).map fun delivery => { w with delivery := delivery }

abbrev serverRuntime (env : Env) (copyText : ActiveToken → String) :
    Runtime ServerCmd ServerCmd.Reply JsError ServerWorld ServerChoice ServerEvent where
  exec := serverExec env copyText
  env := serverEnv

abbrev ServerProg := Prog ServerCmd ServerCmd.Reply JsError

abbrev ServerRecord := Record ServerCmd ServerCmd.Reply JsError ServerChoice

abbrev ServerAnswer := Answer ServerCmd ServerCmd.Reply JsError

end SalesforceTikTok
