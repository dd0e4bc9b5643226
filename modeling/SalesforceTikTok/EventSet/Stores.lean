import SalesforceTikTok.Concurrency.Contract
import SalesforceTikTok.Core.Types
import SalesforceTikTok.Storage.Expiring

/-!
# Stores behind the event sets

The Postgres table of selected event sets, the Redis copies of their ids, the
sets that exist at TikTok and the clock, with the effect of every command the
event set manager awaits. A store command may be answered regularly, fail
without effect, or fail after its effect took place. TikTok lists the sets it
has, or answers as it pleases; a set it creates exists from then on, also when
the reply is lost.
-/

namespace SalesforceTikTok

open Storage

/-! ## Event set types -/

structure CRMEventSet where
  eventSetId : String
  name : String
  advertiserId : String
  /-- Seconds. -/
  createTime : Int
  updateTime : Int
  deriving DecidableEq, Repr

/-- A response of `/crm/list/`; the list is `data?.list`. -/
structure CRMListResponse where
  code : Int
  message : String
  list : Option (List CRMEventSet)
  deriving DecidableEq, Repr

/-- A response of `/crm/create/`. -/
structure CRMCreateResponse where
  code : Int
  message : String
  eventSetId : String
  name : String
  deriving DecidableEq, Repr

inductive EventSetSource where
  | autoCreated
  | autoSelected
  | manuallySelected
  | envFallback
  deriving DecidableEq, Repr

/-- One row of `advertiser_event_sets`; `advertiser_id` is the table's primary key. -/
structure AdvertiserEventSet where
  advertiserId : String
  eventSetId : String
  eventSetName : String
  source : EventSetSource
  deriving DecidableEq, Repr

inductive ProvisionResult where
  | selectedExisting (eventSet : CRMEventSet)
  | createdNew (eventSet : CRMEventSet)
  | multipleFound (eventSets : List CRMEventSet)
  | error (message : String)
  deriving DecidableEq, Repr

/-! ## Commands -/

inductive EventSetCmd where
  /-- `Date.now()` and `new Date()`. -/
  | now
  /-- `axios.get('…/crm/list/', …)`. -/
  | listSets (advertiserId accessToken : String)
  /-- `axios.post('…/crm/create/', …)`. -/
  | createSet (advertiserId accessToken name : String)
  /-- `redis.get(key)`. -/
  | cacheGet (key : String)
  /-- `redis.set(key, eventSetId, 'EX', ttlSeconds)`. -/
  | cacheSet (key eventSetId : String) (ttlSeconds : Int)
  /-- `SELECT event_set_id … WHERE advertiser_id = $1 LIMIT 1`. -/
  | selectId (advertiserId : String)
  /-- `INSERT INTO advertiser_event_sets … ON CONFLICT (advertiser_id) DO UPDATE …`. -/
  | upsertSet (row : AdvertiserEventSet)
  deriving DecidableEq

abbrev EventSetCmd.Reply : EventSetCmd → Type
  | .now => Int
  | .listSets _ _ => CRMListResponse
  | .createSet _ _ _ => CRMCreateResponse
  | .cacheGet _ | .selectId _ => Option String
  | .cacheSet _ _ _ | .upsertSet _ => Unit

inductive EventSetChoice where
  | ok
  | fail (error : JsError)
  | failAfter (error : JsError)
  | listed (response : CRMListResponse)
  | created (response : CRMCreateResponse)
  /-- The set was created, the reply lost. -/
  | createdUnseen (response : CRMCreateResponse) (error : JsError)
  deriving DecidableEq

/-! ## The stores -/

structure EventSetWorld where
  /-- Milliseconds. -/
  clock : Int
  /-- The Redis copies, by key. -/
  cache : Expiring String String
  /-- `advertiser_event_sets`. -/
  rows : AList fun _ : String => AdvertiserEventSet
  /-- The sets that exist at TikTok, in order of creation. -/
  sets : List CRMEventSet

def EventSetWorld.fresh (clock : Int) : EventSetWorld := ⟨clock, ∅, ∅, []⟩

namespace EventSetWorld

def setsOf (w : EventSetWorld) (advertiserId : String) : List CRMEventSet :=
  w.sets.filter fun eventSet => eventSet.advertiserId = advertiserId

def cacheSet (w : EventSetWorld) (key eventSetId : String) (ttlSeconds : Int) : EventSetWorld :=
  { w with cache := w.cache.set key eventSetId (w.clock + ttlSeconds * 1000) }

def upsertSet (w : EventSetWorld) (row : AdvertiserEventSet) : EventSetWorld :=
  { w with rows := w.rows.insert row.advertiserId row }

def createdSet (w : EventSetWorld) (advertiserId : String) (response : CRMCreateResponse) :
    CRMEventSet where
  eventSetId := response.eventSetId
  name := response.name
  advertiserId := advertiserId
  createTime := w.clock / 1000
  updateTime := w.clock / 1000

def create (w : EventSetWorld) (advertiserId : String) (response : CRMCreateResponse) :
    EventSetWorld :=
  if response.code = 0 then { w with sets := w.sets ++ [w.createdSet advertiserId response] }
  else w

@[simp]
theorem clock_create (w : EventSetWorld) (a : String) (response : CRMCreateResponse) :
    (w.create a response).clock = w.clock := by
  unfold create
  split <;> rfl

@[simp]
theorem rows_create (w : EventSetWorld) (a : String) (response : CRMCreateResponse) :
    (w.create a response).rows = w.rows := by
  unfold create
  split <;> rfl

@[simp]
theorem cache_create (w : EventSetWorld) (a : String) (response : CRMCreateResponse) :
    (w.create a response).cache = w.cache := by
  unfold create
  split <;> rfl

/-- An answer to a creation for one advertiser leaves the sets of the others. -/
theorem setsOf_create (w : EventSetWorld) (a b : String) (response : CRMCreateResponse) :
    (w.create b response).setsOf a =
      if response.code = 0 ∧ b = a then w.setsOf a ++ [w.createdSet a response]
      else w.setsOf a := by
  unfold create
  by_cases code : response.code = 0
  · by_cases same : b = a
    · subst same
      rw [if_pos code, if_pos ⟨code, rfl⟩]
      simp [setsOf, createdSet]
    · rw [if_pos code, if_neg fun h => same h.2]
      simp [setsOf, createdSet, same]
  · rw [if_neg code, if_neg fun h => code h.1]

def selectId (w : EventSetWorld) (advertiserId : String) : Option String :=
  (w.rows.lookup advertiserId).map (·.eventSetId)

end EventSetWorld

/-- A store command answered regularly, or failing before or after its effect. -/
def EventSetChoice.apply {α : Type} (choice : EventSetChoice) (w : EventSetWorld) (value : α)
    (effect : EventSetWorld) : Option (Except JsError α × EventSetWorld) :=
  match choice with
  | .ok => some (.ok value, effect)
  | .fail error => some (.error error, w)
  | .failAfter error => some (.error error, effect)
  | _ => none

def eventSetExec : (cmd : EventSetCmd) → EventSetChoice → EventSetWorld →
    Option (Except JsError cmd.Reply × EventSetWorld)
  | .now, .ok, w => some (.ok w.clock, w)
  | .listSets advertiserId _, .ok, w =>
      some (.ok { code := 0, message := "OK", list := some (w.setsOf advertiserId) }, w)
  | .listSets _ _, .listed response, w => some (.ok response, w)
  | .listSets _ _, .fail error, w => some (.error error, w)
  | .createSet advertiserId _ _, .created response, w =>
      some (.ok response, w.create advertiserId response)
  | .createSet advertiserId _ _, .createdUnseen response error, w =>
      some (.error error, w.create advertiserId response)
  | .createSet _ _ _, .fail error, w => some (.error error, w)
  | .cacheGet key, choice, w => choice.apply w (w.cache.get w.clock key) w
  | .cacheSet key eventSetId ttl, choice, w => choice.apply w () (w.cacheSet key eventSetId ttl)
  | .selectId advertiserId, choice, w => choice.apply w (w.selectId advertiserId) w
  | .upsertSet row, choice, w => choice.apply w () (w.upsertSet row)
  | _, _, _ => none

inductive EventSetEvent where
  | tick (elapsed : Nat)

def eventSetEnv : EventSetEvent → EventSetWorld → Option EventSetWorld
  | .tick elapsed, w => some { w with clock := w.clock + elapsed }

abbrev eventSetRuntime :
    Concurrency.Runtime EventSetCmd EventSetCmd.Reply JsError EventSetWorld EventSetChoice
      EventSetEvent where
  exec := eventSetExec
  env := eventSetEnv

abbrev EventSetProg := Concurrency.Prog EventSetCmd EventSetCmd.Reply JsError

abbrev EventSetRecord := Concurrency.Record EventSetCmd EventSetCmd.Reply JsError EventSetChoice

abbrev EventSetAnswer := Concurrency.Answer EventSetCmd EventSetCmd.Reply JsError

end SalesforceTikTok
