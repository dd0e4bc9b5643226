import SalesforceTikTok.EventSet.Stores

/-!
# The event set manager

`CRMEventSetManager`, statement by statement: every `await` of the source is one
command, every `try` one handler, and so is every reading of the clock, which
only admits more interleavings.
-/

namespace SalesforceTikTok

open Concurrency

abbrev manage (cmd : EventSetCmd) : EventSetProg cmd.Reply := Prog.call cmd

def EVENT_SET_CACHE_PREFIX : String := "tiktok:event_set:"

def EVENT_SET_CACHE_TTL : Int := 3600

structure CRMEventSetManager where
  env : Env
  /-- `new Date(now).toISOString().slice(0, 10)`. -/
  isoDate : Int → String

namespace CRMEventSetManager

def cacheKey (advertiserId : String) : String := EVENT_SET_CACHE_PREFIX ++ advertiserId

def refused (code : Int) (message context : String) : JsError where
  message :=
    "TikTok " ++ context ++ " failed: code=" ++ toString code ++ " message=" ++ message

def assertSuccess (code : Int) (message context : String) : EventSetProg Unit :=
  if code ≠ 0 then throw (refused code message context) else return

def list (advertiserId accessToken : String) : EventSetProg (List CRMEventSet) := do
  let response : CRMListResponse ← manage (.listSets advertiserId accessToken)
  assertSuccess response.code response.message "CRM event set list"
  return response.list.getD []

/-- `create` with its name argument in hand. -/
def createNamed (advertiserId accessToken name : String) : EventSetProg CRMEventSet := do
  let response : CRMCreateResponse ← manage (.createSet advertiserId accessToken name)
  assertSuccess response.code response.message "CRM event set create"
  let created : Int ← manage .now
  let updated : Int ← manage .now
  return {
    eventSetId := response.eventSetId, name := response.name, advertiserId := advertiserId,
    createTime := created / 1000, updateTime := updated / 1000 }

def defaultName (M : CRMEventSetManager) (now : Int) : String :=
  "Salesforce CRM Events — " ++ M.isoDate now

def create (M : CRMEventSetManager) (advertiserId accessToken : String) (name : Option String) :
    EventSetProg CRMEventSet :=
  match name with
  | some name => createNamed advertiserId accessToken name
  | none => do
      let now : Int ← manage .now
      createNamed advertiserId accessToken (M.defaultName now)

/-- The row `store` writes. -/
def storedRow (advertiserId : String) (eventSet : CRMEventSet) (source : EventSetSource) :
    AdvertiserEventSet where
  advertiserId := advertiserId
  eventSetId := eventSet.eventSetId
  eventSetName := eventSet.name
  source := source

/-- `redis.set(…).catch(() => {})`. -/
def warmCache (advertiserId eventSetId : String) : EventSetProg Unit := do
  try
    manage (.cacheSet (cacheKey advertiserId) eventSetId EVENT_SET_CACHE_TTL)
  catch _ =>
    pure ()

def store (advertiserId : String) (eventSet : CRMEventSet) (source : EventSetSource) :
    EventSetProg Unit := do
  manage (.upsertSet (storedRow advertiserId eventSet source))
  warmCache advertiserId eventSet.eventSetId

def provision (M : CRMEventSetManager) (advertiserId accessToken : String)
    (eventSetName : Option String) : EventSetProg ProvisionResult := do
  try
    let existing ← list advertiserId accessToken
    match existing with
    | [] =>
        let created ← M.create advertiserId accessToken eventSetName
        store advertiserId created .autoCreated
        pure (.createdNew created)
    | [eventSet] =>
        store advertiserId eventSet .autoSelected
        pure (.selectedExisting eventSet)
    | _ => pure (.multipleFound existing)
  catch error =>
    pure (.error error.message)

/-- The cached id, where it is truthy; a failing Redis counts as a miss. -/
def fromCache (advertiserId : String) : EventSetProg (Option String) := do
  try
    let cached : Option String ← manage (.cacheGet (cacheKey advertiserId))
    if truthy cached then pure cached else pure none
  catch _ =>
    pure none

def noEventSet (advertiserId : String) : JsError where
  message :=
    "No CRM event set found for advertiser " ++ advertiserId ++ ". " ++
      "Complete provisioning at POST /event-sets/" ++ advertiserId ++ "/provision " ++
      "or set TIKTOK_CRM_EVENT_SET_ID in your environment."

/-- The id `resolve` falls back on without a row. -/
def fallback (M : CRMEventSetManager) (advertiserId : String) : EventSetProg String :=
  match M.env.TIKTOK_CRM_EVENT_SET_ID with
  | some id => if id = "" then throw (noEventSet advertiserId) else return id
  | none => throw (noEventSet advertiserId)

def resolve (M : CRMEventSetManager) (advertiserId : String) : EventSetProg String := do
  let cached ← fromCache advertiserId
  match cached with
  | some cached => return cached
  | none =>
      let row : Option String ← manage (.selectId advertiserId)
      match row with
      | some id =>
          warmCache advertiserId id
          return id
      | none => M.fallback advertiserId

def notFound (advertiserId eventSetId : String) : JsError where
  message := "Event set " ++ eventSetId ++ " not found for advertiser " ++ advertiserId

def select (advertiserId eventSetId accessToken : String) : EventSetProg CRMEventSet := do
  let sets ← list advertiserId accessToken
  match sets.find? fun eventSet => eventSet.eventSetId = eventSetId with
  | none => throw (notFound advertiserId eventSetId)
  | some selected =>
      store advertiserId selected .manuallySelected
      return selected

end CRMEventSetManager

/-! ## The calls -/

inductive EventSetCall where
  | list (advertiserId accessToken : String)
  | create (advertiserId accessToken : String) (name : Option String)
  | provision (advertiserId accessToken : String) (eventSetName : Option String)
  | select (advertiserId eventSetId accessToken : String)
  | resolve (advertiserId : String)
  deriving DecidableEq

inductive EventSetResult where
  | listed (eventSets : List CRMEventSet)
  | created (eventSet : CRMEventSet)
  | provisioned (result : ProvisionResult)
  | selected (eventSet : CRMEventSet)
  | resolved (eventSetId : String)
  deriving DecidableEq

namespace CRMEventSetManager

variable (M : CRMEventSetManager)

def program : EventSetCall → EventSetProg EventSetResult
  | .list a token => .listed <$> list a token
  | .create a token name => .created <$> M.create a token name
  | .provision a token name => .provisioned <$> M.provision a token name
  | .select a id token => .selected <$> select a id token
  | .resolve a => .resolved <$> M.resolve a

def system : System eventSetRuntime EventSetResult EventSetCall (EventSetProg EventSetResult) where
  view := Prog.view
  launch call w := some (M.program call, w)

end CRMEventSetManager
end SalesforceTikTok
