import Mathlib.Data.List.Infix
import SalesforceTikTok.Server.Stores

/-!
# The server

The routes of the OAuth and event-set routers, the callback of the CDC listener,
the runs of queued jobs and the proactive refresher, wired as `bootstrap` wires
them: one token store, one event-set manager, a pipeline that asks it for event
sets, and two API clients without a token resolver. Every handler is the source's
statement by statement; the programs of the components run inside it. `bootstrap`
has the start of the refresher commented out; with its calls the server can only do
more.
-/

namespace SalesforceTikTok

open Concurrency

/-! ## Requests -/

/-- A value of `req.query`. -/
inductive QueryValue where
  | text (value : String)
  | array (items : List QueryValue)
  | object (fields : List (String × QueryValue))

def cannotConvert : JsError where
  message := "Cannot convert object to primitive value"

mutual

/-- The value in a template literal. An object with a parameter called `toString` has no
callable conversion left. -/
def QueryValue.toText : QueryValue → Except JsError String
  | .text value => .ok value
  | .array items => QueryValue.join items
  | .object fields =>
      if fields.any (fun field => field.1 = "toString") then .error cannotConvert
      else .ok "[object Object]"

/-- `Array.prototype.join`. -/
def QueryValue.join : List QueryValue → Except JsError String
  | [] => .ok ""
  | [item] => item.toText
  | item :: rest => do
      let first ← item.toText
      let others ← QueryValue.join rest
      return first ++ "," ++ others

end

def QueryValue.present : Option QueryValue → Option QueryValue
  | some (.text value) => if value = "" then none else some (.text value)
  | value => value

structure CallbackQuery where
  authCode : Option QueryValue
  state : Option QueryValue
  error : Option QueryValue

/-- `error === 'access_denied'`. -/
def CallbackQuery.denied (query : CallbackQuery) : Bool :=
  match query.error with
  | some (.text error) => error = "access_denied"
  | _ => false

/-- A JSON body, as its fields; an array has none of the fields a route reads. -/
abbrev RequestBody := List (String × JsValue)

def RequestBody.get (body : RequestBody) (name : String) : JsValue :=
  (body.lookup name).getD .undefined

def JsValue.nonEmptyText : JsValue → Option String
  | .string value => if value = "" then none else some value
  | _ => none

/-- `String.prototype.includes`. -/
def includes (s part : String) : Bool := decide (part.toList <:+: s.toList)

/-! ## Configuration -/

/-- The server with its configuration and the host functions its routes call. -/
structure Server where
  platform : Platform
  env : Env
  TIKTOK_APP_ID : String
  TIKTOK_REDIRECT_URI : String
  /-- `new Date(now).toISOString().slice(0, 10)`. -/
  isoDate : Int → String
  /-- `new Date(now).toISOString()`. -/
  isoTime : Int → String
  /-- The JSON text of a cached token. -/
  copyText : ActiveToken → String
  /-- `new URLSearchParams(params).toString()`. -/
  searchParams : List (String × String) → String
  /-- The JSON text of a query value that is not a string. -/
  queryText : QueryValue → String
  /-- The JSON text of a body value that is not a string. -/
  bodyText : JsValue → String

abbrev serve (cmd : ServerCmd) : ServerProg cmd.Reply := Prog.call cmd

def respond (response : HttpResponse) : ServerProg Unit := serve (.respond response)

def errorBody (error : String) : JsValue := .object [("error", .string error)]

def detailsBody (error details : String) : JsValue :=
  .object [("error", .string error), ("details", .string details)]

def countOf {α : Type} (items : List α) : JsValue := .number (.int items.length)

def textsOf (items : List String) : JsValue := .array (items.map .string)

def CRMEventSet.body (eventSet : CRMEventSet) : JsValue :=
  .object [("event_set_id", .string eventSet.eventSetId), ("name", .string eventSet.name),
    ("advertiser_id", .string eventSet.advertiserId),
    ("create_time", .number (.int eventSet.createTime)),
    ("update_time", .number (.int eventSet.updateTime))]

/-! ## The components inside the server -/

def onTokens {α : Type} (program : TokenProg α) : ServerProg α :=
  program.handle fun cmd => serve (.token cmd)

def onEventSets {α : Type} (program : EventSetProg α) : ServerProg α :=
  program.handle fun cmd => serve (.eventSet cmd)

def OAUTH_STATE_PREFIX : String := "tiktok:oauth:state:"

def OAUTH_STATE_TTL_SECONDS : Int := 10 * 60

structure StoredState where
  value : String
  redirectAfter : Option String := none

namespace TokenStore

def stateKey (state : String) : String := OAUTH_STATE_PREFIX ++ state

def storeState (state : String) : ServerProg Unit :=
  serve (.setState (stateKey state) state OAUTH_STATE_TTL_SECONDS)

def storedState : Option String → Option StoredState
  | some value => if value = "" then none else some { value := value }
  | none => none

def getAndDeleteState (state : QueryValue) : ServerProg (Option StoredState) :=
  match state.toText with
  | .error error => throw error
  | .ok text => do
      let value : Option String ← serve (.getDelState (stateKey text))
      return storedState value

theorem getAndDeleteState_unreadable {α : Type} {state : QueryValue} {error : JsError}
    (unread : state.toText = .error error) (next : Option StoredState → ServerProg α) :
    getAndDeleteState state >>= next = .fail error := by
  rw [getAndDeleteState, unread]
  rfl

theorem getAndDeleteState_bind {α : Type} {state : QueryValue} {text : String}
    (read : state.toText = .ok text) (next : Option StoredState → ServerProg α) :
    getAndDeleteState state >>= next = .await (.getDelState (stateKey text)) fun
      | .ok value => next (storedState value)
      | .error error => .fail error := by
  rw [getAndDeleteState, read]
  show Prog.await _ _ = Prog.await _ _
  congr
  funext reply
  cases reply <;> rfl

end TokenStore

namespace Server

variable (S : Server)

def pipeline : Pipeline := ⟨S.platform, S.env, true⟩

def manager : CRMEventSetManager := ⟨S.env, S.isoDate⟩

/-- The pipeline asks the event-set manager; its other commands go to its own stores. -/
def delivery : (cmd : DeliveryCmd) → ServerProg cmd.Reply
  | .resolveEventSet advertiserId => onEventSets (S.manager.resolve advertiserId)
  | cmd => serve (.delivery cmd)

def onDeliveries {α : Type} (program : DeliveryProg α) : ServerProg α :=
  program.handle S.delivery

def listener : (cmd : ListenerCmd) → ServerProg cmd.Reply
  | .onEvent cdcEvent lead => S.onDeliveries (S.pipeline.process cdcEvent lead)
  | cmd => serve (.listener cmd)

def onMessages {α : Type} (program : ListenerProg α) : ServerProg α :=
  program.handle S.listener

/-! ## OAuth routes -/

/-- `buildAuthorizationUrl(env.TIKTOK_REDIRECT_URI, state)`. -/
def authorizationUrl (state : String) : String :=
  "https://ads.tiktok.com/marketing_api/auth?" ++
    S.searchParams [("app_id", S.TIKTOK_APP_ID), ("redirect_uri", S.TIKTOK_REDIRECT_URI),
      ("state", state)]

/-- `createHash('sha256').update(value)` throws for what is not a string. -/
def verifyState (receivedState : QueryValue) (expectedState : String) : Except JsError Unit :=
  match receivedState with
  | .text received =>
      if S.platform.sha256Hex received = S.platform.sha256Hex expectedState then .ok ()
      else .error { message := "OAuth state mismatch — possible CSRF attack" }
  | _ =>
      .error {
        message := "The \"data\" argument must be of type string"
        code := some "ERR_INVALID_ARG_TYPE" }

def initiate : ServerProg Unit := do
  try
    let state : String ← serve .randomState
    let url := S.authorizationUrl state
    TokenStore.storeState state
    respond (.redirect url)
  catch _ =>
    respond (.json 500 (errorBody "Failed to initiate OAuth flow"))

/-- The `auth_code` of the token request. -/
def authCodeText : QueryValue → String
  | .text value => value
  | value => S.queryText value

def authorized (stored : StoredState) (advertiserIds : List String) : HttpResponse :=
  if truthy stored.redirectAfter then
    .redirect (stored.redirectAfter.getD "" ++ "?authorized=true&advertiser_ids=" ++
      ",".intercalate advertiserIds)
  else
    .json 200 (.object [("advertiser_ids", textsOf advertiserIds),
      ("message", .string ("Successfully authorized " ++ toString advertiserIds.length ++
        " advertiser account(s)"))])

/-- The last `try` of the callback. -/
def exchange (authCode : QueryValue) (stored : StoredState) : ServerProg Unit := do
  try
    let tokens ← onTokens (TikTokOAuthClient.exchangeAuthCode (S.authCodeText authCode))
    respond (authorized stored (tokens.map (·.advertiserId)))
  catch _ =>
    respond (.json 500 (errorBody "Token exchange failed"))

def verify (authCode state : QueryValue) : Option StoredState → ServerProg Unit
  | none => respond (.json 400 (errorBody "State expired or not found — restart OAuth flow"))
  | some stored =>
      match S.verifyState state stored.value with
      | .error _ => respond (.json 403 (errorBody "State mismatch — possible CSRF attack"))
      | .ok _ => S.exchange authCode stored

/-- GET /auth/tiktok/callback. The state is consumed outside of any `try`. -/
def callback (query : CallbackQuery) : ServerProg Unit :=
  if query.denied then respond (.json 400 (errorBody "Authorization denied by user"))
  else
    match QueryValue.present query.authCode with
    | none => respond (.json 400 (errorBody "Missing auth_code in callback"))
    | some authCode =>
        match QueryValue.present query.state with
        | none => respond (.json 400 (errorBody "Missing state in callback"))
        | some state => do
            let stored ← TokenStore.getAndDeleteState state
            S.verify authCode state stored

/-- GET /auth/tiktok/status. -/
def status : ServerProg Unit := do
  try
    let advertiserIds ← onTokens TokenStore.listActiveAdvertiserIds
    respond (.json 200 (.object [("authorized_advertisers", textsOf advertiserIds),
      ("count", countOf advertiserIds)]))
  catch _ =>
    respond (.json 500 (errorBody "Failed to fetch authorized advertisers"))

/-- POST /auth/tiktok/refresh/:advertiserId. -/
def refresh (advertiserId : String) : ServerProg Unit := do
  try
    let updated ← onTokens (TikTokOAuthClient.refreshAccessToken advertiserId)
    respond (.json 200 (.object [("status", .string "refreshed"),
      ("advertiser_id", .string advertiserId),
      ("expires_at", .string (S.isoTime updated.accessTokenExpiresAt))]))
  catch err =>
    respond (.json 400 (errorBody err.message))

/-- POST /auth/tiktok/revoke/:advertiserId. -/
def revoke (advertiserId : String) : ServerProg Unit := do
  try
    onTokens (TokenStore.revoke advertiserId)
    respond (.json 200 (.object [("status", .string "revoked"),
      ("advertiser_id", .string advertiserId)]))
  catch _ =>
    respond (.json 500 (errorBody "Revocation failed"))

/-! ## Event-set routes -/

/-- The name argument of `provision`: absent, or what the body holds. -/
def nameArgument : JsValue → Option String
  | .undefined => none
  | .string value => some value
  | value => some (S.bodyText value)

def provisioned (advertiserId : String) : ProvisionResult → HttpResponse
  | .createdNew eventSet =>
      .json 201 (.object [("status", .string "created_new"),
        ("message",
          .string "No existing event set found — a new one was created automatically."),
        ("event_set", eventSet.body), ("next_step", .null)])
  | .selectedExisting eventSet =>
      .json 200 (.object [("status", .string "selected_existing"),
        ("message", .string "One existing event set found — automatically selected."),
        ("event_set", eventSet.body), ("next_step", .null)])
  | .multipleFound eventSets =>
      .json 200 (.object [("status", .string "multiple_found"),
        ("message", .string (toString eventSets.length ++
          " event sets found. Select one using POST /event-sets/" ++ advertiserId ++ "/select.")),
        ("event_sets", .array (eventSets.map CRMEventSet.body)),
        ("next_step", .string ("POST /event-sets/" ++ advertiserId ++
          "/select with \x7b \"event_set_id\": \"<id>\" \x7d"))])
  | .error message =>
      .json 500 (.object [("status", .string "error"), ("message", .string message)])

/-- POST /event-sets/:advertiserId/provision. -/
def provision (advertiserId : String) (body : RequestBody) : ServerProg Unit := do
  let eventSetName := S.nameArgument (body.get "event_set_name")
  try
    let accessToken ← onTokens (TikTokOAuthClient.getValidToken advertiserId)
    let result ← onEventSets (S.manager.provision advertiserId accessToken eventSetName)
    respond (provisioned advertiserId result)
  catch err =>
    if includes err.message "OAuth authorization required" then
      respond (.json 401 (.object [("error", .string "not_authorized"),
        ("message", .string ("Advertiser " ++ advertiserId ++
          " has not completed OAuth. Visit /auth/tiktok first."))]))
    else
      respond (.json 500 (detailsBody "Provisioning failed" err.message))

def listSets (advertiserId : String) : ServerProg Unit := do
  try
    let accessToken ← onTokens (TikTokOAuthClient.getValidToken advertiserId)
    let sets ← onEventSets (CRMEventSetManager.list advertiserId accessToken)
    respond (.json 200 (.object [("advertiser_id", .string advertiserId),
      ("event_sets", .array (sets.map CRMEventSet.body)), ("count", countOf sets)]))
  catch err =>
    respond (.json 500 (detailsBody "Failed to list event sets" err.message))

/-- The `try` of the creating route. -/
def createNamedSet (advertiserId name : String) : ServerProg Unit := do
  try
    let accessToken ← onTokens (TikTokOAuthClient.getValidToken advertiserId)
    let created ← onEventSets (S.manager.create advertiserId accessToken (some name))
    let _ ← onEventSets (CRMEventSetManager.select advertiserId created.eventSetId accessToken)
    respond (.json 201 (.object [
      ("message", .string "CRM event set created and set as active."),
      ("event_set", created.body)]))
  catch err =>
    respond (.json 500 (detailsBody "Failed to create event set" err.message))

def createSet (advertiserId : String) (body : RequestBody) : ServerProg Unit :=
  match (body.get "name").nonEmptyText with
  | none => respond (.json 400 (errorBody "Request body must include a non-empty \"name\" field"))
  | some name =>
      if trim name = "" then
        respond (.json 400 (errorBody "Request body must include a non-empty \"name\" field"))
      else S.createNamedSet advertiserId (trim name)

def selectSet (advertiserId : String) (body : RequestBody) : ServerProg Unit :=
  match (body.get "event_set_id").nonEmptyText with
  | none => respond (.json 400 (errorBody "Request body must include \"event_set_id\""))
  | some eventSetId => do
      try
        let accessToken ← onTokens (TikTokOAuthClient.getValidToken advertiserId)
        let selected ← onEventSets (CRMEventSetManager.select advertiserId eventSetId accessToken)
        respond (.json 200 (.object [
          ("message", .string "Event set selected and stored as active."),
          ("event_set", selected.body)]))
      catch err =>
        if includes err.message "not found" then
          respond (.json 404 (errorBody err.message))
        else
          respond (.json 500 (detailsBody "Failed to select event set" err.message))

/-- GET /event-sets/:advertiserId/active. -/
def activeSet (advertiserId : String) : ServerProg Unit := do
  try
    let eventSetId ← onEventSets (S.manager.resolve advertiserId)
    respond (.json 200 (.object [("advertiser_id", .string advertiserId),
      ("active_event_set_id", .string eventSetId)]))
  catch err =>
    respond (.json 404 (detailsBody "No active event set found" err.message))

end Server

/-! ## The calls -/

/-- Requests, CDC messages, runs of queued jobs, ticks of the proactive refresher and the
tasks these start. -/
inductive ServerCall where
  | initiate
  | callback (query : CallbackQuery)
  | status
  | refresh (advertiserId : String)
  | revoke (advertiserId : String)
  | provision (advertiserId : String) (body : RequestBody)
  | listSets (advertiserId : String)
  | createSet (advertiserId : String) (body : RequestBody)
  | selectSet (advertiserId : String) (body : RequestBody)
  | activeSet (advertiserId : String)
  | message (rawMessage : RawMessage)
  | runJob (jobId : String)
  | refreshAll
  | refreshOne (advertiserId : String)

def ServerCall.isRoute : ServerCall → Bool
  | .message _ | .runJob _ | .refreshAll | .refreshOne _ => false
  | _ => true

namespace Server

variable (S : Server)

/-- The program of a call; a message finds the replay position where it is. -/
def program (lastReplayId : Int) : ServerCall → ServerProg Unit
  | .initiate => S.initiate
  | .callback query => S.callback query
  | .status => status
  | .refresh advertiserId => S.refresh advertiserId
  | .revoke advertiserId => revoke advertiserId
  | .provision advertiserId body => S.provision advertiserId body
  | .listSets advertiserId => listSets advertiserId
  | .createSet advertiserId body => S.createSet advertiserId body
  | .selectSet advertiserId body => selectSet advertiserId body
  | .activeSet advertiserId => S.activeSet advertiserId
  | .message rawMessage =>
      S.onMessages (SalesforceCDCListener.handleRawMessage rawMessage lastReplayId).2
  | .runJob jobId => S.onDeliveries (RetryQueue.runJob S.env jobId)
  | .refreshAll => do
      let _ ← onTokens TokenStore.listActiveAdvertiserIds
      return
  | .refreshOne advertiserId => onTokens (ProactiveRefresher.refreshOne advertiserId)

/-- What the start of a call changes: a message moves the replay position, a task of
`refreshAll` starts once for each time its advertiser was listed. -/
def enter : ServerCall → ServerWorld → Option ServerWorld
  | .message rawMessage, w =>
      some { w with
        listener :=
          ⟨(SalesforceCDCListener.handleRawMessage rawMessage w.listener.lastReplayId).1⟩ }
  | .refreshOne advertiserId, w =>
      ((TokenCall.refreshOne advertiserId).enter w.token).map fun v => { w with token := v }
  | _, w => some w

def system : System (serverRuntime S.env S.copyText) Unit ServerCall (ServerProg Unit) where
  view := Prog.view
  launch call w := (enter call w).map fun v => (S.program w.listener.lastReplayId call, v)

end Server

abbrev ServerAction := Action ServerCall ServerChoice ServerEvent

abbrev ServerConfig :=
  Config ServerCmd ServerCmd.Reply JsError ServerWorld ServerChoice ServerCall (ServerProg Unit)
end SalesforceTikTok
