import SalesforceTikTok.Auth.Stores

/-!
# The token programs

`TokenStore`, `TikTokOAuthClient` and the per-advertiser task of
`ProactiveRefresher.refreshAll`, statement by statement: every `await` of the
source is one command, every `try` one handler, and so is every reading of the
clock, which only admits more interleavings.
-/

namespace SalesforceTikTok

open Concurrency

abbrev authorize (cmd : TokenCmd) : TokenProg cmd.Reply := Prog.call cmd

def TOKEN_CACHE_PREFIX : String := "tiktok:token:"

def TOKEN_CACHE_TTL_SECONDS : Int := 23 * 60 * 60

def ACCESS_TOKEN_TTL_SECONDS : Int := 24 * 60 * 60

def REFRESH_TOKEN_TTL_SECONDS : Int := 365 * 24 * 60 * 60

/-- `60 * 60 * 1000`, the margin within which a token counts as expiring. -/
def ONE_HOUR : Int := 60 * 60 * 1000

namespace TokenStore

def cacheKey (advertiserId : String) : String := TOKEN_CACHE_PREFIX ++ advertiserId

def cacheToken (token : StoredToken) : TokenProg Unit := do
  try
    authorize (.cacheSet (cacheKey token.advertiserId) token.active TOKEN_CACHE_TTL_SECONDS)
  catch _ =>
    pure ()

/-- The parameters are the columns of the row to store. -/
def upsert (params : StoredToken) : TokenProg StoredToken := do
  let token : StoredToken ← authorize (.upsertRow params)
  cacheToken token
  return token

def getFromCache (advertiserId : String) : TokenProg (Option ActiveToken) := do
  try
    let raw : Option ActiveToken ← authorize (.cacheGet (cacheKey advertiserId))
    match raw with
    | none => pure none
    | some token =>
        let now : Int ← authorize .now
        if token.expiresAt ≤ now then
          authorize (.cacheDel (cacheKey advertiserId))
          pure none
        else
          pure (some token)
  catch _ =>
    pure none

def getActiveToken (advertiserId : String) : TokenProg (Option ActiveToken) := do
  let cached ← getFromCache advertiserId
  match cached with
  | some cached => return some cached
  | none =>
      let found : Option StoredToken ← authorize (.selectActive advertiserId)
      match found with
      | none => return none
      | some token =>
          let now : Int ← authorize .now
          if now < token.accessTokenExpiresAt then
            cacheToken token
          return some token.active

def getStoredToken (advertiserId : String) : TokenProg (Option StoredToken) :=
  authorize (.selectRow advertiserId)

def listActiveAdvertiserIds : TokenProg (List String) :=
  authorize .selectActiveIds

def revoke (advertiserId : String) : TokenProg Unit := do
  authorize (.deleteRow advertiserId)
  authorize (.cacheDel (cacheKey advertiserId))

end TokenStore

namespace TikTokOAuthClient

def refused (code : Int) (message context : String) : JsError where
  message :=
    "TikTok " ++ context ++ " failed: code=" ++ toString code ++ " message=" ++ message

def noTokenRecord (advertiserId : String) : JsError where
  message := "No token record found for advertiser_id: " ++ advertiserId

def refreshTokenExpired (advertiserId : String) : JsError where
  message :=
    "Refresh token for advertiser " ++ advertiserId ++ " has expired — user must re-authorize"

def noActiveToken (advertiserId : String) : JsError where
  message :=
    "No active token for advertiser " ++ advertiserId ++ " — OAuth authorization required"

def assertSuccess (code : Int) (message context : String) : TokenProg Unit :=
  if code ≠ 0 then throw (refused code message context) else return

/-- The row for an advertiser, as both grants and refreshes build it at time `now`. -/
def storedRow (data : TokenData) (now : Int) (advertiserId : String) : StoredToken where
  advertiserId := advertiserId
  accessToken := data.accessToken
  refreshToken := data.refreshToken
  accessTokenExpiresAt := now + ACCESS_TOKEN_TTL_SECONDS * 1000
  refreshTokenExpiresAt := now + REFRESH_TOKEN_TTL_SECONDS * 1000
  scope := data.scope

/-- The loop of `exchangeAuthCode`: one row for each advertiser of the grant. -/
def storeGrant (data : TokenData) (now : Int) :
    List String → List StoredToken → TokenProg (List StoredToken)
  | [], stored => return stored
  | advertiserId :: rest, stored => do
      let token ← TokenStore.upsert (storedRow data now advertiserId)
      storeGrant data now rest (stored ++ [token])

def exchangeAuthCode (authCode : String) : TokenProg (List StoredToken) := do
  let response : TikTokTokenResponse ← authorize (.postExchange authCode)
  assertSuccess response.code response.message "Token exchange"
  let now : Int ← authorize .now
  storeGrant response.data now response.advertiserIds []

def refreshAccessToken (advertiserId : String) : TokenProg StoredToken := do
  let found ← TokenStore.getStoredToken advertiserId
  match found with
  | none => throw (noTokenRecord advertiserId)
  | some stored =>
      let now : Int ← authorize .now
      if stored.refreshTokenExpiresAt ≤ now then
        throw (refreshTokenExpired advertiserId)
      else
        let response : TikTokRefreshResponse ← authorize (.postRefresh stored.refreshToken)
        assertSuccess response.code response.message "Token refresh"
        TokenStore.upsert (storedRow response.data now advertiserId)

def getValidToken (advertiserId : String) : TokenProg String := do
  let active ← TokenStore.getActiveToken advertiserId
  match active with
  | none => throw (noActiveToken advertiserId)
  | some active =>
      let now : Int ← authorize .now
      if active.expiresAt ≤ now + ONE_HOUR then
        let refreshed ← refreshAccessToken advertiserId
        return refreshed.accessToken
      else
        return active.accessToken

end TikTokOAuthClient

namespace ProactiveRefresher

/-- What `refreshAll` does for one listed advertiser; every failure is caught. -/
def refreshOne (advertiserId : String) : TokenProg Unit := do
  try
    let active ← TokenStore.getActiveToken advertiserId
    match active with
    | none => pure ()
    | some active =>
        let now : Int ← authorize .now
        if now + ONE_HOUR < active.expiresAt then
          pure ()
        else
          let _ ← TikTokOAuthClient.refreshAccessToken advertiserId
          pure ()
  catch _ =>
    pure ()

end ProactiveRefresher

/-! ## The calls -/

/-- `refreshAll` lists the advertisers; its concurrent tasks are calls of their own, one
for each listed id. -/
inductive TokenCall where
  | exchangeAuthCode (authCode : String)
  | refreshAccessToken (advertiserId : String)
  | getValidToken (advertiserId : String)
  | getActiveToken (advertiserId : String)
  | upsert (params : StoredToken)
  | revoke (advertiserId : String)
  | refreshAll
  | refreshOne (advertiserId : String)
  deriving DecidableEq

inductive TokenResult where
  | stored (token : StoredToken)
  | storedAll (tokens : List StoredToken)
  | accessToken (token : String)
  | active (token : Option ActiveToken)
  | done
  deriving DecidableEq

def TokenCall.program : TokenCall → TokenProg TokenResult
  | .exchangeAuthCode authCode => .storedAll <$> TikTokOAuthClient.exchangeAuthCode authCode
  | .refreshAccessToken a => .stored <$> TikTokOAuthClient.refreshAccessToken a
  | .getValidToken a => .accessToken <$> TikTokOAuthClient.getValidToken a
  | .getActiveToken a => .active <$> TokenStore.getActiveToken a
  | .upsert params => .stored <$> TokenStore.upsert params
  | .revoke a => (fun _ => .done) <$> TokenStore.revoke a
  | .refreshAll => (fun _ => .done) <$> TokenStore.listActiveAdvertiserIds
  | .refreshOne a => (fun _ => .done) <$> ProactiveRefresher.refreshOne a

/-- A task of `refreshAll` starts once for each time its advertiser was listed. -/
def TokenCall.enter : TokenCall → TokenWorld → Option TokenWorld
  | .refreshOne a, w => if a ∈ w.listed then some { w with listed := w.listed.erase a } else none
  | _, w => some w

def tokenSystem : System tokenRuntime TokenResult TokenCall (TokenProg TokenResult) where
  view := Prog.view
  launch call w := (call.enter w).map fun v => (call.program, v)

end SalesforceTikTok
