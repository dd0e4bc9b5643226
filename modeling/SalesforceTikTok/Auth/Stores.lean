import SalesforceTikTok.Concurrency.System
import SalesforceTikTok.Core.Types
import SalesforceTikTok.Storage.Expiring

/-!
# Stores behind the OAuth tokens

The Postgres table of token rows, the Redis copies of access tokens and the
clock, with the effect of every command the token code awaits. A store command
may be answered regularly, fail without effect, or fail after its effect took
place. TikTok's token endpoints answer as they please; an answer says at which
time its tokens were issued.
-/

namespace SalesforceTikTok

open Storage

/-! ## Token types -/

/-- The token pair of a response. Lifetimes are in seconds. -/
structure TokenData where
  accessToken : String
  refreshToken : String
  accessTokenExpireIn : Int
  refreshTokenExpireIn : Int
  scope : String := ""
  deriving DecidableEq, Repr

/-- A response of `/oauth2/access_token/`. -/
structure TikTokTokenResponse where
  code : Int
  message : String
  data : TokenData
  /-- `data.advertiser_ids`: the accounts the user authorised. -/
  advertiserIds : List String
  deriving DecidableEq, Repr

/-- A response of `/oauth2/refresh_token/`. -/
structure TikTokRefreshResponse where
  code : Int
  message : String
  data : TokenData
  deriving DecidableEq, Repr

/-- One row of `tiktok_oauth_tokens`; `advertiser_id` is the table's unique key. -/
structure StoredToken where
  advertiserId : String
  accessToken : String
  refreshToken : String
  accessTokenExpiresAt : Int
  refreshTokenExpiresAt : Int
  scope : String := ""
  deriving DecidableEq, Repr

structure ActiveToken where
  accessToken : String
  advertiserId : String
  expiresAt : Int
  deriving DecidableEq, Repr

def StoredToken.active (row : StoredToken) : ActiveToken where
  accessToken := row.accessToken
  advertiserId := row.advertiserId
  expiresAt := row.accessTokenExpiresAt

/-! ## Commands -/

inductive TokenCmd where
  /-- `new Date()`. -/
  | now
  /-- `redis.get(key)`. -/
  | cacheGet (key : String)
  /-- `redis.set(key, value, 'EX', ttlSeconds)`. -/
  | cacheSet (key : String) (value : ActiveToken) (ttlSeconds : Int)
  /-- `redis.del(key)`. -/
  | cacheDel (key : String)
  /-- `INSERT INTO tiktok_oauth_tokens … ON CONFLICT (advertiser_id) DO UPDATE … RETURNING *`. -/
  | upsertRow (row : StoredToken)
  /-- `SELECT * … WHERE advertiser_id = $1 AND refresh_token_expires_at > NOW() LIMIT 1`. -/
  | selectActive (advertiserId : String)
  /-- `SELECT * … WHERE advertiser_id = $1 LIMIT 1`. -/
  | selectRow (advertiserId : String)
  /-- `SELECT advertiser_id … WHERE refresh_token_expires_at > NOW() ORDER BY updated_at DESC`. -/
  | selectActiveIds
  /-- `DELETE FROM tiktok_oauth_tokens WHERE advertiser_id = $1`. -/
  | deleteRow (advertiserId : String)
  /-- `axios.post(TIKTOK_TOKEN_URL, …)`. -/
  | postExchange (authCode : String)
  /-- `axios.post(TIKTOK_REFRESH_URL, …)`. -/
  | postRefresh (refreshToken : String)
  deriving DecidableEq

abbrev TokenCmd.Reply : TokenCmd → Type
  | .now => Int
  | .cacheGet _ => Option ActiveToken
  | .upsertRow _ => StoredToken
  | .selectActive _ | .selectRow _ => Option StoredToken
  | .selectActiveIds => List String
  | .postExchange _ => TikTokTokenResponse
  | .postRefresh _ => TikTokRefreshResponse
  | .cacheSet _ _ _ | .cacheDel _ | .deleteRow _ => Unit

inductive TokenChoice where
  | ok
  | fail (error : JsError)
  | failAfter (error : JsError)
  | exchanged (response : TikTokTokenResponse) (issuedAt : Int)
  | refreshed (response : TikTokRefreshResponse) (issuedAt : Int)
  deriving DecidableEq

/-! ## The stores -/

abbrev TokenTable := AList fun _ : String => StoredToken

structure TokenWorld where
  /-- Milliseconds; Postgres reads the same clock. -/
  clock : Int
  /-- The Redis copies, by key. -/
  cache : Expiring String ActiveToken
  /-- `tiktok_oauth_tokens`, the latest update first. -/
  rows : TokenTable
  /-- Advertisers that `refreshAll` has listed and not yet started on. -/
  listed : List String

def TokenWorld.fresh (clock : Int) : TokenWorld := ⟨clock, ∅, ∅, []⟩

namespace TokenWorld

def cacheSet (w : TokenWorld) (key : String) (value : ActiveToken) (ttlSeconds : Int) :
    TokenWorld :=
  { w with cache := w.cache.set key value (w.clock + ttlSeconds * 1000) }

def cacheDel (w : TokenWorld) (key : String) : TokenWorld := { w with cache := w.cache.del key }

def upsertRow (w : TokenWorld) (row : StoredToken) : TokenWorld :=
  { w with rows := w.rows.insert row.advertiserId row }

def deleteRow (w : TokenWorld) (advertiserId : String) : TokenWorld :=
  { w with rows := w.rows.erase advertiserId }

def selectActive (w : TokenWorld) (advertiserId : String) : Option StoredToken :=
  match w.rows.lookup advertiserId with
  | some row => if w.clock < row.refreshTokenExpiresAt then some row else none
  | none => none

def selectActiveIds (w : TokenWorld) : List String :=
  (w.rows.entries.filter fun entry => w.clock < entry.2.refreshTokenExpiresAt).map (·.1)

theorem selectActive_some {w : TokenWorld} {advertiserId : String} {row : StoredToken} :
    w.selectActive advertiserId = some row ↔
      w.rows.lookup advertiserId = some row ∧ w.clock < row.refreshTokenExpiresAt := by
  unfold selectActive
  cases w.rows.lookup advertiserId with
  | none => simp
  | some found =>
      by_cases live : w.clock < found.refreshTokenExpiresAt
      · simp only [if_pos live, Option.some.injEq]
        exact ⟨fun same => ⟨same, same ▸ live⟩, fun h => h.1⟩
      · simp only [if_neg live, Option.some.injEq, reduceCtorEq, false_iff, not_and]
        rintro rfl
        exact live

theorem mem_selectActiveIds {w : TokenWorld} {advertiserId : String} {row : StoredToken}
    (live : w.selectActive advertiserId = some row) : advertiserId ∈ w.selectActiveIds := by
  obtain ⟨found, unexpired⟩ := selectActive_some.mp live
  have entry : (⟨advertiserId, row⟩ : Sigma fun _ : String => StoredToken) ∈ w.rows.entries :=
    List.of_mem_dlookup found
  exact List.mem_map.mpr ⟨_, List.mem_filter.mpr ⟨entry, decide_eq_true unexpired⟩, rfl⟩

end TokenWorld

/-- A store command answered regularly, or failing before or after its effect. -/
def TokenChoice.apply {α : Type} (choice : TokenChoice) (w : TokenWorld) (value : α)
    (effect : TokenWorld) : Option (Except JsError α × TokenWorld) :=
  match choice with
  | .ok => some (.ok value, effect)
  | .fail error => some (.error error, w)
  | .failAfter error => some (.error error, effect)
  | _ => none

/-- The list of a lost reply starts no task. Tokens are issued before they are delivered. -/
def tokenExec : (cmd : TokenCmd) → TokenChoice → TokenWorld →
    Option (Except JsError cmd.Reply × TokenWorld)
  | .now, .ok, w => some (.ok w.clock, w)
  | .cacheGet key, choice, w => choice.apply w (w.cache.get w.clock key) w
  | .cacheSet key value ttl, choice, w => choice.apply w () (w.cacheSet key value ttl)
  | .cacheDel key, choice, w => choice.apply w () (w.cacheDel key)
  | .upsertRow row, choice, w => choice.apply w row (w.upsertRow row)
  | .selectActive advertiserId, choice, w => choice.apply w (w.selectActive advertiserId) w
  | .selectRow advertiserId, choice, w => choice.apply w (w.rows.lookup advertiserId) w
  | .selectActiveIds, .ok, w =>
      some (.ok w.selectActiveIds, { w with listed := w.listed ++ w.selectActiveIds })
  | .selectActiveIds, .fail error, w => some (.error error, w)
  | .deleteRow advertiserId, choice, w => choice.apply w () (w.deleteRow advertiserId)
  | .postExchange _, .exchanged response issuedAt, w =>
      if issuedAt ≤ w.clock then some (.ok response, w) else none
  | .postExchange _, .fail error, w => some (.error error, w)
  | .postRefresh _, .refreshed response issuedAt, w =>
      if issuedAt ≤ w.clock then some (.ok response, w) else none
  | .postRefresh _, .fail error, w => some (.error error, w)
  | _, _, _ => none

inductive TokenEvent where
  | tick (elapsed : Nat)

def tokenEnv : TokenEvent → TokenWorld → Option TokenWorld
  | .tick elapsed, w => some { w with clock := w.clock + elapsed }

abbrev tokenRuntime :
    Concurrency.Runtime TokenCmd TokenCmd.Reply JsError TokenWorld TokenChoice TokenEvent where
  exec := tokenExec
  env := tokenEnv

abbrev TokenProg := Concurrency.Prog TokenCmd TokenCmd.Reply JsError

abbrev TokenRecord := Concurrency.Record TokenCmd TokenCmd.Reply JsError TokenChoice

end SalesforceTikTok
