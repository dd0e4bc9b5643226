import SalesforceTikTok.Concurrency.Refinement
import SalesforceTikTok.Auth.TikTokOAuth

/-!
# The token protocol

The points at which a token call can be suspended, and what each awaits. The point
system has the same runs as the programs (`token_refines`).
-/

namespace SalesforceTikTok

open Concurrency
open TikTokOAuthClient (storedRow)

/-- For whom a token is looked up or refreshed: the operation itself was called, or
`getValidToken`, or a task of `refreshAll`. -/
inductive Caller where
  | direct
  | valid
  | task
  deriving DecidableEq

/-- For whom a row is stored. An exchange goes on with the remaining advertisers. -/
inductive Writer where
  | direct
  | refresh (k : Caller)
  | exchange (data : TokenData) (now : Int) (rest : List String) (stored : List StoredToken)
  deriving DecidableEq

inductive TokenPoint where
  | gettingCache (k : Caller) (a : String)
  | timingCached (k : Caller) (a : String) (token : ActiveToken)
  | droppingCached (k : Caller) (a : String)
  | selectingActive (k : Caller) (a : String)
  | timingRow (k : Caller) (a : String) (row : StoredToken)
  | warming (k : Caller) (a : String) (row : StoredToken)
  | timingActive (k : Caller) (a : String) (token : ActiveToken)
  | selectingRow (k : Caller) (a : String)
  | timingRefresh (k : Caller) (a : String) (row : StoredToken)
  | postingRefresh (k : Caller) (a : String) (row : StoredToken) (now : Int)
  | upserting (writer : Writer) (row : StoredToken)
  | caching (writer : Writer) (row : StoredToken)
  | postingExchange (authCode : String)
  | timingExchange (response : TikTokTokenResponse)
  | deletingRow (a : String)
  | deletingKey (a : String)
  | listing
  | ended (outcome : Except JsError TokenResult)
  deriving DecidableEq

/-! ## The program that remains at a point -/

namespace TokenStore

/-- `getFromCache` with a copy in hand. -/
def fromCopy (a : String) (token : ActiveToken) : TokenProg (Option ActiveToken) := do
  let now : Int ← authorize .now
  if token.expiresAt ≤ now then
    authorize (.cacheDel (cacheKey a))
    pure none
  else
    pure (some token)

/-- `getActiveToken` with a row in hand. -/
def fromRow (row : StoredToken) : TokenProg (Option ActiveToken) := do
  let now : Int ← authorize .now
  if now < row.accessTokenExpiresAt then
    cacheToken row
  return some row.active

/-- `getActiveToken` after `getFromCache`. -/
def afterCache (a : String) : Option ActiveToken → TokenProg (Option ActiveToken)
  | some cached => return some cached
  | none => do
      let found : Option StoredToken ← authorize (.selectActive a)
      match found with
      | none => return none
      | some row => fromRow row

end TokenStore

namespace TikTokOAuthClient

/-- `refreshAccessToken` from its POST on. -/
def post (a : String) (row : StoredToken) (now : Int) : TokenProg StoredToken := do
  let response : TikTokRefreshResponse ← authorize (.postRefresh row.refreshToken)
  assertSuccess response.code response.message "Token refresh"
  TokenStore.upsert (storedRow response.data now a)

/-- `refreshAccessToken` with the stored row in hand. -/
def fromStored (a : String) (row : StoredToken) : TokenProg StoredToken := do
  let now : Int ← authorize .now
  if row.refreshTokenExpiresAt ≤ now then
    throw (refreshTokenExpired a)
  else
    post a row now

/-- `getValidToken` after `getActiveToken`. -/
def fromActive (a : String) : Option ActiveToken → TokenProg String
  | none => throw (noActiveToken a)
  | some active => do
      let now : Int ← authorize .now
      if active.expiresAt ≤ now + ONE_HOUR then
        let refreshed ← refreshAccessToken a
        return refreshed.accessToken
      else
        return active.accessToken

/-- `exchangeAuthCode` with the response in hand. -/
def fromGrant (response : TikTokTokenResponse) : TokenProg (List StoredToken) := do
  let now : Int ← authorize .now
  storeGrant response.data now response.advertiserIds []

end TikTokOAuthClient

namespace ProactiveRefresher

/-- `refreshOne` after `getActiveToken`. -/
def fromActive (a : String) : Option ActiveToken → TokenProg Unit
  | none => pure ()
  | some active => do
      let now : Int ← authorize .now
      if now + ONE_HOUR < active.expiresAt then
        pure ()
      else
        let _ ← TikTokOAuthClient.refreshAccessToken a
        pure ()

end ProactiveRefresher

namespace Caller

def reading (k : Caller) (a : String) (lookup : TokenProg (Option ActiveToken)) :
    TokenProg TokenResult :=
  match k with
  | .direct => .active <$> lookup
  | .valid => .accessToken <$> (lookup >>= TikTokOAuthClient.fromActive a)
  | .task =>
      (fun _ => .done) <$>
        tryCatch (lookup >>= ProactiveRefresher.fromActive a) fun _ => pure ()

def refreshing (k : Caller) (refresh : TokenProg StoredToken) : TokenProg TokenResult :=
  match k with
  | .direct => .stored <$> refresh
  | .valid => .accessToken <$> (refresh >>= fun refreshed => return refreshed.accessToken)
  | .task => (fun _ => .done) <$> tryCatch (refresh >>= fun _ => pure ()) fun _ => pure ()

def found (k : Caller) (a : String) (token : ActiveToken) : TokenPoint :=
  match k with
  | .direct => .ended (.ok (.active (some token)))
  | .valid | .task => .timingActive k a token

def absent (k : Caller) (a : String) : TokenPoint :=
  match k with
  | .direct => .ended (.ok (.active none))
  | .valid => .ended (.error (TikTokOAuthClient.noActiveToken a))
  | .task => .ended (.ok .done)

def kept (k : Caller) (token : ActiveToken) : TokenPoint :=
  match k with
  | .direct => .ended (.ok (.active (some token)))
  | .valid => .ended (.ok (.accessToken token.accessToken))
  | .task => .ended (.ok .done)

def refreshed (k : Caller) (row : StoredToken) : TokenPoint :=
  match k with
  | .direct => .ended (.ok (.stored row))
  | .valid => .ended (.ok (.accessToken row.accessToken))
  | .task => .ended (.ok .done)

def failed (k : Caller) (error : JsError) : TokenPoint :=
  match k with
  | .direct | .valid => .ended (.error error)
  | .task => .ended (.ok .done)

end Caller

/-- The loop of `exchangeAuthCode`, suspended before its next row. -/
def storing (data : TokenData) (now : Int) (stored : List StoredToken) : List String → TokenPoint
  | [] => .ended (.ok (.storedAll stored))
  | a :: rest => .upserting (.exchange data now rest stored) (storedRow data now a)

namespace Writer

def storing (writer : Writer) (store : TokenProg StoredToken) : TokenProg TokenResult :=
  match writer with
  | .direct => .stored <$> store
  | .refresh k => k.refreshing store
  | .exchange data now rest stored =>
      .storedAll <$> (store >>= fun token =>
        TikTokOAuthClient.storeGrant data now rest (stored ++ [token]))

def stored (writer : Writer) (row : StoredToken) : TokenPoint :=
  match writer with
  | .direct => .ended (.ok (.stored row))
  | .refresh k => k.refreshed row
  | .exchange data now rest stored => SalesforceTikTok.storing data now (stored ++ [row]) rest

def failed (writer : Writer) (error : JsError) : TokenPoint :=
  match writer with
  | .direct | .exchange _ _ _ _ => .ended (.error error)
  | .refresh k => k.failed error

end Writer

namespace TokenPoint

open TokenStore

def program : TokenPoint → TokenProg TokenResult
  | .gettingCache k a => k.reading a (getActiveToken a)
  | .timingCached k a token =>
      k.reading a (tryCatch (fromCopy a token) (fun _ => pure none) >>= afterCache a)
  | .droppingCached k a =>
      k.reading a (tryCatch (authorize (.cacheDel (cacheKey a)) >>= fun _ => pure none)
        (fun _ => pure none) >>= afterCache a)
  | .selectingActive k a => k.reading a (afterCache a none)
  | .timingRow k a row => k.reading a (fromRow row)
  | .warming k a row => k.reading a (cacheToken row >>= fun _ => return some row.active)
  | .timingActive k a token => k.reading a (pure (some token))
  | .selectingRow k a => k.refreshing (TikTokOAuthClient.refreshAccessToken a)
  | .timingRefresh k a row => k.refreshing (TikTokOAuthClient.fromStored a row)
  | .postingRefresh k a row now => k.refreshing (TikTokOAuthClient.post a row now)
  | .upserting writer row => writer.storing (upsert row)
  | .caching writer row => writer.storing (cacheToken row >>= fun _ => return row)
  | .postingExchange authCode => .storedAll <$> TikTokOAuthClient.exchangeAuthCode authCode
  | .timingExchange response => .storedAll <$> TikTokOAuthClient.fromGrant response
  | .deletingRow a => (fun _ => .done) <$> revoke a
  | .deletingKey a => (fun _ => .done) <$> authorize (.cacheDel (cacheKey a))
  | .listing => (fun _ => .done) <$> listActiveAdvertiserIds
  | .ended (.ok result) => return result
  | .ended (.error error) => throw error

def view : TokenPoint → View TokenCmd TokenCmd.Reply JsError TokenResult TokenPoint
  | .gettingCache k a =>
      .awaits (.cacheGet (cacheKey a)) fun
        | .ok (some token) => .timingCached k a token
        | .ok none => .selectingActive k a
        | .error _ => .selectingActive k a
  | .timingCached k a token =>
      .awaits .now fun
        | .ok now => if token.expiresAt ≤ now then .droppingCached k a else k.found a token
        | .error _ => .selectingActive k a
  | .droppingCached k a => .awaits (.cacheDel (cacheKey a)) fun _ => .selectingActive k a
  | .selectingActive k a =>
      .awaits (.selectActive a) fun
        | .ok (some row) => .timingRow k a row
        | .ok none => k.absent a
        | .error error => k.failed error
  | .timingRow k a row =>
      .awaits .now fun
        | .ok now =>
            if now < row.accessTokenExpiresAt then .warming k a row else k.found a row.active
        | .error error => k.failed error
  | .warming k a row =>
      .awaits (.cacheSet (cacheKey row.advertiserId) row.active TOKEN_CACHE_TTL_SECONDS) fun _ =>
        k.found a row.active
  | .timingActive .direct _ token => .ended (.ok (.active (some token)))
  | .timingActive k a token =>
      .awaits .now fun
        | .ok now => if token.expiresAt ≤ now + ONE_HOUR then .selectingRow k a else k.kept token
        | .error error => k.failed error
  | .selectingRow k a =>
      .awaits (.selectRow a) fun
        | .ok (some row) => .timingRefresh k a row
        | .ok none => k.failed (TikTokOAuthClient.noTokenRecord a)
        | .error error => k.failed error
  | .timingRefresh k a row =>
      .awaits .now fun
        | .ok now =>
            if row.refreshTokenExpiresAt ≤ now then
              k.failed (TikTokOAuthClient.refreshTokenExpired a)
            else .postingRefresh k a row now
        | .error error => k.failed error
  | .postingRefresh k a row now =>
      .awaits (.postRefresh row.refreshToken) fun
        | .ok response =>
            if response.code ≠ 0 then
              k.failed (TikTokOAuthClient.refused response.code response.message "Token refresh")
            else .upserting (.refresh k) (storedRow response.data now a)
        | .error error => k.failed error
  | .upserting writer row =>
      .awaits (.upsertRow row) fun
        | .ok token => .caching writer token
        | .error error => writer.failed error
  | .caching writer row =>
      .awaits (.cacheSet (cacheKey row.advertiserId) row.active TOKEN_CACHE_TTL_SECONDS) fun _ =>
        writer.stored row
  | .postingExchange authCode =>
      .awaits (.postExchange authCode) fun
        | .ok response =>
            if response.code ≠ 0 then
              .ended (.error (TikTokOAuthClient.refused response.code response.message
                "Token exchange"))
            else .timingExchange response
        | .error error => .ended (.error error)
  | .timingExchange response =>
      .awaits .now fun
        | .ok now => storing response.data now [] response.advertiserIds
        | .error error => .ended (.error error)
  | .deletingRow a =>
      .awaits (.deleteRow a) fun
        | .ok _ => .deletingKey a
        | .error error => .ended (.error error)
  | .deletingKey a =>
      .awaits (.cacheDel (cacheKey a)) fun
        | .ok _ => .ended (.ok .done)
        | .error error => .ended (.error error)
  | .listing =>
      .awaits .selectActiveIds fun
        | .ok _ => .ended (.ok .done)
        | .error error => .ended (.error error)
  | .ended outcome => .ended outcome

end TokenPoint

def TokenCall.startPoint : TokenCall → TokenPoint
  | .exchangeAuthCode authCode => .postingExchange authCode
  | .refreshAccessToken a => .selectingRow .direct a
  | .getValidToken a => .gettingCache .valid a
  | .getActiveToken a => .gettingCache .direct a
  | .upsert params => .upserting .direct params
  | .revoke a => .deletingRow a
  | .refreshAll => .listing
  | .refreshOne a => .gettingCache .task a

def tokenProtocol : System tokenRuntime TokenResult TokenCall TokenPoint where
  view := TokenPoint.view
  launch call w := (call.enter w).map fun v => (call.startPoint, v)

/-! ## The points are the programs -/

theorem TokenCall.program_eq (call : TokenCall) : call.program = call.startPoint.program := by
  cases call <;> rfl

theorem Caller.reading_await (k : Caller) (a : String) (cmd : TokenCmd)
    (resume : Except JsError cmd.Reply → TokenProg (Option ActiveToken)) :
    k.reading a (.await cmd resume) = .await cmd fun reply => k.reading a (resume reply) := by
  cases k <;> rfl

theorem Caller.refreshing_await (k : Caller) (cmd : TokenCmd)
    (resume : Except JsError cmd.Reply → TokenProg StoredToken) :
    k.refreshing (.await cmd resume) = .await cmd fun reply => k.refreshing (resume reply) := by
  cases k <;> rfl

theorem Writer.storing_await (writer : Writer) (cmd : TokenCmd)
    (resume : Except JsError cmd.Reply → TokenProg StoredToken) :
    writer.storing (.await cmd resume) = .await cmd fun reply => writer.storing (resume reply) := by
  cases writer with
  | direct => rfl
  | refresh k => exact k.refreshing_await cmd resume
  | exchange data now rest stored => rfl

theorem Caller.found_program (k : Caller) (a : String) (token : ActiveToken) :
    (k.found a token).program = k.reading a (pure (some token)) := by
  cases k <;> rfl

theorem Caller.absent_program (k : Caller) (a : String) :
    (k.absent a).program = k.reading a (pure none) := by
  cases k <;> rfl

theorem Caller.reading_failed (k : Caller) (a : String) (error : JsError) :
    (k.failed error).program = k.reading a (throw error) := by
  cases k <;> rfl

theorem Caller.refreshing_failed (k : Caller) (error : JsError) :
    (k.failed error).program = k.refreshing (throw error) := by
  cases k <;> rfl

theorem Caller.refreshed_program (k : Caller) (row : StoredToken) :
    (k.refreshed row).program = k.refreshing (pure row) := by
  cases k <;> rfl

private theorem storing_program (data : TokenData) (now : Int) (stored : List StoredToken)
    (rest : List String) : (storing data now stored rest).program =
      .storedAll <$> TikTokOAuthClient.storeGrant data now rest stored := by
  cases rest <;> rfl

theorem Writer.stored_program (writer : Writer) (row : StoredToken) :
    (writer.stored row).program = writer.storing (pure row) := by
  cases writer with
  | direct => rfl
  | refresh k => exact k.refreshed_program row
  | exchange data now rest stored => exact storing_program data now (stored ++ [row]) rest

theorem Writer.failed_program (writer : Writer) (error : JsError) :
    (writer.failed error).program = writer.storing (throw error) := by
  cases writer with
  | direct => rfl
  | refresh k => exact k.refreshing_failed error
  | exchange data now rest stored => rfl

namespace TokenPoint

open TokenStore

/-- A lookup that awaits a command, shown to its scheduler. -/
theorem reading_view {k : Caller} {a : String} {cmd : TokenCmd}
    {resume : Except JsError cmd.Reply → TokenProg (Option ActiveToken)}
    {next : Except JsError cmd.Reply → TokenPoint}
    (ok : ∀ value, k.reading a (resume (.ok value)) = (next (.ok value)).program)
    (error : ∀ e, k.reading a (resume (.error e)) = (next (.error e)).program) :
    (k.reading a (.await cmd resume)).view = (View.awaits cmd next).map program := by
  rw [Caller.reading_await]
  exact View.awaits_ext ok error

private theorem refreshing_view {k : Caller} {cmd : TokenCmd}
    {resume : Except JsError cmd.Reply → TokenProg StoredToken}
    {next : Except JsError cmd.Reply → TokenPoint}
    (ok : ∀ value, k.refreshing (resume (.ok value)) = (next (.ok value)).program)
    (error : ∀ e, k.refreshing (resume (.error e)) = (next (.error e)).program) :
    (k.refreshing (.await cmd resume)).view = (View.awaits cmd next).map program := by
  rw [Caller.refreshing_await]
  exact View.awaits_ext ok error

theorem storing_view {writer : Writer} {cmd : TokenCmd}
    {resume : Except JsError cmd.Reply → TokenProg StoredToken}
    {next : Except JsError cmd.Reply → TokenPoint}
    (ok : ∀ value, writer.storing (resume (.ok value)) = (next (.ok value)).program)
    (error : ∀ e, writer.storing (resume (.error e)) = (next (.error e)).program) :
    (writer.storing (.await cmd resume)).view = (View.awaits cmd next).map program := by
  rw [Writer.storing_await]
  exact View.awaits_ext ok error

theorem view_program (x : TokenPoint) : x.program.view = x.view.map program := by
  cases x with
  | gettingCache k a =>
      refine reading_view (fun raw => ?_) fun _ => rfl
      cases raw <;> rfl
  | timingCached k a token =>
      refine reading_view (fun now => ?_) fun _ => rfl
      by_cases stale : token.expiresAt ≤ now
      · show k.reading a (tryCatch (if token.expiresAt ≤ now then _ else _) _ >>= _) = _
        simp only [if_pos stale]
        rfl
      · show k.reading a (tryCatch (if token.expiresAt ≤ now then _ else _) _ >>= _) = _
        simp only [if_neg stale]
        exact (k.found_program a token).symm
  | droppingCached k a => exact reading_view (fun _ => rfl) fun _ => rfl
  | selectingActive k a =>
      refine reading_view (fun found => ?_) fun e => (k.reading_failed a e).symm
      cases found with
      | none => exact (k.absent_program a).symm
      | some row => rfl
  | timingRow k a row =>
      refine reading_view (fun now => ?_) fun e => (k.reading_failed a e).symm
      by_cases live : now < row.accessTokenExpiresAt
      · show k.reading a (if now < row.accessTokenExpiresAt then _ else _) = _
        simp only [if_pos live]
        rfl
      · show k.reading a (if now < row.accessTokenExpiresAt then _ else _) = _
        simp only [if_neg live]
        exact (k.found_program a row.active).symm
  | warming k a row =>
      exact reading_view (fun _ => (k.found_program a row.active).symm) fun _ =>
        (k.found_program a row.active).symm
  | timingActive k a token =>
      cases k with
      | direct => rfl
      | valid =>
          refine View.awaits_ext (fun now => ?_) fun _ => rfl
          show TokenResult.accessToken <$>
            (if token.expiresAt ≤ now + ONE_HOUR then _ else _ : TokenProg String) = _
          by_cases expiring : token.expiresAt ≤ now + ONE_HOUR
          · simp only [if_pos expiring]
            rfl
          · simp only [if_neg expiring]
            rfl
      | task =>
          refine View.awaits_ext (fun now => ?_) fun _ => rfl
          show (fun _ => TokenResult.done) <$> (tryCatch
            (if now + ONE_HOUR < token.expiresAt then pure () else
              TikTokOAuthClient.refreshAccessToken a >>= fun _ => pure ())
            fun _ => pure () : TokenProg Unit) = _
          by_cases expiring : token.expiresAt ≤ now + ONE_HOUR
          · have skipped : ¬ now + ONE_HOUR < token.expiresAt := Int.not_lt.mpr expiring
            simp only [if_neg skipped, if_pos expiring]
            rfl
          · have skipped : now + ONE_HOUR < token.expiresAt := Int.not_le.mp expiring
            simp only [if_pos skipped, if_neg expiring]
            rfl
  | selectingRow k a =>
      refine refreshing_view (fun found => ?_) fun e => (k.refreshing_failed e).symm
      cases found with
      | none => exact (k.refreshing_failed _).symm
      | some row => rfl
  | timingRefresh k a row =>
      refine refreshing_view (fun now => ?_) fun e => (k.refreshing_failed e).symm
      by_cases lapsed : row.refreshTokenExpiresAt ≤ now
      · show k.refreshing (if row.refreshTokenExpiresAt ≤ now then _ else _) = _
        simp only [if_pos lapsed]
        exact (k.refreshing_failed _).symm
      · show k.refreshing (if row.refreshTokenExpiresAt ≤ now then _ else _) = _
        simp only [if_neg lapsed]
        rfl
  | postingRefresh k a row now =>
      refine refreshing_view (fun response => ?_) fun e => (k.refreshing_failed e).symm
      show k.refreshing (TikTokOAuthClient.assertSuccess response.code _ _ >>= _) = _
      unfold TikTokOAuthClient.assertSuccess
      by_cases code : response.code ≠ 0
      · simp only [if_pos code]
        exact (k.refreshing_failed _).symm
      · simp only [if_neg code]
        rfl
  | upserting writer row =>
      exact storing_view (fun _ => rfl) fun e => (writer.failed_program e).symm
  | caching writer row =>
      exact storing_view (fun _ => (writer.stored_program row).symm) fun _ =>
        (writer.stored_program row).symm
  | postingExchange authCode =>
      refine View.awaits_ext (fun response => ?_) fun _ => rfl
      show TokenResult.storedAll <$>
        (TikTokOAuthClient.assertSuccess response.code _ _ >>= _) = _
      unfold TikTokOAuthClient.assertSuccess
      by_cases code : response.code ≠ 0
      · simp only [if_pos code]
        rfl
      · simp only [if_neg code]
        rfl
  | timingExchange response =>
      exact View.awaits_ext (fun now => (storing_program response.data now [] _).symm) fun _ => rfl
  | deletingRow a => exact View.awaits_ext (fun _ => rfl) fun _ => rfl
  | deletingKey a => exact View.awaits_ext (fun _ => rfl) fun _ => rfl
  | listing => exact View.awaits_ext (fun _ => rfl) fun _ => rfl
  | ended outcome => cases outcome <;> rfl

end TokenPoint

theorem token_refines : Refines tokenProtocol tokenSystem TokenPoint.program where
  view := TokenPoint.view_program
  launch call w := by
    simp only [tokenProtocol, tokenSystem, call.program_eq, Option.map_map]
    rfl

end SalesforceTikTok
