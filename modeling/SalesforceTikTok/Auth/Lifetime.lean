import Mathlib.Data.List.Chain
import SalesforceTikTok.Auth.Effects

/-!
# How long a returned token is good

Exchange and refresh compute a token's expiry from a constant, 24 h after a clock
reading of theirs, and not from the lifetime the response announces. The expiry
then travels with the row, its Redis copy and the lookups; `Backed` is what it is
worth at each of these places.
-/

namespace SalesforceTikTok

open Concurrency
open TokenStore (cacheKey)
open TikTokOAuthClient (storedRow)

def TokenIssue.endsAt (issue : TokenIssue) : Int :=
  issue.issuedAt + issue.data.accessTokenExpireIn * 1000

/-- The access token was delivered in some answer and its lifetime lasts beyond this time. -/
def AliveAt (trace : List TokenRecord) (accessToken : String) (time : Int) : Prop :=
  ∃ r ∈ trace, ∃ issue ∈ r.choice.issue,
    issue.data.accessToken = accessToken ∧ time < issue.endsAt

instance (trace : List TokenRecord) (accessToken : String) (time : Int) :
    Decidable (AliveAt trace accessToken time) :=
  inferInstanceAs (Decidable (∃ r ∈ trace, ∃ issue ∈ r.choice.issue,
    issue.data.accessToken = accessToken ∧ time < issue.endsAt))

/-- The token pair outlasts what the code counts on when it reads the clock at `now`: 24 h
less the margin of one hour. -/
def TokenIssue.lasts (issue : TokenIssue) (now : Int) : Prop :=
  now + ACCESS_TOKEN_TTL_SECONDS * 1000 - ONE_HOUR ≤ issue.endsAt

/-- Two consecutive answers to one call: a refresh reads the clock before its POST, an
exchange after it. -/
def Covered (r₁ r₂ : TokenRecord) : Prop :=
  match r₁, r₂ with
  | ⟨_, .now, _, .ok now⟩, ⟨_, .postRefresh _, choice, _⟩ =>
      ∀ issue ∈ choice.issue, issue.lasts now
  | ⟨_, .postExchange _, choice, _⟩, ⟨_, .now, _, .ok now⟩ =>
      ∀ issue ∈ choice.issue, issue.lasts now
  | _, _ => True

instance (issue : TokenIssue) (now : Int) : Decidable (issue.lasts now) :=
  inferInstanceAs (Decidable (_ ≤ _))

instance (r₁ r₂ : TokenRecord) : Decidable (Covered r₁ r₂) := by
  unfold Covered
  split <;> infer_instance

/-- Every token pair delivered in the run outlasts what the code counts on. -/
def LongLived {X : Type} (c : TokenConfig X) : Prop :=
  ∀ pid, (c.own pid).IsChain Covered

/-! ## What an expiry is worth -/

def Backed (trace : List TokenRecord) (accessToken : String) (expiresAt : Int) : Prop :=
  ∃ r ∈ trace, ∃ issue ∈ r.choice.issue,
    issue.data.accessToken = accessToken ∧ expiresAt - ONE_HOUR ≤ issue.endsAt

theorem Backed.append {trace : List TokenRecord} {accessToken : String} {expiresAt : Int}
    (h : Backed trace accessToken expiresAt) (more : List TokenRecord) :
    Backed (trace ++ more) accessToken expiresAt := by
  obtain ⟨r, hr, rest⟩ := h
  exact ⟨r, List.mem_append_left more hr, rest⟩

def StoredToken.Backed (row : StoredToken) (trace : List TokenRecord) : Prop :=
  SalesforceTikTok.Backed trace row.accessToken row.accessTokenExpiresAt

def ActiveToken.Backed (token : ActiveToken) (trace : List TokenRecord) : Prop :=
  SalesforceTikTok.Backed trace token.accessToken token.expiresAt

def Writer.Backed (trace : List TokenRecord) : Writer → Prop
  | .exchange data now _ _ =>
      SalesforceTikTok.Backed trace data.accessToken (now + ACCESS_TOKEN_TTL_SECONDS * 1000)
  | .direct | .refresh _ => True

def TokenPoint.Backed (trace : List TokenRecord) : TokenPoint → Prop
  | .timingCached _ _ token | .timingActive _ _ token => token.Backed trace
  | .timingRow _ _ row | .warming _ _ row => row.Backed trace
  | .upserting writer row | .caching writer row => row.Backed trace ∧ writer.Backed trace
  | _ => True

theorem TokenPoint.Backed.append {trace : List TokenRecord} {x : TokenPoint}
    (h : x.Backed trace) (more : List TokenRecord) : x.Backed (trace ++ more) := by
  cases x with
  | timingCached k a token => exact SalesforceTikTok.Backed.append h more
  | timingActive k a token => exact SalesforceTikTok.Backed.append h more
  | timingRow k a row => exact SalesforceTikTok.Backed.append h more
  | warming k a row => exact SalesforceTikTok.Backed.append h more
  | upserting writer row =>
      refine ⟨SalesforceTikTok.Backed.append h.1 more, ?_⟩
      cases writer with
      | exchange data now rest stored => exact SalesforceTikTok.Backed.append h.2 more
      | _ => trivial
  | caching writer row =>
      refine ⟨SalesforceTikTok.Backed.append h.1 more, ?_⟩
      cases writer with
      | exchange data now rest stored => exact SalesforceTikTok.Backed.append h.2 more
      | _ => trivial
  | _ => trivial

theorem Caller.found_backed {trace : List TokenRecord} {k : Caller} {a : String}
    {token : ActiveToken} (h : token.Backed trace) : (k.found a token).Backed trace := by
  cases k with
  | direct => trivial
  | valid => exact h
  | task => exact h

theorem Caller.failed_backed {trace : List TokenRecord} (k : Caller) (e : JsError) :
    (k.failed e).Backed trace := by
  cases k <;> trivial

theorem Writer.failed_backed {trace : List TokenRecord} (writer : Writer) (e : JsError) :
    (writer.failed e).Backed trace := by
  cases writer with
  | refresh k => exact k.failed_backed e
  | _ => trivial

private theorem storing_backed {trace : List TokenRecord} {data : TokenData} {now : Int}
    (h : SalesforceTikTok.Backed trace data.accessToken (now + ACCESS_TOKEN_TTL_SECONDS * 1000))
    (stored : List StoredToken) (rest : List String) :
    (storing data now stored rest).Backed trace := by
  cases rest with
  | nil => trivial
  | cons a rest => exact ⟨h, h⟩

theorem Writer.stored_backed {trace : List TokenRecord} {writer : Writer}
    (h : writer.Backed trace) (row : StoredToken) : (writer.stored row).Backed trace := by
  cases writer with
  | direct => trivial
  | refresh k => cases k <;> trivial
  | exchange data now rest stored => exact storing_backed h (stored ++ [row]) rest

structure StoresBacked (trace : List TokenRecord) (w : TokenWorld) : Prop where
  rows : ∀ a row, w.rows.lookup a = some row → row.Backed trace
  copies : ∀ key token expiry, w.cache.lookup key = some (token, expiry) → token.Backed trace

section

variable {trace : List TokenRecord} {w : TokenWorld}

theorem StoresBacked.append (h : StoresBacked trace w) (more : List TokenRecord) :
    StoresBacked (trace ++ more) w where
  rows a row found := SalesforceTikTok.Backed.append (h.rows a row found) more
  copies key token expiry found := SalesforceTikTok.Backed.append (h.copies key token expiry found) more

/-- What a call that has backed rows in hand stores is backed. -/
theorem StoresBacked.effect (h : StoresBacked trace w) {x : TokenPoint} {v : TokenWorld}
    (effect : TokenEffect x w v) (backed : x.Backed trace) : StoresBacked trace v where
  rows := by
    intro a row found
    obtain old | ⟨writer, rfl, _⟩ := effect.row_cases found
    · exact h.rows a row old
    · exact backed.1
  copies := by
    intro key token expiry found
    obtain old | ⟨row, _, rfl, ⟨k, a, rfl⟩ | ⟨writer, rfl⟩⟩ := effect.copy_cases found
    · exact h.copies key token expiry old
    · exact backed
    · exact backed.1

end

/-- What the answers to a call were, at the points between a response and its row. -/
def Remembered (x : TokenPoint) (history : List TokenRecord) : Prop :=
  match x with
  | .postingRefresh _ _ _ now => ∃ earlier pid, history = earlier ++ [⟨pid, .now, .ok, .ok now⟩]
  | .timingExchange response => response.code = 0 ∧ ∃ earlier pid authCode issuedAt,
      history = earlier ++
        [⟨pid, .postExchange authCode, .exchanged response issuedAt, .ok response⟩]
  | .upserting (.refresh _) row | .caching (.refresh _) row =>
      ∃ r ∈ history, ∃ issue ∈ r.choice.issue, issue.data.accessToken = row.accessToken
  | _ => True

theorem TokenPoint.Light.remembered {x : TokenPoint} (light : x.Light)
    (history : List TokenRecord) : Remembered x history := by
  cases light <;> trivial

private theorem storing_remembered (data : TokenData) (now : Int) (stored : List StoredToken)
    (rest : List String) (history : List TokenRecord) :
    Remembered (storing data now stored rest) history := by
  cases rest <;> trivial

theorem Writer.stored_remembered (writer : Writer) (row : StoredToken)
    (history : List TokenRecord) : Remembered (writer.stored row) history := by
  cases writer with
  | direct => trivial
  | refresh k => exact (k.refreshed_light row).remembered history
  | exchange data now rest stored => exact storing_remembered data now (stored ++ [row]) rest history

private theorem remembered {w : TokenWorld} {c : TokenConfig TokenPoint}
    {actions : List TokenAction} (h : tokenProtocol.run (.initial w) actions = some c) {pid : Nat}
    {p : Proc TokenCall TokenPoint} (hp : c.procs[pid]? = some p) :
    Remembered p.state (c.own pid) := by
  refine token_own (fun _ x history => Remembered x history) ?_ ?_ h hp
  · intro call
    cases call <;> trivial
  · intro call x history w r y v own t
    cases t with
    | refreshDue live => exact ⟨history, _, rfl⟩
    | exchangeGranted code issued => exact ⟨code, history, _, _, _, rfl⟩
    | refreshGranted code issued =>
        exact ⟨_, List.mem_append_right history List.mem_cons_self, _, if_pos code, rfl⟩
    | rowStored =>
        rename_i writer row pid
        cases writer with
        | refresh k =>
            obtain ⟨r, hr, delivered⟩ := own
            exact ⟨r, List.mem_append_left _ hr, delivered⟩
        | _ => trivial
    | cached effect => exact Writer.stored_remembered _ _ _
    | exchangeTimed => exact storing_remembered _ _ _ _ _
    | copyFresh | rowMissing | selectFailed | rowStale | warmed | tokenKept | recordMissing
    | recordFailed | refreshLapsed | refreshRefused | refreshFailed | rowLost | rowUnconfirmed =>
        exact TokenPoint.Light.remembered (by simp) _
    | _ => trivial

theorem StoresBacked.backed {trace history : List TokenRecord} {x y : TokenPoint}
    {w v : TokenWorld} {r : TokenRecord} (h : StoresBacked trace w)
    (t : TokenTransition x w r y v) (backed : x.Backed trace) (latest : Remembered x history)
    (recorded : history ⊆ trace) (covered : (history ++ [r]).IsChain Covered) :
    y.Backed (trace ++ [r]) := by
  have last {earlier : List TokenRecord} {r' : TokenRecord} (ends : history = earlier ++ [r']) :
      Covered r' r := by
    rw [ends, List.append_assoc] at covered
    exact (List.isChain_append_cons_cons.mp covered).2.1
  have next := h.append [r]
  have kept := backed.append [r]
  cases t with
  | cacheHit copy =>
      obtain ⟨expiry, stored⟩ := Storage.Expiring.lookup_of_get copy
      exact next.copies _ _ expiry stored
  | rowSelected live => exact next.rows _ _ (TokenWorld.selectActive_some.mp live).1
  | copyFresh | rowStale | warmed => exact Caller.found_backed kept
  | rowLive | rowStored => exact kept
  | refreshGranted code issued =>
      obtain ⟨earlier, pid, ends⟩ := latest
      have lasts := last ends _ (if_pos code)
      exact ⟨⟨_, List.mem_append_right _ List.mem_cons_self, _, if_pos code, rfl, lasts⟩, trivial⟩
  | cached effect => exact Writer.stored_backed kept.2 _
  | exchangeTimed =>
      obtain ⟨code, earlier, pid, authCode, issuedAt, ends⟩ := latest
      have lasts := last ends _ (if_pos code)
      have delivered := recorded (ends ▸ List.mem_append_right earlier List.mem_cons_self)
      exact storing_backed ⟨_, List.mem_append_left _ delivered, _, if_pos code, rfl, lasts⟩ [] _
  | rowMissing | tokenKept => cases ‹Caller› <;> trivial
  | rowLost | rowUnconfirmed => exact Writer.failed_backed _ _
  | selectFailed | recordMissing | recordFailed | refreshLapsed | refreshRefused
  | refreshFailed => exact Caller.failed_backed _ _
  | _ => trivial

/-! ## Long-lived runs -/

theorem LongLived.of_run {c d : TokenConfig TokenPoint} {rest : List TokenAction}
    (h : tokenProtocol.run d rest = some c) (long : LongLived c) : LongLived d := by
  intro pid
  obtain ⟨more, whole⟩ := (System.run_trace h).filter fun r => r.pid = pid
  have chain : (d.own pid ++ more).IsChain Covered := whole ▸ long pid
  exact chain.left_of_append

structure AllBacked (w : TokenWorld) (c : TokenConfig TokenPoint) : Prop where
  reached : ∃ actions, tokenProtocol.run (.initial w) actions = some c
  stores : StoresBacked c.trace c.world
  points : ∀ p ∈ c.procs, p.state.Backed c.trace

private theorem allBacked_run {time : Int} {c : TokenConfig TokenPoint} {actions : List TokenAction}
    (h : tokenProtocol.run (.initial (.fresh time)) actions = some c)
    (delivered : ∀ act ∈ actions, storesDirectly act = false) (long : LongLived c) :
    AllBacked (.fresh time) c := by
  have passed : ∀ first rest d, actions = first ++ rest →
      tokenProtocol.run (.initial (.fresh time)) first = some d →
      (∃ actions, tokenProtocol.run (.initial (.fresh time)) actions = some d) ∧ LongLived d := by
    intro first rest d split reached
    rw [split, System.run_append, reached] at h
    exact ⟨⟨first, reached⟩, long.of_run h⟩
  have along := System.Along.and
    (System.along_of_actions (S := tokenProtocol) (fun act => storesDirectly act = false) delivered
      (.initial (.fresh time)))
    (System.along_of_prefixes _ passed)
  refine token_invariant _ (AllBacked (.fresh time)) ?_ ?_ ?_ h along ?_
  · intro c call listed h ⟨own, reached, _⟩
    refine ⟨reached, ⟨h.stores.rows, h.stores.copies⟩, fun p hp => ?_⟩
    rcases List.mem_append.mp hp with hp | hp
    · exact h.points p hp
    · obtain rfl := List.mem_singleton.mp hp
      cases call with
      | upsert params => cases own
      | _ => trivial
  · intro c pid p r y v h hp hpid t ⟨_, reached, long⟩
    have member := List.mem_of_getElem? hp
    obtain ⟨_, run⟩ := h.reached
    have covered := long pid
    subst hpid
    rw [System.own_append_self] at covered
    have stores := h.stores.effect t.effect (h.points p member)
    refine ⟨reached, stores.append [r], fun q hq => ?_⟩
    rcases List.mem_or_eq_of_mem_set hq with hq | rfl
    · exact (h.points q hq).append [r]
    · exact h.stores.backed t (h.points p member) (remembered run hp)
        (fun r hr => (System.mem_own.mp hr).1) covered
  · intro c elapsed h ⟨_, reached, _⟩
    exact ⟨reached, ⟨h.stores.rows, h.stores.copies⟩, h.points⟩
  · refine ⟨⟨[], rfl⟩, ⟨fun a row found => ?_, fun key token expiry found => ?_⟩, fun p hp => ?_⟩
    · cases found
    · cases found
    · cases hp

/-- A call that returns an access token found it good for another hour, or refreshed it. -/
theorem TokenTransition.returns {x y : TokenPoint} {w v : TokenWorld} {r : TokenRecord}
    (t : TokenTransition x w r y v) {accessToken : String}
    (ended : y = .ended (.ok (.accessToken accessToken))) :
    (∃ k a token, x = .timingActive k a token ∧ token.accessToken = accessToken ∧
        w.clock + ONE_HOUR < token.expiresAt) ∨
      ∃ k row, x = .caching (.refresh k) row ∧ row.accessToken = accessToken := by
  cases t with
  | tokenKept renewing fresh =>
      rename_i k a token pid
      cases k <;> cases ended
      exact .inl ⟨_, a, token, rfl, rfl, fresh⟩
  | cached effect =>
      rename_i writer row pid choice reply
      cases writer with
      | direct => cases ended
      | exchange data now rest stored => cases rest <;> cases ended
      | refresh k =>
          cases k <;> cases ended
          exact .inr ⟨_, row, rfl, rfl⟩
  | exchangeTimed =>
      rename_i response pid
      generalize response.advertiserIds = rest at ended
      cases rest <;> cases ended
  | copyFresh | rowMissing | selectFailed | rowStale | warmed | recordMissing | recordFailed
  | refreshLapsed | refreshRefused | refreshFailed => cases ‹Caller› <;> cases ended
  | rowLost | rowUnconfirmed =>
      rename_i writer row pid e
      cases writer with
      | refresh k => cases k <;> cases ended
      | _ => cases ended
  | _ => cases ended

theorem TokenPoint.ended_of_accessToken {x : TokenPoint} {accessToken : String}
    (h : x.view = .ended (.ok (.accessToken accessToken))) :
    x = .ended (.ok (.accessToken accessToken)) := by
  cases x with
  | ended outcome => cases h; rfl
  | timingActive k a token => cases k <;> cases h
  | _ => cases h

/-- In a run whose token pairs outlast what the code counts on, and in which a call that
refreshes stores the fresh pair within its lifetime, `getValidToken` returns no expired token. -/
theorem valid_token_unexpired {time : Int} {actions : List TokenAction} {choice : TokenChoice}
    {b c : TokenConfig (TokenProg TokenResult)} {pid : Nat} {accessToken : String}
    (h : tokenSystem.run (.initial (.fresh time)) actions = some b)
    (answered : tokenSystem.step b (.resume pid choice) = some c)
    (returned : tokenSystem.Ended c pid (.ok (.accessToken accessToken)))
    (delivered : ∀ act ∈ actions, storesDirectly act = false) (long : LongLived c)
    (prompt : ∀ r ∈ c.own pid, ∀ issue ∈ r.choice.issue, c.world.clock < issue.endsAt) :
    AliveAt c.trace accessToken c.world.clock := by
  obtain ⟨b, hb, rfl⟩ := token_refines.lift (c := .initial (.fresh time)) h
  rw [token_refines.step, Option.map_eq_some_iff] at answered
  obtain ⟨c, hc, rfl⟩ := answered
  obtain ⟨p', hp', ended⟩ := token_refines.ended.mp returned
  have one : tokenProtocol.run b [.resume pid choice] = some c := by simp [System.run, hc]
  have backed := allBacked_run hb delivered (long.of_run one)
  obtain ⟨p, cmd, resume, reply, v, hp, hv, he, rfl⟩ := System.step_resume hc
  have t := TokenPoint.transition pid hv he
  have bound : pid < b.procs.length := (List.getElem?_eq_some_iff.mp hp).choose
  obtain rfl : p' = ⟨p.entry, resume reply⟩ := by
    simpa [List.getElem?_set_self bound] using hp'.symm
  have last := TokenPoint.ended_of_accessToken ended
  have clock : v.clock = b.world.clock := t.effect.clock_eq
  obtain ⟨k, a, token, point, same, fresh⟩ | ⟨k, row, point, same⟩ := t.returns last
  · have worth := backed.points p (List.mem_of_getElem? hp)
    rw [point] at worth
    obtain ⟨r, hr, issue, issued, pair, outlasts⟩ := worth
    refine ⟨r, List.mem_append_left _ hr, issue, issued, pair.trans same, ?_⟩
    show v.clock < issue.endsAt
    omega
  · have own := remembered hb hp
    rw [point] at own
    obtain ⟨r, hr, issue, issued, pair⟩ := own
    have recorded := List.mem_append_left [⟨pid, cmd, choice, reply⟩] (System.mem_own.mp hr).1
    have mine : r.pid = pid := (System.mem_own.mp hr).2
    exact ⟨r, recorded, issue, issued, pair.trans same,
      prompt r (System.mem_own.mpr ⟨recorded, mine⟩) issue issued⟩

/-! ## A token of one hour -/

namespace TokenSample

/-- An hour after the grant, a call for a valid token up to its last answer. -/
def validAfterHour : List TokenAction :=
  granted .ok ++
    [.env (.tick 3600000), .start (.getValidToken "adv-001"), .resume 1 .ok, .resume 1 .ok]

def hourGrant : TikTokTokenResponse where
  code := 0
  message := "OK"
  data := { data with accessTokenExpireIn := 3600 }
  advertiserIds := ["adv-001"]

def validAfterTwoHours : List TokenAction :=
  [.start (.exchangeAuthCode "code"), .resume 0 (.exchanged hourGrant 0), .resume 0 .ok,
    .resume 0 .ok, .resume 0 .ok, .env (.tick 7200000), .start (.getValidToken "adv-001"),
    .resume 1 .ok, .resume 1 .ok, .resume 1 .ok]

end TokenSample

theorem valid_token_unexpired_hour :
    ∃ c, tokenSystem.run (.initial (.fresh 0)) (TokenSample.validAfterHour ++ [.resume 1 .ok]) =
        some c ∧ AliveAt c.trace "access-abc" 3600000 := by
  let b := tokenSystem.result (.initial (.fresh 0)) TokenSample.validAfterHour (by decide)
  let c := tokenSystem.result (.initial (.fresh 0))
    (TokenSample.validAfterHour ++ [.resume 1 .ok]) (by decide)
  have h : tokenSystem.run (.initial (.fresh 0)) TokenSample.validAfterHour = some b :=
    System.run_result _
  have answered : tokenSystem.step b (.resume 1 .ok) = some c := rfl
  have long : LongLived c := by
    intro pid
    match pid with
    | 0 => decide
    | 1 => decide
    | pid + 2 =>
      have none : c.own (pid + 2) = [] := rfl
      rw [none]
      exact .nil
  have alive := valid_token_unexpired h answered ⟨_, rfl, rfl⟩ (by decide) long (by decide)
  exact ⟨c, System.run_result _, alive⟩

/-- Two hours after its issue a token of one hour is returned as valid. -/
theorem expired_token_returned :
    ∃ c, tokenSystem.run (.initial (.fresh 0)) TokenSample.validAfterTwoHours = some c ∧
      c.procs[1]?.map Proc.entry = some (.getValidToken "adv-001") ∧
      tokenSystem.Ended c 1 (.ok (.accessToken "access-abc")) ∧ c.world.clock = 7200000 ∧
      ¬ AliveAt c.trace "access-abc" 7200000 :=
  ⟨_, System.run_result (by decide), rfl, ⟨_, rfl, rfl⟩, rfl, by decide⟩

end SalesforceTikTok
