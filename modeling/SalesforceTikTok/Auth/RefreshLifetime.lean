import SalesforceTikTok.Auth.Effects

/-!
# Active tokens and their refresh tokens

`getActiveToken` looks at the expiry of the refresh token only when it answers from
Postgres. What it answers from Redis is right all the same: grants and refreshes give
a row 24 h of access and 365 days of refresh from one reading of the clock, rows and
copies come from nothing else, and a copy is returned only before its access token
expires.
-/

namespace SalesforceTikTok

open Concurrency
open TokenStore (cacheKey)
open TikTokOAuthClient (storedRow)

/-! ## Where rows and copies come from -/

/-- The call was delivered this token pair and read this time. -/
structure Received (trace : List TokenRecord) (pid : Nat) (data : TokenData) (now : Int) :
    Prop where
  delivered : ∃ r ∈ trace, r.pid = pid ∧ ∃ issue ∈ r.choice.issue, issue.data = data
  timed : (⟨pid, .now, .ok, .ok now⟩ : TokenRecord) ∈ trace

def StoredToken.Produced (row : StoredToken) (trace : List TokenRecord) : Prop :=
  ∃ pid data now, Received trace pid data now ∧ row = storedRow data now row.advertiserId

def ActiveToken.Produced (token : ActiveToken) (trace : List TokenRecord) : Prop :=
  ∃ row : StoredToken, row.Produced trace ∧ token = row.active

/-- Rows and copies are produced, and expire no later than the refresh token they came with. -/
structure RefreshOutlasts (trace : List TokenRecord) (w : TokenWorld) : Prop where
  rows : ∀ a row, w.rows.lookup a = some row →
    row.Produced trace ∧ row.accessTokenExpiresAt ≤ row.refreshTokenExpiresAt
  copies : ∀ key token expiry, w.cache.lookup key = some (token, expiry) →
    ∃ row : StoredToken, row.Produced trace ∧ token = row.active ∧
      token.expiresAt ≤ row.refreshTokenExpiresAt

theorem Received.append {trace : List TokenRecord} {pid : Nat} {data : TokenData} {now : Int}
    (h : Received trace pid data now) (more : List TokenRecord) :
    Received (trace ++ more) pid data now := by
  obtain ⟨⟨r, hr, delivered⟩, timed⟩ := h
  exact ⟨⟨r, List.mem_append_left more hr, delivered⟩, List.mem_append_left more timed⟩

theorem StoredToken.Produced.append {row : StoredToken} {trace : List TokenRecord}
    (h : row.Produced trace) (more : List TokenRecord) : row.Produced (trace ++ more) := by
  obtain ⟨pid, data, now, received, same⟩ := h
  exact ⟨pid, data, now, received.append more, same⟩

theorem ActiveToken.Produced.append {token : ActiveToken} {trace : List TokenRecord}
    (h : token.Produced trace) (more : List TokenRecord) : token.Produced (trace ++ more) := by
  obtain ⟨row, produced, same⟩ := h
  exact ⟨row, produced.append more, same⟩

theorem StoredToken.Produced.outlasted {row : StoredToken} {trace : List TokenRecord}
    (h : row.Produced trace) : row.accessTokenExpiresAt ≤ row.refreshTokenExpiresAt := by
  obtain ⟨pid, data, now, _, same⟩ := h
  rw [same]
  show now + ACCESS_TOKEN_TTL_SECONDS * 1000 ≤ now + REFRESH_TOKEN_TTL_SECONDS * 1000
  unfold ACCESS_TOKEN_TTL_SECONDS REFRESH_TOKEN_TTL_SECONDS
  omega

theorem Received.produces {trace : List TokenRecord} {pid : Nat} {data : TokenData} {now : Int}
    (h : Received trace pid data now) (a : String) : (storedRow data now a).Produced trace :=
  ⟨pid, data, now, h, rfl⟩

/-! ## What a call has in hand -/

def Writer.Holds (trace : List TokenRecord) (pid : Nat) : Writer → Prop
  | .exchange data now _ _ => Received trace pid data now
  | .direct | .refresh _ => True

def TokenPoint.Holds (trace : List TokenRecord) (pid : Nat) : TokenPoint → Prop
  | .timingCached _ _ token => token.Produced trace
  | .timingRow _ _ row | .warming _ _ row => row.Produced trace
  | .postingRefresh _ _ _ now => (⟨pid, .now, .ok, .ok now⟩ : TokenRecord) ∈ trace
  | .timingExchange response =>
      ∃ r ∈ trace, r.pid = pid ∧ ∃ issue ∈ r.choice.issue, issue.data = response.data
  | .upserting writer row | .caching writer row => row.Produced trace ∧ writer.Holds trace pid
  | _ => True

section

variable {trace : List TokenRecord} {pid : Nat}

theorem Writer.Holds.append {writer : Writer} (h : writer.Holds trace pid)
    (more : List TokenRecord) : writer.Holds (trace ++ more) pid := by
  cases writer with
  | exchange data now rest stored => exact Received.append h more
  | _ => trivial

theorem TokenPoint.Holds.append {x : TokenPoint} (h : x.Holds trace pid)
    (more : List TokenRecord) : x.Holds (trace ++ more) pid := by
  cases x with
  | timingCached k a token => exact ActiveToken.Produced.append h more
  | timingRow k a row => exact StoredToken.Produced.append h more
  | warming k a row => exact StoredToken.Produced.append h more
  | postingRefresh k a row now => exact List.mem_append_left more h
  | timingExchange response =>
      obtain ⟨r, hr, delivered⟩ := h
      exact ⟨r, List.mem_append_left more hr, delivered⟩
  | upserting writer row => exact ⟨h.1.append more, h.2.append more⟩
  | caching writer row => exact ⟨h.1.append more, h.2.append more⟩
  | _ => trivial

theorem TokenPoint.Light.holds {x : TokenPoint} (light : x.Light) : x.Holds trace pid := by
  cases light <;> trivial

private theorem storing_holds {data : TokenData} {now : Int} (h : Received trace pid data now)
    (stored : List StoredToken) (rest : List String) :
    (storing data now stored rest).Holds trace pid := by
  cases rest with
  | nil => trivial
  | cons a rest => exact ⟨h.produces a, h⟩

theorem Writer.stored_holds {writer : Writer} (h : writer.Holds trace pid) (row : StoredToken) :
    (writer.stored row).Holds trace pid := by
  cases writer with
  | direct => trivial
  | refresh k => exact (k.refreshed_light row).holds
  | exchange data now rest stored => exact storing_holds h (stored ++ [row]) rest

end

structure StoresProduced (trace : List TokenRecord) (w : TokenWorld) : Prop where
  rows : ∀ a row, w.rows.lookup a = some row → row.Produced trace
  copies : ∀ key token expiry, w.cache.lookup key = some (token, expiry) → token.Produced trace

namespace StoresProduced

variable {trace : List TokenRecord} {w v : TokenWorld} {x : TokenPoint} {pid : Nat}

theorem append (h : StoresProduced trace w) (more : List TokenRecord) :
    StoresProduced (trace ++ more) w where
  rows a row found := (h.rows a row found).append more
  copies key token expiry found := (h.copies key token expiry found).append more

theorem effect (h : StoresProduced trace w) (effect : TokenEffect x w v)
    (holds : x.Holds trace pid) : StoresProduced trace v where
  rows := by
    intro a row found
    obtain old | ⟨writer, rfl, _⟩ := effect.row_cases found
    · exact h.rows a row old
    · exact holds.1
  copies := by
    intro key token expiry found
    obtain old | ⟨row, _, rfl, ⟨k, a, rfl⟩ | ⟨writer, rfl⟩⟩ := effect.copy_cases found
    · exact h.copies key token expiry old
    · exact ⟨row, holds, rfl⟩
    · exact ⟨row, holds.1, rfl⟩

/-- What one answer puts into the hands of a call was produced, or received by it. -/
theorem holds (h : StoresProduced trace w) {r : TokenRecord} {y : TokenPoint}
    (t : TokenTransition x w r y v) (here : x.Holds trace r.pid) :
    y.Holds (trace ++ [r]) r.pid := by
  have next := h.append [r]
  have kept := here.append [r]
  have latest : r ∈ trace ++ [r] := List.mem_append_right trace List.mem_cons_self
  cases t with
  | cacheHit copy =>
      obtain ⟨expiry, stored⟩ := Storage.Expiring.lookup_of_get copy
      exact next.copies _ _ expiry stored
  | rowSelected live => exact next.rows _ _ (TokenWorld.selectActive_some.mp live).1
  | rowLive | rowStored => exact kept
  | refreshDue live => exact latest
  | refreshGranted code issued =>
      have received : Received _ _ _ _ := ⟨⟨_, latest, rfl, _, if_pos code, rfl⟩, kept⟩
      exact ⟨received.produces _, trivial⟩
  | exchangeGranted code issued => exact ⟨_, latest, rfl, _, if_pos code, rfl⟩
  | exchangeTimed => exact storing_holds ⟨kept, latest⟩ [] _
  | cached effect => exact Writer.stored_holds kept.2 _
  | copyFresh | rowMissing | selectFailed | rowStale | warmed | tokenKept | recordMissing
  | recordFailed | refreshLapsed | refreshRefused | refreshFailed | rowLost | rowUnconfirmed =>
      exact TokenPoint.Light.holds (by simp)
  | _ => trivial

end StoresProduced

/-- Everything stored was produced, and everything in hand produced or received. -/
structure AllProduced (c : TokenConfig TokenPoint) : Prop where
  stores : StoresProduced c.trace c.world
  points : ∀ {pid : Nat} {p : Proc TokenCall TokenPoint}, c.procs[pid]? = some p →
    p.state.Holds c.trace pid

private theorem allProduced_run {time : Int} {c : TokenConfig TokenPoint}
    {actions : List TokenAction} (h : tokenProtocol.run (.initial (.fresh time)) actions = some c)
    (delivered : ∀ act ∈ actions, storesDirectly act = false) : AllProduced c := by
  refine token_invariant (fun _ act _ => storesDirectly act = false) AllProduced ?_ ?_ ?_ h
    (System.along_of_actions _ delivered _) ?_
  · intro c call listed h own
    refine ⟨⟨h.stores.rows, h.stores.copies⟩, fun hp => ?_⟩
    obtain old | ⟨_, rfl⟩ := System.get_started hp
    · exact h.points old
    · cases call with
      | upsert params => cases own
      | _ => trivial
  · intro c pid p r y v h hp hpid t _
    subst hpid
    have here := h.points hp
    refine ⟨(h.stores.effect t.effect here).append [r], fun hq => ?_⟩
    obtain ⟨rfl, rfl⟩ | ⟨_, old⟩ := System.get_answered hq
    · exact h.stores.holds t here
    · exact (h.points old).append [r]
  · exact fun c elapsed h _ => ⟨⟨h.stores.rows, h.stores.copies⟩, h.points⟩
  · constructor
    · constructor
      · rintro a row ⟨⟩
      · rintro key token expiry ⟨⟩
    · rintro pid p ⟨⟩

/-! ## What a lookup has read -/

/-- One of the actions answered the call's read at `time` with this token, which is that of the
produced row: from Redis, or from Postgres. -/
def TokenRead (w : TokenWorld) (actions : List TokenAction) (pid : Nat) (a : String)
    (token : ActiveToken) (time : Int) (row : StoredToken) : Prop :=
  ∃ before choice rest b, actions = before ++ .resume pid choice :: rest ∧
    tokenSystem.run (.initial w) before = some b ∧ b.world.clock = time ∧
    row.Produced b.trace ∧ token = row.active ∧
    (tokenSystem.Awaits b pid (.cacheGet (cacheKey a)) ∧
        b.world.cache.get time (cacheKey a) = some token ∨
      tokenSystem.Awaits b pid (.selectActive a) ∧ b.world.selectActive a = some row)

theorem TokenRead.append {w : TokenWorld} {actions : List TokenAction} {pid : Nat} {a : String}
    {token : ActiveToken} {time : Int} {row : StoredToken}
    (h : TokenRead w actions pid a token time row) (more : List TokenAction) :
    TokenRead w (actions ++ more) pid a token time row := by
  obtain ⟨before, choice, rest, b, rfl, read⟩ := h
  exact ⟨before, choice, rest ++ more, b, by simp, read⟩

/-- The call read the token while its refresh token was good. -/
def ReadInTime (w : TokenWorld) (actions : List TokenAction) (pid : Nat) (a : String)
    (token : ActiveToken) : Prop :=
  ∃ time row, TokenRead w actions pid a token time row ∧ time < row.refreshTokenExpiresAt

/-- Where a `getActiveToken` can be, and what it has read. -/
inductive Looking (w : TokenWorld) (actions : List TokenAction) (pid : Nat) (a : String)
    (now : Int) : TokenPoint → Prop where
  | asking : Looking w actions pid a now (.gettingCache .direct a)
  | timing {token time row} (read : TokenRead w actions pid a token time row)
      (past : time ≤ now) : Looking w actions pid a now (.timingCached .direct a token)
  | dropping : Looking w actions pid a now (.droppingCached .direct a)
  | selecting : Looking w actions pid a now (.selectingActive .direct a)
  | selected {row} (read : ReadInTime w actions pid a row.active) :
      Looking w actions pid a now (.timingRow .direct a row)
  | warming {row} (read : ReadInTime w actions pid a row.active) :
      Looking w actions pid a now (.warming .direct a row)
  | absent : Looking w actions pid a now (.ended (.ok (.active none)))
  | found {token} (read : ReadInTime w actions pid a token) :
      Looking w actions pid a now (.ended (.ok (.active (some token))))
  | failed (e : JsError) : Looking w actions pid a now (.ended (.error e))

namespace Looking

variable {w : TokenWorld} {actions : List TokenAction} {pid : Nat} {a : String} {now : Int}
  {x : TokenPoint}

theorem later (h : Looking w actions pid a now x) (more : List TokenAction) {now' : Int}
    (past : now ≤ now') : Looking w (actions ++ more) pid a now' x := by
  have kept {token : ActiveToken} (read : ReadInTime w actions pid a token) :
      ReadInTime w (actions ++ more) pid a token := by
    obtain ⟨time, row, read, live⟩ := read
    exact ⟨time, row, read.append more, live⟩
  cases h with
  | asking => exact .asking
  | timing read before => exact .timing (read.append more) (Int.le_trans before past)
  | dropping => exact .dropping
  | selecting => exact .selecting
  | selected read => exact .selected (kept read)
  | warming read => exact .warming (kept read)
  | absent => exact .absent
  | found read => exact .found (kept read)
  | failed e => exact .failed e

/-- A lookup takes what it reads from a produced row, and keeps it only while that is good. -/
theorem answered {d : TokenConfig TokenPoint} {r : TokenRecord} {y : TokenPoint} {v : TokenWorld}
    (hd : tokenProtocol.run (.initial w) actions = some d) (produced : AllProduced d)
    {p : Proc TokenCall TokenPoint} (hp : d.procs[r.pid]? = some p)
    (h : Looking w actions r.pid a d.world.clock p.state)
    (t : TokenTransition p.state d.world r y v) :
    Looking w (actions ++ [.resume r.pid r.choice]) r.pid a d.world.clock y := by
  have reached : tokenSystem.run (.initial w) actions = some (d.map TokenPoint.program) :=
    (token_refines.run (.initial w) actions).trans (congrArg (Option.map _) hd)
  have after := h.later [.resume r.pid r.choice] (Int.le_refl d.world.clock)
  obtain ⟨entry, x⟩ := p
  dsimp only at h t after
  cases h with
  | asking =>
      cases t with
      | cacheHit copy =>
          obtain ⟨expiry, stored⟩ := Storage.Expiring.lookup_of_get copy
          obtain ⟨row, made, same⟩ := produced.stores.copies _ _ expiry stored
          refine .timing ⟨actions, _, [], _, rfl, reached, rfl, made, same, .inl ⟨?_, copy⟩⟩
            (Int.le_refl _)
          exact token_refines.awaits.mpr ⟨_, _, hp, rfl⟩
      | cacheMiss => exact .selecting
      | cacheUnread => exact .selecting
  | timing read past =>
      cases t with
      | copyFresh fresh =>
          obtain ⟨before, choice, rest, b, split, run, clock, made, same, source⟩ := id read
          refine .found ⟨_, _, read.append _, ?_⟩
          rw [same] at fresh
          exact Int.lt_of_lt_of_le (Int.lt_of_le_of_lt past fresh) made.outlasted
      | copyStale stale => exact .dropping
  | dropping =>
      cases t with
      | copyDropped effect => exact .selecting
  | selecting =>
      cases t with
      | rowSelected live =>
          rename_i row pid choice
          obtain ⟨stored, unexpired⟩ := TokenWorld.selectActive_some.mp live
          refine .selected ⟨d.world.clock, row, ⟨actions, _, [], _, rfl, reached, rfl,
            produced.stores.rows _ _ stored, rfl, .inr ⟨?_, live⟩⟩, unexpired⟩
          exact token_refines.awaits.mpr ⟨_, _, hp, rfl⟩
      | rowMissing missing => exact .absent
      | selectFailed lost => exact .failed _
  | selected read =>
      cases after with
      | selected read =>
          cases t with
          | rowLive live => exact .warming read
          | rowStale stale => exact .found read
  | warming read =>
      cases after with
      | warming read =>
          cases t with
          | warmed effect => exact .found read
  | absent => cases t
  | found read => cases t
  | failed e => cases t

end Looking

private theorem looking_run {time : Int} {c : TokenConfig TokenPoint} {actions : List TokenAction}
    (h : tokenProtocol.run (.initial (.fresh time)) actions = some c)
    (delivered : ∀ act ∈ actions, storesDirectly act = false) {pid : Nat}
    {p : Proc TokenCall TokenPoint} (hp : c.procs[pid]? = some p) {a : String}
    (entry : p.entry = .getActiveToken a) :
    Looking (.fresh time) actions pid a c.world.clock p.state := by
  refine System.run_induction (fun taken d => (∀ act ∈ taken, storesDirectly act = false) →
    ∀ (pid : Nat) (p : Proc TokenCall TokenPoint), d.procs[pid]? = some p →
      p.entry = .getActiveToken a → Looking (.fresh time) taken pid a d.world.clock p.state)
    ?_ h (fun _ _ _ none => by cases none) delivered pid p hp entry
  intro taken d act d' reached ih hs direct pid p hp entry
  have before := ih fun b hb => direct b (List.mem_append_left _ hb)
  cases act with
  | start call =>
      obtain ⟨x, v, hl, rfl⟩ := System.step_start hs
      obtain ⟨v', entered, same⟩ := Option.map_eq_some_iff.mp hl
      cases same
      obtain ⟨listed, rfl⟩ := TokenCall.enter_cases entered
      obtain old | ⟨_, rfl⟩ := System.get_started hp
      · exact (before pid p old entry).later _ (Int.le_refl _)
      · obtain rfl : call = .getActiveToken a := entry
        exact .asking
  | resume q choice =>
      obtain ⟨p', cmd, resume, reply, v, hq, hv, he, rfl⟩ := System.step_resume hs
      have t := TokenPoint.transition q hv he
      have clock : v.clock = d.world.clock := t.effect.clock_eq
      rw [clock]
      obtain ⟨rfl, rfl⟩ | ⟨_, old⟩ := System.get_answered hp
      · have produced := allProduced_run reached fun b hb => direct b (List.mem_append_left _ hb)
        exact Looking.answered reached produced hq (before pid p' hq entry) t
      · exact (before pid p old entry).later _ (Int.le_refl _)
  | env event =>
      obtain ⟨v, hv, rfl⟩ := System.step_env hs
      cases event with
      | tick elapsed =>
          cases hv
          refine (before pid p hp entry).later _ ?_
          simp only
          omega

/-- In every run in which rows come from grants and refreshes only, rows and copies expire no
later than the refresh token they came with; and whatever token `getActiveToken` returns, its
refresh token was good when it was read. -/
theorem active_token_refreshable {time : Int} {actions : List TokenAction}
    {c : TokenConfig (TokenProg TokenResult)}
    (h : tokenSystem.run (.initial (.fresh time)) actions = some c)
    (delivered : ∀ act ∈ actions, storesDirectly act = false) :
    RefreshOutlasts c.trace c.world ∧
      ∀ pid a token, c.entries[pid]? = some (.getActiveToken a) →
        tokenSystem.Ended c pid (.ok (.active (some token))) →
        ReadInTime (.fresh time) actions pid a token := by
  obtain ⟨d, hd, rfl⟩ := token_refines.lift (c := .initial (.fresh time)) h
  have produced := allProduced_run hd delivered
  constructor
  · constructor
    · intro a row found
      have made := produced.stores.rows a row found
      exact ⟨made, made.outlasted⟩
    · intro key token expiry found
      obtain ⟨row, made, rfl⟩ := produced.stores.copies key token expiry found
      exact ⟨row, made, rfl, made.outlasted⟩
  · intro pid a token entry ended
    obtain ⟨p, hp, hv⟩ := token_refines.ended.mp ended
    rw [Config.entries, List.getElem?_map, Config.map_get, hp] at entry
    have looking := looking_run hd delivered hp (Option.some.inj entry)
    obtain ⟨call, x⟩ := p
    dsimp only at looking hv
    cases looking <;> cases hv
    assumption

/-! ## A token read from Redis -/

namespace TokenSample

def readBack : List TokenAction :=
  granted .ok ++ [.start (.getActiveToken "adv-001"), .resume 1 .ok, .resume 1 .ok]

end TokenSample

open TokenSample in
theorem active_token_refreshable_copy :
    let c := tokenSystem.result (.initial (.fresh 0)) readBack (by decide)
    RefreshOutlasts c.trace c.world ∧
      ReadInTime (.fresh 0) readBack 1 "adv-001" ⟨"access-abc", "adv-001", 86400000⟩ := by
  intro c
  have possible : (tokenSystem.run (.initial (.fresh 0)) readBack).isSome = true := by decide
  have refreshable := active_token_refreshable (System.run_result possible) (by decide)
  exact ⟨refreshable.1, refreshable.2 1 "adv-001" _ rfl ⟨_, rfl, rfl⟩⟩

end SalesforceTikTok
