import Mathlib.Data.List.Infix
import SalesforceTikTok.Auth.Effects

/-!
# The Redis copy and the Postgres row

`upsert` writes the row and then its copy, and a failure to write the copy is
swallowed; a lookup copies the row it read. From an upsert's return on the two
agree if they agree then and no call is about to write an older token.
-/

namespace SalesforceTikTok

open Concurrency
open TokenStore (cacheKey)

/-- The call is about to store or delete the row of this advertiser. -/
def TokenPoint.rewrites (a : String) : TokenPoint → Bool
  | .upserting _ row => row.advertiserId = a
  | .deletingRow b => b = a
  | _ => false

/-- A row of this advertiser that the call may copy to Redis has this access token. -/
def TokenPoint.copies (a accessToken : String) : TokenPoint → Prop
  | .timingRow _ _ row | .warming _ _ row | .caching _ row =>
      row.advertiserId = a → row.accessToken = accessToken
  | _ => True

theorem TokenPoint.Light.copies {x : TokenPoint} (light : x.Light) (a accessToken : String) :
    x.copies a accessToken := by
  cases light <;> trivial

theorem Writer.stored_copies (writer : Writer) (row : StoredToken) (a accessToken : String) :
    (writer.stored row).copies a accessToken := by
  cases writer with
  | direct => trivial
  | refresh k => exact (k.refreshed_light row).copies a accessToken
  | exchange data now rest stored => cases rest <;> trivial

/-- When the `SET` of an upsert is answered so: Postgres holds the row it stored, the `SET`
takes effect or replaces no other token, and every row that a call is about to copy has its
access token. -/
structure Coherent (row : StoredToken) (b : TokenConfig TokenPoint) (choice : TokenChoice) : Prop where
  stored : b.world.rows.lookup row.advertiserId = some row
  copied : (∃ e, choice = .fail e) → ∀ token expiry,
    b.world.cache.lookup (cacheKey row.advertiserId) = some (token, expiry) →
      token.accessToken = row.accessToken
  held : ∀ p ∈ b.procs, p.state.copies row.advertiserId row.accessToken

structure Serves (row : StoredToken) (w : TokenWorld) : Prop where
  keyed : w.Keyed
  stored : w.rows.lookup row.advertiserId = some row
  copy : ∀ token expiry, w.cache.lookup (cacheKey row.advertiserId) = some (token, expiry) →
    token.accessToken = row.accessToken

section

variable {row : StoredToken} {w : TokenWorld}

theorem Serves.cacheSet (h : Serves row w) {other : StoredToken}
    (same : other.advertiserId = row.advertiserId → other.accessToken = row.accessToken)
    (ttl : Int) : Serves row (w.cacheSet (cacheKey other.advertiserId) other.active ttl) where
  keyed := h.keyed
  stored := h.stored
  copy := by
    intro token expiry found
    obtain ⟨key, rfl⟩ | stored := Storage.Expiring.lookup_set_cases found
    · exact same (cacheKey_inj key).symm
    · exact h.copy token expiry stored

theorem Serves.cacheDel (h : Serves row w) (key : String) : Serves row (w.cacheDel key) where
  keyed := h.keyed
  stored := h.stored
  copy := fun token expiry found => h.copy token expiry (Storage.Expiring.lookup_of_del found)

theorem Serves.upsertRow (h : Serves row w) {other : StoredToken}
    (distinct : other.advertiserId ≠ row.advertiserId) : Serves row (w.upsertRow other) where
  keyed := h.keyed.upsertRow other
  stored := (AList.lookup_insert_ne distinct.symm).trans h.stored
  copy := h.copy

theorem Serves.deleteRow (h : Serves row w) {b : String} (distinct : b ≠ row.advertiserId) :
    Serves row (w.deleteRow b) where
  keyed := h.keyed.deleteRow b
  stored := (AList.lookup_erase_ne distinct.symm).trans h.stored
  copy := h.copy

/-- One answer to a call that rewrites no row of the advertiser. -/
theorem Serves.effect {x : TokenPoint} {v : TokenWorld} (h : Serves row w)
    (effect : TokenEffect x w v) (copies : x.copies row.advertiserId row.accessToken)
    (undisturbed : x.rewrites row.advertiserId = false) : Serves row v := by
  cases effect with
  | none => exact h
  | listed ids => exact ⟨h.keyed, h.stored, h.copy⟩
  | dropped key => exact h.cacheDel key
  | warmed => exact h.cacheSet copies _
  | cached => exact h.cacheSet copies _
  | stored => exact h.upsertRow (of_decide_eq_false undisturbed)
  | deleted => exact h.deleteRow (of_decide_eq_false undisturbed)

theorem Serves.copies {x y : TokenPoint} {v : TokenWorld} {r : TokenRecord} (h : Serves row w)
    (t : TokenTransition x w r y v) (copies : x.copies row.advertiserId row.accessToken)
    (undisturbed : x.rewrites row.advertiserId = false) :
    y.copies row.advertiserId row.accessToken := by
  cases t with
  | rowSelected live =>
      intro same
      have found := (TokenWorld.selectActive_some.mp live).1
      have owner := h.keyed _ _ found
      rw [← owner, same, h.stored] at found
      rw [← Option.some.inj found]
  | rowLive live => exact copies
  | rowStored =>
      have distinct := of_decide_eq_false undisturbed
      exact fun same => absurd same distinct
  | cached effect => exact Writer.stored_copies _ _ _ _
  | exchangeTimed =>
      unfold storing
      split <;> trivial
  | copyFresh | rowMissing | selectFailed | rowStale | warmed | tokenKept | recordMissing
  | recordFailed | refreshLapsed | refreshRefused | refreshFailed | rowLost | rowUnconfirmed =>
      exact TokenPoint.Light.copies (by simp) _ _
  | _ => trivial

end

/-! ## Lookups after the upsert -/

/-- Where a `getActiveToken` that is served this token can be. -/
inductive Served (trace : List TokenRecord) (pid : Nat) (row : StoredToken) : TokenPoint → Prop where
  | getting : Served trace pid row (.gettingCache .direct row.advertiserId)
  | timing (token : ActiveToken) (same : token.accessToken = row.accessToken) :
      Served trace pid row (.timingCached .direct row.advertiserId token)
  | dropping : Served trace pid row (.droppingCached .direct row.advertiserId)
  | selecting : Served trace pid row (.selectingActive .direct row.advertiserId)
  | holding : Served trace pid row (.timingRow .direct row.advertiserId row)
  | warming : Served trace pid row (.warming .direct row.advertiserId row)
  | found (token : ActiveToken) (same : token.accessToken = row.accessToken) :
      Served trace pid row (.ended (.ok (.active (some token))))
  | failed (e : JsError) (rejected : SelectRejected trace pid row.advertiserId) :
      Served trace pid row (.ended (.error e))

theorem Served.append {trace : List TokenRecord} {pid : Nat} {row : StoredToken} {x : TokenPoint}
    (h : Served trace pid row x) (more : List TokenRecord) : Served (trace ++ more) pid row x := by
  cases h with
  | getting => exact .getting
  | timing token same => exact .timing token same
  | dropping => exact .dropping
  | selecting => exact .selecting
  | holding => exact .holding
  | warming => exact .warming
  | found token same => exact .found token same
  | failed e rejected => exact .failed e (rejected.append more)

theorem Served.step {trace : List TokenRecord} {row : StoredToken} {x y : TokenPoint}
    {w v : TokenWorld} {r : TokenRecord} (h : Served trace r.pid row x)
    (t : TokenTransition x w r y v) (serves : Serves row w)
    (unexpired : w.clock < row.refreshTokenExpiresAt) : Served (trace ++ [r]) r.pid row y := by
  cases h with
  | getting =>
      cases t with
      | cacheHit copy =>
          obtain ⟨expiry, stored⟩ := Storage.Expiring.lookup_of_get copy
          exact .timing _ (serves.copy _ expiry stored)
      | cacheMiss => exact .selecting
      | cacheUnread => exact .selecting
  | timing token same =>
      cases t with
      | copyFresh fresh => exact .found token same
      | copyStale stale => exact .dropping
  | dropping =>
      cases t with
      | copyDropped effect => exact .selecting
  | selecting =>
      have live : w.selectActive row.advertiserId = some row :=
        TokenWorld.selectActive_some.mpr ⟨serves.stored, unexpired⟩
      cases t with
      | rowSelected selected =>
          obtain rfl := Option.some.inj (live.symm.trans selected)
          exact .holding
      | rowMissing missing =>
          rw [live] at missing
          cases missing
      | selectFailed lost =>
          exact .failed _ ⟨_, List.mem_append_right _ List.mem_cons_self, rfl, rfl, lost⟩
  | holding =>
      cases t with
      | rowLive live => exact .warming
      | rowStale stale => exact .found row.active rfl
  | warming =>
      cases t with
      | warmed effect => exact .found row.active rfl
  | found token same => cases t
  | failed e rejected => cases t

/-- What holds after an upsert from whose return on calls are numbered `n`. -/
structure AfterUpsert (row : StoredToken) (n : Nat) (c : TokenConfig TokenPoint) : Prop where
  serves : Serves row c.world
  copies : ∀ p ∈ c.procs, p.state.copies row.advertiserId row.accessToken
  undisturbed : ∀ p ∈ c.procs, p.state.rewrites row.advertiserId = false
  unexpired : c.world.clock < row.refreshTokenExpiresAt
  earlier : n ≤ c.procs.length
  served : ∀ pid p, n ≤ pid → c.procs[pid]? = some p →
    p.entry = .getActiveToken row.advertiserId → Served c.trace pid row p.state

def Unrewritten (row : StoredToken) (c : TokenConfig TokenPoint) : Prop :=
  (∀ p ∈ c.procs, p.state.rewrites row.advertiserId = false) ∧
    c.world.clock < row.refreshTokenExpiresAt

theorem AfterUpsert.run {row : StoredToken} {n : Nat} {c c' : TokenConfig TokenPoint}
    {rest : List TokenAction} (hr : tokenProtocol.run c rest = some c')
    (along : tokenProtocol.Along (fun _ _ d => Unrewritten row d) c rest)
    (h : AfterUpsert row n c) : AfterUpsert row n c' := by
  refine token_invariant (fun _ _ d => Unrewritten row d) (AfterUpsert row n) ?_ ?_ ?_ hr along h
  · intro c call listed h asked
    refine ⟨⟨h.serves.keyed, h.serves.stored, h.serves.copy⟩, ?_, asked.1, asked.2, ?_, ?_⟩
    · intro p hp
      rcases List.mem_append.mp hp with hp | hp
      · exact h.copies p hp
      · obtain rfl := List.mem_singleton.mp hp
        cases call <;> trivial
    · have := h.earlier
      simp only [List.length_append]
      omega
    · intro pid p later hp entry
      obtain hp | ⟨rfl, rfl⟩ := System.get_started hp
      · exact h.served pid p later hp entry
      · have entry : call = .getActiveToken row.advertiserId := entry
        rw [entry]
        exact .getting
  · intro c pid p r y v h hp hpid t asked
    have member := List.mem_of_getElem? hp
    have serves := h.serves.effect t.effect (h.copies p member) (h.undisturbed p member)
    refine ⟨serves, ?_, asked.1, asked.2, by simpa using h.earlier, ?_⟩
    · intro q hq
      rcases List.mem_or_eq_of_mem_set hq with hq | rfl
      · exact h.copies q hq
      · exact h.serves.copies t (h.copies p member) (h.undisturbed p member)
    · intro q p' later hp' entry
      obtain ⟨rfl, rfl⟩ | ⟨_, hp'⟩ := System.get_answered hp'
      · subst hpid
        exact (h.served _ p later hp entry).step t h.serves h.unexpired
      · exact (h.served q p' later hp' entry).append [r]
  · intro c elapsed h asked
    exact ⟨⟨h.serves.keyed, h.serves.stored, h.serves.copy⟩, h.copies, asked.1, asked.2, h.earlier,
      h.served⟩

/-- The upsert's last answer leaves stores that serve its token. -/
theorem Coherent.returned {row : StoredToken} {b c : TokenConfig TokenPoint} {pid : Nat}
    {entry : TokenCall} {writer : Writer} {choice : TokenChoice} (keyed : b.world.Keyed)
    (coherent : Coherent row b choice)
    (upsert : b.procs[pid]? = some ⟨entry, .caching writer row⟩)
    (returned : tokenProtocol.step b (.resume pid choice) = some c) :
    Serves row c.world ∧ ∀ p ∈ c.procs, p.state.copies row.advertiserId row.accessToken := by
  obtain ⟨p, cmd, resume, reply, v, hp, hv, he, rfl⟩ := System.step_resume returned
  obtain rfl : p = ⟨entry, .caching writer row⟩ := by simpa [upsert] using hp.symm
  cases hv
  constructor
  · show Serves row v
    have effect (copy : v = b.world.cacheSet (cacheKey row.advertiserId) row.active
        TOKEN_CACHE_TTL_SECONDS) : Serves row v := by
      subst copy
      refine ⟨keyed, coherent.stored, fun token expiry found => ?_⟩
      have set : (b.world.cacheSet (cacheKey row.advertiserId) row.active
          TOKEN_CACHE_TTL_SECONDS).cache.lookup (cacheKey row.advertiserId) =
          some (row.active, b.world.clock + TOKEN_CACHE_TTL_SECONDS * 1000) :=
        AList.lookup_insert _
      rw [set] at found
      cases found
      rfl
    obtain ⟨_, _, copy⟩ | ⟨e, _, ⟨lost, same⟩ | ⟨_, copy⟩⟩ := TokenChoice.apply_cases he
    · exact effect copy
    · subst same
      exact ⟨keyed, coherent.stored, coherent.copied ⟨e, lost⟩⟩
    · exact effect copy
  · intro q hq
    rcases List.mem_or_eq_of_mem_set hq with hq | rfl
    · exact coherent.held q hq
    · exact writer.stored_copies row _ _

theorem Served.outcome {trace : List TokenRecord} {pid : Nat} {row : StoredToken} {x : TokenPoint}
    (h : Served trace pid row x) {outcome : Except JsError TokenResult}
    (ended : x.view = .ended outcome) :
    (∃ token, outcome = .ok (.active (some token)) ∧ token.accessToken = row.accessToken) ∨
      SelectRejected trace pid row.advertiserId := by
  cases h with
  | found token same => cases ended; exact .inl ⟨token, rfl, same⟩
  | failed e rejected => exact .inr rejected
  | _ => cases ended

/-- An `upsert` that returns in a coherent state, after which no call rewrites the advertiser's
row: until its refresh token expires, every later `getActiveToken` ends, and unless Postgres
rejects its `SELECT` it returns the access token that was stored, however Redis fails. -/
theorem cache_coherent {w : TokenWorld} (keyed : w.Keyed) {row : StoredToken}
    {before rest : List TokenAction} {b c : TokenConfig TokenPoint}
    {c' : TokenConfig (TokenProg TokenResult)} {pid : Nat} {entry : TokenCall} {writer : Writer}
    {choice : TokenChoice} (h : tokenProtocol.run (.initial w) before = some b)
    (upsert : b.procs[pid]? = some ⟨entry, .caching writer row⟩)
    (returned : tokenProtocol.step b (.resume pid choice) = some c)
    (coherent : Coherent row b choice)
    (hr : tokenSystem.run (c.map TokenPoint.program) rest = some c')
    (undisturbed : ∀ first more d, rest = first ++ more → tokenProtocol.run c first = some d →
      ∀ p ∈ d.procs, p.state.rewrites row.advertiserId = false)
    (unexpired : c'.world.clock < row.refreshTokenExpiresAt) :
    ∀ q p, c.procs.length ≤ q → c'.procs[q]? = some p →
      p.entry = .getActiveToken row.advertiserId →
        (∀ outcome, tokenSystem.Ended c' q outcome →
          (∃ token, outcome = .ok (.active (some token)) ∧ token.accessToken = row.accessToken) ∨
            SelectRejected c'.trace q row.advertiserId) ∧
        (tokenSystem.InFlight c' q → (c'.own q).length < 6 ∧
          ∃ choice, (tokenSystem.step c' (.resume q choice)).isSome = true) := by
  obtain ⟨d, hd, rfl, whole⟩ := token_continue h returned hr
  have asked : ∀ first more e, rest = first ++ more → tokenProtocol.run c first = some e →
      Unrewritten row e := by
    intro first more e split reached
    have later : tokenProtocol.run e more = some d := by
      rw [split, System.run_append, reached] at hd
      exact hd
    exact ⟨undisturbed first more e split reached, Int.lt_of_le_of_lt (clock_mono later) unexpired⟩
  have start := asked [] rest c rfl rfl
  obtain ⟨serves, copies⟩ := coherent.returned (keyed_run keyed h) upsert returned
  have now : AfterUpsert row c.procs.length c := by
    refine ⟨serves, copies, start.1, start.2, Nat.le_refl _, fun q p later hq => ?_⟩
    have bound := (List.getElem?_eq_some_iff.mp hq).choose
    exact absurd bound (Nat.not_lt.mpr later)
  have after := now.run hd (System.along_of_prefixes _ asked)
  intro q p later hp lookup
  have progress := token_progress whole hp
  rw [Config.map_get, Option.map_eq_some_iff] at hp
  obtain ⟨p', hp', rfl⟩ := hp
  have lookup : p'.entry = .getActiveToken row.advertiserId := lookup
  refine ⟨fun outcome ended => ?_, fun running => ?_⟩
  · have hv := (token_refines.ended.mp ended).view_eq hp'
    exact (after.served q p' later hp' lookup).outcome hv
  · simpa [lookup, TokenCall.startPoint, TokenPoint.answersLeft, Caller.answersLeft] using
      progress (by simp [lookup, TokenCall.startPoint, TokenPoint.asks]) running

/-! ## A copy that outlives its row -/

namespace TokenSample

def row (accessToken : String) : StoredToken where
  advertiserId := "adv-001"
  accessToken := accessToken
  refreshToken := "refresh-xyz"
  accessTokenExpiresAt := 86400000
  refreshTokenExpiresAt := 31536000000

/-- One token is stored in both places; then another is, up to its copy. -/
def replacing : List TokenAction :=
  [.start (.upsert (row "old")), .resume 0 .ok, .resume 0 .ok, .start (.upsert (row "new")),
    .resume 1 .ok]

def replaced : TokenConfig TokenPoint := points (replacing ++ [.resume 1 .ok]) (by decide)

def lookupUncached : List TokenAction :=
  [.start (.getActiveToken "adv-001"), .resume 2 (.fail redisDown), .resume 2 .ok, .resume 2 .ok,
    .resume 2 (.fail redisDown)]

end TokenSample

theorem cache_coherent_uncached :
    ∃ c', tokenSystem.run (TokenSample.replaced.map TokenPoint.program)
        TokenSample.lookupUncached = some c' ∧
      ∀ outcome, tokenSystem.Ended c' 2 outcome →
        (∃ token, outcome = .ok (.active (some token)) ∧ token.accessToken = "new") ∨
          SelectRejected c'.trace 2 "adv-001" := by
  have h : tokenProtocol.run (.initial (.fresh 0)) TokenSample.replacing =
      some (TokenSample.points TokenSample.replacing (by decide)) := System.run_result _
  have upsert : (TokenSample.points TokenSample.replacing (by decide)).procs[1]? =
      some ⟨.upsert (TokenSample.row "new"), .caching .direct (TokenSample.row "new")⟩ := rfl
  have returned : tokenProtocol.step (TokenSample.points TokenSample.replacing (by decide))
      (.resume 1 .ok) = some TokenSample.replaced := rfl
  have coherent : Coherent (TokenSample.row "new")
      (TokenSample.points TokenSample.replacing (by decide)) .ok := by
    have procs : (TokenSample.points TokenSample.replacing (by decide)).procs =
        [⟨.upsert (TokenSample.row "old"), .ended (.ok (.stored (TokenSample.row "old")))⟩,
          ⟨.upsert (TokenSample.row "new"), .caching .direct (TokenSample.row "new")⟩] := rfl
    refine ⟨rfl, fun lost => by simp at lost, fun p hp => ?_⟩
    rw [procs] at hp
    obtain rfl | rfl : _ ∨ _ := by simpa using hp
    · trivial
    · exact fun _ => rfl
  have hr : tokenSystem.run (TokenSample.replaced.map TokenPoint.program)
      TokenSample.lookupUncached = some (tokenSystem.result
        (TokenSample.replaced.map TokenPoint.program) TokenSample.lookupUncached (by decide)) :=
    System.run_result _
  have undisturbed : ∀ first ∈ TokenSample.lookupUncached.inits,
      ∀ d ∈ tokenProtocol.run TokenSample.replaced first,
        ∀ p ∈ d.procs, p.state.rewrites "adv-001" = false := by
    decide
  have served := cache_coherent (fun _ _ found => by cases found) h upsert returned coherent hr
    (fun first more d split => undisturbed first ((List.mem_inits _ _).mpr ⟨more, split.symm⟩) d)
    (by decide)
  exact ⟨_, hr, (served 2 _ (by decide) rfl rfl).1⟩

/-- The second upsert has returned; Redis failed its `SET`, and a lookup begun afterwards
returns the first one's token. -/
theorem stale_token_returned :
    ∃ c c', tokenSystem.run (.initial (.fresh 0))
        (TokenSample.replacing ++ [.resume 1 (.fail TokenSample.redisDown)]) = some c ∧
      tokenSystem.Ended c 1 (.ok (.stored (TokenSample.row "new"))) ∧ c.procs.length = 2 ∧
      tokenSystem.run c [.start (.getActiveToken "adv-001"), .resume 2 .ok, .resume 2 .ok] =
        some c' ∧
      tokenSystem.Ended c' 2 (.ok (.active (some ⟨"old", "adv-001", 86400000⟩))) :=
  ⟨_, _, System.run_result (by decide), ⟨_, rfl, rfl⟩, rfl, System.run_result (by decide),
    ⟨_, rfl, rfl⟩⟩

end SalesforceTikTok
