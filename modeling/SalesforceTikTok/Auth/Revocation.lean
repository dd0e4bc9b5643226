import SalesforceTikTok.Auth.Effects

/-!
# Revocation

`revoke` deletes the row and then the Redis copy. A call that took the row, or a
grant, before the deletion can put either back afterwards; once no such call is in
flight, nothing brings the token back short of a new grant.
-/

namespace SalesforceTikTok

open Concurrency
open TikTokOAuthClient (storedRow)
open TokenStore (cacheKey)

/-! ## Calls with a row in hand -/

def Writer.pending (a : String) : Writer → Bool
  | .exchange _ _ rest _ => a ∈ rest
  | .direct | .refresh _ => false

/-- The call has a row or a grant of this advertiser in hand and may yet store it. -/
def TokenPoint.carries (a : String) : TokenPoint → Bool
  | .timingRow _ _ row | .warming _ _ row => row.advertiserId = a
  | .timingRefresh _ b _ | .postingRefresh _ b _ _ => b = a
  | .upserting writer row | .caching writer row => row.advertiserId = a ∨ writer.pending a
  | .timingExchange response => a ∈ response.advertiserIds
  | _ => false

@[simp] theorem TokenPoint.Light.carries {x : TokenPoint} (light : x.Light) (a : String) :
    x.carries a = false := by
  cases light <;> rfl

@[simp] theorem storing_carries (data : TokenData) (now : Int) (stored : List StoredToken)
    (rest : List String) (a : String) :
    (storing data now stored rest).carries a = decide (a ∈ rest) := by
  cases rest with
  | nil => rfl
  | cons b rest =>
      simp [storing, TokenPoint.carries, storedRow, Writer.pending, eq_comm]

@[simp] theorem Writer.stored_carries (writer : Writer) (row : StoredToken) (a : String) :
    (writer.stored row).carries a = writer.pending a := by
  cases writer with
  | direct => rfl
  | refresh k => exact (k.refreshed_light row).carries a
  | exchange data now rest stored => exact storing_carries data now (stored ++ [row]) rest a

/-! ## A revoked advertiser -/

/-- The action hands out tokens of this advertiser: a response of an exchange names it,
or a row of it is given to `upsert` directly. -/
def grants (a : String) : TokenAction → Bool
  | .start (.upsert params) => params.advertiserId = a
  | .resume _ (.exchanged response _) => a ∈ response.advertiserIds
  | _ => false

/-- Postgres holds no row of the advertiser and no call in flight has one in hand. -/
structure Quiet (a : String) (c : TokenConfig TokenPoint) : Prop where
  row : c.world.rows.lookup a = none
  idle : ∀ p ∈ c.procs, p.state.carries a = false

/-- No token of the advertiser is stored anywhere, or about to be. -/
structure Revoked (a : String) (w : TokenWorld) : Prop where
  keyed : w.Keyed
  row : w.rows.lookup a = none
  copy : w.cache.lookup (cacheKey a) = none

theorem Revoked.cacheSet {a : String} {w : TokenWorld} (h : Revoked a w) {row : StoredToken}
    (other : row.advertiserId ≠ a) (ttl : Int) :
    Revoked a (w.cacheSet (cacheKey row.advertiserId) row.active ttl) where
  keyed := h.keyed
  row := h.row
  copy := by
    have keys : cacheKey a ≠ cacheKey row.advertiserId := fun same => other (cacheKey_inj same).symm
    exact (Storage.Expiring.lookup_set_ne keys _ _).trans h.copy

theorem Revoked.cacheDel {a : String} {w : TokenWorld} (h : Revoked a w) (key : String) :
    Revoked a (w.cacheDel key) where
  keyed := h.keyed
  row := h.row
  copy := by
    cases found : (w.cache.del key).lookup (cacheKey a) with
    | none => exact found
    | some entry =>
        have stored := Storage.Expiring.lookup_of_del found
        rw [h.copy] at stored
        cases stored

theorem Revoked.upsertRow {a : String} {w : TokenWorld} (h : Revoked a w) {row : StoredToken}
    (other : row.advertiserId ≠ a) : Revoked a (w.upsertRow row) where
  keyed := h.keyed.upsertRow row
  row := (AList.lookup_insert_ne other.symm).trans h.row
  copy := h.copy

theorem Revoked.deleteRow {a : String} {w : TokenWorld} (h : Revoked a w) (b : String) :
    Revoked a (w.deleteRow b) where
  keyed := h.keyed.deleteRow b
  row := by
    by_cases same : a = b
    · subst same
      exact AList.lookup_erase a w.rows
    · exact (AList.lookup_erase_ne same).trans h.row
  copy := h.copy

/-- One answer to a call without a row in hand leaves a revoked advertiser revoked. -/
theorem Revoked.effect {a : String} {x : TokenPoint} {w v : TokenWorld} (h : Revoked a w)
    (effect : TokenEffect x w v) (idle : x.carries a = false) : Revoked a v := by
  cases effect with
  | none => exact h
  | listed ids => exact ⟨h.keyed, h.row, h.copy⟩
  | dropped key => exact h.cacheDel key
  | warmed => exact h.cacheSet (of_decide_eq_false idle) _
  | cached =>
      have other := of_decide_eq_false idle
      exact h.cacheSet (fun same => other (.inl same)) _
  | stored =>
      have other := of_decide_eq_false idle
      exact h.upsertRow fun same => other (.inl same)
  | deleted => exact h.deleteRow _

/-- Nor does the call get a row of that advertiser, short of a grant. -/
theorem Revoked.idle {a : String} {x y : TokenPoint} {w v : TokenWorld} {r : TokenRecord}
    (h : Revoked a w) (t : TokenTransition x w r y v) (idle : x.carries a = false) {pid : Nat}
    (ungranted : grants a (.resume pid r.choice) = false) : y.carries a = false := by
  cases t with
  | rowSelected live =>
      refine decide_eq_false fun same => ?_
      have found := (TokenWorld.selectActive_some.mp live).1
      have owner := h.keyed _ _ found
      rw [← owner, same, h.row] at found
      cases found
  | recordFound found =>
      refine decide_eq_false fun same => ?_
      rw [same, h.row] at found
      cases found
  | rowLive | refreshDue | rowStored => exact idle
  | refreshGranted code issued =>
      have other := of_decide_eq_false idle
      simp [TokenPoint.carries, storedRow, Writer.pending, other]
  | cached effect =>
      have other := of_decide_eq_false idle
      rw [Writer.stored_carries]
      exact Bool.eq_false_iff.mpr fun later => other (.inr later)
  | exchangeGranted code issued => exact ungranted
  | exchangeTimed =>
      rw [storing_carries]
      exact idle
  | copyFresh | rowMissing | selectFailed | rowStale | warmed | tokenKept | recordMissing
  | recordFailed | refreshLapsed | refreshRefused | refreshFailed | rowLost | rowUnconfirmed =>
      exact TokenPoint.Light.carries (by simp) a
  | _ => rfl

/-! ## Lookups after the revocation -/

inductive Fruitless (trace : List TokenRecord) (pid : Nat) (k : Caller) (a : String) :
    TokenPoint → Prop where
  | getting : Fruitless trace pid k a (.gettingCache k a)
  | selecting : Fruitless trace pid k a (.selectingActive k a)
  | absent : Fruitless trace pid k a (k.absent a)
  | failed (e : JsError) (rejected : SelectRejected trace pid a) :
      Fruitless trace pid k a (k.failed e)

theorem Fruitless.append {trace : List TokenRecord} {pid : Nat} {k : Caller} {a : String}
    {x : TokenPoint} (h : Fruitless trace pid k a x) (more : List TokenRecord) :
    Fruitless (trace ++ more) pid k a x := by
  cases h with
  | getting => exact .getting
  | selecting => exact .selecting
  | absent => exact .absent
  | failed e rejected => exact .failed e (rejected.append more)

theorem Fruitless.step {trace : List TokenRecord} {k : Caller} {a : String} {x y : TokenPoint}
    {w v : TokenWorld} {r : TokenRecord} (h : Fruitless trace r.pid k a x)
    (t : TokenTransition x w r y v) (revoked : Revoked a w) :
    Fruitless (trace ++ [r]) r.pid k a y := by
  cases h with
  | getting =>
      cases t with
      | cacheHit copy =>
          rw [Storage.Expiring.get_of_absent revoked.copy] at copy
          cases copy
      | cacheMiss => exact .selecting
      | cacheUnread => exact .selecting
  | selecting =>
      cases t with
      | rowSelected live =>
          have found := (TokenWorld.selectActive_some.mp live).1
          rw [revoked.row] at found
          cases found
      | rowMissing missing => exact .absent
      | selectFailed lost =>
          exact .failed _ ⟨_, List.mem_append_right _ List.mem_cons_self, rfl, rfl, lost⟩
  | absent => cases k <;> cases t
  | failed e rejected => cases k <;> cases t

/-- What holds after a revocation from which on calls are numbered `n`. -/
structure AfterRevocation (a : String) (n : Nat) (c : TokenConfig TokenPoint) : Prop where
  revoked : Revoked a c.world
  idle : ∀ p ∈ c.procs, p.state.carries a = false
  earlier : n ≤ c.procs.length
  fruitless : ∀ pid p k, n ≤ pid → c.procs[pid]? = some p → p.entry.lookup = some (k, a) →
    Fruitless c.trace pid k a p.state

theorem AfterRevocation.run {a : String} {n : Nat} {c c' : TokenConfig TokenPoint}
    {rest : List TokenAction} (hr : tokenProtocol.run c rest = some c')
    (ungranted : ∀ act ∈ rest, grants a act = false) (h : AfterRevocation a n c) :
    AfterRevocation a n c' := by
  refine token_invariant (fun _ act _ => grants a act = false) (AfterRevocation a n) ?_ ?_ ?_ hr
    (System.along_of_actions _ ungranted c) h
  · intro c call listed h ungranted
    refine ⟨⟨h.revoked.keyed, h.revoked.row, h.revoked.copy⟩, ?_, ?_, ?_⟩
    · intro p hp
      rcases List.mem_append.mp hp with hp | hp
      · exact h.idle p hp
      · obtain rfl := List.mem_singleton.mp hp
        cases call with
        | upsert params =>
            have other : params.advertiserId ≠ a := of_decide_eq_false ungranted
            simp [TokenCall.startPoint, TokenPoint.carries, Writer.pending, other]
        | _ => rfl
    · have := h.earlier
      simp only [List.length_append]
      omega
    · intro pid p k later hp lookup
      obtain hp | ⟨rfl, rfl⟩ := System.get_started hp
      · exact h.fruitless pid p k later hp lookup
      · rw [TokenCall.startPoint_of_lookup lookup]
        exact .getting
  · intro c pid p r y v h hp hpid t ungranted
    have idle := h.idle p (List.mem_of_getElem? hp)
    refine ⟨h.revoked.effect t.effect idle, ?_, by simpa using h.earlier, ?_⟩
    · intro q hq
      rcases List.mem_or_eq_of_mem_set hq with hq | rfl
      · exact h.idle q hq
      · exact h.revoked.idle t idle ungranted
    · intro q p' k later hp' lookup
      obtain ⟨rfl, rfl⟩ | ⟨_, hp'⟩ := System.get_answered hp'
      · subst hpid
        exact (h.fruitless _ p k later hp lookup).step t h.revoked
      · exact (h.fruitless q p' k later hp' lookup).append [r]
  · intro c elapsed h _
    exact ⟨⟨h.revoked.keyed, h.revoked.row, h.revoked.copy⟩, h.idle, h.earlier, h.fruitless⟩

/-- The revocation's last answer empties the cache; what else it promises must be so already. -/
theorem AfterRevocation.of_returned {a : String} {b c : TokenConfig TokenPoint} {pid : Nat}
    (revoke : b.procs[pid]? = some ⟨.revoke a, .deletingKey a⟩)
    (returned : tokenProtocol.step b (.resume pid .ok) = some c) (keyed : b.world.Keyed)
    (quiet : Quiet a c) : AfterRevocation a c.procs.length c := by
  obtain ⟨p, cmd, resume, reply, v, hp, hv, he, rfl⟩ := System.step_resume returned
  obtain rfl : p = ⟨.revoke a, .deletingKey a⟩ := by simpa [revoke] using hp.symm
  cases hv
  cases he
  refine ⟨⟨keyed, quiet.row, Storage.Expiring.lookup_del _ _⟩, quiet.idle, Nat.le_refl _, ?_⟩
  intro q p k later hq
  have bound := (List.getElem?_eq_some_iff.mp hq).choose
  exact absurd bound (Nat.not_lt.mpr later)

theorem Fruitless.outcome {trace : List TokenRecord} {pid : Nat} {k : Caller} {a : String}
    {x : TokenPoint} (h : Fruitless trace pid k a x) {outcome : Except JsError TokenResult}
    (ended : x.view = .ended outcome) :
    k.absent a = .ended outcome ∨
      ∃ e, k.failed e = .ended outcome ∧ SelectRejected trace pid a := by
  cases h with
  | getting => cases ended
  | selecting => cases ended
  | absent =>
      refine .inl ?_
      cases k <;> cases ended <;> rfl
  | failed e rejected =>
      refine .inr ⟨e, ?_, rejected⟩
      cases k <;> cases ended <;> rfl

/-- A `revoke` whose last command was answered while Postgres held no row of the advertiser
and no call had one in hand is final, short of a new grant: nothing puts the token back, every
later `getActiveToken` resolves to null unless its own `SELECT` is rejected, every later
`getValidToken` throws, and each of them ends. -/
theorem revocation_final {w : TokenWorld} (keyed : w.Keyed) {a : String}
    {before rest : List TokenAction} {b c : TokenConfig TokenPoint}
    {c' : TokenConfig (TokenProg TokenResult)} {pid : Nat}
    (h : tokenProtocol.run (.initial w) before = some b)
    (revoke : b.procs[pid]? = some ⟨.revoke a, .deletingKey a⟩)
    (returned : tokenProtocol.step b (.resume pid .ok) = some c) (quiet : Quiet a c)
    (hr : tokenSystem.run (c.map TokenPoint.program) rest = some c')
    (ungranted : ∀ act ∈ rest, grants a act = false) :
    c'.world.rows.lookup a = none ∧ c'.world.cache.lookup (cacheKey a) = none ∧
      ∀ q p, c.procs.length ≤ q → c'.procs[q]? = some p →
        (p.entry = .getActiveToken a →
          (∀ outcome, tokenSystem.Ended c' q outcome →
            outcome = .ok (.active none) ∨ SelectRejected c'.trace q a) ∧
          (tokenSystem.InFlight c' q → (c'.own q).length < 6 ∧
            ∃ choice, (tokenSystem.step c' (.resume q choice)).isSome = true)) ∧
        (p.entry = .getValidToken a →
          (∀ outcome, tokenSystem.Ended c' q outcome → ∃ e, outcome = .error e) ∧
          (tokenSystem.InFlight c' q → (c'.own q).length < 12 ∧
            ∃ choice, (tokenSystem.step c' (.resume q choice)).isSome = true)) := by
  obtain ⟨d, hd, rfl, whole⟩ := token_continue h returned hr
  have after := (AfterRevocation.of_returned revoke returned (keyed_run keyed h) quiet).run hd
    ungranted
  refine ⟨after.revoked.row, after.revoked.copy, fun q p later hp => ?_⟩
  have progress := token_progress whole hp
  rw [Config.map_get, Option.map_eq_some_iff] at hp
  obtain ⟨p', hp', rfl⟩ := hp
  have outcomes : ∀ {k}, p'.entry.lookup = some (k, a) → ∀ outcome,
      tokenSystem.Ended (d.map TokenPoint.program) q outcome → k.absent a = .ended outcome ∨
        ∃ e, k.failed e = .ended outcome ∧ SelectRejected d.trace q a := by
    intro k lookup outcome ended
    have hv := (token_refines.ended.mp ended).view_eq hp'
    exact (after.fruitless q p' k later hp' lookup).outcome hv
  refine ⟨fun entry => ⟨fun outcome ended => ?_, fun running => ?_⟩,
    fun entry => ⟨fun outcome ended => ?_, fun running => ?_⟩⟩
  · have entry : p'.entry = .getActiveToken a := entry
    obtain none_found | ⟨e, _, rejected⟩ := outcomes (by rw [entry]; rfl) outcome ended
    · cases none_found
      exact .inl rfl
    · exact .inr rejected
  · have entry : p'.entry = .getActiveToken a := entry
    simpa [entry, TokenCall.startPoint, TokenPoint.answersLeft, Caller.answersLeft] using
      progress (by simp [entry, TokenCall.startPoint, TokenPoint.asks]) running
  · have entry : p'.entry = .getValidToken a := entry
    obtain none_found | ⟨e, thrown, _⟩ := outcomes (by rw [entry]; rfl) outcome ended
    · cases none_found
      exact ⟨_, rfl⟩
    · cases thrown
      exact ⟨e, rfl⟩
  · have entry : p'.entry = .getValidToken a := entry
    simpa [entry, TokenCall.startPoint, TokenPoint.answersLeft, Caller.answersLeft] using
      progress (by simp [entry, TokenCall.startPoint, TokenPoint.asks]) running

/-! ## A lookup overtaken by a revocation -/

namespace TokenSample

def revoking : List TokenAction := granted .ok ++ [.start (.revoke "adv-001"), .resume 1 .ok]

def revoked : TokenConfig TokenPoint := points (revoking ++ [.resume 1 .ok]) (by decide)

def lookup : List TokenAction :=
  [.start (.getActiveToken "adv-001"), .resume 2 .ok, .resume 2 .ok]

/-- A lookup has read the row and is about to copy it to Redis when the revocation runs. -/
def overtaken : List TokenAction :=
  granted (.fail redisDown) ++
    [.start (.getActiveToken "adv-001"), .resume 1 .ok, .resume 1 .ok, .resume 1 .ok,
      .start (.revoke "adv-001"), .resume 2 .ok, .resume 2 .ok]

def resurrected : List TokenAction :=
  [.resume 1 .ok, .start (.getActiveToken "adv-001"), .resume 3 .ok, .resume 3 .ok]

end TokenSample

theorem revocation_final_direct :
    ∃ c', tokenSystem.run (TokenSample.revoked.map TokenPoint.program) TokenSample.lookup = some c' ∧
      c'.world.rows.lookup "adv-001" = none ∧
      c'.world.cache.lookup (cacheKey "adv-001") = none := by
  have h : tokenProtocol.run (.initial (.fresh 0)) TokenSample.revoking =
      some (TokenSample.points TokenSample.revoking (by decide)) := System.run_result _
  have revoke : (TokenSample.points TokenSample.revoking (by decide)).procs[1]? =
      some ⟨.revoke "adv-001", .deletingKey "adv-001"⟩ := rfl
  have returned : tokenProtocol.step (TokenSample.points TokenSample.revoking (by decide))
      (.resume 1 .ok) = some TokenSample.revoked := rfl
  have hr : tokenSystem.run (TokenSample.revoked.map TokenPoint.program) TokenSample.lookup =
      some (tokenSystem.result (TokenSample.revoked.map TokenPoint.program) TokenSample.lookup
        (by decide)) := System.run_result _
  have final := revocation_final (fun _ _ found => by cases found) h revoke returned
    ⟨by decide, by decide⟩ hr (by decide)
  exact ⟨_, hr, final.1, final.2.1⟩

/-- The revocation has returned, and a lookup begun afterwards returns the revoked token. -/
theorem revoked_token_returned :
    ∃ c c', tokenSystem.run (.initial (.fresh 0)) TokenSample.overtaken = some c ∧
      c.procs[2]?.map Proc.entry = some (.revoke "adv-001") ∧
      tokenSystem.Ended c 2 (.ok .done) ∧
      tokenSystem.run c TokenSample.resurrected = some c' ∧
      c.procs.length = 3 ∧ c'.procs[3]?.map Proc.entry = some (.getActiveToken "adv-001") ∧
      tokenSystem.Ended c' 3 (.ok (.active (some ⟨"access-abc", "adv-001", 86400000⟩))) := by
  refine ⟨_, _, System.run_result (by decide), rfl, ⟨_, rfl, rfl⟩, System.run_result (by decide),
    rfl, rfl, ⟨_, rfl, rfl⟩⟩

end SalesforceTikTok
