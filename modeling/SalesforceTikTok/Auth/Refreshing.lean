import SalesforceTikTok.Auth.Effects

/-!
# Tokens under the proactive refresher

`start` runs `refreshAll` at once and from then on every 23 h; a run refreshes the tokens
that expire within the hour. Runs are 23 h apart and a token lasts 24, so one of them may
meet it with more than an hour left and the next one an hour or more too late.
-/

namespace SalesforceTikTok

open Concurrency
open TikTokOAuthClient (storedRow)
open TokenStore (cacheKey)

namespace ProactiveRefresher

def intervalMs : Int := 23 * 60 * 60 * 1000

/-- When the interval that begins with `start` calls `refreshAll`, the first call being number
zero. -/
def runsAt (start : Int) (m : Nat) : Int := start + m * intervalMs

end ProactiveRefresher

open ProactiveRefresher (intervalMs runsAt)

/-! ## Runs on schedule -/

/-- The lookup or refresh the call is at, for whom and for which advertiser. -/
def TokenPoint.caller : TokenPoint → Option (Caller × String)
  | .gettingCache k a | .timingCached k a _ | .droppingCached k a | .selectingActive k a
  | .timingRow k a _ | .warming k a _ | .timingActive k a _ | .selectingRow k a
  | .timingRefresh k a _ | .postingRefresh k a _ _ => some (k, a)
  | .upserting (.refresh k) row => some (k, row.advertiserId)
  | _ => none

/-- The call belongs to a `refreshAll` that has this advertiser's token still to check or to
refresh. -/
def TokenPoint.Attends (a : String) (x : TokenPoint) : Prop :=
  x = .listing ∨ x.caller = some (.task, a)

/-- Nothing here takes time: `refreshAll`, and the storing of rows at the time their expiry
was reckoned from. -/
def TokenPoint.swift : TokenPoint → Bool
  | .listing | .timingExchange _ | .upserting _ _ | .caching _ _ => true
  | x =>
      match x.caller with
      | some (.task, _) => true
      | _ => false

/-- The answer lets `refreshAll` succeed at this point. Redis may fail. -/
def TokenPoint.accepts : TokenPoint → TokenChoice → Bool
  | .listing, choice | .selectingActive .task _, choice | .selectingRow .task _, choice
  | .upserting (.refresh .task) _, choice => choice = .ok
  | .postingRefresh .task _ _ _, .refreshed response _ => response.code = 0
  | .postingRefresh .task _ _ _, _ => false
  | _, _ => true

/-- How often `refreshAll` was called. -/
def refreshRuns (c : TokenConfig TokenPoint) : Nat := c.entries.count .refreshAll

/-- `refreshAll` is called when it is due, each of its refreshes succeeds at once, and no other
call refreshes a token. -/
def Scheduled (start : Int) (b : TokenConfig TokenPoint) : TokenAction → Prop
  | .start .refreshAll => b.world.clock = runsAt start (refreshRuns b)
  | .start (.refreshAccessToken _) | .start (.getValidToken _) | .start (.upsert _) => False
  | .start _ => True
  | .resume pid choice => (b.procs[pid]?.all fun p => p.state.accepts choice) = true
  | .env (.tick elapsed) =>
      b.world.clock + elapsed ≤ runsAt start (refreshRuns b) ∧ b.world.listed = [] ∧
        ∀ p ∈ b.procs, p.state.swift = false

instance (start : Int) (b : TokenConfig TokenPoint) (act : TokenAction) :
    Decidable (Scheduled start b act) :=
  match act with
  | .start call =>
      match call with
      | .refreshAll => inferInstanceAs (Decidable (_ = _))
      | .refreshAccessToken _ | .getValidToken _ | .upsert _ => inferInstanceAs (Decidable False)
      | .exchangeAuthCode _ | .getActiveToken _ | .revoke _ | .refreshOne _ =>
          inferInstanceAs (Decidable True)
  | .resume _ _ => inferInstanceAs (Decidable (_ = _))
  | .env (.tick _) => inferInstanceAs (Decidable (_ ∧ _ ∧ _))

def Catches (start : Int) (m : Nat) (expiresAt : Int) : Prop :=
  runsAt start m < expiresAt ∧ expiresAt ≤ runsAt start m + ONE_HOUR

def Caught (start expiresAt : Int) : Prop := ∃ m, Catches start m expiresAt

private theorem caught_iff {start expiresAt : Int} :
    Caught start expiresAt ↔ Catches start ((expiresAt - start - 1) / intervalMs).toNat expiresAt := by
  refine ⟨fun ⟨m, h⟩ => ?_, fun h => ⟨_, h⟩⟩
  simp only [Catches, runsAt, intervalMs, ONE_HOUR] at h ⊢
  omega

instance (start expiresAt : Int) : Decidable (Caught start expiresAt) :=
  have : Decidable (Catches start ((expiresAt - start - 1) / intervalMs).toNat expiresAt) :=
    inferInstanceAs (Decidable (_ ∧ _))
  decidable_of_iff _ caught_iff.symm

def Unexpired (w : TokenWorld) : Prop :=
  ∀ a row, w.rows.lookup a = some row → w.clock < row.accessTokenExpiresAt

/-- Time does not pass the expiry of a stored token that no run finds in its last hour. -/
def Outlasts (start : Int) (b : TokenConfig TokenPoint) : TokenAction → Prop
  | .env (.tick elapsed) => ∀ a row, b.world.rows.lookup a = some row →
      ¬ Caught start row.accessTokenExpiresAt → b.world.clock + elapsed < row.accessTokenExpiresAt
  | _ => True

instance (start : Int) (b : TokenConfig TokenPoint) (act : TokenAction) :
    Decidable (Outlasts start b act) :=
  match act with
  | .start _ | .resume _ _ => inferInstanceAs (Decidable True)
  | .env (.tick _) => decidable_of_iff _ Storage.forall_entries

/-! ## Tokens in hand -/

/-- The advertiser's row, if there is one, has a token that expires then or later. -/
structure TokenWorld.Keeps (w : TokenWorld) (a : String) (expiresAt : Int) : Prop where
  reckoned : expiresAt ≤ w.clock + ACCESS_TOKEN_TTL_SECONDS * 1000
  latest : ∀ row, w.rows.lookup a = some row → expiresAt ≤ row.accessTokenExpiresAt

structure StoredToken.New (row : StoredToken) (now : Int) : Prop where
  lasts : row.accessTokenExpiresAt = now + ACCESS_TOKEN_TTL_SECONDS * 1000
  renewable : row.accessTokenExpiresAt ≤ row.refreshTokenExpiresAt

private theorem storedRow_new (data : TokenData) (now : Int) (a : String) :
    (storedRow data now a).New now where
  lasts := rfl
  renewable := by
    simp only [storedRow, ACCESS_TOKEN_TTL_SECONDS, REFRESH_TOKEN_TTL_SECONDS]
    omega

def Writer.Timely (now : Int) : Writer → Prop
  | .direct => False
  | .refresh k => k = .task
  | .exchange _ reckoned _ _ => reckoned = now

/-- What a call has in hand is no newer than the advertiser's row, and what it is about to
store is built now. -/
def TokenPoint.Timely (w : TokenWorld) : TokenPoint → Prop
  | .gettingCache k _ | .droppingCached k _ | .selectingActive k _ => k ≠ .valid
  | .timingCached k a token | .timingActive k a token => k ≠ .valid ∧ w.Keeps a token.expiresAt
  | .timingRow k a row | .warming k a row =>
      k ≠ .valid ∧ row.advertiserId = a ∧ w.Keeps a row.accessTokenExpiresAt
  | .selectingRow k _ => k = .task
  | .timingRefresh k _ row => k = .task ∧ w.clock < row.refreshTokenExpiresAt
  | .postingRefresh k _ _ now => k = .task ∧ now = w.clock
  | .upserting writer row => writer.Timely w.clock ∧ row.New w.clock
  | .caching writer row =>
      writer.Timely w.clock ∧ w.Keeps row.advertiserId row.accessTokenExpiresAt
  | _ => True

structure Lasting (w : TokenWorld) : Prop where
  keyed : w.Keyed
  unexpired : Unexpired w
  rows : ∀ a row, w.rows.lookup a = some row → w.Keeps a row.accessTokenExpiresAt ∧
    row.accessTokenExpiresAt ≤ row.refreshTokenExpiresAt
  copies : ∀ a token expiry, w.cache.lookup (cacheKey a) = some (token, expiry) →
    w.Keeps a token.expiresAt

section

variable {x y : TokenPoint} {w v : TokenWorld} {r : TokenRecord} {a : String} {e : Int}

theorem TokenWorld.Keeps.effect (h : w.Keeps a e) (effect : TokenEffect x w v)
    (timely : x.Timely w) : v.Keeps a e where
  reckoned := by
    rw [effect.clock_eq]
    exact h.reckoned
  latest := by
    intro row found
    obtain old | ⟨writer, rfl, _⟩ := effect.row_cases found
    · exact h.latest row old
    · have lasts := timely.2.lasts
      have reckoned := h.reckoned
      omega

theorem TokenWorld.Keeps.later (h : w.Keeps a e) (elapsed : Nat) :
    TokenWorld.Keeps { w with clock := w.clock + elapsed } a e where
  reckoned := by
    have reckoned := h.reckoned
    simp only
    omega
  latest := h.latest

theorem TokenPoint.Timely.effect {z : TokenPoint} (h : z.Timely w) (effect : TokenEffect x w v)
    (timely : x.Timely w) : z.Timely v := by
  have clock := effect.clock_eq
  cases z with
  | timingCached k a token | timingActive k a token => exact ⟨h.1, h.2.effect effect timely⟩
  | timingRow k a row | warming k a row => exact ⟨h.1, h.2.1, h.2.2.effect effect timely⟩
  | timingRefresh k a row | postingRefresh k a row now | upserting writer row =>
      simp only [TokenPoint.Timely, clock] at h ⊢
      exact h
  | caching writer row =>
      refine ⟨?_, h.2.effect effect timely⟩
      rw [clock]
      exact h.1
  | _ => exact h

theorem TokenPoint.Timely.later {z : TokenPoint} (h : z.Timely w) (patient : z.swift = false)
    (elapsed : Nat) : z.Timely { w with clock := w.clock + elapsed } := by
  cases z with
  | timingCached k a token | timingActive k a token => exact ⟨h.1, h.2.later elapsed⟩
  | timingRow k a row | warming k a row => exact ⟨h.1, h.2.1, h.2.2.later elapsed⟩
  | timingRefresh k a row | postingRefresh k a row now =>
      obtain ⟨rfl, _⟩ := h
      cases patient
  | upserting writer row | caching writer row => cases patient
  | _ => exact h

theorem Caller.found_timely {k : Caller} {token : ActiveToken} (called : k ≠ .valid)
    (h : w.Keeps a token.expiresAt) : (k.found a token).Timely w := by
  cases k with
  | direct => trivial
  | valid => exact absurd rfl called
  | task => exact ⟨called, h⟩

theorem Caller.failed_timely (k : Caller) (error : JsError) : (k.failed error).Timely w := by
  cases k <;> trivial

private theorem storing_timely (data : TokenData) (stored : List StoredToken) (rest : List String) :
    (storing data w.clock stored rest).Timely w := by
  cases rest with
  | nil => trivial
  | cons a rest => exact ⟨rfl, storedRow_new data w.clock a⟩

theorem Writer.stored_timely {writer : Writer} (h : writer.Timely w.clock) (row : StoredToken) :
    (writer.stored row).Timely w := by
  cases writer with
  | direct => cases h
  | refresh k => cases k <;> trivial
  | exchange data now rest stored =>
      obtain rfl : now = w.clock := h
      exact storing_timely data (stored ++ [row]) rest

theorem Lasting.timely (h : Lasting w) (t : TokenTransition x w r y v) (timely : x.Timely w) :
    y.Timely v := by
  have effect := t.effect
  cases t with
  | cacheHit copy =>
      obtain ⟨expiry, stored⟩ := Storage.Expiring.lookup_of_get copy
      exact ⟨timely, h.copies _ _ expiry stored⟩
  | cacheMiss | cacheUnread | copyDropped => exact timely
  | copyFresh fresh => exact Caller.found_timely timely.1 timely.2
  | copyStale stale => exact timely.1
  | rowSelected live =>
      have found := (TokenWorld.selectActive_some.mp live).1
      exact ⟨timely, h.keyed _ _ found, (h.rows _ _ found).1⟩
  | rowLive live => exact timely
  | rowStale stale => exact Caller.found_timely timely.1 timely.2.2
  | warmed => exact Caller.found_timely timely.1 (timely.2.2.effect effect timely)
  | tokenExpiring renewing expiring =>
      rename_i k a token pid
      cases k with
      | direct => exact absurd rfl renewing
      | valid => exact absurd rfl timely.1
      | task => rfl
  | recordFound found =>
      obtain ⟨kept, renewable⟩ := h.rows _ _ found
      have unexpired := h.unexpired _ _ found
      exact ⟨timely, by omega⟩
  | refreshDue live => exact ⟨timely.1, rfl⟩
  | refreshGranted code issued =>
      obtain ⟨called, rfl⟩ := timely
      exact ⟨called, storedRow_new _ _ _⟩
  | rowStored =>
      rename_i writer row pid
      refine ⟨timely.1, Int.le_of_eq timely.2.lasts, fun stored found => ?_⟩
      obtain rfl : row = stored := by simpa [TokenWorld.upsertRow] using found
      exact Int.le_refl _
  | cached => exact (Writer.stored_timely timely.1 _).effect effect timely
  | exchangeTimed => exact storing_timely _ _ _
  | rowMissing | tokenKept => cases ‹Caller› <;> trivial
  | rowLost | rowUnconfirmed =>
      rename_i writer row pid e
      cases writer with
      | refresh k => exact k.failed_timely _
      | _ => trivial
  | selectFailed | recordMissing | recordFailed | refreshLapsed | refreshRefused
  | refreshFailed => exact Caller.failed_timely _ _
  | _ => trivial

theorem Lasting.effect (h : Lasting w) (effect : TokenEffect x w v) (timely : x.Timely w) :
    Lasting v where
  keyed := effect.keyed h.keyed
  unexpired := by
    intro a row found
    rw [effect.clock_eq]
    obtain old | ⟨writer, rfl, _⟩ := effect.row_cases found
    · exact h.unexpired a row old
    · have lasts := timely.2.lasts
      simp only [ACCESS_TOKEN_TTL_SECONDS] at lasts
      omega
  rows := by
    intro a row found
    obtain old | ⟨writer, rfl, owner⟩ := effect.row_cases found
    · obtain ⟨kept, renewable⟩ := h.rows a row old
      exact ⟨kept.effect effect timely, renewable⟩
    · have lasts := timely.2.lasts
      refine ⟨⟨?_, fun row' found' => ?_⟩, timely.2.renewable⟩
      · rw [effect.clock_eq]
        omega
      · obtain rfl : row = row' := by simpa [found] using found'
        exact Int.le_refl _
  copies := by
    intro a token expiry found
    suffices kept : w.Keeps a token.expiresAt from kept.effect effect timely
    obtain old | ⟨row, key, rfl, ⟨k, b, rfl⟩ | ⟨writer, rfl⟩⟩ := effect.copy_cases found
    · exact h.copies a token expiry old
    · obtain rfl := cacheKey_inj key
      have owner := timely.2.1
      rw [owner]
      exact timely.2.2
    · obtain rfl := cacheKey_inj key
      exact timely.2

/-! ## Advertisers that a run attends to -/

@[simp] theorem Caller.found_attends (k : Caller) (b : String) (token : ActiveToken) :
    (k.found b token).Attends a ↔ k = .task ∧ b = a := by
  cases k <;> simp [Caller.found, TokenPoint.Attends, TokenPoint.caller]

@[simp] theorem TokenPoint.ended_attends (outcome : Except JsError TokenResult) :
    ¬ (TokenPoint.ended outcome).Attends a := by
  simp [TokenPoint.Attends, TokenPoint.caller]

@[simp] theorem Caller.absent_attends (k : Caller) (b : String) : ¬ (k.absent b).Attends a := by
  cases k <;> exact TokenPoint.ended_attends _

@[simp] theorem Caller.kept_attends (k : Caller) (token : ActiveToken) :
    ¬ (k.kept token).Attends a := by
  cases k <;> exact TokenPoint.ended_attends _

@[simp] theorem Caller.failed_attends (k : Caller) (error : JsError) :
    ¬ (k.failed error).Attends a := by
  cases k <;> exact TokenPoint.ended_attends _

@[simp] theorem storing_attends (data : TokenData) (now : Int) (stored : List StoredToken)
    (rest : List String) : ¬ (storing data now stored rest).Attends a := by
  cases rest <;> simp [storing, TokenPoint.Attends, TokenPoint.caller]

@[simp] theorem Writer.failed_attends (writer : Writer) (error : JsError) :
    ¬ (writer.failed error).Attends a := by
  cases writer with
  | refresh k => exact k.failed_attends error
  | _ => exact TokenPoint.ended_attends _

@[simp] theorem Writer.stored_attends (writer : Writer) (row : StoredToken) :
    ¬ (writer.stored row).Attends a := by
  cases writer with
  | direct => exact TokenPoint.ended_attends _
  | refresh k => cases k <;> exact TokenPoint.ended_attends _
  | exchange data now rest stored => exact storing_attends data now (stored ++ [row]) rest

theorem TokenPoint.Attends.swift (h : x.Attends a) : x.swift = true := by
  obtain rfl | called := h
  · rfl
  · cases x with
    | upserting writer row => rfl
    | listing | caching | timingExchange => rfl
    | postingExchange | deletingRow | deletingKey | ended => cases called
    | _ =>
        cases called
        rfl

theorem TokenTransition.attended (t : TokenTransition x w r y v) (h : y.Attends a) :
    x.Attends a := by
  cases t with
  | copyFresh | rowStale | warmed =>
      obtain ⟨rfl, rfl⟩ := (Caller.found_attends _ _ _).mp h
      exact .inr rfl
  | rowMissing | tokenKept | selectFailed | recordMissing | recordFailed | refreshLapsed
  | refreshRefused | refreshFailed | rowLost | rowUnconfirmed | cached | exchangeRefused
  | exchangeFailed | exchangeTimed | deleteFailed | keyDeleted | keyDeleteFailed | idsListed
  | listFailed => exact absurd h (by simp)
  | _ =>
      obtain listing | called := h
      · cases listing
      · first | exact .inr called | cases called

theorem TokenTransition.listed_cases (t : TokenTransition x w r y v) :
    v.listed = w.listed ∨ x = .listing ∧ v.listed = w.listed ++ w.selectActiveIds := by
  cases t with
  | idsListed => exact .inr ⟨rfl, rfl⟩
  | copyDropped effect | warmed effect | cached effect | deleteFailed effect
  | keyDeleteFailed effect => obtain rfl | rfl := effect <;> exact .inl rfl
  | _ => exact .inl rfl

/-- A task of `refreshAll` goes on until it has replaced a token that is about to expire. -/
theorem Lasting.attends (h : Lasting w) (t : TokenTransition x w r y v) (timely : x.Timely w)
    (attends : x.Attends a) (accepted : x.accepts r.choice = true) {row : StoredToken}
    (before : w.rows.lookup a = some row) (after : v.rows.lookup a = some row)
    (expiring : row.accessTokenExpiresAt ≤ w.clock + ONE_HOUR) : y.Attends a ∨ a ∈ v.listed := by
  have unexpired := h.unexpired a row before
  have renewable := (h.rows a row before).2
  have live : w.selectActive a = some row :=
    TokenWorld.selectActive_some.mpr ⟨before, by omega⟩
  obtain rfl | called := attends
  · cases t with
    | idsListed =>
        exact .inr (List.mem_append_right _ (TokenWorld.mem_selectActiveIds live))
    | listFailed lost => exact absurd (of_decide_eq_true accepted) lost
  · left
    cases t with
    | copyFresh | rowStale | warmed =>
        cases called
        exact (Caller.found_attends _ _ _).mpr ⟨rfl, rfl⟩
    | rowMissing missing =>
        cases called
        rw [live] at missing
        cases missing
    | tokenKept renewing fresh =>
        cases called
        have kept := timely.2.latest row before
        omega
    | recordMissing missing =>
        cases called
        rw [before] at missing
        cases missing
    | refreshLapsed lapsed =>
        cases called
        have due := timely.2
        omega
    | selectFailed lost | recordFailed lost =>
        cases called
        exact absurd (of_decide_eq_true accepted) lost
    | refreshRefused code =>
        cases called
        exact absurd (of_decide_eq_true accepted) code
    | refreshFailed =>
        cases called
        cases accepted
    | rowLost | rowUnconfirmed =>
        rename_i writer fresh pid e
        cases writer <;> cases called
        cases accepted
    | rowStored =>
        rename_i writer fresh pid
        cases writer <;> cases called
        obtain rfl : fresh = row := by simpa [TokenWorld.upsertRow] using after
        have lasts := timely.2.lasts
        simp only [ACCESS_TOKEN_TTL_SECONDS, ONE_HOUR] at lasts expiring
        omega
    | _ => first | exact .inr called | cases called

end

/-! ## Through the schedule -/

/-- Why a stored token that expires then is not lost: a run still to come finds it in its last
hour, or the current one is about to replace it, or no run ever finds it there. -/
inductive Watched (start : Int) (c : TokenConfig TokenPoint) (a : String) (expiresAt : Int) : Prop where
  | ahead (m : Nat) (later : refreshRuns c ≤ m) (caught : Catches start m expiresAt)
  | listed (listed : a ∈ c.world.listed) (expiring : expiresAt ≤ c.world.clock + ONE_HOUR)
  | task (p : Proc TokenCall TokenPoint) (running : p ∈ c.procs) (attends : p.state.Attends a)
      (expiring : expiresAt ≤ c.world.clock + ONE_HOUR)
  | missed (never : ¬ Caught start expiresAt)

/-- A run of `refreshAll` has just begun, and the next one is due an interval later. -/
def RunBegins (start : Int) (c : TokenConfig TokenPoint) : Prop :=
  runsAt start (refreshRuns c) = c.world.clock + intervalMs

structure OnSchedule (start : Int) (c : TokenConfig TokenPoint) : Prop where
  lasting : Lasting c.world
  timely : ∀ p ∈ c.procs, p.state.Timely c.world
  early : c.world.clock ≤ runsAt start (refreshRuns c)
  recent : refreshRuns c = 0 ∨ runsAt start (refreshRuns c) ≤ c.world.clock + intervalMs
  listed : c.world.listed ≠ [] → RunBegins start c
  attending : ∀ p ∈ c.procs, ∀ a, p.state.Attends a → RunBegins start c
  watched : ∀ a row, c.world.rows.lookup a = some row → Watched start c a row.accessTokenExpiresAt

/-- A row built now is found in its last hour by a later run or by none. -/
theorem Watched.of_new {start : Int} {c : TokenConfig TokenPoint} {a : String} {row : StoredToken}
    (fresh : row.New c.world.clock)
    (recent : refreshRuns c = 0 ∨ runsAt start (refreshRuns c) ≤ c.world.clock + intervalMs) :
    Watched start c a row.accessTokenExpiresAt := by
  by_cases caught : Caught start row.accessTokenExpiresAt
  · obtain ⟨m, caught⟩ := caught
    refine .ahead m ?_ caught
    have lasts := fresh.lasts
    have latest := caught.2
    simp only [runsAt, intervalMs, ACCESS_TOKEN_TTL_SECONDS, ONE_HOUR] at recent lasts latest
    omega
  · exact .missed caught

/-- A call that is not `refreshAll` leaves the count of runs alone. -/
theorem refreshRuns_started {c : TokenConfig TokenPoint} {call : TokenCall}
    (other : call ≠ .refreshAll) (w : TokenWorld) (x : TokenPoint) :
    refreshRuns ⟨w, c.procs ++ [⟨call, x⟩], c.trace⟩ = refreshRuns c := by
  simp [refreshRuns, Config.entries, other]

private theorem refreshRuns_refreshAll (c : TokenConfig TokenPoint) (w : TokenWorld)
    (x : TokenPoint) :
    refreshRuns ⟨w, c.procs ++ [⟨.refreshAll, x⟩], c.trace⟩ = refreshRuns c + 1 := by
  simp [refreshRuns, Config.entries]

private theorem refreshRuns_answered {c : TokenConfig TokenPoint} {pid : Nat}
    {p : Proc TokenCall TokenPoint} (hp : c.procs[pid]? = some p) (w : TokenWorld)
    (x : TokenPoint) (trace : List TokenRecord) :
    refreshRuns ⟨w, c.procs.set pid ⟨p.entry, x⟩, trace⟩ = refreshRuns c := by
  have entries := System.entries_answered hp x
  simp only [refreshRuns, Config.entries, entries]

section

variable {start : Int} {c : TokenConfig TokenPoint}

/-- A run begins: what it finds in its last hour it is about to replace. -/
theorem OnSchedule.runBegins (h : OnSchedule start c)
    (due : c.world.clock = runsAt start (refreshRuns c)) :
    OnSchedule start ⟨c.world, c.procs ++ [⟨.refreshAll, .listing⟩], c.trace⟩ := by
  have runs := refreshRuns_refreshAll c c.world .listing
  have begins : RunBegins start ⟨c.world, c.procs ++ [⟨.refreshAll, .listing⟩], c.trace⟩ := by
    simp only [RunBegins, runs, runsAt, intervalMs] at due ⊢
    omega
  refine ⟨h.lasting, ?_, ?_, .inr (Int.le_of_eq begins), fun _ => begins, fun _ _ _ _ => begins, ?_⟩
  · intro p hp
    rcases List.mem_append.mp hp with hp | hp
    · exact h.timely p hp
    · obtain rfl := List.mem_singleton.mp hp
      trivial
  · rw [begins]
    simp only [intervalMs]
    omega
  · intro a row found
    cases h.watched a row found with
    | ahead m later caught =>
        by_cases now : m = refreshRuns c
        · subst now
          have expiring := caught.2
          rw [← due] at expiring
          exact .task ⟨.refreshAll, .listing⟩ (by simp) (.inl rfl) expiring
        · exact .ahead m (by rw [runs]; omega) caught
    | listed listed expiring => exact .listed listed expiring
    | task p running attends expiring => exact .task p (by simp [running]) attends expiring
    | missed never => exact .missed never

/-- Any other call starts; a task takes its advertiser off the list. -/
theorem OnSchedule.starts (h : OnSchedule start c) {call : TokenCall} {listed : List String}
    (other : call ≠ .refreshAll)
    (timely : call.startPoint.Timely { c.world with listed := listed })
    (shorter : listed ≠ [] → c.world.listed ≠ [])
    (taken : ∀ a, call.startPoint.Attends a → c.world.listed ≠ [])
    (kept : ∀ a ∈ c.world.listed, a ∈ listed ∨ call.startPoint.Attends a) :
    OnSchedule start ⟨{ c.world with listed := listed }, c.procs ++ [⟨call, call.startPoint⟩],
      c.trace⟩ := by
  have runs := refreshRuns_started (c := c) other { c.world with listed := listed } call.startPoint
  have effect : TokenEffect .listing c.world { c.world with listed := listed } := .listed listed
  have begins (begun : RunBegins start c) : RunBegins start
      ⟨{ c.world with listed := listed }, c.procs ++ [⟨call, call.startPoint⟩], c.trace⟩ := by
    simpa only [RunBegins, runs] using begun
  refine ⟨h.lasting.effect effect trivial, ?_, ?_, ?_, ?_, ?_, ?_⟩
  · intro p hp
    rcases List.mem_append.mp hp with hp | hp
    · exact (h.timely p hp).effect effect trivial
    · obtain rfl := List.mem_singleton.mp hp
      exact timely
  · simpa only [runs] using h.early
  · simpa only [runs] using h.recent
  · exact fun some => begins (h.listed (shorter some))
  · intro p hp a attends
    rcases List.mem_append.mp hp with hp | hp
    · exact begins (h.attending p hp a attends)
    · obtain rfl := List.mem_singleton.mp hp
      exact begins (h.listed (taken a attends))
  · intro a row found
    cases h.watched a row found with
    | ahead m later caught => exact .ahead m (by rw [runs]; exact later) caught
    | listed waiting expiring =>
        obtain still | attends := kept a waiting
        · exact .listed still expiring
        · exact .task ⟨call, call.startPoint⟩ (by simp) attends expiring
    | task p running attends expiring => exact .task p (by simp [running]) attends expiring
    | missed never => exact .missed never

theorem OnSchedule.started (h : OnSchedule start c) {call : TokenCall} {w : TokenWorld}
    (entered : call.enter c.world = some w) (scheduled : Scheduled start c (.start call)) :
    OnSchedule start ⟨w, c.procs ++ [⟨call, call.startPoint⟩], c.trace⟩ := by
  cases call with
  | refreshAll =>
      cases entered
      exact h.runBegins scheduled
  | refreshAccessToken a | getValidToken a | upsert params => cases scheduled
  | exchangeAuthCode authCode | revoke a =>
      cases entered
      refine h.starts (by simp) trivial id (fun b attends => ?_) fun b listed => .inl listed
      simp [TokenCall.startPoint, TokenPoint.Attends, TokenPoint.caller] at attends
  | getActiveToken a =>
      cases entered
      refine h.starts (by simp) (by simp [TokenCall.startPoint, TokenPoint.Timely]) id
        (fun b attends => ?_) fun b listed => .inl listed
      simp [TokenCall.startPoint, TokenPoint.Attends, TokenPoint.caller] at attends
  | refreshOne a =>
      simp only [TokenCall.enter] at entered
      split at entered <;> cases entered
      next listed =>
        refine h.starts (by simp) (by simp [TokenCall.startPoint, TokenPoint.Timely])
          (fun _ => List.ne_nil_of_mem listed) (fun _ _ => List.ne_nil_of_mem listed) ?_
        intro b waiting
        by_cases same : a = b
        · exact .inr (.inr (by simp [TokenCall.startPoint, TokenPoint.caller, same]))
        · exact .inl ((List.mem_erase_of_ne (Ne.symm same)).mpr waiting)

/-- Time passes only between the runs, and not past the next one. -/
theorem OnSchedule.ticked (h : OnSchedule start c) {elapsed : Nat}
    (scheduled : Scheduled start c (.env (.tick elapsed)))
    (outlasts : Outlasts start c (.env (.tick elapsed))) :
    OnSchedule start { c with world := { c.world with clock := c.world.clock + elapsed } } := by
  obtain ⟨early, empty, patient⟩ := scheduled
  have busy {p : Proc TokenCall TokenPoint} (hp : p ∈ c.procs) {a : String} :
      ¬ p.state.Attends a := by
    intro attends
    have swift := attends.swift
    rw [patient p hp] at swift
    cases swift
  have unexpired : Unexpired { c.world with clock := c.world.clock + elapsed } := by
    intro a row found
    show c.world.clock + elapsed < row.accessTokenExpiresAt
    cases h.watched a row found with
    | ahead m later caught =>
        have unexpired := caught.1
        simp only [runsAt, intervalMs] at early unexpired
        omega
    | listed listed => simp [empty] at listed
    | task p running attends => exact absurd attends (busy running)
    | missed never => exact outlasts a row found never
  refine ⟨⟨h.lasting.keyed, unexpired, ?_, ?_⟩, ?_, early, ?_, ?_, ?_, ?_⟩
  · intro a row found
    obtain ⟨kept, renewable⟩ := h.lasting.rows a row found
    exact ⟨kept.later elapsed, renewable⟩
  · exact fun a token expiry found => (h.lasting.copies a token expiry found).later elapsed
  · exact fun p hp => (h.timely p hp).later (patient p hp) elapsed
  · obtain none | recent := h.recent
    · exact .inl none
    · right
      show runsAt start (refreshRuns c) ≤ c.world.clock + elapsed + intervalMs
      omega
  · exact fun listed => absurd empty listed
  · exact fun p hp a attends => absurd attends (busy hp)
  · intro a row found
    cases h.watched a row found with
    | ahead m later caught => exact .ahead m later caught
    | listed listed => simp [empty] at listed
    | task p running attends => exact absurd attends (busy running)
    | missed never => exact .missed never

theorem OnSchedule.answered (h : OnSchedule start c) {pid : Nat} {p : Proc TokenCall TokenPoint}
    (hp : c.procs[pid]? = some p) {r : TokenRecord} {y : TokenPoint} {v : TokenWorld}
    (t : TokenTransition p.state c.world r y v) (accepted : p.state.accepts r.choice = true) :
    OnSchedule start ⟨v, c.procs.set pid ⟨p.entry, y⟩, c.trace ++ [r]⟩ := by
  have member := List.mem_of_getElem? hp
  have timely := h.timely p member
  have effect := t.effect
  have clock := effect.clock_eq
  have runs := refreshRuns_answered hp v y (c.trace ++ [r])
  have lasting := h.lasting.effect effect timely
  have recent : refreshRuns c = 0 ∨ runsAt start (refreshRuns c) ≤ v.clock + intervalMs := by
    rw [clock]
    exact h.recent
  have begins (begun : RunBegins start c) :
      RunBegins start ⟨v, c.procs.set pid ⟨p.entry, y⟩, c.trace ++ [r]⟩ := by
    simpa only [RunBegins, runs, clock] using begun
  refine ⟨lasting, ?_, ?_, ?_, ?_, ?_, ?_⟩
  · intro q hq
    rcases List.mem_or_eq_of_mem_set hq with hq | rfl
    · exact (h.timely q hq).effect effect timely
    · exact h.lasting.timely t timely
  · simpa only [runs, clock] using h.early
  · simpa only [runs] using recent
  · intro some
    obtain same | ⟨listing, _⟩ := t.listed_cases
    · exact begins (h.listed (same ▸ some))
    · exact begins (h.attending p member "" (.inl listing))
  · intro q hq a attends
    rcases List.mem_or_eq_of_mem_set hq with hq | rfl
    · exact begins (h.attending q hq a attends)
    · exact begins (h.attending p member a (t.attended attends))
  · intro a row found
    obtain old | ⟨writer, point, rfl⟩ := effect.row_cases found
    · cases h.watched a row old with
      | ahead m later caught => exact .ahead m (by rw [runs]; exact later) caught
      | listed waiting expiring =>
          rw [← clock] at expiring
          refine .listed ?_ expiring
          obtain same | ⟨_, more⟩ := t.listed_cases
          · exact same ▸ waiting
          · exact more ▸ List.mem_append_left _ waiting
      | task q running attends expiring =>
          obtain ⟨i, hi⟩ := List.getElem?_of_mem running
          by_cases here : i = pid
          · subst here
            obtain rfl : p = q := by simpa [hp] using hi
            have bound := (List.getElem?_eq_some_iff.mp hp).choose
            have next := h.lasting.attends t timely attends accepted old found expiring
            rw [← clock] at expiring
            obtain attends | listed := next
            · exact .task ⟨p.entry, y⟩ (List.mem_set bound _) attends expiring
            · exact .listed listed expiring
          · rw [← clock] at expiring
            refine .task q ?_ attends expiring
            exact List.mem_of_getElem? ((List.getElem?_set_ne (Ne.symm here)).trans hi)
      | missed never => exact .missed never
    · rw [point] at timely
      have fresh := timely.2
      rw [← clock] at fresh
      refine .of_new fresh ?_
      rw [runs]
      exact recent

end

theorem OnSchedule.fresh {start clock : Int} (before : clock ≤ start) :
    OnSchedule start (.initial (.fresh clock)) where
  lasting := by
    refine ⟨fun a row found => ?_, fun a row found => ?_, fun a row found => ?_,
      fun a token expiry found => ?_⟩ <;> cases found
  timely := fun p hp => by cases hp
  early := by
    show clock ≤ runsAt start 0
    simp only [runsAt, intervalMs]
    omega
  recent := .inl rfl
  listed := fun some => absurd rfl some
  attending := fun p hp => by cases hp
  watched := fun a row found => by cases found

/-- A scheduled run in which time passes no token that the runs miss. -/
theorem OnSchedule.run {start clock : Int} {c : TokenConfig TokenPoint}
    {actions : List TokenAction} (before : clock ≤ start)
    (h : tokenProtocol.run (.initial (.fresh clock)) actions = some c)
    (scheduled : tokenProtocol.Along (fun b act _ => Scheduled start b act)
      (.initial (.fresh clock)) actions)
    (outlasts : tokenProtocol.Along (fun b act _ => Outlasts start b act)
      (.initial (.fresh clock)) actions) : OnSchedule start c := by
  have steps := (scheduled.and outlasts).imp
    (Q := fun b act d => Scheduled start b act ∧ Outlasts start b act ∧
      ∀ call, act = .start call → call.enter b.world = some d.world) ?_
  · refine token_invariant _ (OnSchedule start) ?_ ?_ ?_ h steps ?_
    · intro c call listed h ⟨scheduled, _, entered⟩
      exact h.started (entered call rfl) scheduled
    · intro c pid p r y v h hp _ t ⟨scheduled, _⟩
      simp only [Scheduled, hp, Option.all_some] at scheduled
      exact h.answered hp t scheduled
    · exact fun c elapsed h ⟨scheduled, outlasts, _⟩ => h.ticked scheduled outlasts
    · exact .fresh before
  · intro b act d hs ⟨scheduled, outlasts⟩
    refine ⟨scheduled, outlasts, fun call same => ?_⟩
    subst same
    obtain ⟨x, w, hl, rfl⟩ := System.step_start hs
    obtain ⟨v, entered, same⟩ := Option.map_eq_some_iff.mp hl
    cases same
    exact entered

/-- A token lapses in a run on schedule exactly if time passes the expiry of a stored token
that no run of the refresher finds in its last hour. -/
theorem no_token_lapses_iff {start clock : Int} (before : clock ≤ start)
    {actions : List TokenAction} {c : TokenConfig (TokenProg TokenResult)}
    (h : tokenSystem.run (.initial (.fresh clock)) actions = some c)
    (scheduled : tokenProtocol.Along (fun b act _ => Scheduled start b act)
      (.initial (.fresh clock)) actions) :
    (∀ first rest d, actions = first ++ rest →
      tokenSystem.run (.initial (.fresh clock)) first = some d → Unexpired d.world) ↔
    tokenProtocol.Along (fun b act _ => Outlasts start b act) (.initial (.fresh clock)) actions := by
  constructor
  · intro unexpired
    have along : tokenProtocol.Along (fun _ _ d => Unexpired d.world) (.initial (.fresh clock))
        actions := by
      refine System.along_of_prefixes (fun d => Unexpired d.world) fun first rest d split reached => ?_
      have lifted : tokenSystem.run (.initial (.fresh clock)) first =
          some (d.map TokenPoint.program) :=
        (token_refines.run (.initial (.fresh clock)) first).trans (congrArg (Option.map _) reached)
      exact unexpired first rest _ split lifted
    refine along.imp fun b act d hs unexpired => ?_
    cases act with
    | start call | resume pid choice => trivial
    | env event =>
        obtain ⟨v, hw, rfl⟩ := System.step_env hs
        cases event with
        | tick elapsed =>
            cases hw
            exact fun a row found _ => unexpired a row found
  · intro outlasts first rest d split reached
    subst split
    obtain ⟨e, he, rfl⟩ := token_refines.lift (c := .initial (.fresh clock)) reached
    exact (OnSchedule.run before he (scheduled.of_append he).1
      (outlasts.of_append he).1).lasting.unexpired

/-! ## Two grants -/

namespace TokenSample

/-- `refreshAll` at the start, when no advertiser has authorised yet. -/
def started : List TokenAction := [.start .refreshAll, .resume 0 .ok]

def authorised : List TokenAction :=
  [.start (.exchangeAuthCode "code"), .resume 1 (.exchanged grant 0), .resume 1 .ok,
    .resume 1 .ok, .resume 1 .ok]

/-- The advertiser authorises at the start; the run after 23 h refreshes the token, and the
24th hour passes. -/
def renewed : List TokenAction :=
  started ++ authorised ++
    [.env (.tick 82800000), .start .refreshAll, .resume 2 .ok, .start (.refreshOne "adv-001"),
      .resume 3 .ok, .resume 3 .ok, .resume 3 .ok, .resume 3 .ok, .resume 3 .ok, .resume 3 .ok,
      .resume 3 .ok, .resume 3 (.refreshed ⟨0, "OK", data⟩ 0), .resume 3 .ok, .resume 3 .ok,
      .env (.tick 3600000)]

/-- The advertiser authorises an hour after the start; the run after 23 h finds two hours left. -/
def lapsing : List TokenAction :=
  started ++ .env (.tick 3600000) :: authorised ++
    [.env (.tick 79200000), .start .refreshAll, .resume 2 .ok, .start (.refreshOne "adv-001"),
      .resume 3 .ok, .resume 3 .ok, .resume 3 .ok, .env (.tick 7200000)]

end TokenSample

theorem no_token_lapses_iff_renewed :
    ∃ c, tokenSystem.run (.initial (.fresh 0)) TokenSample.renewed = some c ∧
      c.world.clock = 86400000 ∧ Unexpired c.world := by
  let c := tokenSystem.result (.initial (.fresh 0)) TokenSample.renewed (by decide)
  have h : tokenSystem.run (.initial (.fresh 0)) TokenSample.renewed = some c :=
    System.run_result _
  have scheduled : tokenProtocol.Along (fun b act _ => Scheduled 0 b act) (.initial (.fresh 0))
      TokenSample.renewed := by decide
  have outlasts : tokenProtocol.Along (fun b act _ => Outlasts 0 b act) (.initial (.fresh 0))
      TokenSample.renewed := by decide
  have unexpired := (no_token_lapses_iff (Int.le_refl 0) h scheduled).mpr outlasts
  exact ⟨c, h, by decide, unexpired TokenSample.renewed [] c (List.append_nil _).symm h⟩

/-- The refresher runs on schedule, and 24 h after the grant the stored token is expired. -/
theorem granted_token_lapses :
    ∃ c, tokenSystem.run (.initial (.fresh 0)) TokenSample.lapsing = some c ∧
      tokenProtocol.Along (fun b act _ => Scheduled 0 b act) (.initial (.fresh 0))
        TokenSample.lapsing ∧
      ∃ row, c.world.rows.lookup "adv-001" = some row ∧
        row.accessTokenExpiresAt ≤ c.world.clock :=
  ⟨_, System.run_result (by decide), by decide, _, rfl, by decide⟩

end SalesforceTikTok
