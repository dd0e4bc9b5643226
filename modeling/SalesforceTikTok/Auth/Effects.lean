import SalesforceTikTok.Auth.Transitions

/-!
# Effects of the token commands

What the answers of a run do to the token table, how many answers a call needs,
and which lookup a call makes.
-/

namespace SalesforceTikTok

open Concurrency
open TokenStore (cacheKey)

/-! ## The token table -/

theorem cacheKey_inj {a b : String} (h : cacheKey a = cacheKey b) : a = b :=
  (String.append_right_inj _).mp h

namespace TokenWorld

theorem lookup_upsertRow_cases {w : TokenWorld} {row found : StoredToken} {a : String}
    (h : (w.upsertRow row).rows.lookup a = some found) :
    a = row.advertiserId ∧ found = row ∨
      a ≠ row.advertiserId ∧ w.rows.lookup a = some found := by
  by_cases same : a = row.advertiserId
  · subst same
    rw [upsertRow, AList.lookup_insert] at h
    exact .inl ⟨rfl, (Option.some.inj h).symm⟩
  · rw [upsertRow, AList.lookup_insert_ne same] at h
    exact .inr ⟨same, h⟩

theorem lookup_of_deleteRow {w : TokenWorld} {found : StoredToken} {a b : String}
    (h : (w.deleteRow b).rows.lookup a = some found) : w.rows.lookup a = some found :=
  Storage.lookup_of_erase h

def Keyed (w : TokenWorld) : Prop :=
  ∀ a row, w.rows.lookup a = some row → row.advertiserId = a

theorem Keyed.upsertRow {w : TokenWorld} (keyed : w.Keyed) (row : StoredToken) :
    (w.upsertRow row).Keyed := by
  intro a found h
  obtain ⟨rfl, rfl⟩ | ⟨_, old⟩ := lookup_upsertRow_cases h
  · rfl
  · exact keyed a found old

theorem Keyed.deleteRow {w : TokenWorld} (keyed : w.Keyed) (b : String) : (w.deleteRow b).Keyed :=
  fun a found h => keyed a found (lookup_of_deleteRow h)

end TokenWorld

/-! ## What one answer does to the stores -/

def TokenCmd.effect (w : TokenWorld) : TokenCmd → TokenWorld
  | .cacheSet key value ttl => w.cacheSet key value ttl
  | .cacheDel key => w.cacheDel key
  | .upsertRow row => w.upsertRow row
  | .deleteRow a => w.deleteRow a
  | .selectActiveIds => { w with listed := w.listed ++ w.selectActiveIds }
  | .now | .cacheGet _ | .selectActive _ | .selectRow _ | .postExchange _ | .postRefresh _ => w

theorem tokenExec_effect {cmd : TokenCmd} {choice : TokenChoice} {w v : TokenWorld}
    {reply : Except JsError cmd.Reply} (h : tokenExec cmd choice w = some (reply, v)) :
    v = w ∨ v = cmd.effect w := by
  cases cmd with
  | now =>
      cases choice <;> cases h
      exact .inl rfl
  | cacheSet key value ttl => exact TokenChoice.apply_effect h
  | cacheDel key => exact TokenChoice.apply_effect h
  | upsertRow row => exact TokenChoice.apply_effect h
  | deleteRow a => exact TokenChoice.apply_effect h
  | cacheGet key => exact .inl (TokenChoice.apply_read h).1
  | selectActive a => exact .inl (TokenChoice.apply_read h).1
  | selectRow a => exact .inl (TokenChoice.apply_read h).1
  | selectActiveIds =>
      cases choice <;> cases h
      · exact .inr rfl
      · exact .inl rfl
  | postExchange authCode =>
      cases choice with
      | exchanged response issuedAt =>
          simp only [tokenExec] at h
          split at h <;> cases h
          exact .inl rfl
      | _ => cases h <;> exact .inl rfl
  | postRefresh token =>
      cases choice with
      | refreshed response issuedAt =>
          simp only [tokenExec] at h
          split at h <;> cases h
          exact .inl rfl
      | _ => cases h <;> exact .inl rfl

/-- A call suspended at `x` turns `w` into this world: only there can it write a copy, store a
row or delete one. -/
inductive TokenEffect : TokenPoint → TokenWorld → TokenWorld → Prop where
  | none {x w} : TokenEffect x w w
  | listed {x w} (ids : List String) : TokenEffect x w { w with listed := ids }
  | dropped {x w} (key : String) : TokenEffect x w (w.cacheDel key)
  | warmed {k a row w} : TokenEffect (.warming k a row) w
      (w.cacheSet (cacheKey row.advertiserId) row.active TOKEN_CACHE_TTL_SECONDS)
  | cached {writer row w} : TokenEffect (.caching writer row) w
      (w.cacheSet (cacheKey row.advertiserId) row.active TOKEN_CACHE_TTL_SECONDS)
  | stored {writer row w} : TokenEffect (.upserting writer row) w (w.upsertRow row)
  | deleted {a w} : TokenEffect (.deletingRow a) w (w.deleteRow a)

theorem TokenTransition.effect {x y : TokenPoint} {w v : TokenWorld} {r : TokenRecord}
    (t : TokenTransition x w r y v) : TokenEffect x w v := by
  cases t with
  | copyDropped effect | keyDeleteFailed effect =>
      obtain rfl | rfl := effect
      · exact .none
      · exact .dropped _
  | warmed effect =>
      obtain rfl | rfl := effect
      · exact .none
      · exact .warmed
  | cached effect =>
      obtain rfl | rfl := effect
      · exact .none
      · exact .cached
  | deleteFailed effect =>
      obtain rfl | rfl := effect
      · exact .none
      · exact .deleted
  | rowStored | rowUnconfirmed => exact .stored
  | rowDeleted => exact .deleted
  | keyDeleted => exact .dropped _
  | idsListed => exact .listed _
  | _ => exact .none

theorem TokenEffect.keyed {x : TokenPoint} {w v : TokenWorld} (effect : TokenEffect x w v)
    (keyed : w.Keyed) : v.Keyed := by
  cases effect with
  | stored => exact keyed.upsertRow _
  | deleted => exact keyed.deleteRow _
  | _ => exact keyed

theorem TokenEffect.row_cases {x : TokenPoint} {w v : TokenWorld} (effect : TokenEffect x w v)
    {a : String} {row : StoredToken} (h : v.rows.lookup a = some row) :
    w.rows.lookup a = some row ∨ ∃ writer, x = .upserting writer row ∧ row.advertiserId = a := by
  cases effect with
  | stored =>
      obtain ⟨rfl, rfl⟩ | ⟨_, old⟩ := TokenWorld.lookup_upsertRow_cases h
      · exact .inr ⟨_, rfl, rfl⟩
      · exact .inl old
  | deleted => exact .inl (TokenWorld.lookup_of_deleteRow h)
  | _ => exact .inl h

theorem TokenEffect.copy_cases {x : TokenPoint} {w v : TokenWorld} (effect : TokenEffect x w v)
    {key : String} {token : ActiveToken} {expiry : Int}
    (h : v.cache.lookup key = some (token, expiry)) :
    w.cache.lookup key = some (token, expiry) ∨
      ∃ row, key = cacheKey row.advertiserId ∧ token = row.active ∧
        ((∃ k a, x = .warming k a row) ∨ ∃ writer, x = .caching writer row) := by
  cases effect with
  | warmed =>
      obtain ⟨rfl, rfl⟩ | old := Storage.Expiring.lookup_set_cases h
      · exact .inr ⟨_, rfl, rfl, .inl ⟨_, _, rfl⟩⟩
      · exact .inl old
  | cached =>
      obtain ⟨rfl, rfl⟩ | old := Storage.Expiring.lookup_set_cases h
      · exact .inr ⟨_, rfl, rfl, .inr ⟨_, rfl⟩⟩
      · exact .inl old
  | dropped key' => exact .inl (Storage.Expiring.lookup_of_del h)
  | _ => exact .inl h

theorem TokenEffect.clock_eq {x : TokenPoint} {w v : TokenWorld} (effect : TokenEffect x w v) :
    v.clock = w.clock := by
  cases effect <;> rfl

theorem keyed_run {w : TokenWorld} (keyed : w.Keyed) {c : TokenConfig TokenPoint}
    {actions : List TokenAction} (h : tokenProtocol.run (.initial w) actions = some c) :
    c.world.Keyed := by
  refine token_invariant (fun _ _ _ => True) (fun c => c.world.Keyed) ?_ ?_ ?_ h
    (along_true _ _) keyed
  · exact fun _ _ _ keyed _ => keyed
  · exact fun _ _ _ _ _ _ keyed _ _ t _ => t.effect.keyed keyed
  · exact fun _ _ keyed _ => keyed

/-! ## The clock -/

theorem clock_mono {c c' : TokenConfig TokenPoint} {actions : List TokenAction}
    (h : tokenProtocol.run c actions = some c') : c.world.clock ≤ c'.world.clock := by
  refine token_invariant (fun _ _ _ => True) (fun d => c.world.clock ≤ d.world.clock) ?_ ?_ ?_ h
    (along_true _ _) (Int.le_refl _)
  · exact fun _ _ _ later _ => later
  · intro d pid p r y v later _ _ t _
    simpa only [t.effect.clock_eq] using later
  · intro d elapsed later _
    simp only
    omega

/-! ## Runs in two parts -/

/-- A run of the programs that goes on from a configuration of the protocol. -/
theorem token_continue {w : TokenWorld} {before rest : List TokenAction} {act : TokenAction}
    {b c : TokenConfig TokenPoint} {c' : TokenConfig (TokenProg TokenResult)}
    (h : tokenProtocol.run (.initial w) before = some b)
    (returned : tokenProtocol.step b act = some c)
    (hr : tokenSystem.run (c.map TokenPoint.program) rest = some c') :
    ∃ d, tokenProtocol.run c rest = some d ∧ c' = d.map TokenPoint.program ∧
      tokenSystem.run (.initial w) (before ++ [act] ++ rest) = some c' := by
  obtain ⟨d, hd, rfl⟩ := token_refines.lift hr
  have points : tokenProtocol.run (.initial w) (before ++ [act] ++ rest) = some d := by
    simp [System.run_append, h, System.run, returned, hd]
  exact ⟨d, hd, rfl, (token_refines.run (.initial w) _).trans (congrArg (Option.map _) points)⟩

/-! ## Lookups -/

def TokenCall.lookup : TokenCall → Option (Caller × String)
  | .getActiveToken a => some (.direct, a)
  | .getValidToken a => some (.valid, a)
  | .refreshOne a => some (.task, a)
  | _ => none

theorem TokenCall.startPoint_of_lookup {call : TokenCall} {k : Caller} {a : String}
    (h : call.lookup = some (k, a)) : call.startPoint = .gettingCache k a := by
  cases call <;> cases h <;> rfl

/-- The `SELECT` of this call for the advertiser's active row was rejected. -/
def SelectRejected (trace : List TokenRecord) (pid : Nat) (a : String) : Prop :=
  ∃ r ∈ trace, r.pid = pid ∧ r.cmd = .selectActive a ∧ r.choice ≠ .ok

theorem SelectRejected.append {trace : List TokenRecord} {pid : Nat} {a : String}
    (h : SelectRejected trace pid a) (more : List TokenRecord) :
    SelectRejected (trace ++ more) pid a := by
  obtain ⟨r, hr, rest⟩ := h
  exact ⟨r, List.mem_append_left more hr, rest⟩

/-! ## Responses -/

structure TokenIssue where
  data : TokenData
  issuedAt : Int

def TokenChoice.issue : TokenChoice → Option TokenIssue
  | .exchanged response issuedAt =>
      if response.code = 0 then some ⟨response.data, issuedAt⟩ else none
  | .refreshed response issuedAt =>
      if response.code = 0 then some ⟨response.data, issuedAt⟩ else none
  | _ => none

/-- A row is given to `upsert` directly, and not out of a response. -/
def storesDirectly : TokenAction → Bool
  | .start (.upsert _) => true
  | _ => false

/-! ## Progress -/

private theorem tokenExec_answers (cmd : TokenCmd) (w : TokenWorld) :
    ∃ choice value v, tokenExec cmd choice w = some (.ok value, v) := by
  cases cmd with
  | postExchange authCode =>
      exact ⟨.exchanged ⟨0, "OK", ⟨"", "", 1, 1, ""⟩, []⟩ w.clock, _, w,
        if_pos (Int.le_refl w.clock)⟩
  | postRefresh token =>
      exact ⟨.refreshed ⟨0, "OK", ⟨"", "", 1, 1, ""⟩⟩ w.clock, _, w,
        if_pos (Int.le_refl w.clock)⟩
  | _ => exact ⟨.ok, _, _, rfl⟩

def Caller.answersLeft : Caller → Nat
  | .direct => 0
  | .valid | .task => 6

def Writer.answersLeft : Writer → Nat
  | .direct | .refresh _ => 0
  | .exchange _ _ rest _ => 2 * rest.length

/-- The answers a call still awaits at most; how many an exchange awaits shows only when
its response arrives. -/
def TokenPoint.answersLeft : TokenPoint → Nat
  | .gettingCache k _ => k.answersLeft + 6
  | .timingCached k _ _ => k.answersLeft + 5
  | .droppingCached k _ => k.answersLeft + 4
  | .selectingActive k _ => k.answersLeft + 3
  | .timingRow k _ _ => k.answersLeft + 2
  | .warming k _ _ => k.answersLeft + 1
  | .timingActive _ _ _ => 6
  | .selectingRow _ _ => 5
  | .timingRefresh _ _ _ => 4
  | .postingRefresh _ _ _ _ => 3
  | .upserting writer _ => writer.answersLeft + 2
  | .caching writer _ => writer.answersLeft + 1
  | .postingExchange _ => 0
  | .timingExchange response => 2 * response.advertiserIds.length + 1
  | .deletingRow _ => 2
  | .deletingKey _ => 1
  | .listing => 1
  | .ended _ => 0

def TokenPoint.asks : TokenPoint → Bool
  | .postingExchange _ => true
  | _ => false

/-- A point with no store command ahead: ended, or about to check a token's age. -/
inductive TokenPoint.Light : TokenPoint → Prop where
  | ended (outcome : Except JsError TokenResult) : Light (.ended outcome)
  | timingActive (k : Caller) (a : String) (token : ActiveToken) : Light (.timingActive k a token)

section

variable (k : Caller) (writer : Writer) (a : String) (e : JsError)

@[simp] theorem Caller.found_light (token : ActiveToken) : (k.found a token).Light := by
  cases k <;> constructor

@[simp] theorem Caller.absent_light : (k.absent a).Light := by cases k <;> constructor

@[simp] theorem Caller.kept_light (token : ActiveToken) : (k.kept token).Light := by
  cases k <;> constructor

@[simp] theorem Caller.refreshed_light (row : StoredToken) : (k.refreshed row).Light := by
  cases k <;> constructor

@[simp] theorem Caller.failed_light : (k.failed e).Light := by cases k <;> constructor

@[simp] theorem Writer.failed_light : (writer.failed e).Light := by
  cases writer with
  | refresh k => exact k.failed_light e
  | _ => exact .ended _

@[simp] theorem TokenPoint.Light.asks {x : TokenPoint} (light : x.Light) : x.asks = false := by
  cases light <;> rfl

@[simp] theorem storing_asks (data : TokenData) (now : Int) (stored : List StoredToken)
    (rest : List String) : (storing data now stored rest).asks = false := by
  cases rest <;> rfl

@[simp] theorem Writer.stored_asks (row : StoredToken) : (writer.stored row).asks = false := by
  cases writer with
  | direct => rfl
  | refresh k => exact (k.refreshed_light row).asks
  | exchange data now rest stored => exact storing_asks data now (stored ++ [row]) rest

@[simp] theorem Caller.failed_left : (k.failed e).answersLeft = 0 := by cases k <;> rfl

@[simp] theorem Caller.absent_left : (k.absent a).answersLeft = 0 := by cases k <;> rfl

@[simp] theorem Caller.kept_left (token : ActiveToken) : (k.kept token).answersLeft = 0 := by
  cases k <;> rfl

@[simp] theorem Caller.refreshed_left (row : StoredToken) : (k.refreshed row).answersLeft = 0 := by
  cases k <;> rfl

@[simp] theorem Caller.found_left (token : ActiveToken) :
    (k.found a token).answersLeft = k.answersLeft := by
  cases k <;> rfl

@[simp] theorem storing_left (data : TokenData) (now : Int) (stored : List StoredToken)
    (rest : List String) : (storing data now stored rest).answersLeft = 2 * rest.length := by
  cases rest with
  | nil => rfl
  | cons a rest =>
      simp only [storing, TokenPoint.answersLeft, Writer.answersLeft, List.length_cons]
      omega

@[simp] theorem Writer.failed_left : (writer.failed e).answersLeft = 0 := by
  cases writer with
  | refresh k => exact k.failed_left e
  | _ => rfl

@[simp] theorem Writer.stored_left (row : StoredToken) :
    (writer.stored row).answersLeft = writer.answersLeft := by
  cases writer with
  | direct => rfl
  | refresh k => exact k.refreshed_left row
  | exchange data now rest stored => exact storing_left data now (stored ++ [row]) rest

end

theorem TokenTransition.asks {x y : TokenPoint} {w v : TokenWorld} {r : TokenRecord}
    (t : TokenTransition x w r y v) : y.asks = false := by
  cases t <;> first | rfl | simp

theorem TokenTransition.answersLeft {x y : TokenPoint} {w v : TokenWorld} {r : TokenRecord}
    (t : TokenTransition x w r y v) (asked : x.asks = false) :
    y.answersLeft < x.answersLeft := by
  cases t with
  | exchangeGranted | exchangeRefused | exchangeFailed => cases asked
  | _ =>
      try simp only [Caller.found_left, Caller.absent_left, Caller.kept_left, Caller.failed_left,
        Writer.failed_left, Writer.stored_left, storing_left]
      simp only [TokenPoint.answersLeft, Writer.answersLeft]
      omega

theorem TokenPoint.answersLeft_pos {x : TokenPoint} {cmd : TokenCmd}
    {resume : Except JsError cmd.Reply → TokenPoint} (hv : x.view = .awaits cmd resume)
    (asked : x.asks = false) : 0 < x.answersLeft := by
  cases x with
  | ended outcome => cases hv
  | postingExchange authCode => cases asked
  | _ => simp [TokenPoint.answersLeft]

/-- A call that is no exchange ends after boundedly many answers, and until then it can
always be answered. -/
theorem token_progress {w : TokenWorld} {c : TokenConfig (TokenProg TokenResult)}
    {actions : List TokenAction} (h : tokenSystem.run (.initial w) actions = some c) {pid : Nat}
    {p : Proc TokenCall (TokenProg TokenResult)} (hp : c.procs[pid]? = some p)
    (asked : p.entry.startPoint.asks = false) (running : tokenSystem.InFlight c pid) :
    (c.own pid).length < p.entry.startPoint.answersLeft ∧
      ∃ choice, (tokenSystem.step c (.resume pid choice)).isSome = true := by
  obtain ⟨d, hd, rfl⟩ := token_refines.lift (c := .initial w) h
  rw [Config.map_get, Option.map_eq_some_iff] at hp
  obtain ⟨q, hq, rfl⟩ := hp
  obtain ⟨q', cmd, resume, hq', hv⟩ := token_refines.inFlight.mp running
  obtain rfl : q = q' := by simpa [hq] using hq'
  have own := token_own (fun call x history => call.startPoint.asks = false →
    x.asks = false ∧ history.length + x.answersLeft ≤ call.startPoint.answersLeft)
    (fun call quiet => ⟨quiet, by simp⟩)
    (fun call x history w r y v own t quiet => by
      obtain ⟨asked, bound⟩ := own quiet
      have fewer := t.answersLeft asked
      refine ⟨t.asks, ?_⟩
      rw [List.length_append, List.length_singleton]
      omega) hd hq asked
  have left := TokenPoint.answersLeft_pos hv own.1
  have bound : (d.own pid).length < q.entry.startPoint.answersLeft := by
    have := own.2
    omega
  refine ⟨bound, ?_⟩
  obtain ⟨choice, value, v, he⟩ := tokenExec_answers cmd d.world
  refine ⟨choice, ?_⟩
  rw [token_refines.step, System.step_answer hq hv he]
  rfl

/-! ## A grant for one advertiser -/

namespace TokenSample

def data : TokenData where
  accessToken := "access-abc"
  refreshToken := "refresh-xyz"
  accessTokenExpireIn := 86400
  refreshTokenExpireIn := 31536000

def grant : TikTokTokenResponse where
  code := 0
  message := "OK"
  data := data
  advertiserIds := ["adv-001"]

def redisDown : JsError where
  message := "Redis down"

def granted (cached : TokenChoice) : List TokenAction :=
  [.start (.exchangeAuthCode "code"), .resume 0 (.exchanged grant 0), .resume 0 .ok, .resume 0 .ok,
    .resume 0 cached]

abbrev points (actions : List TokenAction)
    (possible : (tokenProtocol.run (.initial (.fresh 0)) actions).isSome = true) :
    TokenConfig TokenPoint :=
  tokenProtocol.result (.initial (.fresh 0)) actions possible

end TokenSample

end SalesforceTikTok
