import SalesforceTikTok.Auth.Effects
import SalesforceTikTok.Concurrency.Contract

/-!
# How a grant is stored

`exchangeAuthCode` stores one row after the other, each on its own. While it is
the only call, the stores hold at any time the granted rows of the advertisers
so far and otherwise what they held before; a rejected row ends it there.
-/

namespace SalesforceTikTok

open Concurrency
open TikTokOAuthClient (storedRow)
open TokenStore (cacheKey)

/-! ## What the stores hold -/

def Untouched (a : String) (w v : TokenWorld) : Prop :=
  v.rows.lookup a = w.rows.lookup a ∧ v.cache.lookup (cacheKey a) = w.cache.lookup (cacheKey a)

def RowGranted (data : TokenData) (now : Int) (a : String) (v : TokenWorld) : Prop :=
  v.rows.lookup a = some (storedRow data now a)

/-- The advertiser's copy holds the granted token, or Redis did not take it. -/
def CopyGranted (data : TokenData) (now : Int) (a : String) (w v : TokenWorld) : Prop :=
  (∃ expiry, v.cache.lookup (cacheKey a) = some ((storedRow data now a).active, expiry)) ∨
    v.cache.lookup (cacheKey a) = w.cache.lookup (cacheKey a)

/-- The grant is stored for these advertisers and nothing else has changed. -/
structure StoredFor (data : TokenData) (now : Int) (done : List String) (w v : TokenWorld) :
    Prop where
  rows : ∀ a ∈ done, RowGranted data now a v
  copies : ∀ a ∈ done, CopyGranted data now a w v
  rest : ∀ a, a ∉ done → Untouched a w v

/-- The grant is stored for these advertisers and, it may be, in the row of the next. -/
structure CutShort (data : TokenData) (now : Int) (done : List String) (a : String)
    (w v : TokenWorld) : Prop where
  rows : ∀ b ∈ done, RowGranted data now b v
  copies : ∀ b ∈ done, CopyGranted data now b w v
  row : v.rows.lookup a = w.rows.lookup a ∨ RowGranted data now a v
  copy : a ∉ done → v.cache.lookup (cacheKey a) = w.cache.lookup (cacheKey a)
  rest : ∀ b, b ∉ done → b ≠ a → Untouched b w v

variable {data : TokenData} {now : Int} {done : List String} {a : String} {w v : TokenWorld}

theorem StoredFor.nil (kept : ∀ a, Untouched a w v) : StoredFor data now [] w v where
  rows := nofun
  copies := nofun
  rest a _ := kept a

theorem StoredFor.lost (h : StoredFor data now done w v) (a : String) :
    CutShort data now done a w v where
  rows := h.rows
  copies := h.copies
  row := by
    by_cases again : a ∈ done
    · exact .inr (h.rows a again)
    · exact .inl (h.rest a again).1
  copy other := (h.rest a other).2
  rest b other _ := h.rest b other

/-- The row was written, whether or not that was confirmed. -/
theorem StoredFor.written (h : StoredFor data now done w v) (a : String) :
    CutShort data now done a w (v.upsertRow (storedRow data now a)) ∧
      RowGranted data now a (v.upsertRow (storedRow data now a)) := by
  have here : RowGranted data now a (v.upsertRow (storedRow data now a)) :=
    AList.lookup_insert v.rows
  have elsewhere {b : String} (other : b ≠ a) :
      (v.upsertRow (storedRow data now a)).rows.lookup b = v.rows.lookup b :=
    AList.lookup_insert_ne other
  refine ⟨⟨fun b mem => ?_, h.copies, .inr here, fun other => (h.rest a other).2, ?_⟩, here⟩
  · by_cases same : b = a
    · exact same ▸ here
    · exact (elsewhere same).trans (h.rows b mem)
  · intro b unstored other
    exact ⟨(elsewhere other).trans (h.rest b unstored).1, (h.rest b unstored).2⟩

/-- After the row its copy is written, or Redis does not take it. -/
theorem CutShort.cached (h : CutShort data now done a w v) (granted : RowGranted data now a v)
    {u : TokenWorld} (effect : u = v ∨ u = v.cacheSet (cacheKey (storedRow data now a).advertiserId)
      (storedRow data now a).active TOKEN_CACHE_TTL_SECONDS) :
    StoredFor data now (done ++ [a]) w u := by
  have rows : u.rows = v.rows := by obtain rfl | rfl := effect <;> rfl
  have here : CopyGranted data now a v u := by
    obtain rfl | rfl := effect
    · exact .inr rfl
    · exact .inl ⟨_, AList.lookup_insert _⟩
  have elsewhere {b : String} (other : b ≠ a) :
      u.cache.lookup (cacheKey b) = v.cache.lookup (cacheKey b) := by
    obtain rfl | rfl := effect
    · rfl
    · exact Storage.Expiring.lookup_set_ne (fun same => other (cacheKey_inj same)) _ _
  -- the copy of this advertiser was granted before, or is as at the start
  have before : CopyGranted data now a w v := by
    by_cases again : a ∈ done
    · exact h.copies a again
    · exact .inr (h.copy again)
  refine ⟨fun b mem => ?_, fun b mem => ?_, fun b mem => ?_⟩
  · unfold RowGranted
    rw [rows]
    rcases List.mem_append.mp mem with stored | last
    · exact h.rows b stored
    · obtain rfl := List.mem_singleton.mp last
      exact granted
  · by_cases same : b = a
    · subst same
      rcases here with written | kept
      · exact .inl written
      · unfold CopyGranted
        rw [kept]
        exact before
    · unfold CopyGranted
      rw [elsewhere same]
      exact h.copies b ((List.mem_append.mp mem).resolve_right (by simpa using same))
  · have other : b ≠ a := by
      rintro rfl
      exact mem (List.mem_append_right _ (List.mem_singleton_self b))
    obtain ⟨row, copy⟩ := h.rest b (fun stored => mem (List.mem_append_left _ stored)) other
    exact ⟨by rw [rows, row], (elsewhere other).trans copy⟩

/-! ## The exchange on its own -/

def GrantAnswered (trace : List TokenRecord) (authCode : String)
    (response : TikTokTokenResponse) : Prop :=
  response.code = 0 ∧ ∃ r ∈ trace, r.answer = ⟨.postExchange authCode, .ok response⟩

def RowRejected (trace : List TokenRecord) (row : StoredToken) (error : JsError) : Prop :=
  ∃ r ∈ trace, r.answer = ⟨.upsertRow row, .error error⟩

/-- Where the exchange is, and what the stores then hold compared with the start. -/
inductive Exchanging (authCode : String) (w : TokenWorld) (trace : List TokenRecord)
    (v : TokenWorld) : TokenPoint → Prop where
  | posting (kept : ∀ a, Untouched a w v) :
      Exchanging authCode w trace v (.postingExchange authCode)
  | timing {response} (granted : GrantAnswered trace authCode response)
      (kept : ∀ a, Untouched a w v) : Exchanging authCode w trace v (.timingExchange response)
  | upserting {response now done a rest stored} (granted : GrantAnswered trace authCode response)
      (split : response.advertiserIds = done ++ a :: rest)
      (before : StoredFor response.data now done w v) :
      Exchanging authCode w trace v (.upserting (.exchange response.data now rest stored)
        (storedRow response.data now a))
  | caching {response now done a rest stored} (granted : GrantAnswered trace authCode response)
      (split : response.advertiserIds = done ++ a :: rest)
      (before : CutShort response.data now done a w v) (row : RowGranted response.data now a v) :
      Exchanging authCode w trace v (.caching (.exchange response.data now rest stored)
        (storedRow response.data now a))
  | refused {error} (kept : ∀ a, Untouched a w v) :
      Exchanging authCode w trace v (.ended (.error error))
  | cutShort {response now done a rest error} (granted : GrantAnswered trace authCode response)
      (split : response.advertiserIds = done ++ a :: rest)
      (rejected : RowRejected trace (storedRow response.data now a) error)
      (before : CutShort response.data now done a w v) :
      Exchanging authCode w trace v (.ended (.error error))
  | completed {response now stored} (granted : GrantAnswered trace authCode response)
      (all : StoredFor response.data now response.advertiserIds w v) :
      Exchanging authCode w trace v (.ended (.ok (.storedAll stored)))

namespace Exchanging

variable {authCode : String} {trace : List TokenRecord} {x y : TokenPoint} {u : TokenWorld}
  {r : TokenRecord} {response : TikTokTokenResponse}

theorem storing {rest : List String} (granted : GrantAnswered trace authCode response)
    (split : response.advertiserIds = done ++ rest)
    (before : StoredFor response.data now done w v) (stored : List StoredToken) :
    Exchanging authCode w trace v (storing response.data now stored rest) := by
  cases rest with
  | nil =>
      rw [List.append_nil] at split
      exact .completed granted (split ▸ before)
  | cons a rest => exact .upserting granted split before

private theorem granted_append (h : GrantAnswered trace authCode response) (r : TokenRecord) :
    GrantAnswered (trace ++ [r]) authCode response := by
  obtain ⟨code, q, hq, answer⟩ := h
  exact ⟨code, q, List.mem_append_left _ hq, answer⟩

theorem answered (h : Exchanging authCode w trace v x) (t : TokenTransition x v r y u) :
    Exchanging authCode w (trace ++ [r]) u y := by
  have last : r ∈ trace ++ [r] := List.mem_append_right _ (List.mem_singleton_self r)
  cases h with
  | posting kept =>
      cases t with
      | exchangeGranted code => exact .timing ⟨code, _, last, rfl⟩ kept
      | exchangeRefused => exact .refused kept
      | exchangeFailed => exact .refused kept
  | timing granted kept =>
      cases t with
      | exchangeTimed => exact .storing (granted_append granted _) rfl (.nil kept) []
  | upserting granted split before =>
      cases t with
      | rowStored =>
          obtain ⟨cut, row⟩ := before.written _
          exact .caching (granted_append granted _) split cut row
      | rowLost => exact .cutShort (granted_append granted _) split ⟨_, last, rfl⟩ (before.lost _)
      | rowUnconfirmed =>
          exact .cutShort (granted_append granted _) split ⟨_, last, rfl⟩ (before.written _).1
  | caching granted split before row =>
      cases t with
      | cached effect =>
          refine .storing (granted_append granted _) ?_ (before.cached row effect) _
          rw [split, List.append_assoc]
          rfl
  | refused | cutShort | completed => cases t

theorem ticked (h : Exchanging authCode w trace v x) (elapsed : Nat) :
    Exchanging authCode w trace { v with clock := v.clock + elapsed } x := by
  cases h with
  | posting kept => exact .posting kept
  | timing granted kept => exact .timing granted kept
  | upserting granted split before =>
      exact .upserting granted split ⟨before.rows, before.copies, before.rest⟩
  | caching granted split before row =>
      exact .caching granted split
        ⟨before.rows, before.copies, before.row, before.copy, before.rest⟩ row
  | refused kept => exact .refused kept
  | cutShort granted split rejected before =>
      exact .cutShort granted split rejected
        ⟨before.rows, before.copies, before.row, before.copy, before.rest⟩
  | completed granted all => exact .completed granted ⟨all.rows, all.copies, all.rest⟩

end Exchanging

/-- The stores of a run in which the exchange is the only call. -/
theorem exchanging {authCode : String} {c : TokenConfig TokenPoint} {actions : List TokenAction}
    (h : tokenProtocol.run (.initial w) actions = some c)
    (alone : c.entries = [.exchangeAuthCode authCode]) :
    ∃ x, c.procs = [⟨.exchangeAuthCode authCode, x⟩] ∧
      Exchanging authCode w c.trace c.world x := by
  let I : TokenConfig TokenPoint → Prop := fun c =>
    (c.procs = [] → ∀ a, Untouched a w c.world) ∧
      (c.entries = [.exchangeAuthCode authCode] →
        ∃ x, c.procs = [⟨.exchangeAuthCode authCode, x⟩] ∧
          Exchanging authCode w c.trace c.world x)
  suffices hI : I c from hI.2 alone
  refine token_invariant (fun _ _ _ => True) I ?_ ?_ ?_ h (along_true _ _) ?_
  · intro c call listed hc _
    refine ⟨by simp, fun entries => ?_⟩
    have first : c.procs = [] := by
      have lengths := congrArg List.length entries
      simpa [Config.entries] using lengths
    obtain rfl : call = .exchangeAuthCode authCode := by
      simpa [Config.entries, first] using entries
    exact ⟨_, by rw [first]; rfl, .posting (hc.1 first)⟩
  · intro c pid p r y v hc hp _ t _
    have started : c.procs ≠ [] := fun none => by simp [none] at hp
    refine ⟨fun none => absurd none (by simpa using started), fun entries => ?_⟩
    rw [Config.entries, System.entries_answered hp] at entries
    obtain ⟨x, procs, here⟩ := hc.2 entries
    have bound : pid < 1 := by
      have bound := (List.getElem?_eq_some_iff.mp hp).1
      simpa [procs] using bound
    obtain rfl : pid = 0 := by omega
    obtain rfl : p = ⟨.exchangeAuthCode authCode, x⟩ := by simpa [procs] using hp.symm
    exact ⟨y, by rw [procs]; rfl, here.answered t⟩
  · intro c elapsed hc _
    refine ⟨hc.1, fun entries => ?_⟩
    obtain ⟨x, procs, here⟩ := hc.2 entries
    exact ⟨x, procs, here.ticked elapsed⟩
  · exact ⟨fun _ _ => ⟨rfl, rfl⟩, fun entries => by cases entries⟩

/-- If the exchange rejects, nothing has changed, or the grant is stored up to the advertiser
whose row was rejected; if it resolves, it is stored for all its advertisers. -/
theorem grant_stored_in_order {c : TokenConfig (TokenProg TokenResult)}
    {actions : List TokenAction} (h : tokenSystem.run (.initial w) actions = some c)
    {authCode : String} (alone : c.entries = [.exchangeAuthCode authCode])
    {outcome : Except JsError TokenResult} (ended : tokenSystem.Ended c 0 outcome) :
    (∀ error, outcome = .error error →
      (∀ a, Untouched a w c.world) ∨
        ∃ response now done a rest, GrantAnswered c.trace authCode response ∧
          response.advertiserIds = done ++ a :: rest ∧
            RowRejected c.trace (storedRow response.data now a) error ∧
              CutShort response.data now done a w c.world) ∧
    ∀ result, outcome = .ok result →
      ∃ response now, GrantAnswered c.trace authCode response ∧
        StoredFor response.data now response.advertiserIds w c.world := by
  obtain ⟨d, hd, rfl⟩ := token_refines.lift (c := .initial w) h
  have entries : d.entries = [.exchangeAuthCode authCode] := by
    rw [← alone, Config.entries, Config.entries, Config.map, List.map_map]
    rfl
  obtain ⟨x, procs, here⟩ := exchanging hd entries
  have view : x.view = .ended outcome :=
    (token_refines.ended.mp ended).view_eq (p := ⟨_, x⟩) (by rw [procs]; rfl)
  cases here with
  | posting | timing | upserting | caching => cases view
  | refused kept =>
      cases view
      refine ⟨fun _ _ => .inl kept, fun _ same => ?_⟩
      cases same
  | cutShort granted split rejected before =>
      cases view
      refine ⟨fun _ same => ?_, fun _ same => ?_⟩
      · cases same
        exact .inr ⟨_, _, _, _, _, granted, split, rejected, before⟩
      · cases same
  | completed granted all =>
      cases view
      refine ⟨fun _ same => ?_, fun _ _ => ⟨_, _, granted, all⟩⟩
      cases same

namespace TokenSample

def jointGrant : TikTokTokenResponse := { grant with advertiserIds := ["adv-001", "adv-002"] }

/-- The first advertiser is stored; how Postgres takes the second row is left open. -/
def jointlyGranted (second : List TokenAction) : List TokenAction :=
  [.start (.exchangeAuthCode "code"), .resume 0 (.exchanged jointGrant 0), .resume 0 .ok,
    .resume 0 .ok, .resume 0 .ok] ++ second

def postgresDown : JsError where
  message := "Connection terminated unexpectedly"

end TokenSample

open TokenSample in
theorem grant_stored_in_order_joint :
    let c := tokenSystem.result (.initial (.fresh 0))
      (jointlyGranted [.resume 0 .ok, .resume 0 (.fail redisDown)]) (by decide)
    ∃ response now, GrantAnswered c.trace "code" response ∧
      StoredFor response.data now response.advertiserIds (.fresh 0) c.world := by
  intro c
  exact (grant_stored_in_order (System.run_result _) rfl ⟨_, rfl, rfl⟩).2 _ rfl

open TokenSample in
/-- The second row is rejected, and the first one stays. -/
theorem joint_grant_half_stored :
    let c := tokenSystem.result (.initial (.fresh 0))
      (jointlyGranted [.resume 0 (.fail postgresDown)]) (by decide)
    tokenSystem.Ended c 0 (.error postgresDown) ∧ GrantAnswered c.trace "code" jointGrant ∧
      "adv-001" ∈ jointGrant.advertiserIds ∧ ¬ Untouched "adv-001" (.fresh 0) c.world := by
  intro c
  have answered : GrantAnswered c.trace "code" jointGrant :=
    ⟨rfl, _, List.mem_cons_self, rfl⟩
  refine ⟨⟨_, rfl, rfl⟩, answered, by decide, fun untouched => ?_⟩
  have stored : c.world.rows.lookup "adv-001" ≠ none := by decide
  exact stored untouched.1

end SalesforceTikTok
