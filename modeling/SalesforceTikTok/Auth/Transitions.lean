import SalesforceTikTok.Concurrency.Invariant
import SalesforceTikTok.Auth.Protocol

/-!
# Transitions of the token protocol

What one answered command can do, as a table with one entry for each outcome, and
the invariant rules that follow from it.
-/

namespace SalesforceTikTok

open Concurrency
open TikTokOAuthClient (storedRow)
open TokenStore (cacheKey)

/-! ## The transition table -/

/-- `TokenTransition x w r y v`: at point `x` in world `w` the answer `r` leads to point
`y` in world `v`. A rejected store command may or may not have taken effect. -/
inductive TokenTransition :
    TokenPoint → TokenWorld → TokenRecord → TokenPoint → TokenWorld → Prop where
  | cacheHit {k a token w pid choice} (copy : w.cache.get w.clock (cacheKey a) = some token) :
      TokenTransition (.gettingCache k a) w ⟨pid, .cacheGet (cacheKey a), choice, .ok (some token)⟩
        (.timingCached k a token) w
  | cacheMiss {k a w pid choice} :
      TokenTransition (.gettingCache k a) w ⟨pid, .cacheGet (cacheKey a), choice, .ok none⟩
        (.selectingActive k a) w
  | cacheUnread {k a w pid choice e} :
      TokenTransition (.gettingCache k a) w ⟨pid, .cacheGet (cacheKey a), choice, .error e⟩
        (.selectingActive k a) w
  | copyFresh {k a token w pid} (fresh : w.clock < token.expiresAt) :
      TokenTransition (.timingCached k a token) w ⟨pid, .now, .ok, .ok w.clock⟩
        (k.found a token) w
  | copyStale {k a token w pid} (stale : token.expiresAt ≤ w.clock) :
      TokenTransition (.timingCached k a token) w ⟨pid, .now, .ok, .ok w.clock⟩
        (.droppingCached k a) w
  | copyDropped {k a w pid choice reply v} (effect : v = w ∨ v = w.cacheDel (cacheKey a)) :
      TokenTransition (.droppingCached k a) w ⟨pid, .cacheDel (cacheKey a), choice, reply⟩
        (.selectingActive k a) v
  | rowSelected {k a row w pid choice} (live : w.selectActive a = some row) :
      TokenTransition (.selectingActive k a) w ⟨pid, .selectActive a, choice, .ok (some row)⟩
        (.timingRow k a row) w
  | rowMissing {k a w pid choice} (missing : w.selectActive a = none) :
      TokenTransition (.selectingActive k a) w ⟨pid, .selectActive a, choice, .ok none⟩
        (k.absent a) w
  | selectFailed {k a w pid choice e} (lost : choice ≠ .ok) :
      TokenTransition (.selectingActive k a) w ⟨pid, .selectActive a, choice, .error e⟩
        (k.failed e) w
  | rowLive {k a row w pid} (live : w.clock < row.accessTokenExpiresAt) :
      TokenTransition (.timingRow k a row) w ⟨pid, .now, .ok, .ok w.clock⟩ (.warming k a row) w
  | rowStale {k a row w pid} (stale : row.accessTokenExpiresAt ≤ w.clock) :
      TokenTransition (.timingRow k a row) w ⟨pid, .now, .ok, .ok w.clock⟩
        (k.found a row.active) w
  | warmed {k a row w pid choice reply v}
      (effect : v = w ∨
        v = w.cacheSet (cacheKey row.advertiserId) row.active TOKEN_CACHE_TTL_SECONDS) :
      TokenTransition (.warming k a row) w
        ⟨pid, .cacheSet (cacheKey row.advertiserId) row.active TOKEN_CACHE_TTL_SECONDS, choice, reply⟩
        (k.found a row.active) v
  | tokenExpiring {k a token w pid} (renewing : k ≠ .direct)
      (expiring : token.expiresAt ≤ w.clock + ONE_HOUR) :
      TokenTransition (.timingActive k a token) w ⟨pid, .now, .ok, .ok w.clock⟩
        (.selectingRow k a) w
  | tokenKept {k a token w pid} (renewing : k ≠ .direct)
      (fresh : w.clock + ONE_HOUR < token.expiresAt) :
      TokenTransition (.timingActive k a token) w ⟨pid, .now, .ok, .ok w.clock⟩ (k.kept token) w
  | recordFound {k a row w pid} (found : w.rows.lookup a = some row) :
      TokenTransition (.selectingRow k a) w ⟨pid, .selectRow a, .ok, .ok (some row)⟩
        (.timingRefresh k a row) w
  | recordMissing {k a w pid choice} (missing : w.rows.lookup a = none) :
      TokenTransition (.selectingRow k a) w ⟨pid, .selectRow a, choice, .ok none⟩
        (k.failed (TikTokOAuthClient.noTokenRecord a)) w
  | recordFailed {k a w pid choice e} (lost : choice ≠ .ok) :
      TokenTransition (.selectingRow k a) w ⟨pid, .selectRow a, choice, .error e⟩ (k.failed e) w
  | refreshDue {k a row w pid} (live : w.clock < row.refreshTokenExpiresAt) :
      TokenTransition (.timingRefresh k a row) w ⟨pid, .now, .ok, .ok w.clock⟩
        (.postingRefresh k a row w.clock) w
  | refreshLapsed {k a row w pid} (lapsed : row.refreshTokenExpiresAt ≤ w.clock) :
      TokenTransition (.timingRefresh k a row) w ⟨pid, .now, .ok, .ok w.clock⟩
        (k.failed (TikTokOAuthClient.refreshTokenExpired a)) w
  | refreshGranted {k a row now w pid response issuedAt} (code : response.code = 0)
      (issued : issuedAt ≤ w.clock) :
      TokenTransition (.postingRefresh k a row now) w
        ⟨pid, .postRefresh row.refreshToken, .refreshed response issuedAt, .ok response⟩
        (.upserting (.refresh k) (storedRow response.data now a)) w
  | refreshRefused {k a row now w pid response issuedAt} (code : response.code ≠ 0) :
      TokenTransition (.postingRefresh k a row now) w
        ⟨pid, .postRefresh row.refreshToken, .refreshed response issuedAt, .ok response⟩
        (k.failed (TikTokOAuthClient.refused response.code response.message "Token refresh")) w
  | refreshFailed {k a row now w pid e} :
      TokenTransition (.postingRefresh k a row now) w
        ⟨pid, .postRefresh row.refreshToken, .fail e, .error e⟩ (k.failed e) w
  | rowStored {writer row w pid} :
      TokenTransition (.upserting writer row) w ⟨pid, .upsertRow row, .ok, .ok row⟩
        (.caching writer row) (w.upsertRow row)
  | rowLost {writer row w pid e} :
      TokenTransition (.upserting writer row) w ⟨pid, .upsertRow row, .fail e, .error e⟩
        (writer.failed e) w
  | rowUnconfirmed {writer row w pid e} :
      TokenTransition (.upserting writer row) w ⟨pid, .upsertRow row, .failAfter e, .error e⟩
        (writer.failed e) (w.upsertRow row)
  | cached {writer row w pid choice reply v}
      (effect : v = w ∨
        v = w.cacheSet (cacheKey row.advertiserId) row.active TOKEN_CACHE_TTL_SECONDS) :
      TokenTransition (.caching writer row) w
        ⟨pid, .cacheSet (cacheKey row.advertiserId) row.active TOKEN_CACHE_TTL_SECONDS, choice, reply⟩
        (writer.stored row) v
  | exchangeGranted {authCode w pid response issuedAt} (code : response.code = 0)
      (issued : issuedAt ≤ w.clock) :
      TokenTransition (.postingExchange authCode) w
        ⟨pid, .postExchange authCode, .exchanged response issuedAt, .ok response⟩
        (.timingExchange response) w
  | exchangeRefused {authCode w pid response issuedAt} (code : response.code ≠ 0) :
      TokenTransition (.postingExchange authCode) w
        ⟨pid, .postExchange authCode, .exchanged response issuedAt, .ok response⟩
        (.ended (.error (TikTokOAuthClient.refused response.code response.message
          "Token exchange"))) w
  | exchangeFailed {authCode w pid e} :
      TokenTransition (.postingExchange authCode) w
        ⟨pid, .postExchange authCode, .fail e, .error e⟩ (.ended (.error e)) w
  | exchangeTimed {response w pid} :
      TokenTransition (.timingExchange response) w ⟨pid, .now, .ok, .ok w.clock⟩
        (storing response.data w.clock [] response.advertiserIds) w
  | rowDeleted {a w pid} :
      TokenTransition (.deletingRow a) w ⟨pid, .deleteRow a, .ok, .ok ()⟩
        (.deletingKey a) (w.deleteRow a)
  | deleteFailed {a w pid choice e v} (effect : v = w ∨ v = w.deleteRow a) :
      TokenTransition (.deletingRow a) w ⟨pid, .deleteRow a, choice, .error e⟩
        (.ended (.error e)) v
  | keyDeleted {a w pid} :
      TokenTransition (.deletingKey a) w ⟨pid, .cacheDel (cacheKey a), .ok, .ok ()⟩
        (.ended (.ok .done)) (w.cacheDel (cacheKey a))
  | keyDeleteFailed {a w pid choice e v} (effect : v = w ∨ v = w.cacheDel (cacheKey a)) :
      TokenTransition (.deletingKey a) w ⟨pid, .cacheDel (cacheKey a), choice, .error e⟩
        (.ended (.error e)) v
  | idsListed {w pid} :
      TokenTransition .listing w ⟨pid, .selectActiveIds, .ok, .ok w.selectActiveIds⟩
        (.ended (.ok .done)) { w with listed := w.listed ++ w.selectActiveIds }
  | listFailed {w pid choice e} (lost : choice ≠ .ok) :
      TokenTransition .listing w ⟨pid, .selectActiveIds, choice, .error e⟩ (.ended (.error e)) w

theorem TokenChoice.apply_cases {α : Type} {choice : TokenChoice} {w v effect : TokenWorld}
    {value : α} {reply : Except JsError α} (h : choice.apply w value effect = some (reply, v)) :
    (choice = .ok ∧ reply = .ok value ∧ v = effect) ∨
      ∃ error, reply = .error error ∧
        (choice = .fail error ∧ v = w ∨ choice = .failAfter error ∧ v = effect) := by
  cases choice with
  | ok => cases h; exact .inl ⟨rfl, rfl, rfl⟩
  | fail error => cases h; exact .inr ⟨error, rfl, .inl ⟨rfl, rfl⟩⟩
  | failAfter error => cases h; exact .inr ⟨error, rfl, .inr ⟨rfl, rfl⟩⟩
  | exchanged response issuedAt => cases h
  | refreshed response issuedAt => cases h

theorem TokenChoice.apply_effect {α : Type} {choice : TokenChoice} {w v effect : TokenWorld}
    {value : α} {reply : Except JsError α} (h : choice.apply w value effect = some (reply, v)) :
    v = w ∨ v = effect := by
  obtain ⟨_, _, rfl⟩ | ⟨_, _, ⟨_, rfl⟩ | ⟨_, rfl⟩⟩ := TokenChoice.apply_cases h
  · exact .inr rfl
  · exact .inl rfl
  · exact .inr rfl

theorem TokenChoice.apply_read {α : Type} {choice : TokenChoice} {w v : TokenWorld}
    {value : α} {reply : Except JsError α} (h : choice.apply w value w = some (reply, v)) :
    v = w ∧ (choice = .ok ∧ reply = .ok value ∨ ∃ error, reply = .error error ∧ choice ≠ .ok) := by
  obtain ⟨rfl, rfl, rfl⟩ | ⟨e, rfl, ⟨rfl, rfl⟩ | ⟨rfl, rfl⟩⟩ := TokenChoice.apply_cases h
  · exact ⟨rfl, .inl ⟨rfl, rfl⟩⟩
  · exact ⟨rfl, .inr ⟨e, rfl, by simp⟩⟩
  · exact ⟨rfl, .inr ⟨e, rfl, by simp⟩⟩

/-- Every answered command of the protocol is an entry of the table. -/
theorem TokenPoint.transition {x : TokenPoint} {cmd : TokenCmd}
    {resume : Except JsError cmd.Reply → TokenPoint} {choice : TokenChoice}
    {w v : TokenWorld} {reply : Except JsError cmd.Reply} (pid : Nat)
    (hv : x.view = .awaits cmd resume) (he : tokenExec cmd choice w = some (reply, v)) :
    TokenTransition x w ⟨pid, cmd, choice, reply⟩ (resume reply) v := by
  cases x with
  | gettingCache k a =>
      cases hv
      obtain ⟨rfl, ⟨rfl, rfl⟩ | ⟨e, rfl, _⟩⟩ := TokenChoice.apply_read he
      · cases copy : v.cache.get v.clock (cacheKey a) with
        | none => exact .cacheMiss
        | some token => exact .cacheHit copy
      · exact .cacheUnread
  | timingCached k a token =>
      cases hv
      cases choice <;> cases he
      by_cases stale : token.expiresAt ≤ w.clock
      · simp only [if_pos stale]
        exact .copyStale stale
      · simp only [if_neg stale]
        exact .copyFresh (Int.not_le.mp stale)
  | droppingCached k a =>
      cases hv
      exact .copyDropped (TokenChoice.apply_effect he)
  | selectingActive k a =>
      cases hv
      obtain ⟨rfl, ⟨rfl, rfl⟩ | ⟨e, rfl, lost⟩⟩ := TokenChoice.apply_read he
      · cases live : v.selectActive a with
        | none => exact .rowMissing live
        | some row => exact .rowSelected live
      · exact .selectFailed lost
  | timingRow k a row =>
      cases hv
      cases choice <;> cases he
      by_cases live : w.clock < row.accessTokenExpiresAt
      · simp only [if_pos live]
        exact .rowLive live
      · simp only [if_neg live]
        exact .rowStale (Int.not_lt.mp live)
  | warming k a row =>
      cases hv
      exact .warmed (TokenChoice.apply_effect he)
  | timingActive k a token =>
      cases k with
      | direct => cases hv
      | valid | task =>
          cases hv
          cases choice <;> cases he
          by_cases expiring : token.expiresAt ≤ w.clock + ONE_HOUR
          · simp only [if_pos expiring]
            exact .tokenExpiring (by simp) expiring
          · simp only [if_neg expiring]
            exact .tokenKept (by simp) (Int.not_le.mp expiring)
  | selectingRow k a =>
      cases hv
      obtain ⟨rfl, ⟨rfl, rfl⟩ | ⟨e, rfl, lost⟩⟩ := TokenChoice.apply_read he
      · cases found : v.rows.lookup a with
        | none => exact .recordMissing found
        | some row => exact .recordFound found
      · exact .recordFailed lost
  | timingRefresh k a row =>
      cases hv
      cases choice <;> cases he
      by_cases lapsed : row.refreshTokenExpiresAt ≤ w.clock
      · simp only [if_pos lapsed]
        exact .refreshLapsed lapsed
      · simp only [if_neg lapsed]
        exact .refreshDue (Int.not_le.mp lapsed)
  | postingRefresh k a row now =>
      cases hv
      cases choice with
      | ok => cases he
      | failAfter error => cases he
      | exchanged response issuedAt => cases he
      | fail error => cases he; exact .refreshFailed
      | refreshed response issuedAt =>
          simp only [tokenExec] at he
          split at he <;> cases he
          next issued =>
            by_cases code : response.code = 0
            · simp only [code, ne_eq, not_true_eq_false, if_false]
              exact .refreshGranted code issued
            · simp only [ne_eq, code, not_false_eq_true, if_true]
              exact .refreshRefused code
  | upserting writer row =>
      cases hv
      obtain ⟨rfl, rfl, rfl⟩ | ⟨e, rfl, ⟨rfl, rfl⟩ | ⟨rfl, rfl⟩⟩ := TokenChoice.apply_cases he
      · exact .rowStored
      · exact .rowLost
      · exact .rowUnconfirmed
  | caching writer row =>
      cases hv
      exact .cached (TokenChoice.apply_effect he)
  | postingExchange authCode =>
      cases hv
      cases choice with
      | ok => cases he
      | failAfter error => cases he
      | refreshed response issuedAt => cases he
      | fail error => cases he; exact .exchangeFailed
      | exchanged response issuedAt =>
          simp only [tokenExec] at he
          split at he <;> cases he
          next issued =>
            by_cases code : response.code = 0
            · simp only [code, ne_eq, not_true_eq_false, if_false]
              exact .exchangeGranted code issued
            · simp only [ne_eq, code, not_false_eq_true, if_true]
              exact .exchangeRefused code
  | timingExchange response =>
      cases hv
      cases choice <;> cases he
      exact .exchangeTimed
  | deletingRow a =>
      cases hv
      obtain ⟨rfl, rfl, rfl⟩ | ⟨e, rfl, ⟨rfl, rfl⟩ | ⟨rfl, rfl⟩⟩ := TokenChoice.apply_cases he
      · exact .rowDeleted
      · exact .deleteFailed (.inl rfl)
      · exact .deleteFailed (.inr rfl)
  | deletingKey a =>
      cases hv
      obtain ⟨rfl, rfl, rfl⟩ | ⟨e, rfl, ⟨rfl, rfl⟩ | ⟨rfl, rfl⟩⟩ := TokenChoice.apply_cases he
      · exact .keyDeleted
      · exact .keyDeleteFailed (.inl rfl)
      · exact .keyDeleteFailed (.inr rfl)
  | listing =>
      cases hv
      cases choice <;> cases he
      · exact .idsListed
      · exact .listFailed (by simp)
  | ended outcome => cases hv

/-! ## Invariant rules -/

abbrev TokenConfig (X : Type) :=
  Config TokenCmd TokenCmd.Reply JsError TokenWorld TokenChoice TokenCall X

abbrev TokenAction := Action TokenCall TokenChoice TokenEvent

/-- A started task is taken off the list; every other call leaves the world alone. -/
theorem TokenCall.enter_cases {call : TokenCall} {w v : TokenWorld} (h : call.enter w = some v) :
    ∃ listed, v = { w with listed := listed } := by
  cases call with
  | refreshOne a =>
      simp only [TokenCall.enter] at h
      split at h <;> cases h
      exact ⟨_, rfl⟩
  | _ => cases h; exact ⟨w.listed, rfl⟩

/-- A fact about one call and its own history: enough to check it at the start and at
every entry of the table. -/
theorem token_own (Own : TokenCall → TokenPoint → List TokenRecord → Prop)
    (launched : ∀ call, Own call call.startPoint [])
    (answered : ∀ call x history w r y v, Own call x history → TokenTransition x w r y v →
      Own call y (history ++ [r]))
    {w : TokenWorld} {c : TokenConfig TokenPoint} {actions : List TokenAction}
    (h : tokenProtocol.run (.initial w) actions = some c) {pid : Nat}
    {p : Proc TokenCall TokenPoint} (hp : c.procs[pid]? = some p) :
    Own p.entry p.state (c.own pid) := by
  refine System.run_own (fun _ => True) Own ?_ ?_ h (fun _ _ => trivial) hp
  · intro call w x v hl
    obtain ⟨v', _, same⟩ := Option.map_eq_some_iff.mp hl
    cases same
    exact launched call
  · intro call x history cmd resume pid choice reply w v own hv he _
    exact answered _ _ _ _ _ _ _ own (TokenPoint.transition pid hv he)

/-- A fact about whole configurations: enough to check it for a started call, for every
entry of the table and for the passing of time, under a condition on the steps. -/
theorem token_invariant
    (Step : TokenConfig TokenPoint → TokenAction → TokenConfig TokenPoint → Prop)
    (I : TokenConfig TokenPoint → Prop)
    (started : ∀ c call listed, I c →
      Step c (.start call)
        ⟨{ c.world with listed := listed }, c.procs ++ [⟨call, call.startPoint⟩], c.trace⟩ →
      I ⟨{ c.world with listed := listed }, c.procs ++ [⟨call, call.startPoint⟩], c.trace⟩)
    (answered : ∀ c pid p r y v, I c → c.procs[pid]? = some p → r.pid = pid →
      TokenTransition p.state c.world r y v →
      Step c (.resume pid r.choice) ⟨v, c.procs.set pid ⟨p.entry, y⟩, c.trace ++ [r]⟩ →
      I ⟨v, c.procs.set pid ⟨p.entry, y⟩, c.trace ++ [r]⟩)
    (ticked : ∀ c (elapsed : Nat), I c →
      Step c (.env (.tick elapsed))
        { c with world := { c.world with clock := c.world.clock + elapsed } } →
      I { c with world := { c.world with clock := c.world.clock + elapsed } })
    {c c' : TokenConfig TokenPoint} {actions : List TokenAction}
    (h : tokenProtocol.run c actions = some c') (along : tokenProtocol.Along Step c actions)
    (initial : I c) : I c' := by
  refine System.run_invariant_along Step I ?_ h along initial
  intro c a c' hc hs hstep
  cases a with
  | start call =>
      obtain ⟨x, v, hl, rfl⟩ := System.step_start hs
      obtain ⟨v', entered, same⟩ := Option.map_eq_some_iff.mp hl
      cases same
      obtain ⟨listed, rfl⟩ := TokenCall.enter_cases entered
      exact started c call listed hc hstep
  | resume pid choice =>
      obtain ⟨p, cmd, resume, reply, v, hp, hv, he, rfl⟩ := System.step_resume hs
      exact answered c pid p _ _ _ hc hp rfl (TokenPoint.transition pid hv he) hstep
  | env event =>
      obtain ⟨v, hw, rfl⟩ := System.step_env hs
      cases event with
      | tick elapsed =>
          cases hw
          exact ticked c elapsed hc hstep

theorem along_true (c : TokenConfig TokenPoint) (actions : List TokenAction) :
    tokenProtocol.Along (fun _ _ _ => True) c actions :=
  System.along_of_actions (fun _ => True) (fun _ _ => trivial) c

end SalesforceTikTok
