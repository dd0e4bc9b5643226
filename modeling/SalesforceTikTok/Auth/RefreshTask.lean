import SalesforceTikTok.Concurrency.Gather
import SalesforceTikTok.Concurrency.Replay
import SalesforceTikTok.Concurrency.Separation
import SalesforceTikTok.Auth.Effects

/-!
# The tasks of `refreshAll`

`refreshAll` runs one task for every listed advertiser, which looks up the token and
refreshes it if it expires within the hour. A task comes to one of six exits, which its
answers tell apart, and it reads and writes no row and no copy but its advertiser's.
-/

namespace SalesforceTikTok

open Concurrency
open TokenStore (cacheKey getActiveToken)
open TikTokOAuthClient (refreshAccessToken)

namespace ProactiveRefresher

inductive Pushed where
  | nothing
  | refreshed (advertiserId : String)
  | failed (advertiserId : String)
  deriving DecidableEq

def Pushed.refreshed? : Pushed → Option String
  | .refreshed advertiserId => some advertiserId
  | _ => none

def Pushed.failed? : Pushed → Option String
  | .failed advertiserId => some advertiserId
  | _ => none

def refreshFound (advertiserId : String) : Option ActiveToken → TokenProg Pushed
  | none => return .nothing
  | some active => do
      let now : Int ← authorize .now
      if now + ONE_HOUR < active.expiresAt then
        return .nothing
      else
        let _ ← refreshAccessToken advertiserId
        return .refreshed advertiserId

/-- `refreshOne` with what it pushes. -/
def refreshTask (advertiserId : String) : TokenProg Pushed := do
  try
    let active ← getActiveToken advertiserId
    refreshFound advertiserId active
  catch _ =>
    pure (.failed advertiserId)

theorem refreshOne_eq (advertiserId : String) :
    refreshOne advertiserId = (fun _ => ()) <$> refreshTask advertiserId := by
  unfold refreshOne refreshTask
  rw [Prog.map_catch]
  refine congrArg₂ tryCatch ?_ rfl
  rw [Prog.map_bind]
  refine congrArg (getActiveToken advertiserId >>= ·) (funext fun found => ?_)
  cases found with
  | none => rfl
  | some active =>
      simp only [refreshFound]
      rw [Prog.map_bind]
      refine congrArg (authorize .now >>= ·) (funext fun now => ?_)
      by_cases late : now + ONE_HOUR < active.expiresAt
      · simp only [if_pos late]
        rfl
      · simp only [if_neg late]
        rw [Prog.map_bind]
        rfl

/-- The tasks of one `refreshAll`, which run concurrently. -/
def refreshTasks : System tokenRuntime Pushed String (TokenProg Pushed) where
  view := Prog.view
  launch advertiserId w := some (refreshTask advertiserId, w)

/-- What `refreshAll` resolves with, in order of completion. -/
structure RefreshReport where
  refreshed : List String
  failed : List String
  deriving DecidableEq

/-- The report on these ids; `w` is the state of the stores once they are listed. -/
def refreshAll (w : TokenWorld) (advertiserIds : List String)
    (schedule : List (Action String TokenChoice TokenEvent)) : RefreshReport where
  refreshed := refreshTasks.gathered Pushed.refreshed? w advertiserIds schedule
  failed := refreshTasks.gathered Pushed.failed? w advertiserIds schedule

end ProactiveRefresher

open ProactiveRefresher

abbrev TaskConfig :=
  Config TokenCmd TokenCmd.Reply JsError TokenWorld TokenChoice String (TokenProg Pushed)

abbrev TokenAnswer := Answer TokenCmd TokenCmd.Reply JsError

/-! ## The exits of a task -/

/-- The task's lookup came to this, and these are its answers after it. -/
def LookedUp (a : String) (found : Except JsError (Option ActiveToken))
    (answers rest : List TokenAnswer) : Prop :=
  ∃ lookup, answers = lookup ++ rest ∧ (getActiveToken a).Takes found lookup

/-- The task's lookup found an active token that expires within an hour. -/
def ExpiresSoon (a : String) (answers rest : List TokenAnswer) : Prop :=
  ∃ (active : ActiveToken) (now : Int),
    LookedUp a (.ok (some active)) answers (⟨.now, .ok now⟩ :: rest) ∧
      active.expiresAt ≤ now + ONE_HOUR

inductive TaskExit (a : String) : List TokenAnswer → Pushed → Prop where
  | absent {answers} (looked : LookedUp a (.ok none) answers []) : TaskExit a answers .nothing
  | valid {answers active now}
      (looked : LookedUp a (.ok (some active)) answers [⟨.now, .ok now⟩])
      (late : now + ONE_HOUR < active.expiresAt) : TaskExit a answers .nothing
  | refreshed {answers rest row} (soon : ExpiresSoon a answers rest)
      (took : (refreshAccessToken a).Takes (.ok row) rest) : TaskExit a answers (.refreshed a)
  | lookupThrew {answers error} (looked : LookedUp a (.error error) answers []) :
      TaskExit a answers (.failed a)
  | refreshThrew {answers rest error} (soon : ExpiresSoon a answers rest)
      (took : (refreshAccessToken a).Takes (.error error) rest) : TaskExit a answers (.failed a)
  | clockThrew {answers active error}
      (looked : LookedUp a (.ok (some active)) answers [⟨.now, .error error⟩]) :
      TaskExit a answers (.failed a)

/-- An active token is checked at one reading of the clock, and refreshed if it is expiring. -/
theorem refreshFound_takes {a : String} {active : ActiveToken} {outcome : Except JsError Pushed}
    {answers : List TokenAnswer} : (refreshFound a (some active)).Takes outcome answers ↔
      (∃ (now : Int) (rest : List TokenAnswer), answers = ⟨.now, .ok now⟩ :: rest ∧
        (now + ONE_HOUR < active.expiresAt ∧ rest = [] ∧ outcome = .ok .nothing ∨
          active.expiresAt ≤ now + ONE_HOUR ∧
            ((∃ row, (refreshAccessToken a).Takes (.ok row) rest ∧ outcome = .ok (.refreshed a)) ∨
              ∃ error, (refreshAccessToken a).Takes (.error error) rest ∧
                outcome = .error error))) ∨
        ∃ error, answers = [⟨.now, .error error⟩] ∧ outcome = .error error := by
  refine Prog.takes_call_bind.trans (or_congr_left (exists_congr fun now => ?_))
  refine exists_congr fun rest => and_congr_right fun _ => ?_
  by_cases late : now + ONE_HOUR < active.expiresAt
  · have sooner : ¬ active.expiresAt ≤ now + ONE_HOUR := Int.not_le.mpr late
    simp only [late, sooner, if_true, true_and, false_and, or_false]
    exact Iff.rfl
  · have soon : active.expiresAt ≤ now + ONE_HOUR := Int.not_lt.mp late
    simp only [late, soon, if_false, true_and, false_and, false_or]
    rw [Prog.takes_bind]
    refine or_congr_left (exists_congr fun row => ?_)
    constructor
    · rintro ⟨first, _, rfl, took, rfl, rfl⟩
      rw [List.append_nil]
      exact ⟨took, rfl⟩
    · rintro ⟨took, rfl⟩
      exact ⟨rest, [], (List.append_nil rest).symm, took, rfl, rfl⟩

private theorem refreshTask_eq (a : String) : refreshTask a =
    tryCatch (getActiveToken a >>= refreshFound a) fun _ => pure (.failed a) := rfl

theorem TaskExit.of_takes {a : String} {outcome : Except JsError Pushed}
    {answers : List TokenAnswer} (h : (refreshTask a).Takes outcome answers) :
    ∃ pushed, outcome = .ok pushed ∧ TaskExit a answers pushed := by
  rw [refreshTask_eq] at h
  rcases Prog.takes_catch.mp h with ⟨pushed, body, rfl⟩ | ⟨error, answers, _, rfl, body, rfl, rfl⟩
  · refine ⟨pushed, rfl, ?_⟩
    rcases Prog.takes_bind.mp body with ⟨active, lookup, rest, rfl, looked, next⟩ | ⟨_, _, same⟩
    · cases active with
      | none =>
          obtain ⟨rfl, same⟩ := next
          cases same
          exact .absent ⟨lookup, rfl, looked⟩
      | some active =>
          rcases refreshFound_takes.mp next with ⟨now, rest, rfl, exit⟩ | ⟨_, _, same⟩
          · obtain ⟨late, rfl, same⟩ | ⟨soon, ⟨row, took, same⟩ | ⟨_, _, same⟩⟩ := exit
            · cases same
              exact .valid ⟨lookup, rfl, looked⟩ late
            · cases same
              exact .refreshed ⟨active, now, ⟨lookup, rfl, looked⟩, soon⟩ took
            · cases same
          · cases same
    · cases same
  · refine ⟨.failed a, rfl, ?_⟩
    rw [List.append_nil]
    rcases Prog.takes_bind.mp body with ⟨active, lookup, rest, rfl, looked, next⟩ |
      ⟨error, looked, _⟩
    · cases active with
      | none => cases next.2
      | some active =>
          rcases refreshFound_takes.mp next with ⟨now, rest, rfl, exit⟩ | ⟨_, rfl, _⟩
          · obtain ⟨_, _, same⟩ | ⟨soon, ⟨_, _, same⟩ | ⟨error, took, _⟩⟩ := exit
            · cases same
            · cases same
            · exact .refreshThrew ⟨active, now, ⟨lookup, rfl, looked⟩, soon⟩ took
          · exact .clockThrew ⟨lookup, rfl, looked⟩
    · exact .lookupThrew ⟨answers, (List.append_nil _).symm, looked⟩

/-- What follows a lookup that found a token is part of the body of the task. -/
theorem LookedUp.body {a : String} {active : ActiveToken} {answers rest : List TokenAnswer}
    (looked : LookedUp a (.ok (some active)) answers rest) {outcome : Except JsError Pushed}
    (next : (refreshFound a (some active)).Takes outcome rest) :
    (getActiveToken a >>= refreshFound a).Takes outcome answers := by
  obtain ⟨lookup, rfl, took⟩ := looked
  exact Prog.takes_bind.mpr (.inl ⟨some active, lookup, rest, rfl, took, next⟩)

theorem TaskExit.takes {a : String} {pushed : Pushed} {answers : List TokenAnswer}
    (h : TaskExit a answers pushed) : (refreshTask a).Takes (.ok pushed) answers := by
  rw [refreshTask_eq, Prog.takes_catch]
  cases h with
  | absent looked =>
      obtain ⟨lookup, rfl, took⟩ := looked
      exact .inl ⟨.nothing, Prog.takes_bind.mpr (.inl ⟨none, lookup, [], rfl, took, rfl, rfl⟩), rfl⟩
  | valid looked late =>
      refine .inl ⟨.nothing, looked.body (refreshFound_takes.mpr ?_), rfl⟩
      exact .inl ⟨_, [], rfl, .inl ⟨late, rfl, rfl⟩⟩
  | @refreshed rest row soon took =>
      obtain ⟨active, now, looked, early⟩ := soon
      refine .inl ⟨.refreshed a, looked.body (refreshFound_takes.mpr ?_), rfl⟩
      exact .inl ⟨now, rest, rfl, .inr ⟨early, .inl ⟨row, took, rfl⟩⟩⟩
  | @lookupThrew error looked =>
      obtain ⟨lookup, rfl, took⟩ := looked
      rw [List.append_nil]
      have threw : (getActiveToken a >>= refreshFound a).Takes (.error error) lookup :=
        Prog.takes_bind.mpr (.inr ⟨error, took, rfl⟩)
      exact .inr ⟨error, lookup, [], (List.append_nil _).symm, threw, rfl, rfl⟩
  | @refreshThrew rest error soon took =>
      obtain ⟨active, now, looked, early⟩ := soon
      refine .inr ⟨error, answers, [], (List.append_nil _).symm, ?_, rfl, rfl⟩
      refine looked.body (refreshFound_takes.mpr ?_)
      exact .inl ⟨now, rest, rfl, .inr ⟨early, .inr ⟨error, took, rfl⟩⟩⟩
  | @clockThrew active error looked =>
      refine .inr ⟨error, answers, [], (List.append_nil _).symm, ?_, rfl, rfl⟩
      exact looked.body (refreshFound_takes.mpr (.inr ⟨error, rfl, rfl⟩))

theorem TaskExit.unique {a : String} {pushed pushed' : Pushed} {answers : List TokenAnswer}
    (h : TaskExit a answers pushed) (h' : TaskExit a answers pushed') : pushed = pushed' :=
  Except.ok.inj (h.takes.unique h'.takes)

/-! ## Each task on its own row and copy -/

/-- The command reads and writes no row and no copy but this advertiser's. -/
def TokenCmd.Concerns (a : String) : TokenCmd → Prop
  | .now | .postRefresh _ => True
  | .cacheGet key | .cacheSet key _ _ | .cacheDel key => key = cacheKey a
  | .upsertRow row => row.advertiserId = a
  | .selectActive b | .selectRow b => b = a
  | .selectActiveIds | .deleteRow _ | .postExchange _ => False

/-- What a command can be answered while every row is stored under its own id. -/
def TokenCmd.Answers : (cmd : TokenCmd) → Except JsError cmd.Reply → Prop
  | .now, .error _ => False
  | .selectActive a, .ok (some row) => row.advertiserId = a
  | .upsertRow row, .ok stored => stored = row
  | _, _ => True

namespace TokenWorld

/-- The two worlds hold the same row and the same copy for the advertiser. -/
structure SameFor (a : String) (w u : TokenWorld) : Prop where
  row : w.rows.lookup a = u.rows.lookup a
  copy : w.cache.lookup (cacheKey a) = u.cache.lookup (cacheKey a)

def setClock (now : Int) (w : TokenWorld) : TokenWorld := { w with clock := now }

theorem Keyed.exec {w v : TokenWorld} (keyed : w.Keyed) {cmd : TokenCmd} {choice : TokenChoice}
    {reply : Except JsError cmd.Reply} (h : tokenExec cmd choice w = some (reply, v)) :
    v.Keyed := by
  rcases tokenExec_effect h with rfl | rfl
  · exact keyed
  · cases cmd with
    | upsertRow row => exact keyed.upsertRow row
    | deleteRow a => exact keyed.deleteRow a
    | _ => exact keyed

/-- A command on one advertiser's row and copy leaves those of another as they are. -/
theorem SameFor.other {a b : String} {w u v : TokenWorld} (h : w.SameFor a u) {cmd : TokenCmd}
    (concerns : cmd.Concerns b) (ne : b ≠ a) {choice : TokenChoice}
    {reply : Except JsError cmd.Reply} (he : tokenExec cmd choice w = some (reply, v)) :
    v.SameFor a u := by
  have keys : cacheKey a ≠ cacheKey b := fun same => ne (cacheKey_inj same).symm
  rcases tokenExec_effect he with rfl | rfl
  · exact h
  · cases cmd with
    | cacheSet key value ttl =>
        obtain rfl : key = cacheKey b := concerns
        exact ⟨h.row, (Storage.Expiring.lookup_set_ne keys _ _).trans h.copy⟩
    | cacheDel key =>
        obtain rfl : key = cacheKey b := concerns
        exact ⟨h.row, (AList.lookup_erase_ne keys).trans h.copy⟩
    | upsertRow row =>
        obtain rfl : row.advertiserId = b := concerns
        exact ⟨(AList.lookup_insert_ne ne.symm).trans h.row, h.copy⟩
    | deleteRow c => exact concerns.elim
    | selectActiveIds => exact concerns.elim
    | _ => exact h

theorem SameFor.apply {a : String} {w u v effect effect' : TokenWorld} (h : w.SameFor a u)
    (after : effect.SameFor a effect') {α : Type} {value value' : α} (same : value = value')
    {choice : TokenChoice} {reply : Except JsError α}
    (he : choice.apply w value effect = some (reply, v)) :
    ∃ u', choice.apply u value' effect' = some (reply, u') ∧ v.SameFor a u' := by
  subst same
  obtain ⟨rfl, rfl, rfl⟩ | ⟨e, rfl, ⟨rfl, rfl⟩ | ⟨rfl, rfl⟩⟩ := TokenChoice.apply_cases he
  · exact ⟨effect', rfl, after⟩
  · exact ⟨u, rfl, h⟩
  · exact ⟨effect', rfl, after⟩

theorem SameFor.get {a : String} {w u : TokenWorld} (h : w.SameFor a u) (now : Int) :
    w.cache.get now (cacheKey a) = u.cache.get now (cacheKey a) := by
  simp only [Storage.Expiring.get, h.copy]

/-- A command on the advertiser's row and copy does the same wherever these are the same, at
the same time. -/
theorem SameFor.own {a : String} {w u v : TokenWorld} (h : w.SameFor a u) {cmd : TokenCmd}
    (concerns : cmd.Concerns a) {choice : TokenChoice} {reply : Except JsError cmd.Reply}
    (he : tokenExec cmd choice w = some (reply, v)) :
    ∃ u', tokenExec cmd choice (u.setClock w.clock) = some (reply, u') ∧ v.SameFor a u' := by
  have here : w.SameFor a (u.setClock w.clock) := ⟨h.row, h.copy⟩
  cases cmd with
  | now =>
      cases choice <;> cases he
      exact ⟨_, rfl, here⟩
  | cacheGet key =>
      obtain rfl : key = cacheKey a := concerns
      exact here.apply here (h.get w.clock) he
  | cacheSet key value ttl =>
      obtain rfl : key = cacheKey a := concerns
      have after : (w.cacheSet (cacheKey a) value ttl).SameFor a
          ((u.setClock w.clock).cacheSet (cacheKey a) value ttl) :=
        ⟨h.row, (AList.lookup_insert w.cache).trans (AList.lookup_insert u.cache).symm⟩
      exact here.apply after rfl he
  | cacheDel key =>
      obtain rfl : key = cacheKey a := concerns
      have after : (w.cacheDel (cacheKey a)).SameFor a
          ((u.setClock w.clock).cacheDel (cacheKey a)) :=
        ⟨h.row, (AList.lookup_erase _ w.cache).trans (AList.lookup_erase _ u.cache).symm⟩
      exact here.apply after rfl he
  | upsertRow row =>
      obtain rfl : row.advertiserId = a := concerns
      have after : (w.upsertRow row).SameFor row.advertiserId
          ((u.setClock w.clock).upsertRow row) :=
        ⟨(AList.lookup_insert w.rows).trans (AList.lookup_insert u.rows).symm, h.copy⟩
      exact here.apply after rfl he
  | selectActive b =>
      obtain rfl : b = a := concerns
      refine here.apply here ?_ he
      simp only [selectActive, h.row, setClock]
      rfl
  | selectRow b =>
      obtain rfl : b = a := concerns
      exact here.apply here h.row he
  | postRefresh token =>
      cases choice with
      | refreshed response issuedAt =>
          simp only [tokenExec] at he ⊢
          split at he <;> cases he
          next issued => exact ⟨_, if_pos issued, here⟩
      | fail error =>
          cases he
          exact ⟨_, rfl, here⟩
      | _ => cases he
  | selectActiveIds | deleteRow _ | postExchange _ => exact concerns.elim

end TokenWorld

theorem tokenExec_answer {w v : TokenWorld} (keyed : w.Keyed) {cmd : TokenCmd}
    {choice : TokenChoice} {reply : Except JsError cmd.Reply}
    (he : tokenExec cmd choice w = some (reply, v)) : cmd.Answers reply := by
  cases cmd with
  | now =>
      cases choice <;> cases he
      trivial
  | selectActive a =>
      obtain ⟨_, ⟨rfl, rfl⟩ | ⟨e, rfl, _⟩⟩ := TokenChoice.apply_read he
      · cases found : w.selectActive a with
        | none => trivial
        | some row => exact keyed a row (TokenWorld.selectActive_some.mp found).1
      · trivial
  | upsertRow row =>
      obtain ⟨_, rfl, _⟩ | ⟨e, rfl, _⟩ := TokenChoice.apply_cases he
      · rfl
      · trivial
  | _ => cases reply <;> trivial

theorem tokens_separate : Separates tokenRuntime TokenWorld.clock TokenWorld.setClock
    TokenWorld.Keyed TokenCmd.Answers TokenCmd.Concerns TokenWorld.SameFor where
  kept keyed he := keyed.exec he
  moved keyed hv := by
    rename_i event w v
    cases event
    cases hv
    exact keyed
  possible keyed he := tokenExec_answer keyed he
  own same concerns he := same.own concerns he
  other same concerns ne he := same.other concerns ne he
  env same hv := by
    rename_i a event w u v
    cases event
    cases hv
    exact ⟨same.row, same.copy⟩

/-! ## A task asks for nothing else -/

private theorem cacheToken_concerns (row : StoredToken) :
    (TokenStore.cacheToken row).Throughout TokenCmd.Answers
      (fun _ cmd => cmd.Concerns row.advertiserId) :=
  .catch (.call fun _ => rfl) fun _ => Prog.throughout_pure ()

theorem upsert_concerns (row : StoredToken) :
    (TokenStore.upsert row).Throughout TokenCmd.Answers
      (fun _ cmd => cmd.Concerns row.advertiserId) := by
  intro history
  refine ⟨rfl, fun reply answered => ?_⟩
  cases reply with
  | error e => trivial
  | ok stored =>
      have same : stored = row := answered
      rw [same]
      exact Prog.Throughout.bind (cacheToken_concerns row) (fun _ => Prog.throughout_pure row) _

private theorem getFromCache_concerns (a : String) :
    (TokenStore.getFromCache a).Throughout TokenCmd.Answers (fun _ cmd => cmd.Concerns a) := by
  refine .catch (.bind (.call fun _ => rfl) fun raw => ?_) fun _ => Prog.throughout_pure none
  cases raw with
  | none => exact Prog.throughout_pure none
  | some token =>
      refine .bind (.call fun _ => trivial) fun now => ?_
      split
      · exact .bind (.call fun _ => rfl) fun _ => Prog.throughout_pure none
      · exact Prog.throughout_pure (some token)

theorem getActiveToken_concerns (a : String) :
    (getActiveToken a).Throughout TokenCmd.Answers (fun _ cmd => cmd.Concerns a) := by
  refine .bind (getFromCache_concerns a) fun cached => ?_
  cases cached with
  | some token => exact Prog.throughout_pure (some token)
  | none =>
      intro history
      refine ⟨rfl, fun reply answered => ?_⟩
      cases reply with
      | error e => trivial
      | ok found =>
          cases found with
          | none => trivial
          | some row =>
              obtain rfl : row.advertiserId = a := answered
              refine Prog.Throughout.bind (.call fun _ => trivial) (fun now => ?_) _
              split
              · exact .bind (cacheToken_concerns row) fun _ => Prog.throughout_pure _
              · exact Prog.throughout_pure _

theorem refreshAccessToken_concerns (a : String) :
    (refreshAccessToken a).Throughout TokenCmd.Answers (fun _ cmd => cmd.Concerns a) := by
  refine .bind (.call fun _ => rfl) fun found => ?_
  cases found with
  | none => exact Prog.throughout_fail _
  | some stored =>
      refine .bind (.call fun _ => trivial) fun now => ?_
      split
      · exact Prog.throughout_fail _
      · refine .bind (.call fun _ => trivial) fun response => .bind ?_ fun _ => upsert_concerns _
        unfold TikTokOAuthClient.assertSuccess
        split
        · exact Prog.throughout_fail _
        · exact Prog.throughout_pure ()

theorem refreshTask_concerns (a : String) :
    (refreshTask a).Throughout TokenCmd.Answers (fun _ cmd => cmd.Concerns a) := by
  refine .catch (.bind (getActiveToken_concerns a) fun found => ?_) fun _ =>
    Prog.throughout_pure _
  cases found with
  | none => exact Prog.throughout_pure _
  | some active =>
      refine .bind (.call fun _ => trivial) fun now => ?_
      split
      · exact Prog.throughout_pure _
      · exact .bind (refreshAccessToken_concerns a) fun _ => Prog.throughout_pure _

/-! ## Which task calls `refreshAccessToken` -/

/-- A command that only `refreshAccessToken` sends. -/
def TokenCmd.refreshes : TokenCmd → Bool
  | .selectRow _ | .postRefresh _ | .upsertRow _ => true
  | _ => false

def TokenCmd.Looks (cmd : TokenCmd) : Prop := cmd.refreshes = false

private theorem getActiveToken_reads (a : String) :
    (getActiveToken a).Within TokenCmd.Looks fun _ => True := by
  have caches (row : StoredToken) :
      (TokenStore.cacheToken row).Within TokenCmd.Looks fun _ => True :=
    .catch (.call rfl) (fun _ => trivial) fun _ => trivial
  refine .bind (.catch (.bind (.call rfl) fun raw => ?_) (fun _ => trivial) fun _ => trivial)
    fun cached => ?_
  · cases raw with
    | none => trivial
    | some token =>
        refine .bind (.call rfl) fun now => ?_
        split
        · exact .bind (.call rfl) fun _ => trivial
        · trivial
  · cases cached with
    | some token => trivial
    | none =>
        refine .bind (.call rfl) fun found => ?_
        cases found with
        | none => trivial
        | some row =>
            refine .bind (.call rfl) fun now => ?_
            split
            · exact .bind (caches row) fun _ => trivial
            · trivial

/-- A task asks for a refresh as part of `refreshAccessToken`, and only if its token expires
soon. -/
theorem TaskExit.called {a : String} {pushed : Pushed} {answers : List TokenAnswer}
    (h : TaskExit a answers pushed) {answer : TokenAnswer} (asked : answer ∈ answers)
    (refreshes : answer.cmd.refreshes = true) :
    ∃ rest outcome, ExpiresSoon a answers rest ∧ (refreshAccessToken a).Takes outcome rest ∧
      answer ∈ rest := by
  have lookup {found : Except JsError (Option ActiveToken)} {answers rest : List TokenAnswer}
      (looked : LookedUp a found answers rest) (asked : answer ∈ answers) : answer ∈ rest := by
    obtain ⟨before, rfl, took⟩ := looked
    rcases List.mem_append.mp asked with early | late
    · have quiet : answer.cmd.refreshes = false := took.within (getActiveToken_reads a) _ early
      rw [refreshes] at quiet
      cases quiet
    · exact late
  have clock {reply : Except JsError Int} {rest : List TokenAnswer}
      (asked : answer ∈ (⟨.now, reply⟩ : TokenAnswer) :: rest) : answer ∈ rest := by
    rcases List.mem_cons.mp asked with rfl | late
    · cases refreshes
    · exact late
  cases h with
  | absent looked => exact absurd (lookup looked asked) List.not_mem_nil
  | valid looked late => exact absurd (clock (lookup looked asked)) List.not_mem_nil
  | @refreshed rest row soon took =>
      obtain ⟨active, now, looked, _⟩ := id soon
      exact ⟨rest, _, soon, took, clock (lookup looked asked)⟩
  | lookupThrew looked => exact absurd (lookup looked asked) List.not_mem_nil
  | @refreshThrew rest error soon took =>
      obtain ⟨active, now, looked, _⟩ := id soon
      exact ⟨rest, _, soon, took, clock (lookup looked asked)⟩
  | clockThrew looked => exact absurd (clock (lookup looked asked)) List.not_mem_nil

end SalesforceTikTok
