import SalesforceTikTok.Auth.RefreshTask
import SalesforceTikTok.Collections.Infixes
import SalesforceTikTok.Server.Selection

/-!
# The routes classify their errors by text

The selecting route answers 404 to an error whose text says "not found", the
provisioning route 401 to one that says "OAuth authorization required". The texts
of all failing steps go through the same search, and some hold what a client or
TikTok wrote: a request is misclassified exactly if such a text says the phrase.
-/

namespace SalesforceTikTok

open Collections Concurrency Concurrency.System

/-! ## What a request was told -/

/-- The answers a call of the server got to commands of the token code. -/
def tokenAnswers (history : List ServerAnswer) : List TokenAnswer :=
  history.filterMap fun
    | ⟨.token cmd, reply⟩ => some ⟨cmd, reply⟩
    | _ => none

private theorem tokenAnswers_append (first second : List ServerAnswer) :
    tokenAnswers (first ++ second) = tokenAnswers first ++ tokenAnswers second :=
  List.filterMap_append

def Answered (status : Nat) (history : List ServerAnswer) : Prop :=
  ∃ body, .json status body ∈ sent history

/-- `getValidToken` found no active token for the advertiser. -/
def NoActive (a : String) (answers : List TokenAnswer) : Prop :=
  ⟨.selectActive a, .ok none⟩ ∈ answers

def Unlisted (a eventSetId : String) (answers : List EventSetAnswer) : Prop :=
  ∃ accessToken response, ⟨.listSets a accessToken, .ok response⟩ ∈ answers ∧
    response.code = 0 ∧
      ∀ eventSet ∈ response.list.getD [], eventSet.eventSetId ≠ eventSetId

/-- The text that a failing `getValidToken` puts into its error, if it found an active token:
what a store or TikTok wrote, or the advertiser's id. The latest answer comes first. -/
def lookupText (a : String) : List TokenAnswer → Option String
  | ⟨.selectActive _, .error error⟩ :: _ => some error.message
  | ⟨.now, .error error⟩ :: _ => some error.message
  | ⟨.selectRow _, .error error⟩ :: _ => some error.message
  | ⟨.selectRow _, .ok none⟩ :: _ => some a
  | ⟨.now, .ok now⟩ :: ⟨.selectRow _, .ok (some stored)⟩ :: _ =>
      if stored.refreshTokenExpiresAt ≤ now then some a else none
  | ⟨.postRefresh _, .error error⟩ :: _ => some error.message
  | ⟨.postRefresh _, .ok response⟩ :: _ =>
      if response.code ≠ 0 then some response.message else none
  | ⟨.upsertRow _, .error error⟩ :: _ => some error.message
  | _ => none

/-- The text that a `select` puts into its error, if it got no list or could not store its
choice. The latest answer comes first. -/
def selectionText : List EventSetAnswer → Option String
  | ⟨.listSets _ _, .error error⟩ :: _ => some error.message
  | ⟨.listSets _ _, .ok response⟩ :: _ =>
      if response.code ≠ 0 then some response.message else none
  | ⟨.upsertSet _, .error error⟩ :: _ => some error.message
  | _ => none

/-- No text of a failing `getValidToken` says the phrase. -/
def LookupPlain (phrase a : String) (answers : List TokenAnswer) : Prop :=
  ∀ text, lookupText a answers.reverse = some text → includes text phrase = false

theorem LookupPlain.of_none {phrase a : String} {answers : List TokenAnswer}
    (textless : lookupText a answers.reverse = none) : LookupPlain phrase a answers := by
  intro text some
  rw [textless] at some
  cases some

/-- No text of a step that fails before or after the search of the list says the phrase. -/
structure SelectionPlain (phrase a : String) (tokens : List TokenAnswer)
    (sets : List EventSetAnswer) : Prop where
  lookup : LookupPlain phrase a tokens
  advertiser : NoActive a tokens → includes a phrase = false
  selection : ∀ text, selectionText sets.reverse = some text → includes text phrase = false

theorem SelectionPlain.of_none {phrase a : String} {tokens : List TokenAnswer}
    {sets : List EventSetAnswer} (found : ¬ NoActive a tokens)
    (textless : lookupText a tokens.reverse = none) (silent : selectionText sets.reverse = none) :
    SelectionPlain phrase a tokens sets := by
  refine ⟨.of_none textless, fun none => absurd none found, fun text some => ?_⟩
  rw [silent] at some
  cases some

/-! ## What the errors say -/

def phrases : List String := ["not found", "OAuth authorization required"]

def Echoes (error : JsError) (text : String) : Prop :=
  ∀ phrase ∈ phrases, includes error.message phrase = includes text phrase

private theorem mem_phrases {phrase : String} :
    phrase ∈ phrases ↔ phrase = "not found" ∨ phrase = "OAuth authorization required" := by
  simp [phrases]

theorem Echoes.self (error : JsError) : Echoes error error.message := fun _ _ => rfl

private theorem includes_iff {s part : String} :
    includes s part = true ↔ part.toList <:+: s.toList := decide_eq_true_iff

private theorem includes_after {before phrase : String} (h : NotBegun phrase.toList before.toList)
    (text : String) : includes (before ++ text) phrase = includes text phrase := by
  rw [Bool.eq_iff_iff, includes_iff, includes_iff, String.toList_append]
  exact h.infix_append text.toList

private theorem includes_before {after phrase : String} (h : NotEnded phrase.toList after.toList)
    (text : String) : includes (text ++ after) phrase = includes text phrase := by
  rw [Bool.eq_iff_iff, includes_iff, includes_iff, String.toList_append]
  exact h.infix_append text.toList

/-- The decimal digits of a code begin no phrase of the routes. -/
theorem code_notMem (code : Int) {c : Char} (other : c ∉ '-' :: " message=".toList)
    (letter : c.isDigit = false) : c ∉ (toString code ++ " message=").toList := by
  have digits (n : Nat) : c ∉ n.repr.toList := by
    rw [Nat.toList_repr]
    intro mem
    have digit := Nat.isDigit_of_mem_toDigits (by decide) (by decide) mem
    rw [letter] at digit
    cases digit
  rw [List.mem_cons, not_or] at other
  rw [String.toList_append, List.mem_append, not_or, Int.toString_eq_repr, Int.repr_eq_if]
  refine ⟨?_, other.2⟩
  split
  · exact digits _
  · rw [String.toList_append, List.mem_append, not_or]
    exact ⟨fun mem => other.1 (List.mem_singleton.mp mem), digits _⟩

private theorem echoes_refused {context : String}
    (plain : ∀ phrase ∈ phrases,
      NotBegun phrase.toList ("TikTok " ++ context ++ " failed: code=").toList)
    (code : Int) (message : String) :
    Echoes (TikTokOAuthClient.refused code message context) message := by
  intro phrase searched
  have split : (TikTokOAuthClient.refused code message context).message =
      ("TikTok " ++ context ++ " failed: code=") ++
        ((toString code ++ " message=") ++ message) := by
    simp [TikTokOAuthClient.refused, String.append_assoc]
  rw [split, includes_after (plain phrase searched), includes_after]
  obtain rfl | rfl := mem_phrases.mp searched
  · exact .of_notMem (code_notMem code (by decide) (by decide))
  · exact .of_notMem (code_notMem code (by decide) (by decide))

private theorem echoes_refresh_refused (code : Int) (message : String) :
    Echoes (TikTokOAuthClient.refused code message "Token refresh") message := by
  refine echoes_refused (fun phrase searched => ?_) code message
  obtain rfl | rfl := mem_phrases.mp searched
  · exact ⟨by decide, by decide⟩
  · exact ⟨by decide, by decide⟩

private theorem echoes_list_refused (code : Int) (message : String) :
    Echoes (CRMEventSetManager.refused code message "CRM event set list") message := by
  refine echoes_refused (fun phrase searched => ?_) code message
  obtain rfl | rfl := mem_phrases.mp searched
  · exact ⟨by decide, by decide⟩
  · exact ⟨by decide, by decide⟩

private theorem echoes_noTokenRecord (a : String) : Echoes
    (TikTokOAuthClient.noTokenRecord a) a := by
  intro phrase searched
  refine includes_after ?_ a
  obtain rfl | rfl := mem_phrases.mp searched
  · exact ⟨by decide, by decide⟩
  · exact ⟨by decide, by decide⟩

private theorem echoes_refreshTokenExpired (a : String) :
    Echoes (TikTokOAuthClient.refreshTokenExpired a) a := by
  intro phrase searched
  obtain rfl | rfl := mem_phrases.mp searched
  · exact (includes_before ⟨by decide, by decide⟩ _).trans
      (includes_after ⟨by decide, by decide⟩ a)
  · exact (includes_before ⟨by decide, by decide⟩ _).trans
      (includes_after ⟨by decide, by decide⟩ a)

/-- The missing token itself says its own phrase, whoever the advertiser is. -/
theorem noActiveToken_unauthorised (a : String) :
    includes (TikTokOAuthClient.noActiveToken a).message "OAuth authorization required" = true := by
  have said : "OAuth authorization required".toList <:+:
      " — OAuth authorization required".toList := by decide
  rw [includes_iff]
  change _ <:+: (_ ++ _ : String).toList
  rw [String.toList_append]
  exact said.trans (List.suffix_append _ _).isInfix

private theorem noActiveToken_notFound (a : String) :
    includes (TikTokOAuthClient.noActiveToken a).message "not found" = includes a "not found" :=
  (includes_before ⟨by decide, by decide⟩ _).trans (includes_after ⟨by decide, by decide⟩ a)

private theorem notFound_notFound (a eventSetId : String) :
    includes (CRMEventSetManager.notFound a eventSetId).message "not found" = true := by
  have said : "not found".toList <:+: " not found for advertiser ".toList := by decide
  rw [includes_iff, CRMEventSetManager.notFound, String.toList_append, String.toList_append]
  exact (said.trans (List.suffix_append _ _).isInfix).trans (List.prefix_append _ _).isInfix

/-! ## Lookups -/

section

open TokenStore TikTokOAuthClient

def TokenCmd.Aside : TokenCmd → Prop
  | .selectActive _ | .selectRow _ => False
  | _ => True

/-- The lookup has an active token so far, and has not begun to refresh it. -/
def Looked (a : String) (answers : List TokenAnswer) : Prop :=
  ¬ NoActive a answers ∧ ∀ answer ∈ answers, ∀ b, answer.cmd ≠ .selectRow b

/-- How a part of `getValidToken` ends that found an active token. -/
def Traced {α : Type} (a : String) (answers : List TokenAnswer) : Except JsError α → Prop
  | .ok _ => ¬ NoActive a answers ∧ lookupText a answers.reverse = none
  | .error error => ¬ NoActive a answers ∧
      ∃ text, lookupText a answers.reverse = some text ∧ Echoes error text

/-- How a lookup ends: with a token, without one, or with the text of its last answer. -/
inductive LookupFinds (a : String) (answers : List TokenAnswer) :
    Except JsError (Option ActiveToken) → Prop where
  | found {active} (looked : Looked a answers) : LookupFinds a answers (.ok (some active))
  | absent (unauthorised : NoActive a answers) (textless : lookupText a answers.reverse = none) :
      LookupFinds a answers (.ok none)
  | failed {error} (traced : Traced (α := String) a answers (.error error)) :
      LookupFinds a answers (.error error)

/-- A `getValidToken` that failed for want of a token, or as traced. -/
def LookupEnds (a : String) (answers : List TokenAnswer) (outcome : Except JsError String) :
    Prop :=
  (outcome = .error (noActiveToken a) ∧ NoActive a answers ∧
    lookupText a answers.reverse = none) ∨ Traced a answers outcome

variable {a : String} {answers more : List TokenAnswer}

private theorem looked_nil (a : String) : Looked a [] :=
  ⟨List.not_mem_nil, fun _ none => absurd none List.not_mem_nil⟩

theorem Looked.aside (looked : Looked a answers) (aside : ∀ answer ∈ more, answer.cmd.Aside) :
    Looked a (answers ++ more) := by
  constructor
  · intro none
    obtain mem | mem := List.mem_append.mp none
    · exact looked.1 mem
    · exact aside _ mem
  · intro answer mem b same
    obtain mem | mem := List.mem_append.mp mem
    · exact looked.2 answer mem b same
    · have here := aside answer mem
      rw [same] at here
      exact here

private theorem cacheToken_aside (row : StoredToken) :
    (cacheToken row).Within TokenCmd.Aside fun outcome => ∃ done, outcome = .ok done :=
  .catch (.call trivial) (fun done => ⟨done, rfl⟩) fun _ => ⟨(), rfl⟩

private theorem getFromCache_aside (a : String) :
    (getFromCache a).Within TokenCmd.Aside fun outcome => ∃ found, outcome = .ok found := by
  refine .catch (.bind (.call trivial) fun raw => ?_) (fun found => ⟨found, rfl⟩) fun _ =>
    ⟨none, rfl⟩
  cases raw with
  | none => trivial
  | some token =>
      refine .bind (.call trivial) fun now => ?_
      split
      · exact .bind (.call trivial) fun _ => trivial
      · trivial

variable {α : Type}

/-- `Meets` for the token code, whatever it asks and is answered. -/
abbrev Lookup (ends : List TokenAnswer → Except JsError α → Prop) (program : TokenProg α)
    (answers : List TokenAnswer) : Prop :=
  program.Meets (fun _ _ => True) (fun _ _ => True) ends answers

theorem Looked.meets {program : TokenProg α} (looked : Looked a answers)
    (aside : program.Within TokenCmd.Aside fun outcome => ∃ value, outcome = .ok value) :
    Lookup (fun answers outcome => Looked a answers ∧ ∃ value, outcome = .ok value) program
      answers :=
  Prog.Within.meets aside (fun _ _ _ _ => trivial)
    fun _ _ others ended => ⟨looked.aside others, ended⟩

private theorem not_noActive_snoc {answer : TokenAnswer} (found : ¬ NoActive a answers)
    (other : answer ≠ ⟨.selectActive a, .ok none⟩) : ¬ NoActive a (answers ++ [answer]) :=
  fun none => (List.mem_append.mp none).elim found fun last =>
    other (List.mem_singleton.mp last).symm

/-- An answer on which the lookup fails is traced to its text. -/
theorem traced_error {answer : TokenAnswer} {error : JsError} {text : String}
    (found : ¬ NoActive a answers) (other : answer ≠ ⟨.selectActive a, .ok none⟩)
    (last : lookupText a (answer :: answers.reverse) = some text) (echoes : Echoes error text) :
    Traced (α := α) a (answers ++ [answer]) (.error error) := by
  refine ⟨not_noActive_snoc found other, text, ?_, echoes⟩
  rwa [List.reverse_append]

private theorem traced_ok {answer : TokenAnswer} {value : α}
    (found : ¬ NoActive a answers) (other : answer ≠ ⟨.selectActive a, .ok none⟩)
    (last : lookupText a (answer :: answers.reverse) = none) :
    Traced a (answers ++ [answer]) (.ok value) := by
  refine ⟨not_noActive_snoc found other, ?_⟩
  rwa [List.reverse_append]

private theorem upsert_traced (row : StoredToken) (found : ¬ NoActive a answers) :
    Lookup (Traced a) (upsert row) answers := by
  refine .call_bind trivial (fun token _ => ?_) fun error _ =>
    traced_error found nofun rfl (.self error)
  have stored : ¬ NoActive a (answers ++ [⟨.upsertRow row, .ok token⟩]) :=
    not_noActive_snoc found nofun
  refine ⟨trivial, fun reply _ => ?_⟩
  cases reply with
  | ok done => exact traced_ok stored nofun rfl
  | error error => exact traced_ok stored nofun rfl

private theorem refreshAccessToken_traced (found : ¬ NoActive a answers) :
    Lookup (Traced a) (refreshAccessToken a) answers := by
  refine .call_bind trivial (fun row _ => ?_) fun error _ =>
    traced_error found nofun rfl (.self error)
  cases row with
  | none => exact traced_error found nofun rfl (echoes_noTokenRecord a)
  | some stored =>
      have selected : ¬ NoActive a (answers ++ [⟨.selectRow a, .ok (some stored)⟩]) :=
        not_noActive_snoc found nofun
      refine .call_bind trivial (fun now _ => ?_) fun error _ =>
        traced_error selected nofun rfl (.self error)
      split
      next expired =>
        refine traced_error selected nofun ?_ (echoes_refreshTokenExpired a)
        rw [List.reverse_append]
        exact if_pos expired
      next =>
        have timed : ¬ NoActive a (_ ++ [⟨.now, .ok now⟩]) := not_noActive_snoc selected nofun
        refine .call_bind trivial (fun response _ => ?_) fun error _ =>
          traced_error timed nofun rfl (.self error)
        unfold assertSuccess
        split
        next refused =>
          exact traced_error timed nofun (if_pos refused)
            (echoes_refresh_refused response.code response.message)
        next => exact upsert_traced _ (not_noActive_snoc timed nofun)

/-- A lookup with a row in hand finds its token, or fails with the text of its last answer. -/
theorem fromRow_ends (row : StoredToken) (looked : Looked a answers) :
    Lookup (LookupFinds a) (fromRow row) answers := by
  refine .call_bind trivial (fun now _ => ?_) fun error _ =>
    .failed (traced_error looked.1 nofun rfl (.self error))
  have timed : Looked a (answers ++ [⟨.now, .ok now⟩]) := looked.aside fun answer mem => by
    obtain rfl := List.mem_singleton.mp mem
    trivial
  split
  · refine (timed.meets (cacheToken_aside row)).bind ?_ ?_
    · exact fun _ _ warmed => .found warmed.1
    · rintro _ _ ⟨_, _, failed⟩
      cases failed
  · exact .found timed

private theorem getActiveToken_ends (a : String) : Lookup (LookupFinds a) (getActiveToken a)
    [] := by
  refine ((looked_nil a).meets (getFromCache_aside a)).bind (fun answers copy looked => ?_) ?_
  · cases copy with
    | some active => exact .found looked.1
    | none =>
        have unselected := looked.1.1
        refine .call_bind trivial (fun row _ => ?_) fun error _ =>
          .failed (traced_error unselected nofun rfl (.self error))
        cases row with
        | none =>
            refine .absent (List.mem_append_right _ (List.mem_singleton_self _)) ?_
            rw [List.reverse_append]
            rfl
        | some row =>
            have selected : Looked a (answers ++ [⟨.selectActive a, .ok (some row)⟩]) := by
              refine ⟨not_noActive_snoc unselected nofun, fun answer mem b same => ?_⟩
              obtain mem | mem := List.mem_append.mp mem
              · exact looked.1.2 answer mem b same
              · obtain rfl := List.mem_singleton.mp mem
                cases same
            exact fromRow_ends row selected
  · rintro _ _ ⟨_, _, failed⟩
    cases failed

/-- The last answer before a reading of the clock was no row to be refreshed. -/
theorem Looked.timed_text (looked : Looked a answers) (now : Int) :
    lookupText a (⟨.now, .ok now⟩ :: answers.reverse) = none := by
  cases rest : answers.reverse with
  | nil => rfl
  | cons answer before =>
      have mem : answer ∈ answers := List.mem_reverse.mp (rest ▸ List.mem_cons_self)
      obtain ⟨cmd, reply⟩ := answer
      cases cmd with
      | selectRow b => exact absurd rfl (looked.2 _ mem b)
      | _ => rfl

private theorem getValidToken_ends (a : String) : Lookup (LookupEnds a) (getValidToken a) [] := by
  refine (getActiveToken_ends a).bind (fun answers found ended => ?_) fun answers error ended => ?_
  · cases ended with
    | absent unauthorised textless => exact .inl ⟨rfl, unauthorised, textless⟩
    | found looked =>
        refine .call_bind trivial (fun now _ => ?_) fun error _ =>
          .inr (traced_error looked.1 nofun rfl (.self error))
        split
        · have timed : ¬ NoActive a (answers ++ [⟨.now, .ok now⟩]) :=
            not_noActive_snoc looked.1 nofun
          refine (refreshAccessToken_traced timed).bind ?_ ?_
          · exact fun _ _ traced => .inr traced
          · exact fun _ _ traced => .inr traced
        · exact .inr (traced_ok looked.1 nofun (looked.timed_text now))
  · cases ended with
    | failed traced => exact .inr traced

end

/-! ## Selections -/

section

open CRMEventSetManager

/-- `Meets` for the event set manager, whatever it asks and is answered. -/
abbrev Managed {α : Type} (ends : List EventSetAnswer → Except JsError α → Prop)
    (program : EventSetProg α) (answers : List EventSetAnswer) : Prop :=
  program.Meets (fun _ _ => True) (fun _ _ => True) ends answers

/-- How a `select` ends that does not miss the id in the list. -/
def Chosen {α : Type} (a eventSetId : String) (answers : List EventSetAnswer) :
    Except JsError α → Prop
  | .ok _ => ¬ Unlisted a eventSetId answers ∧ selectionText answers.reverse = none
  | .error error => ¬ Unlisted a eventSetId answers ∧
      ∃ text, selectionText answers.reverse = some text ∧ Echoes error text

/-- A `select` that failed for want of the id, or as chosen. -/
def SelectEnds (a eventSetId : String) (answers : List EventSetAnswer)
    (outcome : Except JsError CRMEventSet) : Prop :=
  (outcome = .error (notFound a eventSetId) ∧ Unlisted a eventSetId answers ∧
    selectionText answers.reverse = none) ∨ Chosen a eventSetId answers outcome

variable {a eventSetId : String} {answers : List EventSetAnswer}

private theorem not_unlisted_snoc {answer : EventSetAnswer}
    (listed : ¬ Unlisted a eventSetId answers)
    (other : ∀ accessToken, answer.cmd ≠ .listSets a accessToken) :
    ¬ Unlisted a eventSetId (answers ++ [answer]) := by
  rintro ⟨accessToken, response, mem, rest⟩
  obtain mem | mem := List.mem_append.mp mem
  · exact listed ⟨accessToken, response, mem, rest⟩
  · exact other accessToken (congrArg Answer.cmd (List.mem_singleton.mp mem).symm)

private theorem chosen_ok {α : Type} {answer : EventSetAnswer} {value : α}
    (listed : ¬ Unlisted a eventSetId answers)
    (other : ∀ accessToken, answer.cmd ≠ .listSets a accessToken)
    (last : selectionText (answer :: answers.reverse) = none) :
    Chosen a eventSetId (answers ++ [answer]) (.ok value) := by
  refine ⟨not_unlisted_snoc listed other, ?_⟩
  rwa [List.reverse_append]

private theorem unlisted_singleton {accessToken : String} {reply : Except JsError CRMListResponse} :
    Unlisted a eventSetId [⟨.listSets a accessToken, reply⟩] ↔
      ∃ response, reply = .ok response ∧ response.code = 0 ∧
        ∀ eventSet ∈ response.list.getD [], eventSet.eventSetId ≠ eventSetId := by
  constructor
  · rintro ⟨_, response, mem, rest⟩
    cases List.mem_singleton.mp mem
    exact ⟨response, rfl, rest⟩
  · rintro ⟨response, rfl, rest⟩
    exact ⟨accessToken, response, List.mem_singleton_self _, rest⟩

private theorem store_chosen (eventSet : CRMEventSet) (source : EventSetSource)
    (listed : ¬ Unlisted a eventSetId answers) :
    Managed (Chosen a eventSetId) (store a eventSet source) answers := by
  refine .call_bind trivial (fun _ _ => ?_) fun error _ => ?_
  · have stored : ¬ Unlisted a eventSetId
        (answers ++ [⟨.upsertSet (storedRow a eventSet source), .ok ()⟩]) :=
      not_unlisted_snoc listed nofun
    refine ⟨trivial, fun reply _ => ?_⟩
    cases reply with
    | ok _ => exact chosen_ok stored nofun rfl
    | error _ => exact chosen_ok stored nofun rfl
  · refine ⟨not_unlisted_snoc listed nofun, error.message, ?_, .self error⟩
    rw [List.reverse_append]
    rfl

/-- What `list` returns was listed by the one answer. -/
inductive ListEnds (a accessToken : String) (answers : List EventSetAnswer) :
    Except JsError (List CRMEventSet) → Prop where
  | listed {response} (only : answers = [⟨.listSets a accessToken, .ok response⟩])
      (code : response.code = 0) : ListEnds a accessToken answers (.ok (response.list.getD []))
  | failed {error} (chosen : ∀ eventSetId,
      Chosen (α := CRMEventSet) a eventSetId answers (.error error)) :
      ListEnds a accessToken answers (.error error)

private theorem list_ends (a accessToken : String) :
    Managed (ListEnds a accessToken) (list a accessToken) [] := by
  refine .call_bind trivial (fun response _ => ?_) fun error _ => .failed fun eventSetId => ?_
  · unfold assertSuccess
    split
    next refused =>
      refine .failed fun eventSetId => ⟨fun unlisted => ?_, response.message, if_pos refused,
        echoes_list_refused response.code response.message⟩
      obtain ⟨_, same, code, _⟩ := unlisted_singleton.mp unlisted
      cases same
      exact refused code
    next accepted => exact .listed rfl (not_not.mp accepted)
  · refine ⟨fun unlisted => ?_, error.message, rfl, .self error⟩
    obtain ⟨_, same, _⟩ := unlisted_singleton.mp unlisted
    cases same

private theorem select_ends (a eventSetId accessToken : String) :
    Managed (SelectEnds a eventSetId) (select a eventSetId accessToken) [] := by
  refine (list_ends a accessToken).bind (fun answers sets ended => ?_) fun answers error ended => ?_
  · obtain @⟨response, rfl, code⟩ := ended
    split
    next none =>
      refine .inl ⟨rfl, unlisted_singleton.mpr ⟨response, rfl, code, ?_⟩, if_neg (not_not.mpr code)⟩
      intro eventSet mem same
      exact absurd (List.find?_eq_none.mp none eventSet mem) (by simpa using same)
    next selected found =>
      have present : ¬ Unlisted a eventSetId [⟨.listSets a accessToken, .ok response⟩] := by
        intro unlisted
        obtain ⟨_, same, _, absent⟩ := unlisted_singleton.mp unlisted
        cases same
        exact absent selected (List.mem_of_find?_eq_some found)
          (by simpa using List.find?_some found)
      exact (store_chosen selected .manuallySelected present).bind (fun _ _ chosen => .inr chosen)
        fun _ _ failed => .inr failed
  · cases ended with
    | failed chosen => exact .inr (chosen eventSetId)

end

/-! ## The routes -/

private theorem onTokens_ends {α : Type} {program : TokenProg α}
    {ends : List TokenAnswer → Except JsError α → Prop} (h : Lookup ends program []) :
    (onTokens program).Meets canAnswer (fun _ _ => True) (fun final outcome =>
      ends (tokenAnswers final) outcome ∧ eventSetAnswers final = [] ∧ sent final = []) [] := by
  have carried : ∀ outer inner cmd,
      inner = tokenAnswers outer ∧ eventSetAnswers outer = [] ∧ sent outer = [] → True →
      (serve (.token cmd)).Meets canAnswer (fun _ _ => True) (fun final outcome =>
        True ∧ inner ++ [⟨cmd, outcome⟩] = tokenAnswers final ∧ eventSetAnswers final = [] ∧
          sent final = []) outer := by
    rintro outer _ cmd ⟨rfl, quiet, unsent⟩ _
    refine ⟨trivial, fun reply _ => ?_⟩
    have grown : tokenAnswers outer ++ [⟨cmd, reply⟩] =
        tokenAnswers (outer ++ [⟨.token cmd, reply⟩]) ∧
        eventSetAnswers (outer ++ [⟨.token cmd, reply⟩]) = [] ∧
        sent (outer ++ [⟨.token cmd, reply⟩]) = [] := by
      rw [tokenAnswers_append, eventSetAnswers_append, sent_append, quiet, unsent]
      exact ⟨rfl, rfl, rfl⟩
    cases reply with
    | ok _ => exact ⟨trivial, grown⟩
    | error _ => exact ⟨trivial, grown⟩
  refine (Prog.Meets.handle carried h ⟨rfl, rfl, rfl⟩).imp ?_
  rintro final outcome ⟨_, ⟨rfl, rest⟩, ended⟩
  exact ⟨ended, rest⟩

private theorem onEventSets_ends {α : Type} {program : EventSetProg α}
    {ends : List EventSetAnswer → Except JsError α → Prop} {history : List ServerAnswer}
    (h : Managed ends program (eventSetAnswers history)) (unsent : sent history = []) :
    (onEventSets program).Meets canAnswer (fun _ _ => True) (fun final outcome =>
      (ends (eventSetAnswers final) outcome ∧ sent final = []) ∧
        tokenAnswers final = tokenAnswers history) history := by
  have within : (onEventSets program).Within ServerCmd.OfEventSets fun _ => True :=
    (Prog.within_any program).handle fun cmd _ => Prog.within_call.mpr ⟨trivial, fun _ => trivial⟩
  refine (onEventSets_unsent h unsent).and
    (within.meets (fun _ _ _ _ => trivial) fun more outcome sets _ => ?_)
  have silent : tokenAnswers more = [] := by
    refine List.filterMap_eq_nil_iff.mpr fun ⟨cmd, reply⟩ mem => ?_
    cases cmd <;> first | rfl | cases sets _ mem
  rw [tokenAnswers_append, silent, List.append_nil]

private theorem respond_ends {ends : List ServerAnswer → Except JsError Unit → Prop} {status : Nat}
    {body : JsValue} {history : List ServerAnswer} (unsent : sent history = [])
    (fits : ∀ final, (∀ other, Answered other final ↔ other = status) →
      tokenAnswers final = tokenAnswers history →
      eventSetAnswers final = eventSetAnswers history → ends final (.ok ())) :
    (respond (.json status body)).Meets canAnswer (fun _ _ => True) ends history := by
  refine ⟨trivial, fun reply possible => ?_⟩
  cases reply with
  | error error => cases possible
  | ok _ =>
      refine fits _ (fun other => ?_) ?_ ?_
      · rw [Answered, sent_append, unsent]
        constructor
        · rintro ⟨_, mem⟩
          cases List.mem_singleton.mp mem
          rfl
        · rintro rfl
          exact ⟨body, List.mem_singleton_self _⟩
      · rw [tokenAnswers_append]
        exact List.append_nil _
      · rw [eventSetAnswers_append]
        exact List.append_nil _

section

/-- The status stands for the cause, unless something that is not plain misled the route. -/
def Told (status : Nat) (cause plain : List TokenAnswer → List EventSetAnswer → Prop)
    (history : List ServerAnswer) : Prop :=
  (Answered status history ↔ cause (tokenAnswers history) (eventSetAnswers history)) ↔
    plain (tokenAnswers history) (eventSetAnswers history)

/-- How the `try` of a route ends: with a response, or with an error in which the phrase stands
for the cause. -/
inductive RouteEnds (status : Nat) (phrase : String)
    (cause plain : List TokenAnswer → List EventSetAnswer → Prop) :
    List ServerAnswer → Except JsError Unit → Prop where
  | answered {history} (told : Told status cause plain history) :
      RouteEnds status phrase cause plain history (.ok ())
  | threw {history error} (unsent : sent history = [])
      (told : (includes error.message phrase = true ↔
          cause (tokenAnswers history) (eventSetAnswers history)) ↔
        plain (tokenAnswers history) (eventSetAnswers history)) :
      RouteEnds status phrase cause plain history (.error error)

variable {status other : Nat} {phrase : String}
  {cause plain : List TokenAnswer → List EventSetAnswer → Prop} {history : List ServerAnswer}

/-- A success, without the cause and without what could mislead, has another status. -/
theorem success_told {body : JsValue} (unsent : sent history = []) (differs : other ≠ status)
    (absent : ¬ cause (tokenAnswers history) (eventSetAnswers history))
    (undisturbed : plain (tokenAnswers history) (eventSetAnswers history)) :
    (respond (.json other body)).Meets canAnswer (fun _ _ => True)
      (RouteEnds status phrase cause plain) history := by
  refine respond_ends unsent fun final answered tokens sets => .answered ?_
  rw [Told, answered, tokens, sets]
  simp [absent, undisturbed, differs.symm]

/-- What both routes do with an error: the status if its text has the phrase, otherwise 500. -/
theorem searched_told {program : ServerProg Unit} {found rest : JsError → JsValue}
    (work : program.Meets canAnswer (fun _ _ => True) (RouteEnds status phrase cause plain) history)
    (differs : 500 ≠ status) :
    (tryCatch program fun error =>
      if includes error.message phrase then respond (.json status (found error))
      else respond (.json 500 (rest error))).Meets canAnswer (fun _ _ => True)
        (fun final _ => Told status cause plain final) history := by
  refine work.catch ?_ ?_
  · rintro final _ ⟨told⟩
    exact told
  · rintro final error ended
    cases ended with
    | threw unsent told =>
        split
        next said =>
          refine respond_ends unsent fun last answered tokens sets => ?_
          rw [Told, answered, tokens, sets, ← told, said]
          simp
        next silent =>
          refine respond_ends unsent fun last answered tokens sets => ?_
          rw [Told, answered, tokens, sets, ← told]
          simp [silent, differs.symm]

end

/-- The error of a failing lookup tells a missing token from everything else. -/
theorem LookupEnds.told {a : String} {answers : List TokenAnswer} {error : JsError}
    (h : LookupEnds a answers (.error error)) :
    (includes error.message "OAuth authorization required" = true ↔ NoActive a answers) ↔
      LookupPlain "OAuth authorization required" a answers := by
  rcases h with ⟨same, none, textless⟩ | ⟨found, text, last, echoes⟩
  · cases same
    simp [LookupPlain, noActiveToken_unauthorised, none, textless]
  · rw [echoes _ (mem_phrases.mpr (.inr rfl))]
    simp [LookupPlain, found, last]

/-- Before the list, the error says "not found" only by a text. -/
theorem LookupEnds.selection_told {a eventSetId : String} {answers : List TokenAnswer}
    {error : JsError} (h : LookupEnds a answers (.error error)) :
    (includes error.message "not found" = true ↔ Unlisted a eventSetId []) ↔
      SelectionPlain "not found" a answers [] := by
  have unlisted : ¬ Unlisted a eventSetId [] := by
    rintro ⟨_, _, mem, _⟩
    exact List.not_mem_nil mem
  rcases h with ⟨same, none, textless⟩ | ⟨found, text, last, echoes⟩
  · cases same
    rw [noActiveToken_notFound]
    constructor
    · intro told
      refine ⟨.of_none textless, fun _ => ?_, nofun⟩
      simpa [unlisted] using told
    · intro plain
      simp [unlisted, plain.advertiser none]
  · rw [echoes _ (mem_phrases.mpr (.inl rfl))]
    constructor
    · intro told
      refine ⟨fun text' some => ?_, fun none => absurd none found, nofun⟩
      cases last.symm.trans some
      simpa [unlisted] using told
    · intro plain
      simp [unlisted, plain.lookup text last]

theorem SelectEnds.told {a eventSetId : String} {tokens : List TokenAnswer}
    {sets : List EventSetAnswer} {error : JsError} (found : ¬ NoActive a tokens)
    (textless : lookupText a tokens.reverse = none)
    (h : SelectEnds a eventSetId sets (.error error)) :
    (includes error.message "not found" = true ↔ Unlisted a eventSetId sets) ↔
      SelectionPlain "not found" a tokens sets := by
  rcases h with ⟨same, unlisted, silent⟩ | ⟨listed, text, last, echoes⟩
  · cases same
    have plain : SelectionPlain "not found" a tokens sets := .of_none found textless silent
    simp [notFound_notFound, unlisted, plain]
  · rw [echoes _ (mem_phrases.mpr (.inl rfl))]
    constructor
    · intro told
      refine ⟨.of_none textless, fun none => absurd none found, fun text' some => ?_⟩
      cases last.symm.trans some
      simpa [listed] using told
    · intro plain
      simp [listed, plain.selection text last]

namespace Server

variable (S : Server) (a : String)

private theorem selectSet_told {body : RequestBody} {eventSetId : String}
    (given : (body.get "event_set_id").nonEmptyText = some eventSetId) :
    (selectSet a body).Meets canAnswer (fun _ _ => True) (fun final _ =>
      Told 404 (fun _ => Unlisted a eventSetId) (SelectionPlain "not found" a) final) [] := by
  unfold selectSet
  rw [given]
  refine searched_told ?_ (by decide)
  refine (onTokens_ends (getValidToken_ends a)).bind ?_ ?_
  · rintro first accessToken ⟨⟨failed, _⟩ | ⟨found, textless⟩, none, unsent⟩
    · cases failed
    · have selecting : Managed (SelectEnds a eventSetId)
          (CRMEventSetManager.select a eventSetId accessToken) (eventSetAnswers first) := by
        rw [none]
        exact select_ends a eventSetId accessToken
      refine (onEventSets_ends selecting unsent).bind ?_ ?_
      · rintro second selected ⟨⟨⟨failed, _⟩ | ⟨listed, silent⟩, unsent⟩, tokens⟩
        · cases failed
        · refine success_told unsent (by decide) listed ?_
          rw [tokens]
          exact .of_none found textless silent
      · rintro second error ⟨⟨ended, unsent⟩, tokens⟩
        refine .threw unsent ?_
        rw [tokens]
        exact ended.told found textless
  · rintro final error ⟨ended, none, unsent⟩
    refine .threw unsent ?_
    rw [none]
    exact ended.selection_told

private theorem manager_provision_resolves (accessToken : String) (eventSetName : Option String) :
    (S.manager.provision a accessToken eventSetName).Within (fun _ => True)
      fun outcome => ∃ result, outcome = .ok result :=
  .catch (Prog.within_any _) (fun result => ⟨result, rfl⟩) fun _ => ⟨_, rfl⟩

/-- What provisioning came to is not reported as a missing token. -/
theorem provisioned_status (result : ProvisionResult) :
    ∃ status body, provisioned a result = .json status body ∧ status ≠ 401 := by
  cases result <;> exact ⟨_, _, rfl, by decide⟩

private theorem provision_told (body : RequestBody) :
    (S.provision a body).Meets canAnswer (fun _ _ => True) (fun final _ =>
      Told 401 (fun tokens _ => NoActive a tokens)
        (fun tokens _ => LookupPlain "OAuth authorization required" a tokens) final) [] := by
  refine searched_told ?_ (by decide)
  refine (onTokens_ends (getValidToken_ends a)).bind ?_ ?_
  · rintro first accessToken ⟨⟨failed, _⟩ | ⟨found, textless⟩, none, unsent⟩
    · cases failed
    · have resolves := S.manager_provision_resolves a accessToken
        (S.nameArgument (body.get "event_set_name"))
      have provisioning : Managed (fun _ outcome => ∃ result, outcome = .ok result)
          (S.manager.provision a accessToken (S.nameArgument (body.get "event_set_name")))
          (eventSetAnswers first) :=
        resolves.meets (fun _ _ _ _ => trivial) fun _ _ _ resolved => resolved
      refine (onEventSets_ends provisioning unsent).bind ?_ ?_
      · rintro second result ⟨⟨_, unsent⟩, tokens⟩
        obtain ⟨status, body, same, other⟩ := provisioned_status a result
        rw [same]
        refine success_told unsent other ?_ ?_
        · rwa [tokens]
        · rw [tokens]
          exact .of_none textless
      · rintro second error ⟨⟨⟨_, resolved⟩, _⟩, _⟩
        cases resolved
  · rintro final error ⟨ended, _, unsent⟩
    exact .threw unsent ended.told

variable {S}

/-- A request to select an event set is answered 404 exactly if its id is missing from the list,
and one to provision 401 exactly if the advertiser has no active token, if and only if no other
failing step of it puts a text with the searched phrase into its error. -/
theorem errors_classified_iff {w : ServerWorld} {actions : List ServerAction} {c : ServerConfig}
    (h : S.system.run (.initial w) actions = some c) {pid : Nat} {call : ServerCall}
    (entry : c.entries[pid]? = some call) {outcome : Except JsError Unit}
    (ended : S.system.Ended c pid outcome) :
    let history := (c.own pid).map Record.answer
    (∀ a body eventSetId, call = .selectSet a body →
        (body.get "event_set_id").nonEmptyText = some eventSetId →
      ((Answered 404 history ↔ Unlisted a eventSetId (eventSetAnswers history)) ↔
        SelectionPlain "not found" a (tokenAnswers history) (eventSetAnswers history))) ∧
    ∀ a body, call = .provision a body →
      ((Answered 401 history ↔ NoActive a (tokenAnswers history)) ↔
        LookupPlain "OAuth authorization required" a (tokenAnswers history)) := by
  intro history
  obtain ⟨p, hp, hv⟩ := ended
  have same : p.entry = call := by
    rw [Config.entries, List.getElem?_map, hp] at entry
    exact Option.some.inj entry
  constructor
  · rintro a body eventSetId rfl given
    exact (call_meets (fun _ => selectSet_told a given) h hp same).1.ended hv
  · rintro a body rfl
    exact (call_meets (fun _ => S.provision_told a body) h hp same).1.ended hv

end Server

namespace ServerSample

def authorised : ServerWorld := (after granting (by decide)).world

/-- The advertiser selects an event set; TikTok answers the list call so. -/
def selecting (listed : EventSetChoice) : List ServerAction :=
  [.start (.selectSet "adv-001" [("event_set_id", .string "set-1")]), .resume 0 (.token .ok),
    .resume 0 (.token .ok), .resume 0 (.token .ok), .resume 0 (.eventSet listed), .resume 0 .ok]

def unknownAdvertiser : CRMListResponse where
  code := 40002
  message := "Advertiser not found"
  list := none

def unauthorisedApp : TikTokRefreshResponse where
  code := 40105
  message := "OAuth authorization required"
  data := TokenSample.data

/-- A day later the token has to be refreshed for the advertiser's provisioning, and TikTok
refuses that. -/
def provisioningLate : List ServerAction :=
  [.env (.tick 86400000), .start (.provision "adv-001" []), .resume 0 (.token .ok),
    .resume 0 (.token .ok), .resume 0 (.token .ok), .resume 0 (.token .ok), .resume 0 (.token .ok),
    .resume 0 (.token .ok), .resume 0 (.token (.refreshed unauthorisedApp 0)), .resume 0 .ok]

end ServerSample

open ServerSample in
theorem errors_classified_missing :
    let c := server.system.result (.initial authorised) (selecting .ok) (by decide)
    Answered 404 ((c.own 0).map Record.answer) ↔
      Unlisted "adv-001" "set-1" (eventSetAnswers ((c.own 0).map Record.answer)) := by
  intro c
  have ended : server.system.Ended c 0 (.ok ()) := ⟨_, rfl, rfl⟩
  refine ((Server.errors_classified_iff (run_result _) rfl ended).1 _ _ _ rfl rfl).mpr ?_
  refine ⟨fun text some => ?_, fun none => ?_, fun text some => ?_⟩
  · cases some
  · have tokens : (tokenAnswers ((c.own 0).map Record.answer)).map Answer.cmd =
        [.cacheGet (TokenStore.cacheKey "adv-001"), .now, .now] := rfl
    have asked := List.mem_map_of_mem (f := Answer.cmd) none
    rw [tokens] at asked
    simp at asked
  · cases some

set_option maxRecDepth 4000 in
open ServerSample in
/-- A refused list is answered 404, and a refused refresh 401 though there is an active token. -/
theorem errors_misclassified :
    let c := server.system.result (.initial authorised) (selecting (.listed unknownAdvertiser))
      (by decide)
    let d := server.system.result (.initial authorised) provisioningLate (by decide)
    (Answered 404 ((c.own 0).map Record.answer) ∧
        ¬ Unlisted "adv-001" "set-1" (eventSetAnswers ((c.own 0).map Record.answer))) ∧
      Answered 401 ((d.own 0).map Record.answer) ∧
        ¬ NoActive "adv-001" (tokenAnswers ((d.own 0).map Record.answer)) := by
  intro c d
  have listed : eventSetAnswers ((c.own 0).map Record.answer) =
      [⟨.listSets "adv-001" "access-abc", .ok unknownAdvertiser⟩] := rfl
  let select (answer : TokenAnswer) : Bool := answer.cmd = .selectActive "adv-001"
  have selected : (tokenAnswers ((d.own 0).map Record.answer)).filter select =
      [⟨.selectActive "adv-001",
        .ok (some (TikTokOAuthClient.storedRow TokenSample.data 0 "adv-001"))⟩] := rfl
  refine ⟨⟨⟨_, List.mem_singleton_self _⟩, ?_⟩, ⟨_, List.mem_singleton_self _⟩, ?_⟩
  · rw [listed, unlisted_singleton]
    rintro ⟨response, same, code, _⟩
    cases same
    cases code
  · intro none
    have found := (List.mem_filter (p := select)).mpr ⟨none, rfl⟩
    rw [selected] at found
    cases List.mem_singleton.mp found

end SalesforceTikTok
