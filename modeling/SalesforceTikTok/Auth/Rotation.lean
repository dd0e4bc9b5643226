import SalesforceTikTok.Auth.Effects

/-!
# What becomes of a superseded refresh token

A refresh posts the refresh token of one row and stores the token it gets in that row.
The token it posted may still be in other rows, which one grant has filled with the same
pair, or in the hands of other calls, which have read it or have still to store it.
`Rotates` says that it is not; `Rotating` is what then holds throughout the run.
-/

namespace SalesforceTikTok

open Concurrency
open TikTokOAuthClient (storedRow)

/-! ## The order of issue -/

def issues (token : String) (r : TokenRecord) : Bool :=
  r.choice.issue.any fun issue => issue.data.refreshToken == token

def Issued (trace : List TokenRecord) (token : String) : Prop :=
  ∃ r ∈ trace, issues token r = true

def issueIndex (trace : List TokenRecord) (token : String) : Nat := trace.findIdx (issues token)

/-- `later` was first issued after `token` was. -/
def IssuedLater (trace : List TokenRecord) (token later : String) : Prop :=
  issueIndex trace token < issueIndex trace later ∧ issueIndex trace later < trace.length

section

variable {history : List TokenRecord} {token other : String}

theorem Issued.append (h : Issued history token) (more : List TokenRecord) :
    Issued (history ++ more) token := by
  obtain ⟨r, hr, delivered⟩ := h
  exact ⟨r, List.mem_append_left more hr, delivered⟩

private theorem issued_iff : Issued history token ↔ issueIndex history token < history.length :=
  List.findIdx_lt_length.symm

private theorem issueIndex_append (h : Issued history token) (more : List TokenRecord) :
    issueIndex (history ++ more) token = issueIndex history token := by
  have bound := issued_iff.mp h
  unfold issueIndex at bound ⊢
  rw [List.findIdx_append, if_pos bound]

private theorem issueIndex_inj (h : Issued history token)
    (same : issueIndex history token = issueIndex history other) : token = other := by
  have bound := issued_iff.mp h
  have first : issues token history[issueIndex history token] = true := List.findIdx_getElem
  have second : issues other history[issueIndex history token] = true := by
    have bound' : issueIndex history other < history.length := same ▸ bound
    have delivered : issues other history[issueIndex history other] = true := List.findIdx_getElem
    simpa only [same] using delivered
  obtain ⟨issue, issued, is_token⟩ := (Option.any_eq_true _ _).mp first
  obtain ⟨issue', issued', is_other⟩ := (Option.any_eq_true _ _).mp second
  obtain rfl : issue = issue' := by simpa [issued] using issued'
  exact (beq_iff_eq.mp is_token).symm.trans (beq_iff_eq.mp is_other)

end

def Supersedes (token : String) (r : TokenRecord) : Prop :=
  r.cmd = .postRefresh token ∧ ∃ issue ∈ r.choice.issue, issue.data.refreshToken ≠ token

def Superseded (trace : List TokenRecord) (token : String) : Prop :=
  ∃ r ∈ trace, Supersedes token r

private theorem superseded_append {trace : List TokenRecord} {r : TokenRecord} {token : String} :
    Superseded (trace ++ [r]) token ↔ Superseded trace token ∨ Supersedes token r := by
  simp only [Superseded, List.mem_append, List.mem_singleton, or_and_right, exists_or,
    exists_eq_left]

instance (token : String) (r : TokenRecord) : Decidable (Supersedes token r) :=
  inferInstanceAs (Decidable (_ ∧ _))

instance (trace : List TokenRecord) (token : String) : Decidable (Superseded trace token) :=
  inferInstanceAs (Decidable (∃ r ∈ trace, Supersedes token r))

/-! ## Tokens in the hands of a call -/

def Writer.carried : Writer → List String
  | .exchange data _ (_ :: _) _ => [data.refreshToken]
  | _ => []

def TokenPoint.carried : TokenPoint → List String
  | .timingRefresh _ _ row => [row.refreshToken]
  | .timingExchange response =>
      if response.advertiserIds = [] then [] else [response.data.refreshToken]
  | .upserting writer row => row.refreshToken :: writer.carried
  | .caching writer _ => writer.carried
  | _ => []

/-- The refresh token whose POST a call awaits. -/
def TokenPoint.posting : TokenPoint → Option String
  | .postingRefresh _ _ row _ => some row.refreshToken
  | _ => none

/-- A refresh is about to store another token in the row of this advertiser. -/
def TokenPoint.replaces (a token : String) : TokenPoint → Bool
  | .upserting (.refresh _) row => row.advertiserId == a && row.refreshToken != token
  | _ => false

theorem TokenPoint.replaces_iff {x : TokenPoint} {a token : String} :
    x.replaces a token = true ↔ ∃ k row, x = .upserting (.refresh k) row ∧
      row.advertiserId = a ∧ row.refreshToken ≠ token := by
  constructor
  · intro h
    cases x with
    | upserting writer row =>
        cases writer with
        | refresh k =>
            simp only [replaces, Bool.and_eq_true, beq_iff_eq, bne_iff_ne] at h
            exact ⟨k, row, rfl, h⟩
        | _ => cases h
    | _ => cases h
  · rintro ⟨k, row, rfl, rfl, different⟩
    simp [replaces, different]

def TokenChoice.lost : TokenChoice → Bool
  | .fail _ => true
  | _ => false

/-! ## Rotation -/

/-- No row but that of `a` holds the token, and no call has it in hand. -/
def Sole (c : TokenConfig TokenPoint) (a token : String) : Prop :=
  (∀ entry ∈ c.world.rows.entries, entry.2.refreshToken = token → entry.1 = a) ∧
    ∀ p ∈ c.procs, token ∉ p.state.carried

def TokenPoint.Rotates (c : TokenConfig TokenPoint) (choice : TokenChoice) (x : TokenPoint) : Prop :=
  match x with
  -- a refresh reads a row that another is about to replace
  | .selectingRow _ a => choice = .ok → ∀ row ∈ c.world.rows.lookup a,
      ∀ p ∈ c.procs, p.state.replaces a row.refreshToken = false
  -- a token is superseded that is held elsewhere
  | .postingRefresh _ a row _ => ∀ issue ∈ choice.issue,
      issue.data.refreshToken ≠ row.refreshToken → Sole c a row.refreshToken
  -- the new token of a refresh gets lost, or a row gets a token older than its own
  | .upserting _ row => ∀ old ∈ c.world.rows.lookup row.advertiserId,
      if choice.lost then x.replaces row.advertiserId old.refreshToken = false
      else issueIndex c.trace old.refreshToken ≤ issueIndex c.trace row.refreshToken
  -- a row is deleted
  | .deletingRow _ => False
  | _ => True

/-- A step that respects the rotation of refresh tokens. Responses bring no token that was
superseded before. -/
def Rotates (c : TokenConfig TokenPoint) : TokenAction → Prop
  | .start call => storesDirectly (.start call) = false
  | .resume pid choice =>
      (∀ issue ∈ choice.issue, ¬ Superseded c.trace issue.data.refreshToken) ∧
        ∀ p ∈ c.procs[pid]?, p.state.Rotates c choice
  | .env _ => True

instance (c : TokenConfig TokenPoint) (a token : String) : Decidable (Sole c a token) :=
  inferInstanceAs (Decidable (_ ∧ _))

instance (c : TokenConfig TokenPoint) (choice : TokenChoice) (x : TokenPoint) :
    Decidable (x.Rotates c choice) := by
  unfold TokenPoint.Rotates
  split <;> infer_instance

instance (c : TokenConfig TokenPoint) : (act : TokenAction) → Decidable (Rotates c act)
  | .start call => inferInstanceAs (Decidable (storesDirectly (.start call) = false))
  | .resume _ _ => inferInstanceAs (Decidable (_ ∧ _))
  | .env _ => isTrue trivial

/-! ## What one answer does to a token -/

theorem TokenPoint.Light.carried {x : TokenPoint} (light : x.Light) : x.carried = [] := by
  cases light <;> rfl

theorem TokenPoint.Light.posting {x : TokenPoint} (light : x.Light) : x.posting = none := by
  cases light <;> rfl

private theorem mem_storing_carried {data : TokenData} {now : Int} {stored : List StoredToken}
    {rest : List String} {token : String} (h : token ∈ (storing data now stored rest).carried) :
    token = data.refreshToken ∧ rest ≠ [] := by
  cases rest with
  | nil => cases h
  | cons a rest =>
      cases rest <;> simpa [storing, TokenPoint.carried, Writer.carried, storedRow] using h

private theorem mem_stored_carried {writer : Writer} {row : StoredToken} {token : String}
    (h : token ∈ (writer.stored row).carried) : token ∈ writer.carried := by
  cases writer with
  | direct => cases h
  | refresh k => exact absurd h (by simp [(k.refreshed_light row).carried, Writer.stored])
  | exchange data now rest stored =>
      obtain ⟨rfl, more⟩ := mem_storing_carried h
      cases rest with
      | nil => exact absurd rfl more
      | cons a rest => exact List.mem_cons_self

private theorem storing_posting (data : TokenData) (now : Int) (stored : List StoredToken)
    (rest : List String) : (storing data now stored rest).posting = none := by
  cases rest <;> rfl

theorem Writer.stored_posting (writer : Writer) (row : StoredToken) :
    (writer.stored row).posting = none := by
  cases writer with
  | direct => rfl
  | refresh k => exact (k.refreshed_light row).posting
  | exchange data now rest stored => exact storing_posting data now (stored ++ [row]) rest

section

variable {x y : TokenPoint} {w v : TokenWorld} {r : TokenRecord}

theorem TokenTransition.carried_cases (t : TokenTransition x w r y v) {token : String}
    (h : token ∈ y.carried) :
    token ∈ x.carried ∨ (∃ issue ∈ r.choice.issue, issue.data.refreshToken = token) ∨
      ∃ k a row, x = .selectingRow k a ∧ r.choice = .ok ∧ w.rows.lookup a = some row ∧
        row.refreshToken = token := by
  cases t with
  | recordFound found =>
      obtain rfl := List.mem_singleton.mp h
      exact .inr (.inr ⟨_, _, _, rfl, rfl, found, rfl⟩)
  | refreshGranted code issued =>
      obtain rfl := List.mem_singleton.mp h
      exact .inr (.inl ⟨_, if_pos code, rfl⟩)
  | exchangeGranted code issued =>
      rename_i authCode pid response issuedAt
      by_cases none_named : response.advertiserIds = []
      · simp [TokenPoint.carried, none_named] at h
      · simp only [TokenPoint.carried, none_named, if_false] at h
        obtain rfl := List.mem_singleton.mp h
        exact .inr (.inl ⟨_, if_pos code, rfl⟩)
  | exchangeTimed =>
      obtain ⟨rfl, some_named⟩ := mem_storing_carried h
      refine .inl ?_
      simp only [TokenPoint.carried, some_named, if_false]
      exact List.mem_singleton.mpr rfl
  | rowStored => exact .inl (List.mem_cons_of_mem _ h)
  | cached effect => exact .inl (mem_stored_carried h)
  | copyFresh | rowMissing | selectFailed | rowStale | warmed | tokenKept | recordMissing
  | recordFailed | refreshLapsed | refreshRefused | refreshFailed | rowLost | rowUnconfirmed =>
      rw [TokenPoint.Light.carried (by simp)] at h
      cases h
  | _ => cases h

theorem TokenTransition.posting_cases (t : TokenTransition x w r y v) {token : String}
    (h : y.posting = some token) : token ∈ x.carried := by
  cases t with
  | refreshDue live =>
      cases h
      exact List.mem_cons_self
  | exchangeTimed =>
      rw [storing_posting] at h
      cases h
  | cached effect =>
      rw [Writer.stored_posting] at h
      cases h
  | copyFresh | rowMissing | selectFailed | rowStale | warmed | tokenKept | recordMissing
  | recordFailed | refreshLapsed | refreshRefused | refreshFailed | rowLost | rowUnconfirmed =>
      rw [TokenPoint.Light.posting (by simp)] at h
      cases h
  | _ => cases h

theorem TokenTransition.supersedes (t : TokenTransition x w r y v) {token : String}
    (h : Supersedes token r) :
    ∃ k a row now, ∃ issue ∈ r.choice.issue, x = .postingRefresh k a row now ∧
      row.refreshToken = token ∧ issue.data.refreshToken ≠ token ∧
      y = .upserting (.refresh k) (storedRow issue.data now a) ∧ v = w := by
  obtain ⟨cmd, issue, issued, fresh⟩ := h
  cases t with
  | refreshGranted code due =>
      cases cmd
      obtain rfl : _ = issue := Option.some.inj ((if_pos code).symm.trans issued)
      exact ⟨_, _, _, _, _, issued, rfl, rfl, fresh, rfl, rfl⟩
  | refreshRefused code => cases (if_neg code).symm.trans issued
  | refreshFailed => cases issued
  | _ => cases cmd

theorem TokenTransition.row_cases (t : TokenTransition x w r y v) {a : String} {row : StoredToken}
    (h : v.rows.lookup a = some row) :
    w.rows.lookup a = some row ∨
      ∃ writer, x = .upserting writer row ∧ row.advertiserId = a ∧ r.choice.lost = false := by
  cases t with
  | rowStored | rowUnconfirmed =>
      obtain ⟨rfl, rfl⟩ | ⟨_, old⟩ := TokenWorld.lookup_upsertRow_cases h
      · exact .inr ⟨_, rfl, rfl, rfl⟩
      · exact .inl old
  | rowDeleted => exact .inl (TokenWorld.lookup_of_deleteRow h)
  | deleteFailed effect =>
      obtain rfl | rfl := effect
      · exact .inl h
      · exact .inl (TokenWorld.lookup_of_deleteRow h)
  | copyDropped effect | warmed effect | cached effect | keyDeleteFailed effect =>
      obtain rfl | rfl := effect <;> exact .inl h
  | _ => exact .inl h

theorem TokenEffect.row_stays (effect : TokenEffect x w v) (kept : ∀ b, x ≠ .deletingRow b)
    {a : String} {old : StoredToken} (found : w.rows.lookup a = some old) :
    ∃ row, v.rows.lookup a = some row := by
  cases effect with
  | stored =>
      rename_i writer fresh
      by_cases same : a = fresh.advertiserId
      · subst same
        exact ⟨fresh, AList.lookup_insert _⟩
      · exact ⟨old, (AList.lookup_insert_ne same).trans found⟩
  | deleted => exact absurd rfl (kept _)
  | _ => exact ⟨old, found⟩

/-- A row that is about to be replaced is, unless the upsert gets lost. -/
theorem TokenTransition.replaces (t : TokenTransition x w r y v) {a : String} {row : StoredToken}
    (h : x.replaces a row.refreshToken = true) (kept : v.rows.lookup a = some row) :
    r.choice.lost = true := by
  obtain ⟨k, fresh, rfl, rfl, different⟩ := TokenPoint.replaces_iff.mp h
  have stored (h : (w.upsertRow fresh).rows.lookup fresh.advertiserId = some row) : False := by
    obtain ⟨_, rfl⟩ | ⟨other, _⟩ := TokenWorld.lookup_upsertRow_cases h
    · exact different rfl
    · exact other rfl
  cases t with
  | rowStored | rowUnconfirmed => exact (stored kept).elim
  | rowLost => rfl

end

/-! ## The invariant of rotating runs -/

/-- Some refresh is about to store another token in the row of `a`. -/
def Replaced (procs : List (Proc TokenCall TokenPoint)) (a token : String) : Prop :=
  ∃ (pid : Nat) (p : Proc TokenCall TokenPoint), procs[pid]? = some p ∧
    p.state.replaces a token = true

/-- No call has a superseded token in hand, and a row that holds one is about to be replaced. -/
structure Rotating (c : TokenConfig TokenPoint) : Prop where
  issued : ∀ a row, c.world.rows.lookup a = some row → Issued c.trace row.refreshToken
  carried : ∀ p ∈ c.procs, ∀ token ∈ p.state.carried,
    Issued c.trace token ∧ ¬ Superseded c.trace token
  replaced : ∀ a row, c.world.rows.lookup a = some row → Superseded c.trace row.refreshToken →
    Replaced c.procs a row.refreshToken

section

variable {c : TokenConfig TokenPoint} {pid : Nat} {p : Proc TokenCall TokenPoint} {r : TokenRecord}
  {y : TokenPoint} {v : TokenWorld}

/-- An answer that supersedes a token finds it in no other place. -/
theorem Rotates.sole (rotates : Rotates c (.resume pid r.choice)) (hp : c.procs[pid]? = some p)
    (t : TokenTransition p.state c.world r y v) {token : String} (h : Supersedes token r) :
    ∃ k a row now, p.state = .postingRefresh k a row now ∧ Sole c a token ∧
      y.replaces a token = true ∧ v = c.world := by
  obtain ⟨k, a, row, now, issue, issued, point, rfl, different, rfl, world⟩ := t.supersedes h
  have asked : p.state.Rotates c r.choice := rotates.2 p hp
  rw [point] at asked
  exact ⟨k, a, row, now, point, asked issue issued different,
    TokenPoint.replaces_iff.mpr ⟨k, _, rfl, rfl, different⟩, world⟩

/-- What is in hand before an answer is not superseded by it. -/
theorem Rotating.unsuperseded (h : Rotating c) (rotates : Rotates c (.resume pid r.choice))
    (hp : c.procs[pid]? = some p) (t : TokenTransition p.state c.world r y v)
    {q : Proc TokenCall TokenPoint} (hq : q ∈ c.procs) {token : String}
    (held : token ∈ q.state.carried) : ¬ Superseded (c.trace ++ [r]) token := by
  intro superseded
  obtain before | now := superseded_append.mp superseded
  · exact (h.carried q hq token held).2 before
  · obtain ⟨_, _, _, _, _, sole, _⟩ := rotates.sole hp t now
    exact sole.2 q hq held

theorem Rotating.carried_step (h : Rotating c) (rotates : Rotates c (.resume pid r.choice))
    (hp : c.procs[pid]? = some p) (t : TokenTransition p.state c.world r y v) {token : String}
    (held : token ∈ y.carried) :
    Issued (c.trace ++ [r]) token ∧ ¬ Superseded (c.trace ++ [r]) token := by
  have member := List.mem_of_getElem? hp
  obtain before | ⟨issue, issued, rfl⟩ | ⟨k, a, row, point, read, found, rfl⟩ :=
    t.carried_cases held
  · exact ⟨(h.carried p member token before).1.append [r],
      h.unsuperseded rotates hp t member before⟩
  · refine ⟨⟨r, List.mem_append_right _ List.mem_cons_self, ?_⟩, fun superseded => ?_⟩
    · exact (Option.any_eq_true _ _).mpr ⟨issue, issued, beq_iff_eq.mpr rfl⟩
    · obtain before | ⟨_, other, issued', different⟩ := superseded_append.mp superseded
      · exact rotates.1 issue issued before
      · obtain rfl : issue = other := by
          rw [Option.mem_def] at issued issued'
          exact Option.some.inj (issued.symm.trans issued')
        exact different rfl
  · refine ⟨(h.issued a row found).append [r], fun superseded => ?_⟩
    obtain before | now := superseded_append.mp superseded
    · obtain ⟨q, p', hq, replaces⟩ := h.replaced a row found before
      have asked : p.state.Rotates c r.choice := rotates.2 p hp
      rw [point] at asked
      have unread := asked read row found p' (List.mem_of_getElem? hq)
      rw [replaces] at unread
      cases unread
    · obtain ⟨_, _, _, _, posting, _⟩ := rotates.sole hp t now
      rw [point] at posting
      cases posting

theorem Rotating.replaced_step (h : Rotating c) (rotates : Rotates c (.resume pid r.choice))
    (hp : c.procs[pid]? = some p) (t : TokenTransition p.state c.world r y v) {a : String}
    {row : StoredToken} (found : v.rows.lookup a = some row)
    (superseded : Superseded (c.trace ++ [r]) row.refreshToken) :
    Replaced (c.procs.set pid ⟨p.entry, y⟩) a row.refreshToken := by
  have bound : pid < c.procs.length := (List.getElem?_eq_some_iff.mp hp).choose
  have member := List.mem_of_getElem? hp
  have asked : p.state.Rotates c r.choice := rotates.2 p hp
  obtain old | ⟨writer, point, rfl, _⟩ := t.row_cases found
  · obtain before | now := superseded_append.mp superseded
    · obtain ⟨q, p', hq, replaces⟩ := h.replaced a row old before
      by_cases same : pid = q
      · -- the call that was about to replace the row has been answered, and the row is still there
        subst same
        obtain rfl : p = p' := by simpa [hp] using hq
        have lost := t.replaces replaces found
        obtain ⟨k, fresh, point, rfl, different⟩ := TokenPoint.replaces_iff.mp replaces
        rw [point] at asked replaces
        have kept := asked row old
        rw [if_pos lost, replaces] at kept
        cases kept
      · exact ⟨q, p', by rwa [List.getElem?_set_ne same], replaces⟩
    · obtain ⟨k, b, posted, time, point, sole, replaces, _⟩ := rotates.sole hp t now
      obtain rfl : a = b := sole.1 ⟨a, row⟩ (AList.mem_lookup_iff.mp old) rfl
      exact ⟨pid, _, List.getElem?_set_self bound, replaces⟩
  · refine absurd superseded (h.unsuperseded rotates hp t member ?_)
    rw [point]
    exact List.mem_cons_self

theorem Rotating.step (h : Rotating c) (rotates : Rotates c (.resume pid r.choice))
    (hp : c.procs[pid]? = some p) (t : TokenTransition p.state c.world r y v) :
    Rotating ⟨v, c.procs.set pid ⟨p.entry, y⟩, c.trace ++ [r]⟩ where
  issued := by
    intro a row found
    obtain old | ⟨writer, point, rfl, _⟩ := t.row_cases found
    · exact (h.issued a row old).append [r]
    · have held : row.refreshToken ∈ p.state.carried := by
        rw [point]
        exact List.mem_cons_self
      exact (h.carried p (List.mem_of_getElem? hp) _ held).1.append [r]
  carried := by
    intro q hq token held
    rcases List.mem_or_eq_of_mem_set hq with hq | rfl
    · exact ⟨(h.carried q hq token held).1.append [r], h.unsuperseded rotates hp t hq held⟩
    · exact h.carried_step rotates hp t held
  replaced := fun a row found superseded => h.replaced_step rotates hp t found superseded

end

theorem Rotating.start {c : TokenConfig TokenPoint} (h : Rotating c) {call : TokenCall}
    (rotates : Rotates c (.start call)) (listed : List String) :
    Rotating ⟨{ c.world with listed := listed }, c.procs ++ [⟨call, call.startPoint⟩], c.trace⟩ where
  issued := h.issued
  carried := by
    intro q hq token held
    rcases List.mem_append.mp hq with hq | hq
    · exact h.carried q hq token held
    · obtain rfl := List.mem_singleton.mp hq
      cases call with
      | upsert params => cases rotates
      | _ => cases held
  replaced := by
    intro a row found superseded
    obtain ⟨q, p, hq, replaces⟩ := h.replaced a row found superseded
    have bound : q < c.procs.length := (List.getElem?_eq_some_iff.mp hq).choose
    exact ⟨q, p, by simpa [List.getElem?_append_left bound] using hq, replaces⟩

/-! ## Rotating runs -/

abbrev RotatesAlong (c : TokenConfig TokenPoint) (actions : List TokenAction) : Prop :=
  tokenProtocol.Along (fun d act _ => Rotates d act) c actions

private theorem rotating_run {time : Int} {c : TokenConfig TokenPoint} {actions : List TokenAction}
    (h : tokenProtocol.run (.initial (.fresh time)) actions = some c)
    (rotates : RotatesAlong (.initial (.fresh time)) actions) : Rotating c := by
  refine token_invariant _ Rotating ?_ ?_ ?_ h rotates ?_
  · exact fun c call listed h asked => h.start asked listed
  · exact fun c pid p r y v h hp _ t asked => h.step asked hp t
  · exact fun c elapsed h _ => ⟨h.issued, h.carried, h.replaced⟩
  · refine ⟨fun a row found => ?_, fun p hp => ?_, fun a row found => ?_⟩
    · cases found
    · cases hp
    · cases found

/-- Once a token is superseded, the POSTs of it are those already in flight. -/
theorem Rotating.unposted {b c : TokenConfig TokenPoint} {rest : List TokenAction} (h : Rotating b)
    (hr : tokenProtocol.run b rest = some c) (rotates : RotatesAlong b rest) {token : String}
    (superseded : Superseded b.trace token) {q : Nat} {p : Proc TokenCall TokenPoint}
    (hp : c.procs[q]? = some p) (posting : p.state.posting = some token) :
    b.procs[q]? = some p ∧ c.own q = b.own q := by
  let I : TokenConfig TokenPoint → Prop := fun d =>
    Rotating d ∧ Superseded d.trace token ∧ ∀ (q : Nat) (p : Proc TokenCall TokenPoint),
      d.procs[q]? = some p → p.state.posting = some token → b.procs[q]? = some p ∧ d.own q = b.own q
  suffices hI : I c from hI.2.2 q p hp posting
  refine token_invariant _ I ?_ ?_ ?_ hr rotates ⟨h, superseded, fun q p hp _ => ⟨hp, rfl⟩⟩
  · intro d call listed ⟨h, superseded, old⟩ asked
    refine ⟨h.start asked listed, superseded, fun q p hp posting => ?_⟩
    obtain hp | ⟨rfl, rfl⟩ := System.get_started hp
    · exact old q p hp posting
    · cases call <;> cases posting
  · intro d pid p r y v ⟨h, superseded, old⟩ hp hpid t asked
    refine ⟨h.step asked hp t, superseded_append.mpr (.inl superseded), fun q p' hp' posting => ?_⟩
    obtain ⟨rfl, rfl⟩ | ⟨other, hp'⟩ := System.get_answered hp'
    · exact absurd superseded
        (h.carried p (List.mem_of_getElem? hp) token (t.posting_cases posting)).2
    · have ne : r.pid ≠ q := by rw [hpid]; exact Ne.symm other
      rw [System.own_append_of_ne d ne]
      exact old q p' hp' posting
  · exact fun d elapsed ⟨h, superseded, old⟩ _ =>
      ⟨⟨h.issued, h.carried, h.replaced⟩, superseded, old⟩

theorem Rotating.ordered {e c : TokenConfig TokenPoint} {rest : List TokenAction} (h : Rotating e)
    (hr : tokenProtocol.run e rest = some c) (rotates : RotatesAlong e rest) {a : String}
    {held : StoredToken} (found : e.world.rows.lookup a = some held) :
    ∃ row, c.world.rows.lookup a = some row ∧ Issued c.trace held.refreshToken ∧
      issueIndex c.trace held.refreshToken ≤ issueIndex c.trace row.refreshToken := by
  let I : TokenConfig TokenPoint → Prop := fun d =>
    Rotating d ∧ ∃ row, d.world.rows.lookup a = some row ∧ Issued d.trace held.refreshToken ∧
      issueIndex d.trace held.refreshToken ≤ issueIndex d.trace row.refreshToken
  suffices hI : I c from hI.2
  refine token_invariant _ I ?_ ?_ ?_ hr rotates
    ⟨h, held, found, h.issued a held found, Nat.le_refl _⟩
  · exact fun d call listed ⟨h, later⟩ asked => ⟨h.start asked listed, later⟩
  · intro d pid p r y v ⟨h, old, present, issued, later⟩ hp _ t asked
    have point : p.state.Rotates d r.choice := asked.2 p hp
    have kept : ∀ b, p.state ≠ .deletingRow b := by
      intro b deleting
      rw [deleting] at point
      exact point
    obtain ⟨row, now⟩ := t.effect.row_stays kept present
    have next := h.step asked hp t
    refine ⟨next, row, now, issued.append [r], ?_⟩
    rw [issueIndex_append issued]
    obtain same | ⟨writer, upserting, rfl, effective⟩ := t.row_cases now
    · obtain rfl : row = old := Option.some.inj (same.symm.trans present)
      rwa [issueIndex_append (h.issued a row present)]
    · -- the row was written: the condition compares it with the one it replaced
      have carried : row.refreshToken ∈ p.state.carried := by
        rw [upserting]
        exact List.mem_cons_self
      rw [upserting] at point
      have ordered := point old present
      rw [effective] at ordered
      rw [issueIndex_append (h.carried p (List.mem_of_getElem? hp) _ carried).1]
      exact Nat.le_trans later ordered
  · exact fun d elapsed ⟨h, later⟩ _ => ⟨⟨h.issued, h.carried, h.replaced⟩, later⟩

theorem TokenPoint.posting_of_view {x : TokenPoint} {token : String}
    {resume : Except JsError TikTokRefreshResponse → TokenPoint}
    (hv : x.view = .awaits (.postRefresh token) resume) : x.posting = some token := by
  cases x with
  | postingRefresh k a row now => cases hv; rfl
  | timingActive k a active => cases k <;> cases hv
  | _ => cases hv

/-- The refresh that is about to replace a token awaits its upsert. -/
theorem Replaced.awaits {c : TokenConfig TokenPoint} {a token : String}
    (h : Replaced c.procs a token) :
    ∃ q fresh, tokenProtocol.Awaits c q (.upsertRow fresh) ∧ fresh.advertiserId = a ∧
      fresh.refreshToken ≠ token := by
  obtain ⟨q, ⟨entry, x⟩, hp, replaces⟩ := h
  obtain ⟨k, fresh, rfl, key, different⟩ := TokenPoint.replaces_iff.mp replaces
  exact ⟨q, fresh, ⟨_, _, hp, rfl⟩, key, different⟩

/-- Once a POST of a refresh token was answered with a different one, in a run that respects
rotation: the calls that await a POST of the old token awaited it then, and every row that ever
held it holds a token issued later, or is about to get one from its refresh. -/
theorem superseded_token_retired {time : Int} {before rest : List TokenAction}
    {b c : TokenConfig (TokenProg TokenResult)} {token : String}
    (h : tokenSystem.run (.initial (.fresh time)) before = some b)
    (hr : tokenSystem.run b rest = some c)
    (rotates : RotatesAlong (.initial (.fresh time)) (before ++ rest))
    (superseded : Superseded b.trace token) :
    (∀ q, tokenSystem.Awaits c q (.postRefresh token) →
      tokenSystem.Awaits b q (.postRefresh token) ∧ c.own q = b.own q) ∧
    ∀ first more e a held, before ++ rest = first ++ more →
      tokenSystem.run (.initial (.fresh time)) first = some e →
      e.world.rows.lookup a = some held → held.refreshToken = token →
      ∃ row, c.world.rows.lookup a = some row ∧
        (IssuedLater c.trace token row.refreshToken ∨
          row.refreshToken = token ∧ ∃ q fresh, tokenSystem.Awaits c q (.upsertRow fresh) ∧
            fresh.advertiserId = a ∧ fresh.refreshToken ≠ token) := by
  obtain ⟨b, hb, rfl⟩ := token_refines.lift (c := .initial (.fresh time)) h
  obtain ⟨c, hc, rfl⟩ := token_refines.lift hr
  have whole : tokenProtocol.run (.initial (.fresh time)) (before ++ rest) = some c := by
    simp [System.run_append, hb, hc]
  obtain ⟨earlier, later⟩ := System.Along.of_append rotates hb
  have final := rotating_run whole rotates
  refine ⟨fun q awaits => ?_, ?_⟩
  · obtain ⟨p, resume, hp, hv⟩ := token_refines.awaits.mp awaits
    obtain ⟨old, own⟩ := (rotating_run hb earlier).unposted hc later superseded hp
      (TokenPoint.posting_of_view hv)
    exact ⟨token_refines.awaits.mpr ⟨p, resume, old, hv⟩, own⟩
  · intro first more e a held split reached found same
    obtain ⟨e, he, rfl⟩ := token_refines.lift (c := .initial (.fresh time)) reached
    rw [split] at rotates whole
    obtain ⟨first_rotates, more_rotates⟩ := System.Along.of_append rotates he
    have rest_run : tokenProtocol.run e more = some c := by
      rw [System.run_append, he] at whole
      exact whole
    obtain ⟨row, now, issued, ordered⟩ :=
      (rotating_run he first_rotates).ordered rest_run more_rotates found
    rw [same] at issued ordered
    refine ⟨row, now, ?_⟩
    by_cases changed : row.refreshToken = token
    · have dead : Superseded c.trace row.refreshToken := by
        obtain ⟨r, hr, supersedes⟩ := superseded
        exact changed ▸ ⟨r, (System.run_trace hc).subset hr, supersedes⟩
      obtain ⟨q, fresh, awaits, key, different⟩ := (final.replaced a row now dead).awaits
      exact .inr ⟨changed, q, fresh, token_refines.awaits.mpr awaits, key, changed ▸ different⟩
    · have apart : issueIndex c.trace token ≠ issueIndex c.trace row.refreshToken :=
        fun equal => changed (issueIndex_inj issued equal).symm
      exact .inl ⟨Nat.lt_of_le_of_ne ordered apart, issued_iff.mp (final.issued a row now)⟩

/-! ## A token pair shared by two advertisers -/

namespace TokenSample

def renewal : TikTokRefreshResponse where
  code := 0
  message := "OK"
  data := { data with accessToken := "access-new", refreshToken := "refresh-new" }

/-- The refresh of one advertiser, from its start as call `pid` to its return. -/
def refreshing (pid : Nat) : List TokenAction :=
  [.start (.refreshAccessToken "adv-001"), .resume pid .ok, .resume pid .ok,
    .resume pid (.refreshed renewal 0), .resume pid .ok, .resume pid .ok]

def rotated : List TokenAction := granted .ok ++ refreshing 1

def refreshAgain : List TokenAction :=
  [.start (.refreshAccessToken "adv-001"), .resume 2 .ok, .resume 2 .ok]

/-- One grant fills the rows of two advertisers; the token of one is refreshed. -/
def rotatedShared : List TokenAction :=
  [.start (.exchangeAuthCode "code"),
    .resume 0 (.exchanged { grant with advertiserIds := ["adv-001", "adv-002"] } 0), .resume 0 .ok,
    .resume 0 .ok, .resume 0 .ok, .resume 0 .ok, .resume 0 .ok] ++ refreshing 1

def refreshOther : List TokenAction :=
  [.start (.refreshAccessToken "adv-002"), .resume 2 .ok, .resume 2 .ok]

end TokenSample

theorem superseded_token_retired_single :
    ∃ b c, tokenSystem.run (.initial (.fresh 0)) TokenSample.rotated = some b ∧
      tokenSystem.run b TokenSample.refreshAgain = some c ∧
      ∀ q, tokenSystem.Awaits c q (.postRefresh "refresh-xyz") →
        tokenSystem.Awaits b q (.postRefresh "refresh-xyz") := by
  let b := tokenSystem.result (.initial (.fresh 0)) TokenSample.rotated (by decide)
  let c := tokenSystem.result b TokenSample.refreshAgain (by decide)
  have h : tokenSystem.run (.initial (.fresh 0)) TokenSample.rotated = some b := System.run_result _
  have hr : tokenSystem.run b TokenSample.refreshAgain = some c := System.run_result _
  have superseded : Superseded b.trace "refresh-xyz" := by decide
  have retired := superseded_token_retired h hr (by decide) superseded
  exact ⟨b, c, h, hr, fun q awaits => (retired.1 q awaits).1⟩

/-- All calls have returned and the token is superseded; the other advertiser's row still holds
it, and its refresh posts it again. -/
theorem superseded_token_posted :
    ∃ b c, tokenSystem.run (.initial (.fresh 0)) TokenSample.rotatedShared = some b ∧
      tokenSystem.idle b = true ∧ Superseded b.trace "refresh-xyz" ∧
      (b.world.rows.lookup "adv-002").map StoredToken.refreshToken = some "refresh-xyz" ∧
      tokenSystem.run b TokenSample.refreshOther = some c ∧
      tokenSystem.Awaits c 2 (.postRefresh "refresh-xyz") :=
  ⟨_, _, System.run_result (by decide), rfl, by decide, rfl, System.run_result (by decide),
    ⟨_, _, rfl, rfl⟩⟩

end SalesforceTikTok
