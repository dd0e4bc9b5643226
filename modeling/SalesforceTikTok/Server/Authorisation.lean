import SalesforceTikTok.Concurrency.Solo
import SalesforceTikTok.Server.StateTokens

/-!
# Which token authorises a delivery

`getValidToken` returns a token that the token store holds for the advertiser, or
a fresh one when that token is about to expire. The API clients of the server do
not call it: they were constructed without a token resolver, so every event is
posted with the static token, whatever the token store holds.
-/

namespace SalesforceTikTok

open Concurrency Concurrency.System

/-! ## What `getValidToken` returns -/

namespace TokenWorld

/-- What a lookup can find for an advertiser: the live copy, or the active row. -/
def Holds (w : TokenWorld) (a : String) (active : ActiveToken) : Prop :=
  w.cache.get w.clock (TokenStore.cacheKey a) = some active ∨
    ∃ row, w.selectActive a = some row ∧ active = row.active

def HasUnexpired (w : TokenWorld) (a : String) : Prop :=
  ∃ active, w.Holds a active ∧ w.clock < active.expiresAt

end TokenWorld

/-- Started in this world and not interrupted, `getValidToken` can return this token. -/
def ReturnsValid (w : TokenWorld) (a token : String) : Prop :=
  ∃ v, (TikTokOAuthClient.getValidToken a).Yields tokenRuntime (.ok token) v w

/-- That is, a call of `getValidToken` which is resumed alone can end with this token. -/
theorem returnsValid_iff (c : TokenConfig (TokenProg TokenResult)) (a token : String) :
    ReturnsValid c.world a token ↔ ∃ (choices : List TokenChoice)
      (d : TokenConfig (TokenProg TokenResult)),
      tokenSystem.run c (.start (.getValidToken a) ::
        choices.map fun choice => .resume c.procs.length choice) = some d ∧
      tokenSystem.Ended d c.procs.length (.ok (.accessToken token)) := by
  let started : TokenConfig (TokenProg TokenResult) :=
    ⟨c.world, c.procs ++ [⟨.getValidToken a, TokenCall.program (.getValidToken a)⟩], c.trace⟩
  have hp : started.procs[c.procs.length]? =
      some ⟨.getValidToken a, TokenCall.program (.getValidToken a)⟩ := List.getElem?_concat_length
  have result (v : TokenWorld) : (TokenCall.program (.getValidToken a)).Yields tokenRuntime
      (.ok (.accessToken token)) v c.world ↔
      (TikTokOAuthClient.getValidToken a).Yields tokenRuntime (.ok token) v c.world := by
    refine Prog.yields_bind.trans ⟨?_, fun returned => .inl ⟨token, v, returned, rfl, rfl⟩⟩
    rintro (⟨value, u, returned, same, rfl⟩ | ⟨error, _, lost⟩)
    · cases same
      exact returned
    · cases lost
  constructor
  · rintro ⟨v, returned⟩
    obtain ⟨choices, d, run, ended, _⟩ :=
      (run_solo (S := tokenSystem) rfl hp).mp ((result v).mpr returned)
    exact ⟨choices, d, run, ended⟩
  · rintro ⟨choices, d, run, ended⟩
    exact ⟨d.world, (result _).mp ((run_solo rfl hp).mpr ⟨choices, d, run, ended, rfl⟩)⟩

section

variable {a : String} {w v : TokenWorld}

private theorem yields_now {outcome : Except JsError Int}
    (h : (authorize .now).Yields tokenRuntime outcome v w) : outcome = .ok w.clock ∧ v = w := by
  obtain ⟨choice, he⟩ := Prog.yields_call.mp h
  cases choice <;> cases he
  exact ⟨rfl, rfl⟩

private theorem fromCopy_yields {token : ActiveToken}
    {outcome : Except JsError (Option ActiveToken)}
    (h : (TokenStore.fromCopy a token).Yields tokenRuntime outcome v w) :
    v.clock = w.clock ∧ v.rows = w.rows ∧ (outcome = .ok (some token) ∨
      outcome = .ok none ∨ ∃ error, outcome = .error error) := by
  rcases Prog.yields_bind.mp h with ⟨now, u, timed, rest⟩ | ⟨error, timed, _⟩
  · obtain ⟨_, rfl⟩ := yields_now timed
    split at rest
    · have dropped {reply : Except JsError Unit} {v : TokenWorld}
          (h : (authorize (.cacheDel (TokenStore.cacheKey a))).Yields tokenRuntime reply v u) :
          v.clock = u.clock ∧ v.rows = u.rows := by
        obtain ⟨choice, he⟩ := Prog.yields_call.mp h
        rcases TokenChoice.apply_effect he with rfl | rfl <;> exact ⟨rfl, rfl⟩
      rcases Prog.yields_bind.mp rest with ⟨_, u', del, rfl, rfl⟩ | ⟨error, del, rfl⟩
      · exact ⟨(dropped del).1, (dropped del).2, .inr (.inl rfl)⟩
      · exact ⟨(dropped del).1, (dropped del).2, .inr (.inr ⟨error, rfl⟩)⟩
    · obtain ⟨rfl, rfl⟩ := rest
      exact ⟨rfl, rfl, .inl rfl⟩
  · cases (yields_now timed).1

private theorem readCopy_yields {next : Option ActiveToken → TokenProg (Option ActiveToken)}
    {outcome : Except JsError (Option ActiveToken)}
    (h : (authorize (.cacheGet (TokenStore.cacheKey a)) >>= next).Yields tokenRuntime outcome v w)
    (missing : next none = pure none)
    (present : ∀ token, next (some token) = TokenStore.fromCopy a token) :
    v.clock = w.clock ∧ v.rows = w.rows ∧ (outcome = .ok none ∨
      outcome = .ok (w.cache.get w.clock (TokenStore.cacheKey a)) ∨
        ∃ error, outcome = .error error) := by
  rcases Prog.yields_bind.mp h with ⟨raw, u, read, rest⟩ | ⟨error, read, rfl⟩
  · obtain ⟨choice, he⟩ := Prog.yields_call.mp read
    obtain ⟨rfl, ⟨_, same⟩ | ⟨error, lost, _⟩⟩ := TokenChoice.apply_read he
    · cases same
      cases copy : u.cache.get u.clock (TokenStore.cacheKey a) with
      | none =>
          rw [copy, missing] at rest
          obtain ⟨rfl, rfl⟩ := rest
          exact ⟨rfl, rfl, .inl rfl⟩
      | some token =>
          rw [copy, present] at rest
          obtain ⟨clock, rows, found | none | lost⟩ := fromCopy_yields rest
          · exact ⟨clock, rows, .inr (.inl found)⟩
          · exact ⟨clock, rows, .inl none⟩
          · exact ⟨clock, rows, .inr (.inr lost)⟩
    · cases lost
  · obtain ⟨choice, he⟩ := Prog.yields_call.mp read
    obtain ⟨rfl, _⟩ := TokenChoice.apply_read he
    exact ⟨rfl, rfl, .inr (.inr ⟨error, rfl⟩)⟩

private theorem getFromCache_yields {found : Option ActiveToken}
    (h : (TokenStore.getFromCache a).Yields tokenRuntime (.ok found) v w) :
    v.clock = w.clock ∧ v.rows = w.rows ∧ (found = none ∨
      w.cache.get w.clock (TokenStore.cacheKey a) = found) := by
  rcases Prog.yields_catch.mp h with ⟨value, tried, same⟩ | ⟨error, u, tried, same, rfl⟩
  · cases same
    obtain ⟨clock, rows, none | got | ⟨error, lost⟩⟩ := readCopy_yields tried rfl fun _ => rfl
    · exact ⟨clock, rows, .inl (Except.ok.inj none)⟩
    · exact ⟨clock, rows, .inr (Except.ok.inj got).symm⟩
    · cases lost
  · cases same
    obtain ⟨clock, rows, _⟩ := readCopy_yields tried rfl fun _ => rfl
    exact ⟨clock, rows, .inl rfl⟩

/-- A row in hand is returned, whatever becomes of its copy. -/
theorem fromRow_yields {row : StoredToken} {active : ActiveToken}
    (h : (do
      let now : Int ← authorize .now
      if now < row.accessTokenExpiresAt then
        TokenStore.cacheToken row
      return some row.active : TokenProg (Option ActiveToken)).Yields tokenRuntime
        (.ok (some active)) v w) : active = row.active := by
  let Same : Except JsError (Option ActiveToken) → Prop
    | .ok found => found = some row.active
    | .error _ => True
  have same := h.ends (P := fun _ => True) (Q := Same) ?_
  · exact Option.some.inj same
  · refine Prog.within_bind.mpr ((Prog.within_any _).imp (fun _ => id) fun timed _ => ?_)
    cases timed with
    | error error => trivial
    | ok now =>
        simp only
        split
        · refine Prog.within_bind.mpr ((Prog.within_any _).imp (fun _ => id) fun outcome _ => ?_)
          cases outcome with
          | error error => trivial
          | ok _ => rfl
        · rfl

/-- What `getActiveToken` returns is a live copy or an active row. -/
theorem getActiveToken_yields {found : Option ActiveToken}
    (h : (TokenStore.getActiveToken a).Yields tokenRuntime (.ok found) v w) :
    v.clock = w.clock ∧ ∀ active, found = some active → w.Holds a active := by
  have clock : v.clock = w.clock := by
    refine h.kept (Prog.within_any _) TokenWorld.clock fun cmd choice w reply v _ he => ?_
    exact (tokenExec_key he).1
  refine ⟨clock, ?_⟩
  rintro active rfl
  rcases Prog.yields_bind.mp h with ⟨cached, u, read, rest⟩ | ⟨error, _, lost⟩
  · obtain ⟨clock, rows, copy⟩ := getFromCache_yields read
    cases cached with
    | some cached =>
        obtain ⟨same, rfl⟩ := rest
        cases same
        rcases copy with none | copy
        · cases none
        · exact .inl copy
    | none =>
        rcases Prog.yields_bind.mp rest with ⟨selected, u', select, rest⟩ | ⟨error, _, lost⟩
        · obtain ⟨choice, he⟩ := Prog.yields_call.mp select
          obtain ⟨rfl, ⟨_, same⟩ | ⟨error, lost, _⟩⟩ := TokenChoice.apply_read he
          · cases same
            have row : u'.selectActive a = w.selectActive a := by
              rw [TokenWorld.selectActive, TokenWorld.selectActive, clock, rows]
            rw [row] at rest
            cases stored : w.selectActive a with
            | none =>
                rw [stored] at rest
                cases rest.1
            | some row =>
                rw [stored] at rest
                exact .inr ⟨row, stored, fromRow_yields rest⟩
          · cases lost
        · cases lost
  · cases lost

/-- The token of `getValidToken` is a held one, unless that expires within the hour. -/
theorem getValidToken_yields {token : String}
    (h : (TikTokOAuthClient.getValidToken a).Yields tokenRuntime (.ok token) v w) :
    ∃ active, w.Holds a active ∧ (token = active.accessToken ∨
      active.expiresAt ≤ w.clock + ONE_HOUR) := by
  rcases Prog.yields_bind.mp h with ⟨found, u, lookup, rest⟩ | ⟨error, _, lost⟩
  · obtain ⟨clock, held⟩ := getActiveToken_yields lookup
    cases found with
    | none => cases rest.1
    | some active =>
        refine ⟨active, held active rfl, ?_⟩
        rcases Prog.yields_bind.mp rest with ⟨now, u', timed, rest⟩ | ⟨error, _, lost⟩
        · obtain ⟨same, rfl⟩ := yields_now timed
          cases same
          split at rest
          · next expiring => exact .inr (clock ▸ expiring)
          · exact .inl (Except.ok.inj rest.1)
        · cases lost
  · cases lost

end

/-! ## What a delivery carries -/

/-- The payload carries an event of this advertiser. By default the campaign id is the
advertiser id. -/
def TikTokEventsPayload.Concerns (payload : TikTokEventsPayload) (a : String) : Prop :=
  ∃ event ∈ payload.data, event.properties.campaignId = some a ∧ a ≠ ""

/-- The payload of a lead event concerns the advertiser its lead names. -/
theorem Pipeline.delivery_concerns (P : Pipeline) (cdcEvent : SalesforceCDCEvent)
    (lead : SalesforceLead) (eventName : TikTokEventName) (eventSetId : Option String)
    (eventTime : JsNumber) (a : String) :
    (P.delivery cdcEvent lead eventName eventSetId eventTime).payload.Concerns a ↔
      lead.campaign = some a ∧ a ≠ "" := by
  constructor
  · rintro ⟨event, mem, named⟩
    obtain rfl := List.mem_singleton.mp mem
    exact named
  · exact fun named => ⟨_, List.mem_singleton_self _, named⟩

/-- The token authorises a delivery for the advertiser: where the token store has an unexpired
token, it is one that `getValidToken` returns, and it is the static one only where there is
none. -/
def AuthorisedFor (env : Env) (w : TokenWorld) (a token : String) : Prop :=
  (w.HasUnexpired a → ReturnsValid w a token) ∧
    (TikTokAPIClient.staticToken env = .ok token → ¬ w.HasUnexpired a)

/-- Whoever posts, the pipeline or the retry worker, posts with the static token: it is
authorised exactly for advertisers without an unexpired OAuth token. -/
theorem authorised_iff {S : Server} {w : ServerWorld} {actions : List ServerAction}
    {c : ServerConfig} (h : S.system.run (.initial w) actions = some c) {pid : Nat}
    {payload : TikTokEventsPayload} {token : String}
    (posting : S.system.Awaits c pid (.delivery (.postEvents payload token))) :
    TikTokAPIClient.staticToken S.env = .ok token ∧ ∀ a, payload.Concerns a →
      (AuthorisedFor S.env c.world.token a token ↔ ¬ c.world.token.HasUnexpired a) := by
  obtain ⟨p, resume, hp, hv⟩ := posting
  have static : TikTokAPIClient.staticToken S.env = .ok token := Server.awaits_asked h hp hv
  refine ⟨static, fun a _ => ⟨fun authorised => authorised.2 static, fun none => ?_⟩⟩
  exact ⟨fun held => absurd held none, fun _ => none⟩

namespace ServerSample

def leadCreated : RawMessage :=
  .object (some { changeEventHeader := some Sample.cdcEvent.payload.changeEventHeader })
    (some Sample.cdcEvent.replayId)

def lead : SalesforceLead where
  id := "lead-001"
  status := "Qualified"
  createdDate := "2024-01-01T00:00:00Z"
  campaign := some "adv-001"

def delivering (pid : Nat) : List ServerAction :=
  [.start (.message leadCreated), .resume pid (.listener (.retrieved (some lead))),
    .resume pid (.eventSet .ok), .resume pid (.eventSet .ok), .resume pid (.delivery .ok),
    .resume pid (.delivery .ok), .resume pid (.delivery .ok)]

def granting : List ServerAction :=
  returning ++ [.resume 1 .ok, .resume 1 (.token (.exchanged TokenSample.grant 0)),
    .resume 1 (.token .ok), .resume 1 (.token .ok), .resume 1 (.token .ok), .resume 1 .ok]

def posted : TikTokEventsPayload :=
  (server.pipeline.delivery Sample.cdcEvent lead (.standard .submitForm) none
    (.int 1710496800)).payload

private theorem posted_concerns : posted.Concerns "adv-001" :=
  (Pipeline.delivery_concerns _ _ _ _ _ _ _).mpr ⟨rfl, by decide⟩

private theorem fresh_unheld (clock : Int) (a : String) : ¬
    (TokenWorld.fresh clock).HasUnexpired a := by
  rintro ⟨active, copy | ⟨row, selected, _⟩, _⟩
  · simp [TokenWorld.fresh, Storage.Expiring.get] at copy
  · simp [TokenWorld.fresh, TokenWorld.selectActive] at selected

end ServerSample

open ServerSample in
theorem authorised_without_grant :
    let c := after (delivering 0) (by decide)
    server.system.Awaits c 0 (.delivery (.postEvents posted "test-token")) ∧
      AuthorisedFor server.env c.world.token "adv-001" "test-token" := by
  intro c
  have posting : server.system.Awaits c 0 (.delivery (.postEvents posted "test-token")) :=
    ⟨_, _, rfl, rfl⟩
  refine ⟨posting, ((authorised_iff (run_result _) posting).2 "adv-001" posted_concerns).mpr ?_⟩
  exact fresh_unheld 0 "adv-001"

open ServerSample in
/-- The advertiser's token was stored just now, and the POST carries the static one. -/
theorem granted_token_unused :
    let c := after (granting ++ delivering 2) (by decide)
    server.system.Awaits c 2 (.delivery (.postEvents posted "test-token")) ∧
      posted.Concerns "adv-001" ∧ c.world.token.HasUnexpired "adv-001" ∧
      ¬ ReturnsValid c.world.token "adv-001" "test-token" := by
  intro c
  have copy : c.world.token.cache.get c.world.token.clock (TokenStore.cacheKey "adv-001") =
      some ⟨"access-abc", "adv-001", 86400000⟩ := by decide
  have row : (c.world.token.selectActive "adv-001").map StoredToken.active =
      some ⟨"access-abc", "adv-001", 86400000⟩ := by decide
  have clock : c.world.token.clock = 0 := rfl
  have held (active : ActiveToken) (h : c.world.token.Holds "adv-001" active) :
      active = ⟨"access-abc", "adv-001", 86400000⟩ := by
    rcases h with copied | ⟨stored, selected, rfl⟩
    · exact Option.some.inj (copied.symm.trans copy)
    · rw [selected] at row
      exact Option.some.inj row
  refine ⟨⟨_, _, rfl, rfl⟩, posted_concerns, ⟨_, .inl copy, by rw [clock]; decide⟩, ?_⟩
  rintro ⟨v, returned⟩
  obtain ⟨active, holds, same | expiring⟩ := getValidToken_yields returned
  · rw [held active holds] at same
    exact absurd same (by decide)
  · rw [held active holds, clock] at expiring
    exact absurd expiring (by decide)

end SalesforceTikTok
