import SalesforceTikTok.EventSet.Paging
import SalesforceTikTok.Server.Keyspace
import SalesforceTikTok.Server.Selection

/-!
# What an authorisation leaves of the event sets

The callback is given the event-set manager and does not use it: it works on the
state and the tokens, so it leaves every selection as it found it. An advertiser
it authorises has an active event set afterwards if it had one before.
-/

namespace SalesforceTikTok

open Concurrency Concurrency.System CRMEventSetManager

/-! ## Active event sets -/

/-- The advertiser's row names the set, and `resolve` returns it. -/
def CRMEventSetManager.Active (M : CRMEventSetManager) (w : EventSetWorld) (a id : String) :
    Prop :=
  w.selectId a = some id ∧
    ∀ pageSize, ∃ v, (M.resolve a).Comes (pagedRuntime pageSize) w (.ok id) v

structure EventSetWorld.Alike (w v : EventSetWorld) : Prop where
  rows : v.rows = w.rows
  sets : v.sets = w.sets
  copies : ∀ a, v.cache.lookup (cacheKey a) = w.cache.lookup (cacheKey a)

namespace EventSetWorld

variable {w u v : EventSetWorld}

theorem Alike.refl (w : EventSetWorld) : w.Alike w := ⟨rfl, rfl, fun _ => rfl⟩

theorem Alike.trans (h : w.Alike u) (h' : u.Alike v) : w.Alike v :=
  ⟨h'.rows.trans h.rows, h'.sets.trans h.sets, fun a => (h'.copies a).trans (h.copies a)⟩

theorem Alike.setsOf (h : w.Alike v) (a : String) : v.setsOf a = w.setsOf a := by
  rw [EventSetWorld.setsOf, EventSetWorld.setsOf, h.sets]

theorem Alike.selectId (h : w.Alike v) (a : String) : v.selectId a = w.selectId a := by
  rw [EventSetWorld.selectId, EventSetWorld.selectId, h.rows]

end EventSetWorld

section

variable {M : CRMEventSetManager} {pageSize : Nat} {w : EventSetWorld} {a id : String}

private theorem resolve_copied {cached : String}
    (copy : w.cache.get w.clock (cacheKey a) = some cached) (nonempty : cached ≠ "") :
    (M.resolve a).Comes (pagedRuntime pageSize) w (.ok cached) w := by
  have found : (fromCache a).Comes (pagedRuntime pageSize) w (.ok (some cached)) w := by
    refine .catch (.bind (plain_comes (fun _ => rfl) rfl) ?_)
    have kept : truthy (some cached) = true := decide_eq_true nonempty
    rw [copy, if_pos kept]
    exact fun _ _ => Iff.rfl
  exact .bind found fun _ _ => Iff.rfl

private theorem resolve_stored (row : w.selectId a = some id)
    (uncopied : ∀ cached, w.cache.get w.clock (cacheKey a) = some cached → cached = "") :
    (M.resolve a).Comes (pagedRuntime pageSize) w (.ok id)
      (w.cacheSet (cacheKey a) id EVENT_SET_CACHE_TTL) := by
  have missed : (fromCache a).Comes (pagedRuntime pageSize) w (.ok none) w := by
    refine .catch (.bind (plain_comes (fun _ => rfl) rfl) ?_)
    have falsy : ¬ truthy (w.cache.get w.clock (cacheKey a)) = true := by
      cases copy : w.cache.get w.clock (cacheKey a) with
      | none => nofun
      | some cached => simp [truthy, uncopied cached copy]
    rw [if_neg falsy]
    exact fun _ _ => Iff.rfl
  refine .bind missed (.bind (plain_comes (fun _ => rfl) rfl) ?_)
  rw [row]
  exact .bind (.catch (plain_comes (fun _ => rfl) rfl)) fun _ _ => Iff.rfl

private theorem active_iff : M.Active w a id ↔ w.selectId a = some id ∧
    ∀ cached, w.cache.get w.clock (cacheKey a) = some cached → cached = "" ∨ cached = id := by
  constructor
  · rintro ⟨row, resolves⟩
    refine ⟨row, fun cached copy => ?_⟩
    by_cases empty : cached = ""
    · exact .inl empty
    · obtain ⟨v, returned⟩ := resolves 0
      exact .inr (Except.ok.inj ((resolve_copied copy empty).unique returned).1)
  · rintro ⟨row, coherent⟩
    refine ⟨row, fun pageSize => ?_⟩
    by_cases copied : ∃ cached, w.cache.get w.clock (cacheKey a) = some cached ∧ cached ≠ ""
    · obtain ⟨cached, copy, nonempty⟩ := copied
      obtain rfl := (coherent cached copy).resolve_left nonempty
      exact ⟨w, resolve_copied copy nonempty⟩
    · refine ⟨_, resolve_stored row fun cached copy => ?_⟩
      by_contra nonempty
      exact copied ⟨cached, copy, nonempty⟩

theorem EventSetWorld.Alike.active {v : EventSetWorld} (alike : w.Alike v) :
    M.Active v a id ↔ M.Active { w with clock := v.clock } a id := by
  have copy : v.cache.get v.clock (cacheKey a) = w.cache.get v.clock (cacheKey a) := by
    rw [Storage.Expiring.get, Storage.Expiring.get, alike.copies a]
  rw [active_iff, active_iff, alike.selectId a, copy]
  rfl

end

/-! ## The callback -/

def ServerCmd.OfOAuth : ServerCmd → Prop
  | .token _ | .respond _ => True
  | .getDelState key => ∃ state, key = TokenStore.stateKey state
  | _ => False

theorem ServerCmd.OfOAuth.alike {S : Server} {cmd : ServerCmd} (h : cmd.OfOAuth)
    {choice : ServerChoice} {w v : ServerWorld} {reply : Except JsError cmd.Reply}
    (he : serverExec S.env S.copyText cmd choice w = some (reply, v)) :
    w.eventSet.Alike v.eventSet := by
  cases cmd with
  | token cmd =>
      cases choice with
      | token choice =>
          obtain ⟨answer, _, same⟩ := Option.map_eq_some_iff.mp he
          cases same
          exact .refl w.eventSet
      | _ => cases he
  | respond response =>
      cases choice with
      | ok => cases he; exact .refl _
      | _ => cases he
  | getDelState key =>
      obtain ⟨state, rfl⟩ := h
      have removed : w.eventSet.Alike (w.redisDel (TokenStore.stateKey state)).eventSet :=
        ⟨rfl, rfl, fun a => AList.lookup_erase_ne (stateKey_ne_eventSet state a).symm⟩
      obtain ⟨_, rfl⟩ | ⟨_, _, rfl | rfl⟩ := ServerChoice.apply_cases he
      · exact removed
      · exact .refl _
      · exact removed
  | _ => cases h

namespace Server

variable (S : Server)

private theorem respond_ofOAuth (response : HttpResponse) :
    (respond response).Within ServerCmd.OfOAuth fun _ => True :=
  .call trivial

private theorem exchange_ofOAuth (authCode : QueryValue) (stored : StoredState) :
    (S.exchange authCode stored).Within ServerCmd.OfOAuth fun _ => True := by
  have exchanged : (onTokens (TikTokOAuthClient.exchangeAuthCode (S.authCodeText authCode))).Within
      ServerCmd.OfOAuth fun _ => True :=
    (Prog.within_any _).handle fun cmd _ => Prog.within_call.mpr ⟨trivial, fun _ => trivial⟩
  exact .catch (.bind exchanged fun _ => respond_ofOAuth _) (fun _ => trivial)
    fun _ => respond_ofOAuth _

private theorem verify_ofOAuth (authCode state : QueryValue) (stored : Option StoredState) :
    (S.verify authCode state stored).Within ServerCmd.OfOAuth fun _ => True := by
  unfold verify
  split
  · exact respond_ofOAuth _
  · split
    · exact respond_ofOAuth _
    · exact S.exchange_ofOAuth authCode _

private theorem callback_ofOAuth (query : CallbackQuery) :
    (S.callback query).Within ServerCmd.OfOAuth fun _ => True := by
  rcases S.callback_cases query with ⟨_, response, same⟩ | ⟨authCode, state, _, same⟩
  · rw [same]
    exact respond_ofOAuth response
  · rw [same]
    cases read : state.toText with
    | error error =>
        rw [TokenStore.getAndDeleteState_unreadable read]
        trivial
    | ok text =>
        rw [TokenStore.getAndDeleteState_bind read]
        refine ⟨⟨text, rfl⟩, fun reply => ?_⟩
        cases reply with
        | error error => trivial
        | ok value => exact S.verify_ofOAuth authCode state (TokenStore.storedState value)

variable {S} {w : ServerWorld} {actions : List ServerAction} {c : ServerConfig}

/-- A call of a run that is a callback awaits commands of the OAuth routes. -/
theorem callback_awaits (h : S.system.run (.initial w) actions = some c) {pid : Nat}
    {p : Proc ServerCall (ServerProg Unit)} (hp : c.procs[pid]? = some p) {query : CallbackQuery}
    (entry : p.entry = .callback query) {cmd : ServerCmd}
    {resume : Except JsError cmd.Reply → ServerProg Unit}
    (hv : S.system.view p.state = .awaits cmd resume) : cmd.OfOAuth := by
  have program : ∀ lastReplayId, (S.program lastReplayId (.callback query)).Meets canAnswer
      (fun _ cmd => cmd.OfOAuth) (fun _ _ => True) [] := fun _ =>
    (S.callback_ofOAuth query).meets (fun _ _ _ asked => asked) fun _ _ _ _ => trivial
  exact (call_meets program h hp entry).1.awaited hv

/-- A run whose only call is a callback leaves the event sets alone. -/
theorem callback_alike (h : S.system.run (.initial w) actions = some c) {query : CallbackQuery}
    (alone : ∀ call ∈ c.entries, call = .callback query) :
    w.eventSet.Alike c.world.eventSet := by
  refine run_induction (fun _ c => (∀ call ∈ c.entries, call = .callback query) →
    w.eventSet.Alike c.world.eventSet) ?_ h (fun _ => .refl w.eventSet) alone
  intro taken d a d' hd alike hs alone
  have before : ∀ call ∈ d.entries, call = .callback query := by
    intro call mem
    obtain ⟨p, hp, rfl⟩ := List.mem_map.mp mem
    obtain ⟨pid, get⟩ := List.getElem?_of_mem hp
    obtain ⟨p', hp', same⟩ := step_entry hs get
    exact alone _ (List.mem_map.mpr ⟨p', List.mem_of_getElem? hp', same⟩)
  refine (alike before).trans ?_
  cases a with
  | start call =>
      obtain ⟨x, v, hl, rfl⟩ := step_start hs
      obtain ⟨u, he, same⟩ := Option.map_eq_some_iff.mp hl
      cases same
      have same : v.eventSet = d.world.eventSet := enter_eventSet he
      exact same ▸ .refl _
  | resume pid choice =>
      obtain ⟨p, cmd, resume, reply, v, hp, hv, he, rfl⟩ := step_resume hs
      have entry := before p.entry (List.mem_map.mpr ⟨p, List.mem_of_getElem? hp, rfl⟩)
      exact (callback_awaits hd hp entry hv).alike he
  | env event =>
      obtain ⟨v, he, rfl⟩ := step_env hs
      cases event with
      | tick elapsed => cases he; exact ⟨rfl, rfl, fun _ => rfl⟩
      | evict jobId =>
          obtain ⟨delivery, _, rfl⟩ := Option.map_eq_some_iff.mp he
          exact .refl _

/-- The advertisers are provisioned: those with at most one set at TikTok have an active one,
the others what they had selected before. -/
structure Provisioned (S : Server) (w v : EventSetWorld) (advertiserIds : List String) : Prop where
  active : ∀ a ∈ advertiserIds, (v.setsOf a).length ≤ 1 → ∃ id, S.manager.Active v a id
  kept : ∀ a ∈ advertiserIds, 2 ≤ (v.setsOf a).length → v.rows.lookup a = w.rows.lookup a ∧
    v.cache.lookup (cacheKey a) = w.cache.lookup (cacheKey a)

/-- A callback that answers success has provisioned the advertisers it names if and only if
those with at most one set at TikTok had an active event set before. -/
theorem authorisation_provisions_iff (h : S.system.run (.initial w) actions = some c)
    {query : CallbackQuery} (alone : c.entries = [.callback query]) {stored : StoredState}
    {advertiserIds : List String}
    (_succeeded : ⟨.respond (authorized stored advertiserIds), .ok ()⟩ ∈
      (c.own 0).map Record.answer) :
    S.Provisioned w.eventSet c.world.eventSet advertiserIds ↔
      ∀ a ∈ advertiserIds, (w.eventSet.setsOf a).length ≤ 1 →
        ∃ id, S.manager.Active { w.eventSet with clock := c.world.eventSet.clock } a id := by
  have alike : w.eventSet.Alike c.world.eventSet :=
    callback_alike h fun call mem => by simpa [alone] using mem
  constructor
  · intro provisioned a mem few
    obtain ⟨id, active⟩ := provisioned.active a mem (by rwa [alike.setsOf])
    exact ⟨id, alike.active.mp active⟩
  · intro before
    refine ⟨fun a mem few => ?_, fun a _ _ => ⟨by rw [alike.rows], alike.copies a⟩⟩
    obtain ⟨id, active⟩ := before a mem (by rwa [← alike.setsOf])
    exact ⟨id, alike.active.mpr active⟩

end Server

namespace ServerSample

def authorising : List ServerAction :=
  [.start (.callback query), .resume 0 .ok, .resume 0 (.token (.exchanged TokenSample.grant 0)),
    .resume 0 (.token .ok), .resume 0 (.token .ok), .resume 0 (.token .ok), .resume 0 .ok]

def issued (eventSet : EventSetWorld) : ServerWorld :=
  { (after issuing (by decide)).world with eventSet := eventSet }

def selectedEarlier : EventSetWorld :=
  (EventSetWorld.fresh 0).upsertSet ⟨"adv-001", "es-1", "Leads", .manuallySelected⟩

end ServerSample

open ServerSample in
theorem authorisation_provisions_reauthorised :
    let c := server.system.result (.initial (issued selectedEarlier)) authorising (by decide)
    server.Provisioned selectedEarlier c.world.eventSet ["adv-001"] := by
  intro c
  have succeeded : ⟨.respond (Server.authorized { value := "state-token" } ["adv-001"]), .ok ()⟩ ∈
      (c.own 0).map Record.answer := List.mem_of_getLast? rfl
  refine (Server.authorisation_provisions_iff (run_result _) rfl succeeded).mpr fun a mem _ => ?_
  obtain rfl := List.mem_singleton.mp mem
  refine ⟨"es-1", active_iff.mpr ⟨rfl, fun cached copy => ?_⟩⟩
  cases copy

open ServerSample in
/-- The advertiser has no event set at TikTok, is authorised, and has none afterwards. -/
theorem authorised_unprovisioned :
    let c := server.system.result (.initial (issued (.fresh 0))) authorising (by decide)
    ⟨.respond (Server.authorized { value := "state-token" } ["adv-001"]), .ok ()⟩ ∈
        (c.own 0).map Record.answer ∧
      c.world.eventSet.setsOf "adv-001" = [] ∧
        ¬ server.Provisioned (.fresh 0) c.world.eventSet ["adv-001"] := by
  intro c
  refine ⟨List.mem_of_getLast? rfl, rfl, fun provisioned => ?_⟩
  obtain ⟨id, row, _⟩ := provisioned.active "adv-001" List.mem_cons_self (by decide)
  cases row

end SalesforceTikTok
