import SalesforceTikTok.Server.StateTokens

/-!
# Which client a state belongs to

The callback compares the state it received with the value found under that very
state, so every state that Redis holds passes, whichever client it was issued to.
Clients are a labelling of the calls; the server does not see it.
-/

namespace SalesforceTikTok

open Concurrency Concurrency.System
open TokenStore (stateKey)

/-! ## What a key holds -/

namespace Server

variable {S : Server} {w : ServerWorld} {actions : List ServerAction} {c : ServerConfig}

private theorem run_keyed (h : S.system.run (.initial w) actions = some c)
    (unissued : ∀ state, w.redisGet S.copyText (stateKey state) = none) :
    c.world.Apart ∧ ∀ state value expiry, c.world.Live state value expiry → value = state := by
  refine run_induction (fun _ c => c.world.Apart ∧
    ∀ state value expiry, c.world.Live state value expiry → value = state) ?_ h ?_
  · rintro taken d a d' hd ⟨apart, keyed⟩ hs
    cases a with
    | start call =>
        obtain ⟨x, v, hl, rfl⟩ := step_start hs
        obtain ⟨v', entered, same⟩ := Option.map_eq_some_iff.mp hl
        cases same
        obtain ⟨apart', live⟩ := ServerWorld.enter_states entered apart
        exact ⟨apart', fun state value expiry held => keyed _ _ _ (live state value expiry held)⟩
    | env event =>
        obtain ⟨v, he, rfl⟩ := step_env hs
        obtain ⟨apart', live⟩ := ServerWorld.env_states he apart
        exact ⟨apart', fun state value expiry held => keyed _ _ _ (live state value expiry held)⟩
    | resume pid choice =>
        obtain ⟨p, cmd, resume, reply, v, hp, hv, he, rfl⟩ := step_resume hs
        have asked := awaits_asked hd hp hv
        obtain ⟨apart', live⟩ := exec_states asked he apart
        refine ⟨apart', fun state value expiry held => ?_⟩
        by_cases stores : ∃ text ttl, cmd = .setState (stateKey state) text ttl
        · obtain ⟨text, ttl, rfl⟩ := stores
          obtain ⟨_, _, key, _⟩ := asked
          obtain rfl := stateKey_inj.mp key
          obtain ⟨_, rfl⟩ | ⟨_, _, rfl | rfl⟩ := ServerChoice.apply_cases he
          · exact (ServerWorld.live_of_redisSet held).1
          · exact keyed _ _ _ held
          · exact (ServerWorld.live_of_redisSet held).1
        · exact keyed _ _ _ (live state (fun text ttl same => stores ⟨text, ttl, same⟩)
            value expiry held)
  · obtain ⟨apart, free⟩ := ServerWorld.apart_of_unissued unissued
    exact ⟨apart, fun state value expiry held =>
      absurd held (ServerWorld.not_live_of_get (free state) value expiry)⟩

theorem run_unanswered (h : S.system.run (.initial w) actions = some c) {pid : Nat}
    {p : Proc ServerCall (ServerProg Unit)} (hp : c.procs[pid]? = some p)
    (unanswered : c.own pid = []) : ∃ lastReplayId, p.state = S.program lastReplayId p.entry := by
  refine run_own (fun _ => True) (fun entry x history => history = [] →
    ∃ lastReplayId, x = S.program lastReplayId entry) ?_ ?_ h (fun _ _ => trivial) hp unanswered
  · intro entry w x w' launched _
    exact ⟨_, S.launch_program launched⟩
  · intro entry x history cmd resume pid choice reply w w' _ _ _ _ none
    simp at none

end Server

/-! ## The lookup of a state -/

/-- The state was issued in the answer to request `pid`. -/
def IssuedTo (S : Server) (c : ServerConfig) (pid : Nat) (state : String) : Prop :=
  (∃ p, c.procs[pid]? = some p ∧ p.entry = .initiate) ∧
    ⟨.randomState, .ok state⟩ ∈ (c.own pid).map Record.answer ∧
      ⟨.respond (.redirect (S.authorizationUrl state)), .ok ()⟩ ∈ (c.own pid).map Record.answer

/-- Redis answers a callback whose query carries this text as its state, and holds the state. -/
def LooksUp (S : Server) (c : ServerConfig) (a : ServerAction) (pid : Nat) (state : String) :
    Prop :=
  a = .resume pid .ok ∧
    (∃ p query, c.procs[pid]? = some p ∧ p.entry = .callback query ∧
      query.state = some (.text state)) ∧
    S.system.Awaits c pid (.getDelState (stateKey state)) ∧
      (c.world.redisGet S.copyText (stateKey state)).isSome = true

section

variable {S : Server} {w : ServerWorld} {actions : List ServerAction} {c c' : ServerConfig}
  {a : ServerAction} {pid : Nat} {state : String}

/-- A state that was looked up as a text is the state of the query. -/
theorem text_of_asked {query : CallbackQuery} {history : List ServerAnswer}
    (asked : S.Asks (.callback query) history (.getDelState (stateKey state)))
    (carried : query.state = some (.text state)) :
    query.lookedUp = some (.text state) ∧ history = [] ∧ state ≠ "" := by
  obtain ⟨query', found, text, same, none, looked, read, key⟩ := asked
  cases same
  have here := CallbackQuery.state_of_lookedUp looked
  rw [carried] at here
  cases here
  refine ⟨looked, none, ?_⟩
  rintro rfl
  unfold CallbackQuery.lookedUp at looked
  rw [carried] at looked
  split at looked
  · cases looked
  · split at looked <;> cases looked

private theorem verify_awaits (S : Server) (authCode : QueryValue) (nonempty : state ≠ "") :
    ∃ text resume, S.system.view (S.verify authCode (.text state)
      (TokenStore.storedState (some state))) = .awaits (.token (.postExchange text)) resume := by
  have stored : TokenStore.storedState (some state) = some { value := state } := if_neg nonempty
  have verified : S.verify authCode (.text state) (some { value := state }) =
      S.exchange authCode { value := state } := by
    simp [Server.verify, Server.verifyState]
  rw [stored, verified]
  exact ⟨_, _, rfl⟩

theorem LooksUp.reaches (h : S.system.run (.initial w) actions = some c)
    (unissued : ∀ state, w.redisGet S.copyText (stateKey state) = none)
    (lookup : LooksUp S c a pid state) (hs : S.system.step c a = some c') :
    ReachesExchange S c' pid state ∧ ¬ ReachesExchange S c pid state := by
  obtain ⟨rfl, ⟨p, query, hp, entry, carried⟩, ⟨q, resume, hq, hv⟩, held⟩ := lookup
  obtain rfl : p = q := by simpa [hp] using hq
  have asked := Server.awaits_asked h hp hv
  rw [entry] at asked
  obtain ⟨looked, unanswered, nonempty⟩ := text_of_asked asked carried
  rw [List.map_eq_nil_iff] at unanswered
  obtain ⟨lastReplayId, start⟩ := Server.run_unanswered h hp unanswered
  -- the callback is still at its lookup, and what it finds is the state itself
  obtain ⟨value, found⟩ := Option.isSome_iff_exists.mp held
  obtain ⟨apart, keyed⟩ := Server.run_keyed h unissued
  obtain rfl : value = state := by
    rw [ServerWorld.redisGet_of_apart apart] at found
    obtain ⟨expiry, live⟩ := Storage.Expiring.get_eq_some.mp found
    exact keyed _ _ expiry live
  obtain ⟨p', cmd, resume', reply, v, hp', hv', he, rfl⟩ := step_resume hs
  obtain rfl : p = p' := by simpa [hp] using hp'
  rw [hv] at hv'
  cases hv'
  cases he
  rw [found]
  rcases S.callback_cases query with ⟨none, _⟩ | ⟨authCode, found', looked', program⟩
  · rw [looked] at none
    cases none
  · rw [looked] at looked'
    cases looked'
    rw [entry] at start
    change p.state = S.callback query at start
    rw [start, program, TokenStore.getAndDeleteState_bind rfl] at hv
    cases hv
    have bound : pid < c.procs.length := (List.getElem?_eq_some_iff.mp hp).1
    obtain ⟨text, resume, next⟩ := verify_awaits S authCode nonempty
    refine ⟨⟨_, query, .text value, text, List.getElem?_set_self bound, entry, carried, rfl, _,
      resume, List.getElem?_set_self bound, next⟩, ?_⟩
    rintro ⟨_, _, _, _, _, _, _, _, q, _, hq, other⟩
    obtain rfl : p = q := by simpa [hp] using hq
    rw [start, program, TokenStore.getAndDeleteState_bind rfl] at other
    cases other

theorem LooksUp.of_reaching (h : S.system.run (.initial w) actions = some c)
    (hs : S.system.step c a = some c') (reached : ReachesExchange S c' pid state)
    (new : ¬ ReachesExchange S c pid state) : LooksUp S c a pid state := by
  have h' : S.system.run (.initial w) (actions ++ [a]) = some c' := by
    rw [run_append, h]
    simp [System.run, hs]
  obtain ⟨choice, value, rfl, awaited, he⟩ := reaching_step h hs reached new
  have answered : choice = .ok ∧ c.world.redisGet S.copyText (stateKey state) = some value := by
    cases choice with
    | ok => exact ⟨rfl, Except.ok.inj (congrArg Prod.fst (Option.some.inj he))⟩
    | _ => cases he
  obtain ⟨p, query, found, authCode, hp, entry, carried, read, q, resume, hq, hv⟩ := reached
  obtain rfl : p = q := by simpa [hp] using hq
  -- the exchange follows the lookup of a text
  have asked := Server.awaits_asked h' hp hv
  obtain ⟨query', text, _, entry', looked, _⟩ := asked
  rw [entry] at entry'
  cases entry'
  rw [CallbackQuery.state_of_lookedUp looked] at carried
  cases carried
  cases read
  obtain ⟨p', resume', hp', hv'⟩ := awaited
  obtain ⟨p'', same, entries⟩ := step_entry hs hp'
  obtain rfl : p = p'' := by simpa [hp] using same
  exact ⟨by rw [answered.1], ⟨p', query, hp', by rw [← entries, entry],
    CallbackQuery.state_of_lookedUp looked⟩, ⟨p', resume', hp', hv'⟩, by rw [answered.2]; rfl⟩

/-- In a run that starts before any state was issued, no callback comes to the exchange with a
state of another client if and only if no callback is looked up with one that Redis holds. -/
theorem csrf_binding_iff (h : S.system.run (.initial w) actions = some c)
    (unissued : ∀ state, w.redisGet S.copyText (stateKey state) = none) {Client : Type}
    (client : Nat → Client) :
    (∀ first a rest d d', actions = first ++ a :: rest →
      S.system.run (.initial w) first = some d → S.system.step d a = some d' →
        ∀ pid state, ¬ ReachesExchange S d pid state → ReachesExchange S d' pid state →
          ∀ q, IssuedTo S d q state → client q = client pid) ↔
    ∀ first a rest d, actions = first ++ a :: rest → S.system.run (.initial w) first = some d →
      ∀ pid state, LooksUp S d a pid state → ∀ q, IssuedTo S d q state → client q = client pid := by
  constructor
  · intro bound first a rest d split hd pid state lookup q issued
    rw [split, run_append, hd] at h
    obtain ⟨d', hs, _⟩ := run_cons h
    obtain ⟨reached, new⟩ := lookup.reaches hd unissued hs
    exact bound first a rest d d' split hd hs pid state new reached q issued
  · intro own first a rest d d' split hd hs pid state new reached q issued
    have lookup := LooksUp.of_reaching hd hs reached new
    exact own first a rest d split hd pid state lookup q issued

end

namespace ServerSample

def client (pid : Nat) : String := if pid < 2 then "alice" else "mallory"

end ServerSample

open ServerSample in
/-- The client who asked for the state comes back, and comes to the exchange. -/
theorem csrf_binding_returning :
    ReachesExchange server (after (returning ++ [.resume 1 .ok]) (by decide)) 1 "state-token" ∧
    ∀ first a rest d d', returning ++ [.resume 1 .ok] = first ++ a :: rest →
      server.system.run (.initial (.fresh 0)) first = some d → server.system.step d a = some d' →
        ∀ pid state, ¬ ReachesExchange server d pid state → ReachesExchange server d' pid state →
          ∀ q, IssuedTo server d q state → client q = client pid := by
  refine ⟨⟨_, query, .text "state-token", "auth-code", rfl, rfl, rfl, rfl, _, _, rfl, rfl⟩, ?_⟩
  obtain ⟨c, two, h⟩ : ∃ c, c.procs.length = 2 ∧
      server.system.run (.initial (.fresh 0)) (returning ++ [.resume 1 .ok]) = some c :=
    ⟨after (returning ++ [.resume 1 .ok]) (by decide), rfl, run_result _⟩
  refine (csrf_binding_iff h fresh_unissued client).mpr ?_
  rintro first a rest d split hd pid state ⟨_, ⟨p, _, hp, _⟩, _⟩ q ⟨⟨issuer, hq, _⟩, _⟩
  -- the run has two calls
  have known {pid : Nat} {p : Proc ServerCall (ServerProg Unit)} (hp : d.procs[pid]? = some p) :
      client pid = "alice" := by
    rw [split, run_append, hd] at h
    obtain ⟨p', hp', _⟩ := run_entry h hp
    have bound : pid < c.procs.length := (List.getElem?_eq_some_iff.mp hp').1
    exact if_pos (two ▸ bound)
  rw [known hp, known hq]

open ServerSample in
/-- The state was issued to one client, and another one's callback comes to the exchange. -/
theorem foreign_state_exchanged :
    let owner : Nat → String := fun pid => if pid = 0 then "alice" else "mallory"
    let d := after returning (by decide)
    let d' := after (returning ++ [.resume 1 .ok]) (by decide)
    server.system.step d (.resume 1 .ok) = some d' ∧ IssuedTo server d 0 "state-token" ∧
      ¬ ReachesExchange server d 1 "state-token" ∧ ReachesExchange server d' 1 "state-token" ∧
        owner 0 ≠ owner 1 := by
  refine ⟨rfl, ⟨⟨_, rfl, rfl⟩, List.mem_cons_self, ?_⟩, ?_, ?_, by decide⟩
  · exact List.mem_cons_of_mem _ (List.mem_cons_of_mem _ List.mem_cons_self)
  · rintro ⟨_, _, _, _, _, _, _, _, p, _, hp, hv⟩
    cases hp
    cases hv
  · exact ⟨_, query, .text "state-token", "auth-code", rfl, rfl, rfl, rfl, _, _, rfl, rfl⟩

end SalesforceTikTok
