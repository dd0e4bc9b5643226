import SalesforceTikTok.Server.Failures
import SalesforceTikTok.Server.Keyspace

/-!
# The life of an OAuth state

A state is unissued, then issued by the one request that generated it, then
consumed by the callback whose lookup found it; its key is live only in between,
and for ten minutes. Every run keeps each state in one of the three phases, so a
callback that comes to exchange its code is the only one with that state and
finds the state issued shortly before.
-/

namespace SalesforceTikTok

open Concurrency Concurrency.System
open TokenStore (stateKey)

/-! ## What the trace tells about a state -/

def generated : ServerRecord → Option String
  | ⟨_, .randomState, _, .ok state⟩ => some state
  | _ => none

/-- A `SET` of the state's key. -/
def Stores (state : String) (r : ServerRecord) : Prop :=
  ∃ value ttlSeconds, r.cmd = .setState (stateKey state) value ttlSeconds

/-- A `GETDEL` that found a value under the state's key. -/
def Takes (state : String) (r : ServerRecord) : Prop :=
  ∃ value, r.answer = ⟨.getDelState (stateKey state), .ok (some value)⟩

private theorem generated_eq_some {r : ServerRecord} {state : String} :
    generated r = some state ↔ r.answer = ⟨.randomState, .ok state⟩ := by
  obtain ⟨pid, cmd, choice, reply⟩ := r
  cases cmd with
  | randomState =>
      cases reply with
      | ok value =>
          simp only [generated, Record.answer, Option.some.injEq, Answer.mk.injEq, heq_eq_eq,
            Except.ok.injEq, true_and]
      | error error => simp [generated, Record.answer]
  | _ => simp [generated, Record.answer]

def GenerateApart (r r' : ServerRecord) : Prop :=
  ∀ state, generated r = some state → ∀ state', generated r' = some state' → state ≠ state'

private theorem generated_inj {trace : List ServerRecord}
    (distinct : (trace.filterMap generated).Nodup)
    {r r' : ServerRecord} (hr : r ∈ trace) (hr' : r' ∈ trace) {state : String}
    (gen : generated r = some state) (gen' : generated r' = some state) : r = r' := by
  have symm : Std.Symm GenerateApart := ⟨fun _ _ h s hs s' hs' same => h s' hs' s hs same.symm⟩
  have apart : trace.Pairwise GenerateApart := List.pairwise_filterMap.mp distinct
  by_contra other
  exact apart.forall hr hr' other state gen state gen' rfl

/-! ## Calls in a run -/

namespace Server

/-- Before the request that generated a state stores it, nobody has. -/
theorem unstored {S : Server} {w : ServerWorld} {actions : List ServerAction} {c : ServerConfig}
    (h : S.system.run (.initial w) actions = some c)
    (distinct : (c.trace.filterMap generated).Nodup) {pid : Nat} {state : String}
    (fresh : (c.own pid).map Record.answer = [⟨.randomState, .ok state⟩]) :
    ∀ r ∈ c.trace, ¬ Stores state r := by
  rintro r hr ⟨value, ttl, stores⟩
  obtain ⟨g, own, answer⟩ : ∃ g, c.own pid = [g] ∧ g.answer = ⟨.randomState, .ok state⟩ := by
    cases own : c.own pid with
    | nil => simp [own] at fresh
    | cons g rest =>
        rw [own, List.map_cons, List.cons.injEq, List.map_eq_nil_iff] at fresh
        exact ⟨g, by rw [fresh.2], fresh.1⟩
  have hg : g ∈ c.trace ∧ g.pid = pid := mem_own.mp (by rw [own]; exact List.mem_singleton_self g)
  -- the earlier `SET` was asked by a call that generated the same state
  have bound := run_pid_bound h r hr
  obtain ⟨first, rest, split⟩ := List.append_of_mem (mem_own.mpr ⟨hr, rfl⟩)
  have asked := (run_orderly h (List.getElem?_eq_getElem bound)).2 first r rest split
  rw [stores] at asked
  obtain ⟨_, history, key, _⟩ := asked
  obtain rfl := stateKey_inj.mp key
  obtain ⟨g', first', answer'⟩ : ∃ g', first = [g'] ∧ g'.answer = ⟨.randomState, .ok state⟩ := by
    cases first with
    | nil => simp at history
    | cons g' more =>
        rw [List.map_cons, List.cons.injEq, List.map_eq_nil_iff] at history
        exact ⟨g', by rw [history.2], history.1⟩
  have hg' : g' ∈ c.trace ∧ g'.pid = r.pid := mem_own.mp (by rw [split, first']; simp)
  have same : g' = g := generated_inj distinct hg'.1 hg.1 (generated_eq_some.mpr answer')
    (generated_eq_some.mpr answer)
  -- so it is the same call, and its history has no `SET` yet
  have here : c.own pid = first ++ r :: rest := by rw [← hg.2, ← same, hg'.2, split]
  rw [own, first'] at here
  simp at here

end Server

/-! ## The phases -/

/-- A request of this server stored the state at this time. -/
def IssuedAt (S : Server) (w : ServerWorld) (actions : List ServerAction) (state : String)
    (time : Int) : Prop :=
  ∃ first rest choice d pid p, actions = first ++ .resume pid choice :: rest ∧
    S.system.run (.initial w) first = some d ∧ d.procs[pid]? = some p ∧ p.entry = .initiate ∧
    S.system.Awaits d pid (.setState (stateKey state) state OAUTH_STATE_TTL_SECONDS) ∧
    d.world.clock = time

theorem IssuedAt.later {S : Server} {w : ServerWorld} {actions : List ServerAction}
    {state : String} {time : Int} (h : IssuedAt S w actions state time) (a : ServerAction) :
    IssuedAt S w (actions ++ [a]) state time := by
  obtain ⟨first, rest, choice, d, pid, p, split, facts⟩ := h
  exact ⟨first, rest ++ [a], choice, d, pid, p, by rw [split]; simp, facts⟩

inductive StatePhase (S : Server) (w : ServerWorld) (actions : List ServerAction)
    (c : ServerConfig) (state : String) : Prop where
  | unissued (absent : ∀ value expiry, ¬ c.world.Live state value expiry)
      (unset : ∀ r ∈ c.trace, ¬ Stores state r) (untaken : ∀ r ∈ c.trace, ¬ Takes state r)
  | issued (time : Int) (store : IssuedAt S w actions state time)
      (fresh : ∀ value expiry, c.world.Live state value expiry →
        value = state ∧ expiry ≤ time + OAUTH_STATE_TTL_SECONDS * 1000)
      (set : ∃ r ∈ c.trace, Stores state r) (untaken : ∀ r ∈ c.trace, ¬ Takes state r)
  | consumed (pid : Nat) (absent : ∀ value expiry, ¬ c.world.Live state value expiry)
      (set : ∃ r ∈ c.trace, Stores state r) (only : ∀ r ∈ c.trace, Takes state r → r.pid = pid)

namespace StatePhase

variable {S : Server} {w : ServerWorld} {actions : List ServerAction} {c c' : ServerConfig}
  {state : String}

/-- A step that revives no key, and neither stores nor takes the state, keeps its phase. -/
theorem quiet (phase : StatePhase S w actions c state) (a : ServerAction)
    (live : ∀ value expiry, c'.world.Live state value expiry → c.world.Live state value expiry)
    {more : List ServerRecord} (trace : c'.trace = c.trace ++ more)
    (idle : ∀ r ∈ more, ¬ Stores state r ∧ ¬ Takes state r) :
    StatePhase S w (actions ++ [a]) c' state := by
  have kept {P : ServerRecord → Prop} (old : ∀ r ∈ c.trace, P r) (new : ∀ r ∈ more, P r) :
      ∀ r ∈ c'.trace, P r := by
    rw [trace]
    intro r hr
    rcases List.mem_append.mp hr with hr | hr
    · exact old r hr
    · exact new r hr
  have still (set : ∃ r ∈ c.trace, Stores state r) : ∃ r ∈ c'.trace, Stores state r := by
    obtain ⟨r, hr, stores⟩ := set
    exact ⟨r, by rw [trace]; exact List.mem_append_left _ hr, stores⟩
  cases phase with
  | unissued absent unset untaken =>
      exact .unissued (fun value expiry found => absent value expiry (live value expiry found))
        (kept unset fun r hr => (idle r hr).1) (kept untaken fun r hr => (idle r hr).2)
  | issued time store fresh set untaken =>
      exact .issued time (store.later a)
        (fun value expiry found => fresh value expiry (live value expiry found)) (still set)
        (kept untaken fun r hr => (idle r hr).2)
  | consumed pid absent set only =>
      exact .consumed pid (fun value expiry found => absent value expiry (live value expiry found))
        (still set) (kept only fun r hr takes => absurd takes (idle r hr).2)

private theorem issued_of_live (phase : StatePhase S w actions c state) {value : String}
    {expiry : Int} (live : c.world.Live state value expiry) :
    ∃ time, IssuedAt S w actions state time ∧ value = state ∧
      expiry ≤ time + OAUTH_STATE_TTL_SECONDS * 1000 ∧ (∃ r ∈ c.trace, Stores state r) ∧
      ∀ r ∈ c.trace, ¬ Takes state r := by
  cases phase with
  | unissued absent => exact absurd live (absent value expiry)
  | issued time store fresh set untaken =>
      obtain ⟨same, early⟩ := fresh value expiry live
      exact ⟨time, store, same, early, set, untaken⟩
  | consumed pid absent => exact absurd live (absent value expiry)

theorem stored (phase : StatePhase S w actions c state)
    (h : S.system.run (.initial w) actions = some c) {pid : Nat} {choice : ServerChoice}
    {p : Proc ServerCall (ServerProg Unit)} (hp : c.procs[pid]? = some p)
    (entry : p.entry = .initiate) {reply : Except JsError Unit} {v : ServerWorld}
    (awaited : S.system.Awaits c pid (.setState (stateKey state) state OAUTH_STATE_TTL_SECONDS))
    (he : serverExec S.env S.copyText (.setState (stateKey state) state OAUTH_STATE_TTL_SECONDS)
      choice c.world = some (reply, v)) (never : ∀ r ∈ c.trace, ¬ Stores state r)
    (world : c'.world = v) (trace : c'.trace = c.trace ++
      [⟨pid, .setState (stateKey state) state OAUTH_STATE_TTL_SECONDS, choice, reply⟩]) :
    StatePhase S w (actions ++ [.resume pid choice]) c' state := by
  cases phase with
  | issued time store fresh set untaken =>
      obtain ⟨r, hr, stores⟩ := set
      exact absurd stores (never r hr)
  | consumed pid absent set only =>
      obtain ⟨r, hr, stores⟩ := set
      exact absurd stores (never r hr)
  | unissued absent unset untaken =>
      have issued : IssuedAt S w (actions ++ [.resume pid choice]) state c.world.clock :=
        ⟨actions, [], choice, c, pid, p, rfl, h, hp, entry, awaited, rfl⟩
      have set : ∃ r ∈ c'.trace, Stores state r := by
        rw [trace]
        exact ⟨_, List.mem_append_right _ (List.mem_singleton_self _), _, _, rfl⟩
      refine .issued c.world.clock issued (fun value expiry found => ?_) set fun r hr => ?_
      · rw [world] at found
        have written (found : (c.world.redisSet (stateKey state) state
            OAUTH_STATE_TTL_SECONDS).Live state value expiry) :
            value = state ∧ expiry ≤ c.world.clock + OAUTH_STATE_TTL_SECONDS * 1000 := by
          obtain ⟨same, set⟩ := ServerWorld.live_of_redisSet found
          exact ⟨same, Int.le_of_eq set⟩
        obtain ⟨_, rfl⟩ | ⟨_, _, rfl | rfl⟩ := ServerChoice.apply_cases he
        · exact written found
        · exact absurd found (absent value expiry)
        · exact written found
      · rw [trace] at hr
        rcases List.mem_append.mp hr with hr | hr
        · exact untaken r hr
        · obtain rfl := List.mem_singleton.mp hr
          rintro ⟨value, takes⟩
          cases takes

theorem taken (phase : StatePhase S w actions c state) {value : String} {expiry : Int}
    (found : c.world.Live state value expiry) (a : ServerAction) {last : ServerRecord}
    (world : c'.world = c.world.redisDel (stateKey state))
    (trace : c'.trace = c.trace ++ [last]) : StatePhase S w (actions ++ [a]) c' state := by
  obtain ⟨time, store, _, _, ⟨r, hr, stores⟩, untaken⟩ := phase.issued_of_live found
  refine .consumed last.pid (fun value expiry live => ?_) ⟨r, ?_, stores⟩ fun r hr takes => ?_
  · rw [world] at live
    exact (ServerWorld.live_of_redisDel live).1 rfl
  · rw [trace]
    exact List.mem_append_left _ hr
  · rw [trace] at hr
    rcases List.mem_append.mp hr with hr | hr
    · exact absurd takes (untaken r hr)
    · rw [List.mem_singleton.mp hr]

end StatePhase

/-! ## One step -/

/-- A lookup that finds a value finds a live key, and removes it. -/
theorem exec_takes (S : Server) {choice : ServerChoice} {w v : ServerWorld} {state value : String}
    (apart : w.Apart) (h : serverExec S.env S.copyText (.getDelState (stateKey state)) choice
      w = some (.ok (some value), v)) :
    ∃ expiry, w.Live state value expiry ∧ v = w.redisDel (stateKey state) := by
  obtain ⟨found, rfl⟩ | ⟨error, lost, _⟩ := ServerChoice.apply_cases h
  · have got := (Except.ok.inj found).symm
    rw [ServerWorld.redisGet_of_apart apart] at got
    obtain ⟨expiry, stored, live⟩ := Storage.Expiring.get_eq_some.mp got
    exact ⟨expiry, ⟨stored, live⟩, rfl⟩
  · cases lost

private theorem phase_step {S : Server} {w : ServerWorld} {actions : List ServerAction}
    {c c' : ServerConfig} {a : ServerAction} (h : S.system.run (.initial w) actions = some c)
    (hs : S.system.step c a = some c') (distinct : (c'.trace.filterMap generated).Nodup)
    (apart : c.world.Apart) (phases : ∀ state, StatePhase S w actions c state) :
    c'.world.Apart ∧ ∀ state, StatePhase S w (actions ++ [a]) c' state := by
  have earlier : (c.trace.filterMap generated).Nodup :=
    distinct.sublist ((step_trace hs).sublist.filterMap generated)
  cases a with
  | start call =>
      obtain ⟨x, v, hl, rfl⟩ := step_start hs
      obtain ⟨v', entered, same⟩ := Option.map_eq_some_iff.mp hl
      cases same
      obtain ⟨apart', live⟩ := ServerWorld.enter_states entered apart
      exact ⟨apart', fun state =>
        (phases state).quiet _ (live state) (List.append_nil _).symm (by simp)⟩
  | env event =>
      obtain ⟨v, he, rfl⟩ := step_env hs
      obtain ⟨apart', live⟩ := ServerWorld.env_states he apart
      exact ⟨apart', fun state =>
        (phases state).quiet _ (live state) (List.append_nil _).symm (by simp)⟩
  | resume pid choice =>
      obtain ⟨p, cmd, resume, reply, v, hp, hv, he, rfl⟩ := step_resume hs
      have asked := Server.awaits_asked h hp hv
      obtain ⟨apart', live⟩ := exec_states asked he apart
      refine ⟨apart', fun state => ?_⟩
      by_cases stores : Stores state ⟨pid, cmd, choice, reply⟩
      · obtain ⟨value, ttl, rfl⟩ := stores
        obtain ⟨entry, history, key, rfl⟩ := asked
        obtain rfl := stateKey_inj.mp key
        have never := Server.unstored h earlier history
        exact (phases state).stored h hp entry ⟨p, resume, hp, hv⟩ he never rfl rfl
      · have other : ∀ value ttl, cmd ≠ .setState (stateKey state) value ttl :=
          fun value ttl same => stores ⟨value, ttl, same⟩
        by_cases takes : Takes state ⟨pid, cmd, choice, reply⟩
        · obtain ⟨value, same⟩ := takes
          cases same
          obtain ⟨expiry, found, rfl⟩ := exec_takes S apart he
          exact (phases state).taken found _ rfl rfl
        · refine (phases state).quiet _ (live state other) rfl fun r hr => ?_
          rw [List.mem_singleton.mp hr]
          exact ⟨stores, takes⟩

/-- In a run that starts before any state was issued, and that generates distinct states,
every state is in one of its phases. -/
theorem run_phase {S : Server} {w : ServerWorld} {actions : List ServerAction} {c : ServerConfig}
    (h : S.system.run (.initial w) actions = some c)
    (unissued : ∀ state, w.redisGet S.copyText (stateKey state) = none)
    (distinct : (c.trace.filterMap generated).Nodup) :
    c.world.Apart ∧ ∀ state, StatePhase S w actions c state := by
  refine run_induction (fun actions c => (c.trace.filterMap generated).Nodup →
    c.world.Apart ∧ ∀ state, StatePhase S w actions c state) ?_ h ?_ distinct
  · intro taken d a d' hd phases hs distinct
    have earlier : (d.trace.filterMap generated).Nodup :=
      distinct.sublist ((step_trace hs).sublist.filterMap generated)
    obtain ⟨apart, phases⟩ := phases earlier
    exact phase_step hd hs distinct apart phases
  · intro _
    obtain ⟨apart, free⟩ := ServerWorld.apart_of_unissued unissued
    exact ⟨apart, fun state => .unissued (ServerWorld.not_live_of_get (free state))
      (by simp [Config.initial]) (by simp [Config.initial])⟩

/-! ## Callbacks that exchange their code -/

/-- Callback `pid`, whose query carries this state, has come to `exchangeAuthCode`. -/
def ReachesExchange (S : Server) (c : ServerConfig) (pid : Nat) (state : String) : Prop :=
  ∃ p query value authCode, c.procs[pid]? = some p ∧ p.entry = .callback query ∧
    query.state = some value ∧ value.toText = .ok state ∧
    S.system.Awaits c pid (.token (.postExchange authCode))

private theorem present_eq {value : Option QueryValue} {found : QueryValue}
    (h : QueryValue.present value = some found) : value = some found := by
  unfold QueryValue.present at h
  split at h
  · split at h
    · cases h
    · exact h
  · exact h

theorem CallbackQuery.state_of_lookedUp {query : CallbackQuery} {state : QueryValue}
    (h : query.lookedUp = some state) : query.state = some state := by
  unfold lookedUp at h
  split at h
  · cases h
  · split at h
    · cases h
    · exact present_eq h

/-- All that such a callback was answered is a lookup that found its state. -/
theorem ReachesExchange.history {S : Server} {w : ServerWorld} {actions : List ServerAction}
    {c : ServerConfig} (h : S.system.run (.initial w) actions = some c) {pid : Nat}
    {state : String} (reached : ReachesExchange S c pid state) :
    ∃ r, c.own pid = [r] ∧ Takes state r := by
  obtain ⟨p, query, value, authCode, hp, entry, carried, text, q, resume, hq, hv⟩ := reached
  obtain rfl : q = p := by simpa [hp] using hq.symm
  have asked := Server.awaits_asked h hp hv
  obtain ⟨query', state', found, entry', looked, history⟩ := asked
  rw [entry] at entry'
  cases entry'
  rw [CallbackQuery.state_of_lookedUp looked] at carried
  cases carried
  cases text
  cases own : c.own pid with
  | nil => simp [own] at history
  | cons r rest =>
      rw [own, List.map_cons, List.cons.injEq, List.map_eq_nil_iff] at history
      exact ⟨r, by rw [history.2], found, history.1⟩

theorem ReachesExchange.taken {S : Server} {w : ServerWorld} {actions : List ServerAction}
    {c : ServerConfig} (h : S.system.run (.initial w) actions = some c) {pid : Nat}
    {state : String} (reached : ReachesExchange S c pid state) :
    ∃ r ∈ c.trace, r.pid = pid ∧ Takes state r := by
  obtain ⟨r, own, takes⟩ := reached.history h
  have mem : r ∈ c.trace ∧ r.pid = pid := mem_own.mp (by rw [own]; exact List.mem_singleton_self r)
  exact ⟨r, mem.1, mem.2, takes⟩

/-- The step that brings a callback to the exchange is the lookup of its state. -/
theorem reaching_step {S : Server} {w : ServerWorld} {actions : List ServerAction}
    {c c' : ServerConfig} {a : ServerAction} (h : S.system.run (.initial w) actions = some c)
    (hs : S.system.step c a = some c') {pid : Nat} {state : String}
    (reached : ReachesExchange S c' pid state) (new : ¬ ReachesExchange S c pid state) :
    ∃ choice value, a = .resume pid choice ∧
      S.system.Awaits c pid (.getDelState (stateKey state)) ∧
        serverExec S.env S.copyText (.getDelState (stateKey state)) choice c.world =
          some (.ok (some value), c'.world) := by
  have h' : S.system.run (.initial w) (actions ++ [a]) = some c' := by
    rw [run_append, h]
    simp [System.run, hs]
  obtain ⟨r, own, takes⟩ := reached.history h'
  have mem : r ∈ c'.trace ∧ r.pid = pid :=
    mem_own.mp (by rw [own]; exact List.mem_singleton_self r)
  -- any other step leaves the callback where it was
  have resumed : ∃ choice, a = .resume pid choice := by
    by_contra other
    have elsewhere : ∀ choice, a ≠ .resume pid choice := fun choice same => other ⟨choice, same⟩
    have old : r ∈ c.trace := by
      cases a with
      | start call =>
          obtain ⟨x, v, _, rfl⟩ := step_start hs
          exact mem.1
      | env event =>
          obtain ⟨v, _, rfl⟩ := step_env hs
          exact mem.1
      | resume q choice =>
          obtain ⟨p, cmd, resume, reply, v, _, _, _, rfl⟩ := step_resume hs
          rcases List.mem_append.mp mem.1 with old | last
          · exact old
          · have here : q = pid := by rw [← mem.2, List.mem_singleton.mp last]
            exact absurd (by rw [here]) (elsewhere choice)
    have bound : pid < c.procs.length := by
      rw [← mem.2]
      exact run_pid_bound h r old
    have kept := step_other hs elsewhere (List.getElem?_eq_getElem bound)
    obtain ⟨p, query, value, authCode, hp, entry, carried, text, q, resume, hq, hv⟩ := reached
    obtain rfl : c.procs[pid] = p := by simpa [kept] using hp
    obtain rfl : c.procs[pid] = q := by simpa [kept] using hq
    exact new ⟨_, query, value, authCode, List.getElem?_eq_getElem bound, entry, carried, text,
      _, resume, List.getElem?_eq_getElem bound, hv⟩
  obtain ⟨choice, rfl⟩ := resumed
  obtain ⟨p, cmd, resume, reply, v, hp, hv, he, rfl⟩ := step_resume hs
  rw [own_append_self] at own
  obtain rfl : r = ⟨pid, cmd, choice, reply⟩ := by
    have last := congrArg List.getLast? own
    simpa using last.symm
  obtain ⟨value, same⟩ := takes
  cases same
  exact ⟨choice, value, rfl, ⟨p, resume, hp, hv⟩, he⟩

/-- OAuth states are one-time and issued here. In every run that starts before any state was
issued and generates distinct states, at most one callback comes to the exchange with a given
state, and each comes there at most 600 seconds after a request of this server stored it. -/
theorem state_one_time {S : Server} {w : ServerWorld} {actions : List ServerAction}
    {c : ServerConfig} (h : S.system.run (.initial w) actions = some c)
    (unissued : ∀ state, w.redisGet S.copyText (stateKey state) = none)
    (distinct : (c.trace.filterMap generated).Nodup) (state : String) :
    (∀ first rest first' rest' d d' pid pid', actions = first ++ rest → actions = first' ++ rest' →
      S.system.run (.initial w) first = some d → S.system.run (.initial w) first' = some d' →
      ReachesExchange S d pid state → ReachesExchange S d' pid' state → pid = pid') ∧
    ∀ first a rest d d' pid, actions = first ++ a :: rest →
      S.system.run (.initial w) first = some d → S.system.step d a = some d' →
      ¬ ReachesExchange S d pid state → ReachesExchange S d' pid state →
        ∃ time, IssuedAt S w first state time ∧ d'.world.clock ≤ time + 600 * 1000 := by
  have trace {first rest : List ServerAction} {d : ServerConfig} (split : actions = first ++ rest)
      (hd : S.system.run (.initial w) first = some d) : d.trace <+: c.trace := by
    rw [split, run_append, hd] at h
    exact run_trace h
  constructor
  · intro first rest first' rest' d d' pid pid' split split' hd hd' reached reached'
    obtain ⟨r, hr, rfl, takes⟩ := reached.taken hd
    obtain ⟨r', hr', rfl, takes'⟩ := reached'.taken hd'
    have mem := (trace split hd).subset hr
    have mem' := (trace split' hd').subset hr'
    cases (run_phase h unissued distinct).2 state with
    | unissued absent unset untaken => exact absurd takes (untaken r mem)
    | issued time store fresh set untaken => exact absurd takes (untaken r mem)
    | consumed pid absent set only => exact (only r mem takes).trans (only r' mem' takes').symm
  · intro first a rest d d' pid split hd hs new reached
    have earlier : (d.trace.filterMap generated).Nodup :=
      distinct.sublist ((trace split hd).sublist.filterMap generated)
    obtain ⟨apart, phases⟩ := run_phase hd unissued earlier
    obtain ⟨choice, value, _, _, he⟩ := reaching_step hd hs reached new
    obtain ⟨expiry, live, after⟩ := exec_takes S apart he
    obtain ⟨time, store, _, early, _, _⟩ := (phases state).issued_of_live live
    refine ⟨time, store, ?_⟩
    have unexpired : d.world.clock < expiry := live.2
    have clock : d'.world.clock = d.world.clock := by
      rw [after]
      rfl
    have ttl : OAUTH_STATE_TTL_SECONDS * 1000 = 600 * 1000 := rfl
    omega

namespace ServerSample

def issuing : List ServerAction :=
  [.start .initiate, .resume 0 (.random "state-token"), .resume 0 .ok, .resume 0 .ok]

def returning : List ServerAction := issuing ++ [.start (.callback query)]

theorem fresh_unissued (state : String) :
    (ServerWorld.fresh 0).redisGet server.copyText (stateKey state) = none := by
  simp [ServerWorld.fresh, ServerWorld.redisGet, Storage.Expiring.get, EventSetWorld.fresh,
    TokenWorld.fresh, DeliveryWorld.fresh, DeliveryWorld.holds]

end ServerSample

open ServerSample in
theorem state_one_time_returning :
    let c := after (returning ++ [.resume 1 .ok]) (by decide)
    ReachesExchange server c 1 "state-token" ∧
      ∃ time, IssuedAt server (.fresh 0) returning "state-token" time ∧
        c.world.clock ≤ time + 600 * 1000 := by
  intro c
  have h : server.system.run (.initial (.fresh 0)) (returning ++ [.resume 1 .ok]) = some c :=
    run_result _
  have before : server.system.run (.initial (.fresh 0)) returning =
      some (after returning (by decide)) := run_result _
  have reached : ReachesExchange server c 1 "state-token" :=
    ⟨_, query, .text "state-token", "auth-code", rfl, rfl, rfl, rfl, _, _, rfl, rfl⟩
  refine ⟨reached, (state_one_time h fresh_unissued (by decide) "state-token").2 returning
    (.resume 1 .ok) [] (after returning (by decide)) c 1 rfl before rfl ?_ reached⟩
  rintro ⟨_, _, _, _, _, _, _, _, p, _, hp, hv⟩
  cases hp
  cases hv

end SalesforceTikTok
