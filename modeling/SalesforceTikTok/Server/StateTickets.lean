import SalesforceTikTok.Concurrency.Simulation
import SalesforceTikTok.Server.CsrfBinding
import SalesforceTikTok.Storage.Ticket

/-!
# OAuth states as tickets

To the callbacks the OAuth states in Redis are one-time tickets: with Redis answering, a
callback comes to the exchange exactly when its state was stored less than ten minutes
before and no lookup of it was carried out since, and otherwise the user is asked to
restart (`callback_accepted_iff`). So a user who comes back in time is never turned away.
-/

namespace SalesforceTikTok

open Concurrency Concurrency.System Storage
open TokenStore (stateKey)

def stateWidth : Int := OAUTH_STATE_TTL_SECONDS * 1000

def ticketMark (time : Int) (r : ServerRecord) : Option (Ticket.Mark String) :=
  match r.cmd, r.choice with
  | .setState key _ _, .ok | .setState key _ _, .failAfter _ => some ⟨key, time, .issued⟩
  | .getDelState key, .ok | .getDelState key, .failAfter _ => some ⟨key, time, .redeemed⟩
  | _, _ => none

def noteTicket (b : ServerConfig) : ServerAction → ServerConfig → Option (Ticket.Mark String)
  | .resume _ _, d => d.trace.getLast?.bind (ticketMark b.world.clock)
  | _, _ => none

/-- A key is live when its ticket is outstanding, with the state as its value. -/
def TracksTicket (marks : List (Ticket.Mark String)) (w : ServerWorld) (state : String) : Prop :=
  ∀ value expiry, w.Live state value expiry ↔ value = state ∧ w.clock < expiry ∧
    ∃ issued, Ticket.latest marks (stateKey state) = some ⟨stateKey state, issued, .issued⟩ ∧
      expiry = issued + stateWidth

def TracksTickets (marks : List (Ticket.Mark String)) (w : ServerWorld) : Prop :=
  ∀ state, TracksTicket marks w state

namespace TracksTickets

variable {marks : List (Ticket.Mark String)} {w v : ServerWorld}

private theorem of_states (h : TracksTickets marks w) (states : v.states = w.states)
    (clock : v.clock = w.clock) : TracksTickets marks v := by
  intro state value expiry
  rw [ServerWorld.Live, states, clock]
  exact h state value expiry

theorem tick (h : TracksTickets marks w) (elapsed : Nat) : TracksTickets marks
    (w.tick elapsed) := by
  intro state value expiry
  have later : w.clock ≤ (w.tick elapsed).clock := ServerWorld.le_later _ elapsed
  constructor
  · intro live
    obtain ⟨same, _, issued⟩ := (h state value expiry).mp (ServerWorld.live_of_tick live)
    exact ⟨same, live.2, issued⟩
  · rintro ⟨same, unexpired, issued⟩
    have before := (h state value expiry).mpr ⟨same, by omega, issued⟩
    exact ⟨before.1, unexpired⟩

theorem other (h : TracksTickets marks w) {m : Ticket.Mark String} {state : String}
    (ne : m.key ≠ stateKey state)
    (kept : v.states.lookup (stateKey state) = w.states.lookup (stateKey state))
    (clock : v.clock = w.clock) : TracksTicket (marks ++ [m]) v state := by
  intro value expiry
  rw [Ticket.latest_concat_ne _ ne, ServerWorld.Live, kept, clock]
  exact h state value expiry

theorem issue (h : TracksTickets marks w) (state : String) :
    TracksTickets (marks ++ [⟨stateKey state, w.clock, .issued⟩])
      (w.redisSet (stateKey state) state OAUTH_STATE_TTL_SECONDS) := by
  intro state'
  by_cases same : state' = state
  · subst same
    intro value expiry
    constructor
    · intro live
      obtain ⟨rfl, rfl⟩ := ServerWorld.live_of_redisSet live
      exact ⟨rfl, live.2, w.clock, Ticket.latest_concat_self _ _, rfl⟩
    · rintro ⟨rfl, unexpired, issued, last, rfl⟩
      rw [Ticket.latest_concat_self] at last
      cases last
      exact ⟨AList.lookup_insert _, unexpired⟩
  · have ne : stateKey state ≠ stateKey state' := fun keys => same (stateKey_inj.mp keys).symm
    exact h.other ne (Expiring.lookup_set_ne ne.symm _ _) rfl

private theorem redeem (h : TracksTickets marks w) (state : String) :
    TracksTickets (marks ++ [⟨stateKey state, w.clock, .redeemed⟩])
      (w.redisDel (stateKey state)) := by
  intro state'
  by_cases same : state' = state
  · subst same
    intro value expiry
    constructor
    · intro live
      exact absurd rfl (ServerWorld.live_of_redisDel live).1
    · rintro ⟨rfl, unexpired, issued, last, rfl⟩
      rw [Ticket.latest_concat_self] at last
      cases last
  · have ne : stateKey state ≠ stateKey state' := fun keys => same (stateKey_inj.mp keys).symm
    exact h.other ne (AList.lookup_erase_ne ne.symm) rfl

private theorem get_iff (h : TracksTickets marks w) (state : String) :
    (w.states.get w.clock (stateKey state) = some state ∧
      Ticket.Outstanding stateWidth marks (stateKey state) w.clock) ∨
    (w.states.get w.clock (stateKey state) = none ∧
      ¬ Ticket.Outstanding stateWidth marks (stateKey state) w.clock) := by
  cases found : w.states.get w.clock (stateKey state) with
  | none =>
      refine .inr ⟨rfl, ?_⟩
      rintro ⟨issued, last, unexpired⟩
      have live := (h state state (issued + stateWidth)).mpr ⟨rfl, unexpired, issued, last, rfl⟩
      exact ServerWorld.not_live_of_get found _ _ live
  | some value =>
      obtain ⟨expiry, stored, live⟩ := Expiring.get_eq_some.mp found
      obtain ⟨rfl, unexpired, issued, last, rfl⟩ := (h state value expiry).mp ⟨stored, live⟩
      exact .inl ⟨rfl, issued, last, unexpired⟩

end TracksTickets

/-- Only the commands of the OAuth routes change the table of states. -/
theorem exec_states_kept {env : Env} {copyText : ActiveToken → String} {cmd : ServerCmd}
    {choice : ServerChoice} {w v : ServerWorld} {reply : Except JsError cmd.Reply}
    (he : serverExec env copyText cmd choice w = some (reply, v))
    (unset : ∀ key value ttl, cmd ≠ .setState key value ttl) (unread : ∀ key, cmd ≠ .getDelState key) :
    v.states = w.states ∧ v.clock = w.clock := by
  have effect := serverExec_effect he
  clear he
  cases effect with
  | token he => exact ⟨rfl, (tokenExec_key he).1⟩
  | setState => exact absurd rfl (unset _ _ _)
  | getDelState => exact absurd rfl (unread _)
  | _ => exact ⟨rfl, rfl⟩

private theorem ticket_step {S : Server} {call : ServerCall} {history : List ServerAnswer}
    {pid : Nat}
    {cmd : ServerCmd} {choice : ServerChoice} {w v : ServerWorld} {reply : Except JsError cmd.Reply}
    {marks : List (Ticket.Mark String)} (asked : S.Asks call history cmd)
    (he : serverExec S.env S.copyText cmd choice w = some (reply, v))
    (tracks : TracksTickets marks w) :
    TracksTickets (marks ++ (ticketMark w.clock ⟨pid, cmd, choice, reply⟩).toList) v := by
  cases cmd with
  | setState key value ttl =>
      obtain ⟨_, _, rfl, rfl⟩ := asked
      cases choice <;> cases he
      · exact tracks.issue value
      · simpa [ticketMark] using tracks
      · exact tracks.issue value
  | getDelState key =>
      obtain ⟨_, state, text, _, _, _, _, rfl⟩ := asked
      cases choice <;> cases he
      · exact tracks.redeem text
      · simpa [ticketMark] using tracks
      · exact tracks.redeem text
  | _ =>
      obtain ⟨states, clock⟩ := exec_states_kept he (by simp) (by simp)
      simpa [ticketMark] using tracks.of_states states clock

private theorem enter_states_kept {call : ServerCall} {w v : ServerWorld}
    (h : Server.enter call w = some v) : v.states = w.states ∧ v.clock = w.clock := by
  cases call with
  | message rawMessage => cases h; exact ⟨rfl, rfl⟩
  | refreshOne a =>
      obtain ⟨token, entered, rfl⟩ := Option.map_eq_some_iff.mp h
      simp only [TokenCall.enter] at entered
      split at entered <;> cases entered
      exact ⟨rfl, rfl⟩
  | _ => cases h; exact ⟨rfl, rfl⟩

/-- The books of a run: the keys are apart, and live as their tickets are outstanding. -/
theorem run_tickets {S : Server} {w : ServerWorld} {actions : List ServerAction} {c : ServerConfig}
    (h : S.system.run (.initial w) actions = some c)
    (unissued : ∀ state, w.redisGet S.copyText (stateKey state) = none) :
    c.world.Apart ∧ TracksTickets (S.system.observe noteTicket (.initial w) actions) c.world := by
  refine run_induction (fun taken d => d.world.Apart ∧
    TracksTickets (S.system.observe noteTicket (.initial w) taken) d.world) ?_ h ?_
  · intro taken d a d' hd books hs
    obtain ⟨apart, tracks⟩ := books
    rw [observe_concat hd hs]
    cases a with
    | start call =>
        obtain ⟨x, v, hl, rfl⟩ := step_start hs
        obtain ⟨v', entered, same⟩ := Option.map_eq_some_iff.mp hl
        cases same
        obtain ⟨states, clock⟩ := enter_states_kept entered
        exact ⟨(ServerWorld.enter_states entered apart).1,
          by simpa [noteTicket] using tracks.of_states states clock⟩
    | env event =>
        obtain ⟨v, he, rfl⟩ := step_env hs
        refine ⟨(ServerWorld.env_states he apart).1, ?_⟩
        have silent : noteTicket d (.env event) { d with world := v } = none := rfl
        rw [silent, Option.toList_none, List.append_nil]
        cases event with
        | tick elapsed =>
            cases he
            exact tracks.tick elapsed
        | evict jobId =>
            obtain ⟨delivery, _, rfl⟩ := Option.map_eq_some_iff.mp he
            exact tracks.of_states rfl rfl
    | resume pid choice =>
        obtain ⟨p, cmd, resume, reply, v, hp, hv, he, rfl⟩ := step_resume hs
        have asked := Server.awaits_asked hd hp hv
        refine ⟨(exec_states asked he apart).1, ?_⟩
        simp only [noteTicket, List.getLast?_append, List.getLast?_singleton, Option.some_or,
          Option.bind_some]
        exact ticket_step asked he tracks
  · obtain ⟨apart, free⟩ := ServerWorld.apart_of_unissued unissued
    refine ⟨apart, fun state value expiry => ⟨fun live => ?_, ?_⟩⟩
    · exact absurd live (ServerWorld.not_live_of_get (free state) value expiry)
    · rintro ⟨_, _, issued, last, _⟩
      cases last

def restartResponse : HttpResponse :=
  .json 400 (errorBody "State expired or not found — restart OAuth flow")

def CarriesState (c : ServerConfig) (pid : Nat) (state : String) : Prop :=
  ∃ p query, c.procs[pid]? = some p ∧ p.entry = .callback query ∧ query.state = some (.text state)

section

variable {S : Server} {w : ServerWorld} {actions : List ServerAction} {c c' : ServerConfig}
  {pid : Nat} {state : String}

/-- A lookup that finds nothing sends the user to the start. -/
theorem lookup_restarts (h : S.system.run (.initial w) actions = some c)
    (carries : CarriesState c pid state)
    (looking : S.system.Awaits c pid (.getDelState (stateKey state)))
    (hs : S.system.step c (.resume pid .ok) = some c')
    (none : c.world.redisGet S.copyText (stateKey state) = none) :
    S.system.Awaits c' pid (.respond restartResponse) := by
  obtain ⟨p, query, hp, entry, carried⟩ := carries
  obtain ⟨q, resume, hq, hv⟩ := looking
  obtain rfl : p = q := by simpa [hp] using hq
  have asked := Server.awaits_asked h hp hv
  rw [entry] at asked
  obtain ⟨looked, unanswered, _⟩ := text_of_asked asked carried
  rw [List.map_eq_nil_iff] at unanswered
  obtain ⟨lastReplayId, start⟩ := Server.run_unanswered h hp unanswered
  rcases S.callback_cases query with ⟨absent, _⟩ | ⟨authCode, found, looked', program⟩
  · rw [looked] at absent
    cases absent
  · rw [looked] at looked'
    cases looked'
    rw [entry] at start
    change p.state = S.callback query at start
    obtain ⟨p', cmd, resume', reply, v, hp', hv', he, rfl⟩ := step_resume hs
    obtain rfl : p = p' := by simpa [hp] using hp'
    rw [start, program, TokenStore.getAndDeleteState_bind rfl] at hv'
    cases hv'
    cases he
    rw [none]
    have bound : pid < c.procs.length := (List.getElem?_eq_some_iff.mp hp).1
    exact ⟨_, _, List.getElem?_set_self bound, rfl⟩

private theorem lookup_found (h : S.system.run (.initial w) actions = some c)
    (unissued : ∀ state, w.redisGet S.copyText (stateKey state) = none) (state : String) :
    (c.world.redisGet S.copyText (stateKey state)).isSome = true ↔
      Ticket.Outstanding stateWidth (S.system.observe noteTicket (.initial w) actions)
        (stateKey state) c.world.clock := by
  obtain ⟨apart, tracks⟩ := run_tickets h unissued
  rw [ServerWorld.redisGet_of_apart apart]
  rcases tracks.get_iff state with ⟨found, outstanding⟩ | ⟨none, used⟩
  · simp [found, outstanding]
  · simp [none, used]

/-- OAuth states are one-time tickets, in every run that starts before any was issued. Only the
lookup of a state whose ticket is outstanding brings a callback to the exchange; and where Redis
answers that lookup, it does so, and tells the user to restart when the ticket is not. -/
theorem callback_accepted (h : S.system.run (.initial w) actions = some c)
    (unissued : ∀ state, w.redisGet S.copyText (stateKey state) = none) :
    let outstanding (state : String) := Ticket.Outstanding stateWidth
      (S.system.observe noteTicket (.initial w) actions) (stateKey state) c.world.clock
    (∀ a c' pid state, S.system.step c a = some c' → ¬ ReachesExchange S c pid state →
      ReachesExchange S c' pid state → CarriesState c pid state ∧
        S.system.Awaits c pid (.getDelState (stateKey state)) ∧ a = .resume pid .ok ∧
          outstanding state) ∧
    ∀ c' pid state, S.system.step c (.resume pid .ok) = some c' → CarriesState c pid state →
      S.system.Awaits c pid (.getDelState (stateKey state)) →
        (outstanding state → ReachesExchange S c' pid state) ∧
          (¬ outstanding state → S.system.Awaits c' pid (.respond restartResponse)) := by
  intro outstanding
  have found (state : String) := lookup_found h unissued state
  constructor
  · intro a c' pid state hs new reached
    obtain ⟨same, carries, looking, held⟩ := LooksUp.of_reaching h hs reached new
    exact ⟨carries, looking, same, (found state).mp held⟩
  · intro c' pid state hs carries looking
    refine ⟨fun ticket => ?_, fun used => ?_⟩
    · have lookup : LooksUp S c (.resume pid .ok) pid state :=
        ⟨rfl, carries, looking, (found state).mpr ticket⟩
      exact (lookup.reaches h unissued hs).1
    · have none : c.world.redisGet S.copyText (stateKey state) = none := by
        cases held : c.world.redisGet S.copyText (stateKey state) with
        | none => rfl
        | some value => exact absurd ((found state).mp (by rw [held]; rfl)) used
      exact lookup_restarts h carries looking hs none

end

namespace ServerSample

def returningLate : List ServerAction :=
  issuing ++ [.env (.tick 600000), .start (.callback query)]

end ServerSample

open ServerSample in
theorem callback_accepted_late :
    server.system.Awaits (after (returningLate ++ [.resume 1 .ok]) (by decide)) 1
      (.respond restartResponse) := by
  have before : server.system.run (.initial (.fresh 0)) returningLate =
      some (after returningLate (by decide)) := run_result _
  refine ((callback_accepted before fresh_unissued).2 _ 1 "state-token" rfl
    ⟨_, query, rfl, rfl, rfl⟩ ⟨_, _, rfl, rfl⟩).2 ?_
  rintro ⟨issued, last, unexpired⟩
  cases last
  exact absurd unexpired (by decide)

end SalesforceTikTok
