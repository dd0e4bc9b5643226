import SalesforceTikTok.EventLog.Lending

/-!
# Transactions of the event log

Whatever fails and however the callers interleave, what becomes durable are the statements of
whole transactions and single statements, and every client comes back without a transaction.
-/

namespace SalesforceTikTok

open Concurrency Storage

variable {Q Rows T : Type}

/-! ## What a call has done -/

def carriedStatement : PoolRecord Q Rows → Option Q
  | ⟨_, .client _ (.statement statement), _, .ok _⟩ => some statement
  | _ => none

def failedStatement : PoolRecord Q Rows → Bool
  | ⟨_, .client _ (.statement _), _, .error _⟩ => true
  | _ => false

/-- A `COMMIT` that was carried out, with whether it was answered. -/
def carriedCommit : PoolRecord Q Rows → Option Bool
  | ⟨_, .client _ .commit, .answer answer, _⟩ =>
      if answer.carried then some (decide (answer.verdict = .done)) else none
  | _ => none

def carriedStatements (history : List (PoolRecord Q Rows)) : List Q :=
  history.filterMap carriedStatement

def statementFailed (history : List (PoolRecord Q Rows)) : Bool := history.any failedStatement

def carriedCommits (history : List (PoolRecord Q Rows)) : List Bool :=
  history.filterMap carriedCommit

section

variable (history : List (PoolRecord Q Rows)) (r : PoolRecord Q Rows)

@[simp] theorem carriedStatements_concat :
    carriedStatements (history ++ [r]) = carriedStatements history ++ (carriedStatement r).toList := by
  rw [carriedStatements, List.filterMap_append]
  cases h : carriedStatement r <;> simp [carriedStatements, h]

@[simp] theorem statementFailed_concat :
    statementFailed (history ++ [r]) = (statementFailed history || failedStatement r) := by
  simp [statementFailed, List.any_append]

@[simp] theorem carriedCommits_concat :
    carriedCommits (history ++ [r]) = carriedCommits history ++ (carriedCommit r).toList := by
  rw [carriedCommits, List.filterMap_append]
  cases h : carriedCommit r <;> simp [carriedCommits, h]

end

/-- What an answer makes durable, given what its call has done: the work of the transaction
unless one of its statements failed, or a single statement of `pool.query`. -/
def durableUnit (history : List (PoolRecord Q Rows)) : PoolRecord Q Rows → Option (List Q)
  | ⟨_, .query statement, .through _ answer, _⟩ => if answer.carried then some [statement] else none
  | ⟨_, .client _ .commit, .answer answer, _⟩ =>
      if answer.carried ∧ statementFailed history = false then some (carriedStatements history)
      else none
  | _ => none

def durableUnits (trace : List (PoolRecord Q Rows)) : List (List Q) :=
  trace.filterMap fun r => durableUnit (trace.filter fun r' => r'.pid = r.pid) r

/-- The history of a call at a point. A `COMMIT` is carried out at most once, and a call that
resolves had it answered. -/
def PoolPoint.Past (history : List (PoolRecord Q Rows)) : PoolPoint Q Rows T → Prop
  | .asking _ | .connecting _ | .beginning _ _ =>
      carriedStatements history = [] ∧ statementFailed history = false ∧ carriedCommits history = []
  | .running _ _ _ | .committing _ _ | .ended (.ok (.rows _)) => carriedCommits history = []
  | .releasing _ (.ok _) | .ended (.ok (.result _)) => carriedCommits history = [true]
  | .rollingBack _ _ | .releasing _ (.error _) | .ended (.error _) =>
      carriedCommits history = [] ∨ carriedCommits history = [false]

/-! ## One answer -/

private theorem reply_done {request : SessionRequest Q} {answer : PoolAnswer Rows}
    {value : request.Reply Rows} (replied : answer.reply request = some (.ok value)) :
    answer.verdict = .done := by
  cases request <;> cases answer <;> cases replied <;> rfl

private theorem reply_failed {request : SessionRequest Q} {answer : PoolAnswer Rows} {err : JsError}
    (replied : answer.reply request = some (.error err)) : answer.verdict ≠ .done := by
  cases request <;> cases answer <;> cases replied <;> nofun

private theorem poolExec_client {client : Nat} {request : SessionRequest Q}
    {choice : PoolChoice Rows} {w v : PoolWorld Q} {reply : Except JsError (request.Reply Rows)}
    (he : poolExec (.client client request) choice w = some (reply, v)) :
    ∃ answer, choice = .answer answer ∧ answer.reply request = some reply ∧
      w.perform client request answer.verdict = some v := by
  cases choice with
  | answer answer =>
      simp only [poolExec] at he
      split at he
      next reply' v' replied performed =>
        cases he
        exact ⟨answer, rfl, replied, performed⟩
      next => cases he
  | lend | timeout | through => cases he

private theorem poolExec_connect {choice : PoolChoice Rows} {w v : PoolWorld Q}
    {reply : Except JsError Nat} (he : poolExec .connect choice w = some (reply, v)) :
    (∃ client, reply = .ok client ∧ w.lend client = some v) ∨
      ∃ err, reply = .error err ∧ v = w := by
  cases choice with
  | lend client =>
      obtain ⟨v', lent, same⟩ := Option.map_eq_some_iff.mp he
      cases same
      exact .inl ⟨client, rfl, lent⟩
  | timeout err =>
      cases he
      exact .inr ⟨err, rfl, rfl⟩
  | answer | through => cases he

private theorem poolExec_release {client : Nat} {choice : PoolChoice Rows} {w v : PoolWorld Q}
    {reply : Except JsError Unit} (he : poolExec (.release client) choice w = some (reply, v)) :
    reply = .ok () ∧ v = w.giveBack client := by
  cases choice with
  | answer answer =>
      cases answer <;> cases he
      exact ⟨rfl, rfl⟩
  | lend | timeout | through => cases he

/-- A statement of `pool.query` runs outside of all transactions. -/
theorem poolExec_query {statement : Q} {choice : PoolChoice Rows} {w v : PoolWorld Q}
    {reply : Except JsError Rows} (sound : w.Sound)
    (he : poolExec (.query statement) choice w = some (reply, v)) (pid : Nat)
    (history : List (PoolRecord Q Rows)) :
    PoolWorld.Moves w v none none ∧ v.committed = w.committed ++
      (durableUnit history ⟨pid, .query statement, choice, reply⟩).toList := by
  cases choice with
  | timeout err =>
      cases he
      exact ⟨.refl sound, (List.append_nil _).symm⟩
  | lend | answer => cases he
  | through client answer =>
      simp only [poolExec] at he
      cases lent : w.lend client with
      | none => simp [lent] at he
      | some u =>
          simp only [lent, Option.bind_some] at he
          obtain ⟨lends, idle, held, kept⟩ := PoolWorld.lend_moves sound lent
          -- the session of the lent client is idle, so the statement is a unit
          have used {u' : PoolWorld Q}
              (performed : u.perform client (.statement statement) answer.verdict = some u') :
              PoolWorld.Moves w u' none (some client) ∧ client ∉ u'.available ∧
                (∃ session, u'.sessions[client]? = some session ∧ session.Settled) ∧
                  u'.committed = w.committed ++
                    (durableUnit history ⟨pid, .query statement, .through client answer,
                      reply⟩).toList := by
            obtain ⟨session, next, units, found, answered, rfl⟩ := PoolWorld.perform_spec performed
            rw [idle] at found
            cases found
            obtain ⟨settled, rfl⟩ := Session.answer_alone answered
            have bound := (List.getElem?_eq_some_iff.mp idle).choose
            refine ⟨lends.trans (PoolWorld.set_moves lends.sound held _ next), held,
              ⟨next, List.getElem?_set_self bound, settled⟩, ?_⟩
            rw [kept, durableUnit, PoolAnswer.carried]
            by_cases done : answer.verdict = .done ∨ answer.verdict = .unanswered
            · simp [done]
            · simp [done]
          split at he
          next rows u' replied performed =>
            cases he
            obtain ⟨moves, held', ⟨session, found, settled⟩, units⟩ := used performed
            obtain ⟨back, same⟩ := PoolWorld.giveBack_moves moves.sound held' found settled
            exact ⟨moves.trans back, same.trans units⟩
          next err u' replied performed =>
            cases he
            obtain ⟨moves, held', _, units⟩ := used performed
            exact ⟨moves.trans (PoolWorld.close_moves moves.sound held'), units⟩
          next => cases he

/-! ## Histories -/

theorem PoolPoint.Past.next {history : List (PoolRecord Q Rows)} {client : Nat}
    (fn : Statements Q Rows T) (uncommitted : carriedCommits history = []) :
    (PoolPoint.next client fn).Past history := by
  cases fn with
  | done | await => exact uncommitted
  | fail => exact .inl uncommitted

theorem past {w : PoolWorld Q} {c : PoolConfig Q Rows T (PoolPoint Q Rows T)}
    {actions : List (PoolAction Q Rows T)}
    (h : (poolProtocol Q Rows T).run (.initial w) actions = some c) {pid : Nat}
    {p : Proc (PoolCall Q Rows T) (PoolPoint Q Rows T)} (hp : c.procs[pid]? = some p) :
    p.state.Past (c.own pid) := by
  refine System.run_own (fun _ => True) (fun _ x history => x.Past history) ?_ ?_ h
    (fun _ _ => trivial) hp
  · intro call w x w' hl
    cases hl
    cases call <;> exact ⟨rfl, rfl, rfl⟩
  intro call x history cmd resume pid choice reply w v own hv he _
  cases x with
  | asking statement =>
      cases hv
      cases reply with
      | ok rows => simpa [PoolPoint.Past, carriedCommit] using own.2.2
      | error err => exact .inl (by simpa [carriedCommit] using own.2.2)
  | connecting fn =>
      cases hv
      cases reply with
      | ok client =>
          simpa [PoolPoint.Past, carriedStatement, failedStatement, carriedCommit] using own
      | error err => exact .inl (by simpa [carriedCommit] using own.2.2)
  | beginning client fn =>
      cases hv
      have none : carriedCommits (history ++ [⟨pid, .client client .begin, choice, reply⟩]) = [] := by
        simpa [carriedCommit] using own.2.2
      cases reply with
      | ok => exact .next fn none
      | error err => exact .inl none
  | running client statement resume =>
      cases hv
      exact .next _ (by simpa [carriedCommit, PoolPoint.Past] using own)
  | committing client result =>
      cases hv
      obtain ⟨answer, rfl, replied, _⟩ := poolExec_client he
      have earlier : carriedCommits history = [] := own
      cases reply with
      | ok =>
          have done := reply_done replied
          simp [PoolPoint.Past, carriedCommit, earlier, PoolAnswer.carried, done]
      | error err =>
          have failed := reply_failed replied
          by_cases carried : answer.verdict = .unanswered
          · exact .inr (by simp [carriedCommit, earlier, PoolAnswer.carried,
              carried])
          · exact .inl (by simp [carriedCommit, earlier, PoolAnswer.carried,
              carried, failed])
  | rollingBack client err =>
      cases hv
      have same : carriedCommits (history ++ [⟨pid, .client client .rollback, choice, reply⟩]) =
          carriedCommits history := by simp [carriedCommit]
      cases reply with
      | ok | error => exact own.imp same.trans same.trans
  | releasing client outcome =>
      cases hv
      obtain ⟨rfl, _⟩ := poolExec_release he
      have same : carriedCommits (history ++ [⟨pid, .release client, choice, .ok ()⟩]) =
          carriedCommits history := by simp [carriedCommit]
      cases outcome with
      | ok value => exact same.trans own
      | error err => exact own.imp same.trans same.trans
  | ended outcome => cases hv

/-! ## What becomes durable -/

/-- What an answer makes durable depends on the earlier answers of its call only if it is a
`COMMIT` that was carried out. -/
theorem durableUnit_congr {r : PoolRecord Q Rows} (uncommitted : carriedCommit r = none)
    (history history' : List (PoolRecord Q Rows)) : durableUnit history r = durableUnit history' r := by
  obtain ⟨pid, cmd, choice, reply⟩ := r
  cases cmd with
  | client client request =>
      cases request with
      | commit =>
          cases choice with
          | answer answer =>
              have none : ¬ answer.carried = true := fun carried => by
                simp [carriedCommit, carried] at uncommitted
              simp [durableUnit, none]
          | lend | timeout | through => rfl
      | begin | statement | rollback => rfl
  | query statement => cases choice <;> rfl
  | connect | release => rfl

private theorem durableUnits_concat {c : PoolConfig Q Rows T (PoolPoint Q Rows T)}
    {r : PoolRecord Q Rows}
    (open_ : carriedStatement r = none ∧ failedStatement r = false ∨ carriedCommits (c.own r.pid) = []) :
    durableUnits (c.trace ++ [r]) =
      durableUnits c.trace ++ (durableUnit (c.own r.pid ++ [r]) r).toList := by
  have last : ((c.trace ++ [r]).filter fun r' => r'.pid = r.pid) = c.own r.pid ++ [r] := by
    simp [Config.own, List.filter_append]
  have earlier : ∀ r' ∈ c.trace, durableUnit ((c.trace ++ [r]).filter fun q => q.pid = r'.pid) r' =
      durableUnit (c.trace.filter fun q => q.pid = r'.pid) r' := by
    intro r' mem
    rw [List.filter_append]
    by_cases same : r.pid = r'.pid
    · obtain ⟨carried, failed⟩ | uncommitted := open_
      · obtain ⟨pid, cmd, choice, reply⟩ := r'
        have one : ([r].filter fun q => q.pid = pid) = [r] := by simp [same]
        simp only [one]
        unfold durableUnit
        split
        · rfl
        · simp [statementFailed, carriedStatements, carried, failed]
        · rfl
      · refine durableUnit_congr ?_ _ _
        have own : r' ∈ c.own r.pid := System.mem_own.mpr ⟨mem, same.symm⟩
        exact List.filterMap_eq_nil_iff.mp uncommitted r' own
    · simp [same]
  unfold durableUnits
  rw [List.filterMap_append, List.filterMap_congr earlier]
  congr 1
  simp only [List.filterMap_cons, List.filterMap_nil, last]
  cases durableUnit (c.own r.pid ++ [r]) r <;> rfl

/-! ## One answer, and the clients -/

def PoolPoint.client? : PoolPoint Q Rows T → Option Nat
  | .beginning client _ | .running client _ _ | .committing client _ | .rollingBack client _
  | .releasing client _ => some client
  | .asking _ | .connecting _ | .ended _ => none

def PoolPoint.Fits (history : List (PoolRecord Q Rows)) (session : Session Q) :
    PoolPoint Q Rows T → Prop
  | .beginning _ _ | .releasing _ _ => session.Settled
  | .running _ _ _ | .committing _ _ =>
      session.InTransaction (carriedStatements history) (statementFailed history)
  | _ => True

def PoolPoint.Has (history : List (PoolRecord Q Rows)) (w : PoolWorld Q) (x : PoolPoint Q Rows T) :
    Prop :=
  ∀ client, x.client? = some client → client ∉ w.available ∧
    ∃ session, w.sessions[client]? = some session ∧ x.Fits history session

theorem PoolPoint.Has.nobody {history : List (PoolRecord Q Rows)} {w : PoolWorld Q}
    {x : PoolPoint Q Rows T} (none : x.client? = none) : x.Has history w := by
  intro client mine
  rw [none] at mine
  cases mine

theorem PoolPoint.next_client? (client : Nat) (fn : Statements Q Rows T) :
    (PoolPoint.next client fn).client? = some client := by
  cases fn <;> rfl

theorem PoolPoint.Fits.next {history : List (PoolRecord Q Rows)} {session : Session Q}
    (inside : session.InTransaction (carriedStatements history) (statementFailed history))
    (client : Nat) (fn : Statements Q Rows T) : (PoolPoint.next client fn).Fits history session := by
  cases fn with
  | done | await => exact inside
  | fail => trivial

theorem PoolPoint.Fits.broken {history : List (PoolRecord Q Rows)} {x : PoolPoint Q Rows T} :
    x.Fits history .broken := by
  cases x with
  | beginning | releasing => exact .inr rfl
  | running | committing => exact .inl rfl
  | asking | connecting | rollingBack | ended => trivial

section

variable {history : List (PoolRecord Q Rows)} {w v : PoolWorld Q} {x : PoolPoint Q Rows T}

private theorem client_answered {client : Nat} {request : SessionRequest Q}
    {choice : PoolChoice Rows}
    {reply : Except JsError (request.Reply Rows)} (sound : w.Sound) (has : x.Has history w)
    (mine : x.client? = some client)
    (he : poolExec (.client client request) choice w = some (reply, v)) :
    ∃ answer session next units, choice = .answer answer ∧ answer.reply request = some reply ∧
      x.Fits history session ∧ session.answer request answer.verdict = some (next, units) ∧
        PoolWorld.Moves w v (some client) (some client) ∧ v.committed = w.committed ++ units ∧
          ∀ (y : PoolPoint Q Rows T) (history' : List (PoolRecord Q Rows)),
            y.client? = some client → y.Fits history' next → y.Has history' v := by
  obtain ⟨answer, rfl, replied, performed⟩ := poolExec_client he
  obtain ⟨held, session, found, fits⟩ := has client mine
  obtain ⟨session', next, units, found', answered, rfl⟩ := PoolWorld.perform_spec performed
  obtain rfl : session = session' := Option.some.inj (found.symm.trans found')
  have bound := (List.getElem?_eq_some_iff.mp found).choose
  refine ⟨answer, session, next, units, rfl, replied, fits, answered,
    PoolWorld.set_moves sound held units next, rfl, fun y history' same fits' client' here => ?_⟩
  obtain rfl : client = client' := Option.some.inj (same.symm.trans here)
  exact ⟨held, next, List.getElem?_set_self bound, fits'⟩

/-- The answer recorded by `r` led the call with this history and client to the point `y`. -/
structure PoolPoint.Came (history : List (PoolRecord Q Rows)) (w v : PoolWorld Q)
    (mine : Option Nat) (r : PoolRecord Q Rows) (y : PoolPoint Q Rows T) : Prop where
  moves : PoolWorld.Moves w v mine y.client?
  has : y.Has (history ++ [r]) v
  units : v.committed = w.committed ++ (durableUnit (history ++ [r]) r).toList

variable {cmd : PoolCmd Q} {resume : Except JsError (cmd.Reply Rows) → PoolPoint Q Rows T}
  {choice : PoolChoice Rows} {reply : Except JsError (cmd.Reply Rows)}

private theorem connect_answered {fn : Statements Q Rows T} (sound : w.Sound)
    (hv : (PoolPoint.connecting fn).view = .awaits cmd resume)
    (he : poolExec cmd choice w = some (reply, v)) (pid : Nat) :
    (resume reply).Came history w v none ⟨pid, cmd, choice, reply⟩ := by
  cases hv
  obtain ⟨client, rfl, lent⟩ | ⟨err, rfl, rfl⟩ := poolExec_connect he
  · obtain ⟨moves, idle, held, kept⟩ := PoolWorld.lend_moves sound lent
    refine ⟨moves, ?_, by simpa [durableUnit] using kept⟩
    rintro client' ⟨rfl⟩
    exact ⟨held, _, idle, .inl rfl⟩
  · exact ⟨.refl sound, .nobody rfl, (List.append_nil _).symm⟩

private theorem begin_answered {client : Nat} {fn : Statements Q Rows T} (sound : w.Sound)
    (has : (PoolPoint.beginning client fn).Has history w)
    (own : (PoolPoint.beginning client fn).Past history)
    (hv : (PoolPoint.beginning client fn).view = .awaits cmd resume)
    (he : poolExec cmd choice w = some (reply, v)) (pid : Nat) :
    (resume reply).Came history w v (some client) ⟨pid, cmd, choice, reply⟩ := by
  cases hv
  obtain ⟨answer, session, next, units, rfl, replied, settled, answered, moves, kept, keeps⟩ :=
    client_answered sound has rfl he
  obtain ⟨rfl, begun⟩ := Session.answer_begin settled answered
  cases reply with
  | ok =>
      obtain ⟨_, rfl⟩ | ⟨undone, _⟩ := begun
      · refine ⟨(PoolPoint.next_client? client fn).symm ▸ moves,
          keeps _ _ (PoolPoint.next_client? client fn) (.next (.inr ?_) client fn),
          by simpa [durableUnit] using kept⟩
        obtain ⟨statements, failed, _⟩ := own
        simp [carriedStatement, failedStatement, statements, failed]
      · exact absurd (reply_done replied) undone
  | error err => exact ⟨moves, keeps _ _ rfl trivial, by simpa [durableUnit] using kept⟩

private theorem statement_answered {client : Nat} {statement : Q}
    {fn : Except JsError Rows → Statements Q Rows T} (sound : w.Sound)
    (has : (PoolPoint.running client statement fn).Has history w)
    (hv : (PoolPoint.running client statement fn).view = .awaits cmd resume)
    (he : poolExec cmd choice w = some (reply, v)) (pid : Nat) :
    (resume reply).Came history w v (some client) ⟨pid, cmd, choice, reply⟩ := by
  cases hv
  obtain ⟨answer, session, next, units, rfl, replied, inside, answered, moves, kept, keeps⟩ :=
    client_answered sound has rfl he
  obtain ⟨rfl, carried⟩ := Session.answer_statement inside answered
  have mine := PoolPoint.next_client? client (fn reply)
  refine ⟨mine.symm ▸ moves, keeps _ _ mine (.next ?_ client _),
    by simpa [durableUnit] using kept⟩
  cases reply with
  | ok rows =>
      obtain ⟨_, inside⟩ | ⟨undone, _⟩ := carried
      · simpa [carriedStatement, failedStatement] using inside
      · exact absurd (reply_done replied) undone
  | error err =>
      obtain ⟨done, _⟩ | ⟨_, inside⟩ := carried
      · exact absurd done (reply_failed replied)
      · simpa [carriedStatement, failedStatement] using inside

/-- A `COMMIT` that the server carries out makes durable what its transaction did. -/
theorem commit_answered {client : Nat} {result : T} (sound : w.Sound)
    (has : (PoolPoint.committing client result).Has history w)
    (hv : (PoolPoint.committing client result).view = .awaits cmd resume)
    (he : poolExec cmd choice w = some (reply, v)) (pid : Nat) :
    (resume reply).Came history w v (some client) ⟨pid, cmd, choice, reply⟩ := by
  cases hv
  obtain ⟨answer, session, next, units, rfl, replied, inside, answered, moves, kept, keeps⟩ :=
    client_answered sound has rfl he
  obtain ⟨settled, rfl⟩ := Session.answer_commit inside answered
  have unit : v.committed = w.committed ++ (durableUnit (history ++ [⟨pid, .client client .commit,
      .answer answer, reply⟩]) ⟨pid, .client client .commit, .answer answer, reply⟩).toList := by
    rw [kept]
    congr 1
    simp only [durableUnit, statementFailed_concat, carriedStatements_concat, failedStatement,
      carriedStatement, Bool.or_false, Option.toList_none, List.append_nil, PoolAnswer.carried,
      decide_eq_true_eq]
    by_cases whole : statementFailed history = false ∧
        (answer.verdict = .done ∨ answer.verdict = .unanswered)
    · rw [if_pos whole, if_pos whole.symm]
      rfl
    · rw [if_neg whole, if_neg fun h => whole h.symm]
      rfl
  cases reply with
  | ok => exact ⟨moves, keeps _ _ rfl settled, unit⟩
  | error err => exact ⟨moves, keeps _ _ rfl trivial, unit⟩

private theorem pool_answered (sound : w.Sound) (has : x.Has history w) (own : x.Past history)
    (hv : x.view = .awaits cmd resume) (he : poolExec cmd choice w = some (reply, v)) (pid : Nat) :
    (resume reply).Came history w v x.client? ⟨pid, cmd, choice, reply⟩ := by
  cases x with
  | asking statement =>
      cases hv
      obtain ⟨moves, units⟩ := poolExec_query sound he pid (history ++ [⟨pid, _, choice, reply⟩])
      cases reply with
      | ok | error => exact ⟨moves, .nobody rfl, units⟩
  | connecting fn => exact connect_answered sound hv he pid
  | beginning client fn => exact begin_answered sound has own hv he pid
  | running client statement fn => exact statement_answered sound has hv he pid
  | committing client result => exact commit_answered sound has hv he pid
  | rollingBack client err =>
      cases hv
      obtain ⟨answer, session, next, units, rfl, replied, _, answered, moves, kept, keeps⟩ :=
        client_answered sound has rfl he
      obtain ⟨settled, rfl⟩ := Session.answer_rollback answered
      cases reply with
      | ok | error => exact ⟨moves, keeps _ _ rfl settled, by simpa [durableUnit] using kept⟩
  | releasing client outcome =>
      cases hv
      obtain ⟨rfl, rfl⟩ := poolExec_release he
      obtain ⟨held, session, found, settled⟩ := has client rfl
      obtain ⟨moves, kept⟩ := PoolWorld.giveBack_moves sound held found settled
      exact ⟨moves, .nobody rfl, by simpa [durableUnit] using kept⟩
  | ended outcome => cases hv

end

/-- The statements of a transaction come before its `COMMIT`. -/
theorem statement_uncommitted {history : List (PoolRecord Q Rows)} {x : PoolPoint Q Rows T}
    {cmd : PoolCmd Q} {resume : Except JsError (cmd.Reply Rows) → PoolPoint Q Rows T}
    (own : x.Past history) (hv : x.view = .awaits cmd resume) (pid : Nat) (choice : PoolChoice Rows)
    (reply : Except JsError (cmd.Reply Rows)) :
    carriedStatement ⟨pid, cmd, choice, reply⟩ = none ∧
        failedStatement ⟨pid, cmd, choice, reply⟩ = false ∨ carriedCommits history = [] := by
  cases x with
  | running => exact .inr own
  | ended => cases hv
  | asking | connecting | beginning | committing | rollingBack | releasing =>
      cases hv
      exact .inl ⟨rfl, rfl⟩

/-! ## Whole runs -/

abbrev PoolCaller (Q Rows T : Type) := Proc (PoolCall Q Rows T) (PoolPoint Q Rows T)

structure Pooled (c : PoolConfig Q Rows T (PoolPoint Q Rows T)) : Prop where
  sound : c.world.Sound
  has : ∀ (pid : Nat) (p : PoolCaller Q Rows T), c.procs[pid]? = some p →
    p.state.Has (c.own pid) c.world
  alone : ∀ (pid q : Nat) (p p' : PoolCaller Q Rows T) (client : Nat), c.procs[pid]? = some p →
    c.procs[q]? = some p' → p.state.client? = some client → p'.state.client? = some client → pid = q
  owned : ∀ client session, c.world.sessions[client]? = some session → session ≠ .broken →
    client ∈ c.world.available ∨
      ∃ (pid : Nat) (p : PoolCaller Q Rows T), c.procs[pid]? = some p ∧ p.state.client? = some client
  whole : c.world.committed = durableUnits c.trace

namespace Pooled

variable {c c' : PoolConfig Q Rows T (PoolPoint Q Rows T)}

theorem initial : Pooled (Config.initial .fresh : PoolConfig Q Rows T (PoolPoint Q Rows T)) where
  sound := .fresh
  has pid p hp := by cases hp
  alone pid q p p' client hp := by cases hp
  owned client session found := by cases found
  whole := rfl

theorem started (pooled : Pooled c) {entry : PoolCall Q Rows T}
    (hs : (poolProtocol Q Rows T).step c (.start entry) = some c') : Pooled c' := by
  obtain ⟨x, w, hl, rfl⟩ := System.step_start hs
  cases hl
  have none : entry.startPoint.client? = none := by cases entry <;> rfl
  refine ⟨pooled.sound, fun pid p hp => ?_, fun pid q p p' client hp hq mine mine' => ?_,
    fun client session found working => ?_, pooled.whole⟩
  · obtain hp | ⟨_, rfl⟩ := System.get_started hp
    · exact pooled.has pid p hp
    · exact .nobody none
  · obtain hp | ⟨_, rfl⟩ := System.get_started hp
    · obtain hq | ⟨_, rfl⟩ := System.get_started hq
      · exact pooled.alone pid q p p' client hp hq mine mine'
      · simp [none] at mine'
    · simp [none] at mine
  · refine (pooled.owned client session found working).imp_right ?_
    rintro ⟨pid, p, hp, mine⟩
    have bound := (List.getElem?_eq_some_iff.mp hp).choose
    exact ⟨pid, p, by simpa [List.getElem?_append_left bound] using hp, mine⟩

private theorem broke (pooled : Pooled c) {event : PoolEvent}
    (hs : (poolProtocol Q Rows T).step c (.env event) = some c') : Pooled c' := by
  obtain ⟨w, he, rfl⟩ := System.step_env hs
  obtain ⟨broken⟩ := event
  cases he
  refine ⟨⟨pooled.sound.once.erase broken, fun client mem => ?_⟩, fun pid p hp client mine => ?_,
    pooled.alone, fun client session found working => ?_, pooled.whole⟩
  · obtain ⟨apart, mem⟩ := pooled.sound.once.mem_erase_iff.mp mem
    rw [PoolWorld.close, List.getElem?_set_ne (Ne.symm apart)]
    exact pooled.sound.clean client mem
  · obtain ⟨held, session, found, fits⟩ := pooled.has pid p hp client mine
    refine ⟨fun mem => held (List.mem_of_mem_erase mem), ?_⟩
    by_cases here : broken = client
    · subst here
      have bound := (List.getElem?_eq_some_iff.mp found).choose
      exact ⟨.broken, List.getElem?_set_self bound, .broken⟩
    · exact ⟨session, by rw [PoolWorld.close, List.getElem?_set_ne here]; exact found, fits⟩
  · simp only [PoolWorld.close] at found ⊢
    by_cases here : broken = client
    · subst here
      have bound := (List.getElem?_eq_some_iff.mp found).choose
      rw [List.getElem?_set_self (by simpa using bound)] at found
      exact absurd (Option.some.inj found).symm working
    · rw [List.getElem?_set_ne here] at found
      exact (pooled.owned client session found working).imp_left
        (List.mem_erase_of_ne (Ne.symm here)).mpr

theorem answered (pooled : Pooled c) {taken : List (PoolAction Q Rows T)}
    (reached : (poolProtocol Q Rows T).run (.initial .fresh) taken = some c) {q : Nat}
    {choice : PoolChoice Rows} (hs : (poolProtocol Q Rows T).step c (.resume q choice) = some c') :
    Pooled c' := by
  obtain ⟨p, cmd, resume, reply, w, hp, hv, he, rfl⟩ := System.step_resume hs
  have own := past reached hp
  obtain ⟨moves, has, units⟩ := pool_answered pooled.sound (pooled.has q p hp) own hv he q
  have bound := (List.getElem?_eq_some_iff.mp hp).choose
  -- the clients of the other calls stay theirs
  have others : ∀ (pid : Nat) (p' : PoolCaller Q Rows T), pid ≠ q → c.procs[pid]? = some p' →
      ∀ client, p'.state.client? = some client → client ∉ w.available ∧
        (resume reply).client? ≠ some client ∧
          ∃ session, w.sessions[client]? = some session ∧ p'.state.Fits (c.own pid) session := by
    intro pid p' apart hp' client mine
    obtain ⟨held, session, found, fits⟩ := pooled.has pid p' hp' client mine
    have before : p.state.client? ≠ some client := fun same =>
      apart (pooled.alone pid q p' p client hp' hp mine same)
    obtain ⟨found, held, after⟩ := moves.others client session found held before
    exact ⟨held, after, session, found, fits⟩
  refine ⟨moves.sound, fun pid p' hp' => ?_, fun pid pid' p₁ p₂ client hp₁ hp₂ mine mine' => ?_,
    fun client session found working => ?_, ?_⟩
  · obtain ⟨rfl, rfl⟩ | ⟨apart, hp'⟩ := System.get_answered hp'
    · rw [System.own_append_self]
      exact has
    · rw [System.own_append_of_ne c (Ne.symm apart)]
      intro client mine
      obtain ⟨held, _, rest⟩ := others pid p' apart hp' client mine
      exact ⟨held, rest⟩
  · obtain ⟨rfl, rfl⟩ | ⟨apart, earlier⟩ := System.get_answered hp₁
    · obtain ⟨rfl, rfl⟩ | ⟨apart', earlier'⟩ := System.get_answered hp₂
      · rfl
      · exact absurd mine (others pid' p₂ apart' earlier' client mine').2.1
    · obtain ⟨rfl, rfl⟩ | ⟨apart', earlier'⟩ := System.get_answered hp₂
      · exact absurd mine' (others pid p₁ apart earlier client mine).2.1
      · exact pooled.alone pid pid' p₁ p₂ client earlier earlier' mine mine'
  · obtain free | mine | ⟨found, held, before⟩ := moves.owned client session found working
    · exact .inl free
    · exact .inr ⟨q, _, List.getElem?_set_self bound, mine⟩
    · obtain free | ⟨pid, p', hp', mine⟩ := pooled.owned client session found working
      · exact absurd free held
      · have apart : q ≠ pid := by
          rintro rfl
          obtain rfl : p = p' := Option.some.inj (hp.symm.trans hp')
          exact before mine
        exact .inr ⟨pid, p', by rw [List.getElem?_set_ne apart]; exact hp', mine⟩
  · rw [durableUnits_concat (statement_uncommitted own hv q choice reply), ← pooled.whole]
    exact units

theorem run {c : PoolConfig Q Rows T (PoolPoint Q Rows T)} {actions : List (PoolAction Q Rows T)}
    (h : (poolProtocol Q Rows T).run (.initial .fresh) actions = some c) : Pooled c := by
  refine System.run_induction (fun _ c => Pooled c) (fun taken d a d' reached pooled hs => ?_) h
    .initial
  cases a with
  | start entry => exact pooled.started hs
  | resume q choice => exact pooled.answered reached hs
  | env event => exact pooled.broke hs

end Pooled

/-! ## Transactions -/

def PoolPoint.Transactional : PoolPoint Q Rows T → Prop
  | .asking _ | .ended (.ok (.rows _)) => False
  | _ => True

theorem PoolPoint.Transactional.next (client : Nat) (fn : Statements Q Rows T) :
    (PoolPoint.next client fn).Transactional := by
  cases fn <;> trivial

private theorem transaction_direct {w : PoolWorld Q} {c : PoolConfig Q Rows T (PoolPoint Q Rows T)}
    {actions : List (PoolAction Q Rows T)}
    (h : (poolProtocol Q Rows T).run (.initial w) actions = some c) {pid : Nat}
    {p : PoolCaller Q Rows T} (hp : c.procs[pid]? = some p) {fn : Statements Q Rows T}
    (entry : p.entry = .withTransaction fn) :
    p.state.Transactional ∧ ∀ r ∈ c.own pid, ∀ statement, r.cmd ≠ .query statement := by
  let Own := fun (call : PoolCall Q Rows T) (x : PoolPoint Q Rows T)
      (history : List (PoolRecord Q Rows)) => call = .withTransaction fn →
    x.Transactional ∧ ∀ r ∈ history, ∀ statement, r.cmd ≠ .query statement
  refine System.run_own (fun _ => True) Own ?_ ?_ h (fun _ _ => trivial) hp entry
  · rintro _ v x v' hl rfl
    cases hl
    exact ⟨trivial, fun _ mem => (List.not_mem_nil mem).elim⟩
  intro call x history cmd resume pid choice reply v v' own hv he _ same
  obtain ⟨here, earlier⟩ := own same
  have after : (resume reply).Transactional := by
    cases x with
    | asking => exact here.elim
    | ended => cases hv
    | beginning client fn =>
        cases hv
        cases reply with
        | ok => exact .next client fn
        | error => trivial
    | running client statement resume =>
        cases hv
        exact .next client _
    | releasing client outcome => cases hv; cases reply <;> cases outcome <;> trivial
    | connecting | committing | rollingBack => cases hv; cases reply <;> trivial
  refine ⟨after, fun r mem => ?_⟩
  obtain mem | mem := List.mem_append.mp mem
  · exact earlier r mem
  · obtain rfl := List.mem_singleton.mp mem
    cases x with
    | asking => exact here.elim
    | ended => cases hv
    | connecting | beginning | running | committing | rollingBack | releasing => cases hv; nofun

private theorem durableUnit_commit (history : List (PoolRecord Q Rows)) {r : PoolRecord Q Rows}
    (direct : ∀ statement, r.cmd ≠ .query statement) :
    durableUnit history r = (carriedCommit r).bind fun _ =>
      if statementFailed history then none else some (carriedStatements history) := by
  obtain ⟨pid, cmd, choice, reply⟩ := r
  cases cmd with
  | query statement => exact absurd rfl (direct statement)
  | connect | release => rfl
  | client client request =>
      cases request with
      | begin | statement | rollback => rfl
      | commit =>
          cases choice with
          | lend | timeout | through => rfl
          | answer answer =>
              simp only [durableUnit, carriedCommit]
              cases answer.carried <;> cases statementFailed history <;> rfl

private theorem durableUnits_own {c : PoolConfig Q Rows T (PoolPoint Q Rows T)} {pid : Nat}
    (direct : ∀ r ∈ c.own pid, ∀ statement, r.cmd ≠ .query statement) :
    durableUnits (c.own pid) = if statementFailed (c.own pid) then [] else
      (carriedCommits (c.own pid)).map fun _ => carriedStatements (c.own pid) := by
  have all : ∀ r ∈ c.own pid, durableUnit ((c.own pid).filter fun r' => r'.pid = r.pid) r =
      (carriedCommit r).bind fun _ => if statementFailed (c.own pid) then none
        else some (carriedStatements (c.own pid)) := by
    intro r mem
    have same : ((c.own pid).filter fun r' => r'.pid = r.pid) = c.own pid := by
      refine List.filter_eq_self.mpr fun r' mem' => ?_
      rw [(System.mem_own.mp mem).2, (System.mem_own.mp mem').2]
      exact decide_eq_true rfl
    rw [same]
    exact durableUnit_commit _ (direct r mem)
  rw [durableUnits, List.filterMap_congr all, carriedCommits]
  cases statementFailed (c.own pid) with
  | true => simp
  | false =>
      simp only [List.map_filterMap, Option.map_eq_bind]
      rfl

theorem PoolPoint.awaits_of_client {x : PoolPoint Q Rows T} {client : Nat}
    (mine : x.client? = some client) : ∃ cmd resume, x.view = .awaits cmd resume := by
  cases x with
  | asking | connecting | ended => cases mine
  | beginning | running | committing | rollingBack | releasing => exact ⟨_, _, rfl⟩

def AllOrNothing (history : List (PoolRecord Q Rows)) :
    Except JsError (PoolResult Rows T) → Prop
  | .ok _ => durableUnits history =
      if statementFailed history then [] else [carriedStatements history]
  | .error _ => durableUnits history = [] ∨
      carriedCommits history = [false] ∧ durableUnits history = [carriedStatements history]

/-- Transactions are all or nothing, also for callers that share the pool: what is durable are
whole units, in the order in which they became so. A transaction that resolves has made all its
statements durable, or nothing if it went on after a failed one. One that rejects has made
nothing durable, unless the answer to its `COMMIT` was lost. Free clients have no transaction,
and when all calls have ended every client that works is free. -/
theorem transactions_atomic {c : PoolConfig Q Rows T (PoolProg Q Rows (PoolResult Rows T))}
    {actions : List (PoolAction Q Rows T)}
    (h : (poolSystem Q Rows T).run (.initial .fresh) actions = some c) :
    c.world.committed = durableUnits c.trace ∧
      (∀ (pid : Nat) (fn : Statements Q Rows T) (outcome : Except JsError (PoolResult Rows T)),
        c.entries[pid]? = some (.withTransaction fn) → (poolSystem Q Rows T).Ended c pid outcome →
          AllOrNothing (c.own pid) outcome) ∧
      (∀ client ∈ c.world.available, c.world.sessions[client]? = some .idle) ∧
      ((poolSystem Q Rows T).idle c = true → ∀ client session,
        c.world.sessions[client]? = some session → session ≠ .broken →
          client ∈ c.world.available) := by
  obtain ⟨d, hd, rfl⟩ := pool_refines.lift (c := .initial .fresh) h
  have pooled := Pooled.run hd
  refine ⟨pooled.whole, fun pid fn outcome started ended => ?_, pooled.sound.clean,
    fun idle client session found working => ?_⟩
  · obtain ⟨p, hp, hv⟩ := pool_refines.ended.mp ended
    have entry : p.entry = .withTransaction fn := by
      simpa [Config.entries, Config.map, hp] using started
    obtain ⟨transactional, direct⟩ := transaction_direct hd hp entry
    have own := past hd hp
    rw [Config.map_own]
    cases x : p.state with
    | ended outcome' =>
        rw [x] at own hv transactional
        cases hv
        cases outcome with
        | ok value =>
            cases value with
            | rows => exact transactional.elim
            | result value =>
                have committed : carriedCommits (d.own pid) = [true] := own
                rw [AllOrNothing, durableUnits_own direct, committed]
                rfl
        | error err =>
            rw [AllOrNothing, durableUnits_own direct]
            obtain none | lost := (own : carriedCommits _ = [] ∨ _)
            · exact .inl (by simp [none])
            · cases statementFailed (d.own pid) with
              | true => exact .inl rfl
              | false => exact .inr ⟨lost, by simp [lost]⟩
    | asking | connecting | beginning | running | committing | rollingBack | releasing =>
        rw [x] at hv
        cases hv
  · obtain free | ⟨pid, p, hp, mine⟩ := pooled.owned client session found working
    · exact free
    · obtain ⟨cmd, resume, hv⟩ := PoolPoint.awaits_of_client mine
      have waiting := pool_refines.inFlight.mpr ⟨p, cmd, resume, hp, hv⟩
      exact absurd waiting (System.not_inFlight_of_idle idle pid)

def twoStatements (first second : String) : Statements String Unit Unit := do
  let _ ← Prog.call (R := fun _ => Unit) first
  let _ ← Prog.call second
  pure ()

/-- Two transactions and a query share the pool. The first commits, but the answer is lost; the
second is rolled back. -/
def sharedPool : List (PoolAction String Unit Unit) :=
  [.start (.withTransaction (twoStatements "a" "b")), .resume 0 (.lend 0),
    .start (.withTransaction (twoStatements "c" "d")), .resume 1 (.lend 1),
    .resume 0 (.answer .ok), .resume 0 (.answer (.rows ())), .resume 1 (.answer .ok),
    .start (.query "e"), .resume 2 (.through 2 (.rows ())), .resume 0 (.answer (.rows ())),
    .resume 1 (.answer (.refuse { message := "duplicate key" })),
    .resume 0 (.answer (.lose { message := "ECONNRESET" })), .resume 1 (.answer .ok),
    .resume 0 (.answer (.drop { message := "ECONNRESET" })), .resume 1 (.answer .ok),
    .resume 0 (.answer .ok)]

private theorem sharedPool_possible :
    ((poolSystem String Unit Unit).run (.initial .fresh) sharedPool).isSome = true := by
  decide

theorem transactions_atomic_shared : ∃ c,
    (poolSystem String Unit Unit).run (.initial .fresh) sharedPool = some c ∧
      c.world.committed = [["e"], ["a", "b"]] ∧ c.world.committed = durableUnits c.trace ∧
        AllOrNothing (T := Unit) (c.own 0) (.error { message := "ECONNRESET" }) := by
  have reached := System.run_result sharedPool_possible
  obtain ⟨whole, ended, _⟩ := transactions_atomic reached
  exact ⟨_, reached, rfl, whole, ended 0 (twoStatements "a" "b") _ rfl ⟨_, rfl, rfl⟩⟩

end SalesforceTikTok
