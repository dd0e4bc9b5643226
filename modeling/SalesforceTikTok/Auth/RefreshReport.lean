import SalesforceTikTok.Auth.RefreshTask

/-!
# The report of `refreshAll`

The tasks push into two shared lists as they end: the ids that were refreshed, and
those for which a task threw. Each id occurs once among the listed ones, so what is
pushed for it is settled by the answers to its own task, and these depend on nothing
that the other tasks do.
-/

namespace SalesforceTikTok

open Concurrency
open TokenStore (getActiveToken)
open TikTokOAuthClient (refreshAccessToken)
open ProactiveRefresher

/-! ## The report -/

theorem TokenWorld.selectActiveIds_nodup (w : TokenWorld) : w.selectActiveIds.Nodup :=
  (List.Sublist.map Sigma.fst List.filter_sublist).nodup w.rows.nodupKeys

def TaskConfig.answers (c : TaskConfig) (pid : Nat) : List TokenAnswer :=
  (c.own pid).map Record.answer

/-- The task looked the token of its advertiser up, and if it found one, and one that expires
within an hour, it refreshed it. -/
inductive Attended (a : String) (answers : List TokenAnswer) : Prop where
  | threw {error} (looked : LookedUp a (.error error) answers [])
  | absent (looked : LookedUp a (.ok none) answers [])
  | valid {active now} (looked : LookedUp a (.ok (some active)) answers [⟨.now, .ok now⟩])
      (late : now + ONE_HOUR < active.expiresAt)
  | refreshed {rest outcome} (soon : ExpiresSoon a answers rest)
      (took : (refreshAccessToken a).Takes outcome rest)

structure ReportsExactly (ids : List String) (c : TaskConfig) (report : RefreshReport) :
    Prop where
  refreshed_nodup : report.refreshed.Nodup
  failed_nodup : report.failed.Nodup
  disjoint : report.refreshed.Disjoint report.failed
  listed : ∀ a, a ∈ report.refreshed ∨ a ∈ report.failed → a ∈ ids
  attended : ∀ pid a, ids[pid]? = some a → Attended a (TaskConfig.answers c pid)
  refreshed : ∀ pid a, ids[pid]? = some a → (a ∈ report.refreshed ↔
    ∃ rest row, ExpiresSoon a (TaskConfig.answers c pid) rest ∧
      (refreshAccessToken a).Takes (.ok row) rest)
  failed : ∀ pid a, ids[pid]? = some a → (a ∈ report.failed ↔
    (∃ error, LookedUp a (.error error) (TaskConfig.answers c pid) []) ∨
      ∃ rest error, ExpiresSoon a (TaskConfig.answers c pid) rest ∧
        (refreshAccessToken a).Takes (.error error) rest)
  called : ∀ r ∈ c.trace, r.cmd.refreshes = true → ∃ a rest outcome,
    ids[r.pid]? = some a ∧ ExpiresSoon a (TaskConfig.answers c r.pid) rest ∧
      (refreshAccessToken a).Takes outcome rest ∧ r.answer ∈ rest

def AgreeOn (a : String) (report other : RefreshReport) : Prop :=
  (a ∈ report.refreshed ↔ a ∈ other.refreshed) ∧ (a ∈ report.failed ↔ a ∈ other.failed)

def taskExperience (w : TokenWorld) (ids : List String)
    (schedule : List (Action String TokenChoice TokenEvent)) (pid : Nat) :
    List (TokenChoice × Int) :=
  refreshTasks.experience TokenWorld.clock pid (.initial w) (ids.map .start ++ schedule)

section

variable {w : TokenWorld} {ids : List String}
  {schedule : List (Action String TokenChoice TokenEvent)} {c : TaskConfig}

private theorem clock_read {actions : List (Action String TokenChoice TokenEvent)}
    (h : refreshTasks.run (.initial w) actions = some c) (pid : Nat) (error : JsError) :
    (⟨.now, .error error⟩ : TokenAnswer) ∉ TaskConfig.answers c pid := by
  intro asked
  obtain ⟨r, hr, same⟩ := List.mem_map.mp asked
  obtain ⟨hr, _⟩ := System.mem_own.mp hr
  have read := System.run_invariant (fun c => ∀ r ∈ c.trace, r.answer ≠ ⟨.now, .error error⟩)
    ?_ h (by simp [Config.initial])
  · exact read r hr same
  · intro c a d ih hs
    cases a with
    | start entry =>
        obtain ⟨x, v, _, rfl⟩ := System.step_start hs
        exact ih
    | env event =>
        obtain ⟨v, _, rfl⟩ := System.step_env hs
        exact ih
    | resume q choice =>
        obtain ⟨p, cmd, resume, reply, v, _, _, he, rfl⟩ := System.step_resume hs
        intro r hr
        rcases List.mem_append.mp hr with hr | hr
        · exact ih r hr
        · obtain rfl := List.mem_singleton.mp hr
          intro same
          cases same
          cases choice <;> cases he

private theorem clock_asked {a : String} {found : Except JsError (Option ActiveToken)}
    {error : JsError}
    {answers : List TokenAnswer} (looked : LookedUp a found answers [⟨.now, .error error⟩]) :
    (⟨.now, .error error⟩ : TokenAnswer) ∈ answers := by
  obtain ⟨before, rfl, _⟩ := looked
  exact List.mem_append_right before (List.mem_singleton_self _)

private theorem task_exit (h : refreshTasks.Gathers w ids schedule c) {pid : Nat}
    {p : Proc String (TokenProg Pushed)} (hp : c.procs[pid]? = some p) :
    ∃ pushed, refreshTasks.Ended c pid (.ok pushed) ∧
      TaskExit p.entry (TaskConfig.answers c pid) pushed := by
  obtain ⟨outcome, ended⟩ := h.ended hp
  have took := System.Ended.takes rfl (fun entry w x v hl => by cases hl; rfl) h.run hp ended
  obtain ⟨pushed, rfl, exit⟩ := TaskExit.of_takes took
  exact ⟨pushed, ended, exit⟩

private theorem exit_of_ended (h : refreshTasks.Gathers w ids schedule c) {pid : Nat}
    {p : Proc String (TokenProg Pushed)} (hp : c.procs[pid]? = some p) {pushed : Pushed}
    (ended : refreshTasks.Ended c pid (.ok pushed)) :
    TaskExit p.entry (TaskConfig.answers c pid) pushed := by
  obtain ⟨pushed', ended', exit⟩ := task_exit h hp
  have same := (ended.view_eq hp).symm.trans (ended'.view_eq hp)
  cases same
  exact exit

theorem TaskExit.names {a : String} {pushed : Pushed} {answers : List TokenAnswer}
    (h : TaskExit a answers pushed) :
    (∀ b, pushed.refreshed? = some b → b = a) ∧ ∀ b, pushed.failed? = some b → b = a := by
  cases h <;> exact ⟨fun b same => by cases same <;> rfl, fun b same => by cases same <;> rfl⟩

/-- An id is on a list if its own task has pushed it there. -/
theorem mem_pushed (h : refreshTasks.Gathers w ids schedule c) (distinct : ids.Nodup)
    (adds : Pushed → Option String)
    (named : ∀ {a answers pushed}, TaskExit a answers pushed →
      ∀ b, adds pushed = some b → b = a)
    {pid : Nat} {p : Proc String (TokenProg Pushed)} (hp : c.procs[pid]? = some p) :
    p.entry ∈ refreshTasks.gathered adds w ids schedule ↔
      ∃ pushed, TaskExit p.entry (TaskConfig.answers c pid) pushed ∧
        adds pushed = some p.entry := by
  rw [h.mem_gathered]
  constructor
  · rintro ⟨q, pushed, ended, added⟩
    obtain ⟨p', hq, hv⟩ := id ended
    have exit := exit_of_ended h hq ended
    have same := named exit _ added
    rw [← h.entries_eq] at distinct
    obtain rfl := System.entry_unique distinct hp hq same
    obtain rfl : p' = p := by simpa [hp] using hq.symm
    exact ⟨pushed, exit, added⟩
  · rintro ⟨pushed, exit, added⟩
    obtain ⟨pushed', ended, exit'⟩ := task_exit h hp
    obtain rfl := exit.unique exit'
    exact ⟨pid, pushed, ended, added⟩

private theorem proc_at (h : refreshTasks.Gathers w ids schedule c) {pid : Nat} {a : String}
    (listed : ids[pid]? = some a) : ∃ p, c.procs[pid]? = some p ∧ p.entry = a := by
  rw [← h.entries_eq, Config.entries, List.getElem?_map, Option.map_eq_some_iff] at listed
  exact listed

private theorem gathered_listed (h : refreshTasks.Gathers w ids schedule c)
    {adds : Pushed → Option String}
    (named : ∀ {a answers pushed}, TaskExit a answers pushed →
      ∀ b, adds pushed = some b → b = a)
    {a : String} (pushed : a ∈ refreshTasks.gathered adds w ids schedule) :
    ∃ (pid : Nat) (p : Proc String (TokenProg Pushed)), c.procs[pid]? = some p ∧ p.entry = a := by
  obtain ⟨pid, pushed, ended, added⟩ := h.mem_gathered.mp pushed
  obtain ⟨p, hp, hv⟩ := id ended
  exact ⟨pid, p, hp, (named (exit_of_ended h hp ended) a added).symm⟩

private theorem task_attended (h : refreshTasks.Gathers w ids schedule c) {pid : Nat}
    {p : Proc String (TokenProg Pushed)} (hp : c.procs[pid]? = some p) :
    Attended p.entry (TaskConfig.answers c pid) := by
  obtain ⟨pushed, _, exit⟩ := task_exit h hp
  cases exit with
  | absent looked => exact .absent looked
  | valid looked late => exact .valid looked late
  | refreshed soon took => exact .refreshed soon took
  | lookupThrew looked => exact .threw looked
  | refreshThrew soon took => exact .refreshed soon took
  | @clockThrew active error looked => exact absurd (clock_asked looked) (clock_read h.run pid error)

private theorem reports_exactly (h : refreshTasks.Gathers w ids schedule c) (distinct : ids.Nodup) :
    ReportsExactly ids c (refreshAll w ids schedule) := by
  have refreshedOwn {a answers pushed} (exit : TaskExit a answers pushed) := exit.names.1
  have failedOwn {a answers pushed} (exit : TaskExit a answers pushed) := exit.names.2
  have mem_refreshed {pid p} (hp : c.procs[pid]? = some p) :=
    mem_pushed h distinct Pushed.refreshed? refreshedOwn hp
  have mem_failed {pid p} (hp : c.procs[pid]? = some p) :=
    mem_pushed h distinct Pushed.failed? failedOwn hp
  constructor
  · refine h.gathered_nodup distinct id ?_
    exact fun hp ended added => refreshedOwn (exit_of_ended h hp ended) _ added
  · refine h.gathered_nodup distinct id ?_
    exact fun hp ended added => failedOwn (exit_of_ended h hp ended) _ added
  · intro a refreshed failed
    obtain ⟨pid, p, hp, rfl⟩ := gathered_listed h refreshedOwn refreshed
    obtain ⟨pushed, exit, added⟩ := (mem_refreshed hp).mp refreshed
    obtain ⟨pushed', exit', added'⟩ := (mem_failed hp).mp failed
    obtain rfl := exit.unique exit'
    cases pushed with
    | nothing => cases added
    | refreshed b => cases added'
    | failed b => cases added
  · rintro a (refreshed | failed)
    · obtain ⟨pid, p, hp, rfl⟩ := gathered_listed h refreshedOwn refreshed
      exact h.mem_of_proc hp
    · obtain ⟨pid, p, hp, rfl⟩ := gathered_listed h failedOwn failed
      exact h.mem_of_proc hp
  · intro pid a listed
    obtain ⟨p, hp, rfl⟩ := proc_at h listed
    exact task_attended h hp
  · intro pid a listed
    obtain ⟨p, hp, rfl⟩ := proc_at h listed
    refine (mem_refreshed hp).trans ⟨?_, ?_⟩
    · rintro ⟨pushed, exit, added⟩
      cases exit with
      | refreshed soon took => exact ⟨_, _, soon, took⟩
      | _ => cases added
    · rintro ⟨rest, row, soon, took⟩
      exact ⟨_, .refreshed soon took, rfl⟩
  · intro pid a listed
    obtain ⟨p, hp, rfl⟩ := proc_at h listed
    refine (mem_failed hp).trans ⟨?_, ?_⟩
    · rintro ⟨pushed, exit, added⟩
      cases exit with
      | lookupThrew looked => exact .inl ⟨_, looked⟩
      | refreshThrew soon took => exact .inr ⟨_, _, soon, took⟩
      | @clockThrew active error looked =>
          exact absurd (clock_asked looked) (clock_read h.run pid error)
      | _ => cases added
    · rintro (⟨error, looked⟩ | ⟨rest, error, soon, took⟩)
      · exact ⟨_, .lookupThrew looked, rfl⟩
      · exact ⟨_, .refreshThrew soon took, rfl⟩
  · intro r hr refreshes
    have bound := System.run_pid_bound h.run r hr
    obtain ⟨p, hp⟩ : ∃ p, c.procs[r.pid]? = some p := ⟨_, List.getElem?_eq_getElem bound⟩
    obtain ⟨pushed, _, exit⟩ := task_exit h hp
    have asked : r.answer ∈ TaskConfig.answers c r.pid :=
      List.mem_map_of_mem (System.mem_own.mpr ⟨hr, rfl⟩)
    obtain ⟨rest, outcome, called⟩ := exit.called asked refreshes
    refine ⟨p.entry, rest, outcome, ?_, called⟩
    rw [← h.entries_eq, Config.entries, List.getElem?_map, hp]
    rfl

/-- Two tasks for one id with the same row, copy and experience end alike. -/
theorem same_end (h : refreshTasks.Gathers w ids schedule c) (distinct : ids.Nodup)
    (keyed : w.Keyed) {w' : TokenWorld} {ids' : List String}
    {schedule' : List (Action String TokenChoice TokenEvent)} {c' : TaskConfig}
    (h' : refreshTasks.Gathers w' ids' schedule' c') (distinct' : ids'.Nodup)
    (keyed' : w'.Keyed) {pid pid' : Nat} {p p' : Proc String (TokenProg Pushed)}
    (hp : c.procs[pid]? = some p) (hp' : c'.procs[pid']? = some p') (one : p'.entry = p.entry)
    (same : w.SameFor p.entry w')
    (alike : taskExperience w ids schedule pid = taskExperience w' ids' schedule' pid') :
    p'.state = p.state := by
  have contract (a : String) := refreshTask_concerns a []
  have launched (entry : String) (w : TokenWorld) (x : TokenProg Pushed) (v : TokenWorld)
      (hl : refreshTasks.launch entry w = some (x, v)) : x = refreshTask entry ∧ v = w := by
    cases hl
    exact ⟨rfl, rfl⟩
  rw [← h.entries_eq] at distinct
  rw [← h'.entries_eq] at distinct'
  obtain ⟨u, first⟩ := System.run_alone tokens_separate contract rfl launched keyed h.run
    distinct hp same
  obtain ⟨u', second⟩ := System.run_alone tokens_separate contract rfl launched keyed' h'.run
    distinct' hp' (⟨rfl, rfl⟩ : w'.SameFor p'.entry w')
  unfold taskExperience at alike
  rw [one, ← alike, first] at second
  exact (congrArg Prod.fst (Option.some.inj second)).symm

/-- Two tasks for one id with the same row, copy and experience push alike. -/
theorem same_report (h : refreshTasks.Gathers w ids schedule c) (distinct : ids.Nodup)
    (keyed : w.Keyed) {w' : TokenWorld} {ids' : List String}
    {schedule' : List (Action String TokenChoice TokenEvent)} {c' : TaskConfig}
    (h' : refreshTasks.Gathers w' ids' schedule' c') (distinct' : ids'.Nodup)
    (keyed' : w'.Keyed) {pid pid' : Nat} {a : String} (listed : ids[pid]? = some a)
    (listed' : ids'[pid']? = some a) (same : w.SameFor a w')
    (alike : taskExperience w ids schedule pid = taskExperience w' ids' schedule' pid') :
    AgreeOn a (refreshAll w ids schedule) (refreshAll w' ids' schedule') := by
  obtain ⟨p, hp, rfl⟩ := proc_at h listed
  obtain ⟨p', hp', one⟩ := proc_at h' listed'
  have state := same_end h distinct keyed h' distinct' keyed' hp hp' one same alike
  obtain ⟨pushed, ended, exit⟩ := task_exit h hp
  obtain ⟨pushed', ended', exit'⟩ := task_exit h' hp'
  have view := (ended'.view_eq hp').symm.trans ((congrArg refreshTasks.view state).trans
    (ended.view_eq hp))
  cases view
  rw [← one]
  have mem {adds : Pushed → Option String} (named : ∀ {a answers pushed},
      TaskExit a answers pushed → ∀ b, adds pushed = some b → b = a) :
      p'.entry ∈ refreshTasks.gathered adds w ids schedule ↔
        p'.entry ∈ refreshTasks.gathered adds w' ids' schedule' := by
    rw [mem_pushed h' distinct' adds named hp', one, mem_pushed h distinct adds named hp]
    rw [one] at exit'
    constructor
    · rintro ⟨other, same, added⟩
      obtain rfl := exit.unique same
      exact ⟨_, exit', added⟩
    · rintro ⟨other, same, added⟩
      obtain rfl := exit'.unique same
      exact ⟨_, exit, added⟩
  exact ⟨mem fun exit => exit.names.1, mem fun exit => exit.names.2⟩

end

/-- The report on the active advertisers says what happened to each of them. Each is reported as
its own task went: another report, of whatever other advertisers and in whatever order the tasks
were answered, has it on the same list if its row, its copy and the answers to its task are the
same. -/
theorem refresh_all_reports {listed w : TokenWorld} (keyed : w.Keyed)
    {schedule : List (Action String TokenChoice TokenEvent)} {c : TaskConfig}
    (h : refreshTasks.Gathers w listed.selectActiveIds schedule c) :
    ReportsExactly listed.selectActiveIds c (refreshAll w listed.selectActiveIds schedule) ∧
      (∀ (listed' w' : TokenWorld) (schedule' : List (Action String TokenChoice TokenEvent))
        (c' : TaskConfig), w'.Keyed →
        refreshTasks.Gathers w' listed'.selectActiveIds schedule' c' →
        ∀ (pid pid' : Nat) (a : String), listed.selectActiveIds[pid]? = some a →
        listed'.selectActiveIds[pid']? = some a → w.SameFor a w' →
        taskExperience w listed.selectActiveIds schedule pid =
          taskExperience w' listed'.selectActiveIds schedule' pid' →
        AgreeOn a (refreshAll w listed.selectActiveIds schedule)
          (refreshAll w' listed'.selectActiveIds schedule')) ∧
      ∀ (schedule' : List (Action String TokenChoice TokenEvent)) (c' : TaskConfig),
        refreshTasks.Gathers w listed.selectActiveIds schedule' c' →
        (∀ pid, taskExperience w listed.selectActiveIds schedule pid =
          taskExperience w listed.selectActiveIds schedule' pid) →
        (refreshAll w listed.selectActiveIds schedule).refreshed.Perm
            (refreshAll w listed.selectActiveIds schedule').refreshed ∧
          (refreshAll w listed.selectActiveIds schedule).failed.Perm
            (refreshAll w listed.selectActiveIds schedule').failed := by
  have distinct := listed.selectActiveIds_nodup
  have reports := reports_exactly h distinct
  refine ⟨reports, ?_, ?_⟩
  · intro listed' w' schedule' c' keyed' h' pid pid' a here here' same alike
    exact same_report h distinct keyed h' listed'.selectActiveIds_nodup keyed' here here' same alike
  · intro schedule' c' h' alike
    have reports' := reports_exactly h' distinct
    have same (a : String) (active : a ∈ listed.selectActiveIds) :
        AgreeOn a (refreshAll w listed.selectActiveIds schedule)
          (refreshAll w listed.selectActiveIds schedule') := by
      obtain ⟨pid, here⟩ := List.mem_iff_getElem?.mp active
      exact same_report h distinct keyed h' distinct keyed here here ⟨rfl, rfl⟩ (alike pid)
    constructor
    · refine (List.perm_ext_iff_of_nodup reports.refreshed_nodup reports'.refreshed_nodup).mpr ?_
      exact fun a => ⟨fun mem => (same a (reports.listed a (.inl mem))).1.mp mem,
        fun mem => (same a (reports'.listed a (.inl mem))).1.mpr mem⟩
    · refine (List.perm_ext_iff_of_nodup reports.failed_nodup reports'.failed_nodup).mpr ?_
      exact fun a => ⟨fun mem => (same a (reports.listed a (.inr mem))).2.mp mem,
        fun mem => (same a (reports'.listed a (.inr mem))).2.mpr mem⟩

/-! ## One refreshed, one failed -/

namespace TokenSample

def twoExpiring : TokenWorld :=
  (((TokenWorld.fresh 0).upsertRow (TikTokOAuthClient.storedRow data 0 "adv-001")).upsertRow
    (TikTokOAuthClient.storedRow data 0 "adv-002")).setClock 84000000

def renewedPair : TikTokRefreshResponse where
  code := 0
  message := "OK"
  data := data

/-- Redis is empty; TikTok renews one token and Postgres fails for the other. -/
def oneFails : List (Action String TokenChoice TokenEvent) :=
  [.resume 0 .ok, .resume 1 .ok, .resume 0 .ok, .resume 1 (.fail redisDown), .resume 0 .ok,
    .resume 0 .ok, .resume 0 .ok, .resume 0 .ok, .resume 0 .ok,
    .resume 0 (.refreshed renewedPair 84000000), .resume 0 .ok, .resume 0 .ok]

end TokenSample

open TokenSample in
theorem refresh_all_reports_sample :
    let ids := twoExpiring.selectActiveIds
    let c := refreshTasks.result (.initial twoExpiring) (ids.map .start ++ oneFails) (by decide)
    ReportsExactly ids c (refreshAll twoExpiring ids oneFails) ∧
      refreshAll twoExpiring ids oneFails = ⟨["adv-002"], ["adv-001"]⟩ := by
  intro ids c
  have gathers : refreshTasks.Gathers twoExpiring ids oneFails c :=
    ⟨System.run_result _, by simp [oneFails], by decide⟩
  have keyed : twoExpiring.Keyed :=
    ((show (TokenWorld.fresh 0).Keyed from by rintro a row ⟨⟩).upsertRow _).upsertRow _
  exact ⟨(refresh_all_reports keyed gathers).1, by decide⟩

end SalesforceTikTok
