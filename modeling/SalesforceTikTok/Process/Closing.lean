import SalesforceTikTok.Process.Opening

/-!
# What a clean exit leaves behind

A clean-up that succeeded has closed what it had to, and nothing opens it again.
-/

namespace SalesforceTikTok

open Concurrency

variable {port : Binary64}

def ProcessWorld.Settled (w : ProcessWorld) (round : Nat) (task : CleanUp)
    (outcome : Except JsError Unit) : Prop :=
  ∃ r, w.rounds[round]? = some r ∧ (task, outcome) ∈ r.settled

theorem ProcessWorld.allSettled_spec {w : ProcessWorld} {round : Nat}
    (all : w.allSettled round = true) (task : CleanUp) : ∃ outcome, w.Settled round task outcome := by
  unfold allSettled at all
  split at all
  next r found =>
    have known : task ∈ CleanUp.all := by cases task <;> decide
    obtain ⟨⟨task', outcome⟩, mem, same⟩ :=
      List.any_eq_true.mp (List.all_eq_true.mp all task known)
    obtain rfl : task' = task := by simpa using same
    exact ⟨outcome, r, found, mem⟩
  next => cases all

theorem ProcessWorld.settle_settled {w : ProcessWorld} {round round' : Nat} {task task' : CleanUp}
    {outcome outcome' : Except JsError Unit} :
    ((w.settle round task outcome).Settled round' task' outcome' →
      w.Settled round' task' outcome' ∨ round' = round ∧ task' = task ∧ outcome' = outcome) ∧
    (w.Settled round' task' outcome' → (w.settle round task outcome).Settled round' task' outcome') := by
  unfold Settled settle
  simp only [List.getElem?_modify]
  constructor
  · rintro ⟨r, found, mem⟩
    obtain ⟨r', found', rfl⟩ := Option.map_eq_some_iff.mp found
    split at mem
    next same =>
      obtain mem | mem := List.mem_append.mp mem
      · exact .inl ⟨r', found', mem⟩
      · obtain ⟨rfl, rfl⟩ : task' = task ∧ outcome' = outcome := by simpa using mem
        exact .inr ⟨same.symm, rfl, rfl⟩
    next => exact .inl ⟨r', found', mem⟩
  · rintro ⟨r, found, mem⟩
    refine ⟨_, Option.map_eq_some_iff.mpr ⟨r, found, rfl⟩, ?_⟩
    split
    · exact List.mem_append_left _ mem
    · exact mem

/-- What was closed stays closed, and what has settled was reported. -/
structure Closing (w : ProcessWorld) (trace : List ProcessRecord) : Prop where
  shut : ∀ r ∈ trace, ∀ res, r.answer = ⟨.close res, .ok ()⟩ → res ≠ .queue →
    w.resources res = .closed ∧ (res = .worker → w.jobs = 0)
  reported : ∀ round task outcome, w.Settled round task outcome →
    ∃ r ∈ trace, r.cmd = .settle round task outcome
  all : ∀ r ∈ trace, ∀ round, r.answer = ⟨.allSettled round, .ok ()⟩ →
    ∀ task, ∃ outcome, w.Settled round task outcome

namespace Closing

variable {w v : ProcessWorld} {trace : List ProcessRecord}

theorem initial (clock : Nat) : Closing (.loaded clock) [] where
  shut _ mem := by cases mem
  reported _ _ _ := by rintro ⟨r, found, _⟩; cases found
  all _ mem := by cases mem

/-- What opens nothing that is closed, and settles only what was reported. -/
theorem kept (closing : Closing w trace)
    (resources : ∀ r, r ≠ .queue → w.resources r = .closed → v.resources r = .closed)
    (jobs : w.resources .worker = .closed → w.jobs = 0 → v.jobs = 0)
    (before : ∀ round task outcome, v.Settled round task outcome →
      w.Settled round task outcome ∨ ∃ r ∈ trace, r.cmd = .settle round task outcome)
    (after : ∀ round task outcome, w.Settled round task outcome → v.Settled round task outcome) :
    Closing v trace where
  shut r mem res answer other := by
    obtain ⟨closed, idle⟩ := closing.shut r mem res answer other
    exact ⟨resources res other closed, fun same => jobs (same ▸ closed) (idle same)⟩
  reported round task outcome settled :=
    (before round task outcome settled).elim (closing.reported round task outcome) id
  all r mem round answer task := by
    obtain ⟨outcome, settled⟩ := closing.all r mem round answer task
    exact ⟨outcome, after round task outcome settled⟩

theorem recorded (closing : Closing w trace) {r : ProcessRecord}
    (shut : ∀ res, r.answer = ⟨.close res, .ok ()⟩ → res ≠ .queue →
      w.resources res = .closed ∧ (res = .worker → w.jobs = 0))
    (all : ∀ round, r.answer = ⟨.allSettled round, .ok ()⟩ →
      ∀ task, ∃ outcome, w.Settled round task outcome) : Closing w (trace ++ [r]) where
  shut r' mem := by
    obtain mem | mem := List.mem_append.mp mem
    · exact closing.shut r' mem
    · obtain rfl := List.mem_singleton.mp mem
      exact shut
  reported round task outcome settled := by
    obtain ⟨r', mem, asked⟩ := closing.reported round task outcome settled
    exact ⟨r', List.mem_append_left _ mem, asked⟩
  all r' mem := by
    obtain mem | mem := List.mem_append.mp mem
    · exact closing.all r' mem
    · obtain rfl := List.mem_singleton.mp mem
      exact all

theorem launched (closing : Closing w trace)
    (fresh : w.resources .pg = .absent → trace = [] ∧ w.rounds = []) {call : ProcessCall}
    {x : ProcessProg Unit} (hl : call.launch w = some (x, v)) : Closing v trace := by
  obtain ⟨_, ⟨rfl, absent, rfl⟩ | ⟨signal, rfl, handling, rfl⟩ | ⟨round, task, r, rfl, found, rfl⟩⟩ :=
    launch_cases hl
  · obtain ⟨rfl, none⟩ := fresh absent
    refine ⟨fun _ mem => (List.not_mem_nil mem).elim, fun round task outcome => ?_,
      fun _ mem => (List.not_mem_nil mem).elim⟩
    rintro ⟨r, found, _⟩
    simp only [ProcessWorld.opened, none] at found
    cases found
  · exact closing.kept (fun _ _ => id) (fun _ => id) (fun _ _ _ => .inl) fun _ _ _ => id
  · refine closing.kept (fun _ _ => id) (fun _ => id) ?_ ?_
    · rintro round' task' outcome ⟨r', found', mem⟩
      refine .inl ?_
      by_cases same : round = round'
      · subst same
        have bound := (List.getElem?_eq_some_iff.mp found).choose
        rw [List.getElem?_set_self bound] at found'
        cases found'
        exact ⟨r, found, mem⟩
      · rw [List.getElem?_set_ne same] at found'
        exact ⟨r', found', mem⟩
    · rintro round' task' outcome ⟨r', found', mem⟩
      by_cases same : round = round'
      · subst same
        have bound := (List.getElem?_eq_some_iff.mp found).choose
        obtain rfl : r = r' := Option.some.inj (found.symm.trans found')
        exact ⟨_, List.getElem?_set_self bound, mem⟩
      · exact ⟨r', by rw [List.getElem?_set_ne same]; exact found', mem⟩

theorem happened (closing : Closing w trace) {event : ProcessEvent}
    (he : happen event w = some v) : Closing v trace := by
  cases event with
  | tick | uncaughtException | unhandledRejection =>
      cases he
      exact closing.kept (fun _ _ => id) (fun _ => id) (fun _ _ _ => .inl) fun _ _ _ => id
  | connect | hangUp | forced | kill =>
      simp only [happen] at he
      split at he <;> cases he
      exact closing.kept (fun _ _ => id) (fun _ => id) (fun _ _ _ => .inl) fun _ _ _ => id
  | takeJob =>
      simp only [happen] at he
      split at he <;> cases he
      next working =>
        refine closing.kept (fun _ _ => id) (fun closed => ?_) (fun _ _ _ => .inl) fun _ _ _ => id
        rw [working] at closed
        cases closed
  | finishJob =>
      simp only [happen] at he
      split at he <;> cases he
      next busy =>
        exact closing.kept (fun _ _ => id) (fun _ none => by omega) (fun _ _ _ => .inl)
          fun _ _ _ => id
  | needQueue =>
      simp only [happen] at he
      split at he <;> cases he
      · refine closing.kept (fun r other closed => ?_) (fun _ => id) (fun _ _ _ => .inl)
          fun _ _ _ => id
        simpa [Function.update_of_ne other] using closed
      · exact closing.kept (fun _ _ => id) (fun _ => id) (fun _ _ _ => .inl) fun _ _ _ => id

private theorem close_kept (closing : Closing w trace) (r : Resource) : Closing
    (w.close r) trace := by
  refine closing.kept (fun r' _ closed => ?_) (fun _ => id) (fun _ _ _ => .inl) fun _ _ _ => id
  simp only [ProcessWorld.close]
  split
  · rfl
  · exact closed

theorem answered (closing : Closing w trace) {r : ProcessRecord}
    (booted : ∀ res, r.cmd = .close res → res ≠ .queue → w.resources res ≠ .absent)
    (effect : ProcessEffect w r.cmd r.reply v) : Closing v (trace ++ [r]) := by
  obtain ⟨pid, cmd, choice, reply⟩ := r
  cases effect with
  | fetched | read | parsed | timerSet | timed | subscribed | cancelled | exited | listening
  | portRefused | handling =>
      refine Closing.recorded ?_ (fun res answer => ?_) fun round answer => ?_
      · exact closing.kept (fun _ _ => id) (fun _ => id) (fun _ _ _ => .inl) fun _ _ _ => id
      · cases answer
      · cases answer
  | allSettled round all =>
      refine closing.recorded (fun res answer => ?_) fun round' answer => ?_
      · cases answer
      · cases answer
        exact ProcessWorld.allSettled_spec all
  | serverClosed rejecting drained =>
      refine (closing.kept (v := { w with rounds := w.rounds ++ [⟨[], []⟩] }) (fun _ _ => id)
        (fun _ => id) ?_ ?_).recorded (fun res answer => ?_) fun round answer => ?_
      · rintro round task outcome ⟨r, found, mem⟩
        obtain found | ⟨_, rfl⟩ := get_concat found
        · exact .inl ⟨r, found, mem⟩
        · cases mem
      · rintro round task outcome ⟨r, found, mem⟩
        have bound := (List.getElem?_eq_some_iff.mp found).choose
        exact ⟨r, by rw [List.getElem?_append_left bound]; exact found, mem⟩
      · cases answer
      · cases answer
  | closed res idle =>
      refine (closing.close_kept res).recorded (fun res' answer other => ?_) fun round answer => ?_
      · cases answer
        exact ⟨by simp [ProcessWorld.close, booted res rfl other], idle⟩
      · cases answer
  | closeFailed res error effect =>
      have kept : Closing v trace := by
        obtain rfl | rfl := effect
        · exact closing
        · exact closing.close_kept res
      refine kept.recorded (fun res' answer => ?_) fun round answer => ?_
      · cases answer
      · cases answer
  | settled round task outcome =>
      have reported : Closing w (trace ++ [⟨pid, .settle round task outcome, choice, .ok ()⟩]) :=
        closing.recorded (fun res answer => by cases answer) fun round answer => by cases answer
      refine reported.kept (fun _ _ => id) (fun _ => id) (fun round' task' outcome' settled => ?_)
        fun round' task' outcome' => ProcessWorld.settle_settled.2
      obtain earlier | ⟨rfl, rfl, rfl⟩ := ProcessWorld.settle_settled.1 settled
      · exact .inl earlier
      · exact .inr ⟨_, List.mem_concat_self, rfl⟩

theorem run {clock : Nat} {c : ProcessConfig} {actions : List ProcessAction}
    (h : (processSystem port).run (.initial (.loaded clock)) actions = some c) :
    Closing c.world c.trace := by
  refine System.run_induction (fun _ c => Closing c.world c.trace)
    (fun taken d a d' reached closing hs => ?_) h (initial clock)
  have opening := Opening.run reached
  cases a with
  | start call =>
      obtain ⟨x, v, hl, rfl⟩ := System.step_start hs
      refine closing.launched (fun absent => ?_) hl
      have first : d.entries = [] := by
        by_contra some
        exact opening.booted some .pg (by decide) absent
      have unasked : d.trace = [] := by
        refine List.eq_nil_iff_forall_not_mem.mpr fun r mem => ?_
        obtain ⟨call, _, _, entry, _⟩ := asked_of_mem reached mem
        rw [first] at entry
        cases entry
      refine ⟨unasked, ?_⟩
      by_contra some
      obtain ⟨r, mem, _⟩ := opening.handled (opening.drained some).1
      rw [unasked] at mem
      cases mem
  | resume q choice =>
      obtain ⟨p, cmd, resume, reply, v, hp, hv, he, rfl⟩ := System.step_resume hs
      refine closing.answered (r := ⟨q, cmd, choice, reply⟩) (fun res _ other => ?_)
        (processExec_effect he).2
      refine opening.booted (fun none => ?_) res other
      have entry : d.entries[q]? = some p.entry := by simp [Config.entries, hp]
      rw [none] at entry
      cases entry
  | env event =>
      obtain ⟨v, he, rfl⟩ := System.step_env hs
      exact closing.happened (processEnv_spec he).2

end Closing

end SalesforceTikTok
