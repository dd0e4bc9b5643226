import SalesforceTikTok.Process.Transitions

/-!
# From the start to the shutdown

HTTP connections are taken in between the subscription of the CDC listener and the first signal;
when the clean-ups start there are none.
-/

namespace SalesforceTikTok

open Concurrency

variable {port : Binary64}

/-- One `bootstrap` opens everything, listens and installs the handlers, in this order; a
`shutdown` ends the listening for good. -/
structure Opening (w : ProcessWorld) (calls : List ProcessCall) (trace : List ProcessRecord) :
    Prop where
  booted : calls ≠ [] → ∀ r, r ≠ .queue → w.resources r ≠ .absent
  single : ∀ pid q : Nat, calls[pid]? = some .bootstrap → calls[q]? = some .bootstrap → pid = q
  listened : w.accepting = true ∨ w.connections ≠ 0 → ∃ r ∈ trace, r.cmd = .listen
  handled : w.handling = true → ∃ r ∈ trace, r.cmd = .handlers
  stopping : ∀ (pid : Nat) signal, calls[pid]? = some (.shutdown signal) →
    w.handling = true ∧ w.accepting = false
  drained : w.rounds ≠ [] → w.handling = true ∧ w.accepting = false ∧ w.connections = 0

theorem get_concat {α : Type} {l : List α} {a b : α} {i : Nat} (h : (l ++ [a])[i]? = some b) :
    l[i]? = some b ∨ i = l.length ∧ b = a := by
  by_cases old : i < l.length
  · exact .inl (by rwa [List.getElem?_append_left old] at h)
  · have bound := (List.getElem?_eq_some_iff.mp h).choose
    rw [List.length_append, List.length_singleton] at bound
    obtain rfl : i = l.length := by omega
    rw [List.getElem?_concat_length] at h
    exact .inr ⟨rfl, (Option.some.inj h).symm⟩

namespace Opening

variable {w v : ProcessWorld} {calls : List ProcessCall} {trace : List ProcessRecord}

theorem initial (clock : Nat) : Opening (.loaded clock) [] [] where
  booted none := absurd rfl none
  single pid q hp := by cases hp
  listened open_ := open_.elim nofun fun some => absurd rfl some
  handled handling := by cases handling
  stopping pid signal hp := by cases hp
  drained none := absurd rfl none

theorem kept (opening : Opening w calls trace) (more : List ProcessRecord)
    (resources : ∀ r, w.resources r ≠ .absent → v.resources r ≠ .absent)
    (accepting : v.accepting = w.accepting)
    (connections : v.connections ≠ 0 → w.connections ≠ 0 ∨ w.accepting = true)
    (handling : v.handling = w.handling) (rounds : v.rounds ≠ [] → w.rounds ≠ []) :
    Opening v calls (trace ++ more) where
  booted some r other := resources r (opening.booted some r other)
  single := opening.single
  listened open_ := by
    have earlier : w.accepting = true ∨ w.connections ≠ 0 := by
      obtain now | some := open_
      · exact .inl (accepting ▸ now)
      · exact (connections some).symm
    obtain ⟨r, mem, asked⟩ := opening.listened earlier
    exact ⟨r, List.mem_append_left more mem, asked⟩
  handled now := by
    obtain ⟨r, mem, asked⟩ := opening.handled (handling ▸ now)
    exact ⟨r, List.mem_append_left more mem, asked⟩
  stopping pid signal hp := by
    rw [handling, accepting]
    exact opening.stopping pid signal hp
  drained some := by
    obtain ⟨now, rejecting, none⟩ := opening.drained (rounds some)
    rw [handling, accepting]
    refine ⟨now, rejecting, ?_⟩
    by_contra left
    obtain left | open_ := connections left
    · exact left none
    · exact absurd (rejecting.symm.trans open_) nofun

theorem launched (opening : Opening w calls trace) (some_call : w.handling = true → calls ≠ [])
    {call : ProcessCall} {x : ProcessProg Unit} (hl : call.launch w = some (x, v)) :
    Opening v (calls ++ [call]) trace := by
  obtain ⟨_, ⟨rfl, absent, rfl⟩ | ⟨signal, rfl, handling, rfl⟩ | ⟨round, task, r, rfl, found, rfl⟩⟩ :=
    launch_cases hl
  · -- nothing runs before `bootstrap`
    have first : calls = [] := by
      by_contra some
      exact opening.booted some .pg (by decide) absent
    subst first
    refine ⟨fun _ r other => ?_, fun pid q hp hq => ?_, opening.listened, opening.handled,
      fun pid signal hp => ?_, opening.drained⟩
    · simp [ProcessWorld.opened, other]
    · have hp' := (List.getElem?_eq_some_iff.mp hp).choose
      have hq' := (List.getElem?_eq_some_iff.mp hq).choose
      simp only [List.nil_append, List.length_singleton] at hp' hq'
      omega
    · obtain earlier | ⟨_, same⟩ := get_concat hp
      · cases earlier
      · cases same
  · refine ⟨fun _ => opening.booted (some_call handling), fun pid q hp hq => ?_, fun open_ => ?_,
      opening.handled, fun _ _ _ => ⟨handling, rfl⟩,
      fun some => ⟨handling, rfl, (opening.drained some).2.2⟩⟩
    · obtain hp | ⟨_, same⟩ := get_concat hp
      · obtain hq | ⟨_, same⟩ := get_concat hq
        · exact opening.single pid q hp hq
        · cases same
      · cases same
    · exact opening.listened (open_.imp nofun id)
  · have some : w.rounds ≠ [] := by
      rintro none
      rw [none] at found
      cases found
    have drained := opening.drained some
    refine ⟨fun _ => opening.booted (some_call drained.1), fun pid q hp hq => ?_, opening.listened,
      opening.handled, fun pid signal hp => ?_, fun _ => drained⟩
    · obtain hp | ⟨_, same⟩ := get_concat hp
      · obtain hq | ⟨_, same⟩ := get_concat hq
        · exact opening.single pid q hp hq
        · cases same
      · cases same
    · obtain hp | ⟨_, same⟩ := get_concat hp
      · exact opening.stopping pid signal hp
      · cases same

theorem happened (opening : Opening w calls trace) {event : ProcessEvent}
    (he : happen event w = some v) : Opening v calls trace := by
  have same (more : Opening v calls (trace ++ [])) : Opening v calls trace := by
    rwa [List.append_nil] at more
  apply same
  cases event with
  | tick elapsed => cases he; exact opening.kept [] (fun _ => id) rfl .inl rfl id
  | connect =>
      simp only [happen] at he
      split at he <;> cases he
      next open_ => exact opening.kept [] (fun _ => id) rfl (fun _ => .inr open_) rfl id
  | hangUp =>
      simp only [happen] at he
      split at he <;> cases he
      next some => exact opening.kept [] (fun _ => id) rfl (fun _ => .inl (by omega)) rfl id
  | takeJob | finishJob | forced | kill =>
      simp only [happen] at he
      split at he <;> cases he
      exact opening.kept [] (fun _ => id) rfl .inl rfl id
  | needQueue =>
      simp only [happen] at he
      split at he <;> cases he
      · refine opening.kept [] (fun r there => ?_) rfl .inl rfl id
        by_cases same : r = .queue
        · subst same
          simp
        · simpa [Function.update_of_ne same] using there
      · exact opening.kept [] (fun _ => id) rfl .inl rfl id
  | uncaughtException | unhandledRejection =>
      cases he
      exact opening.kept [] (fun _ => id) rfl .inl rfl id

theorem answered (opening : Opening w calls trace) {call : ProcessCall}
    {history : List ProcessAnswer}
    {r : ProcessRecord} (asks : call.Asks port history r.cmd) (entry : calls[r.pid]? = some call)
    (early : call = .bootstrap → (∀ a ∈ history, a.cmd ≠ .handlers) → w.handling = false)
    (effect : ProcessEffect w r.cmd r.reply v) : Opening v calls (trace ++ [r]) := by
  have shut (gone : Resource) : ∀ r', w.resources r' ≠ .absent →
      (w.close gone).resources r' ≠ .absent := by
    intro r' there
    simp only [ProcessWorld.close]
    split
    · nofun
    · exact there
  obtain ⟨pid, cmd, choice, reply⟩ := r
  cases effect with
  | fetched | read | parsed | timerSet | timed | allSettled | subscribed | cancelled | exited
  | portRefused =>
      exact opening.kept [_] (fun _ => id) rfl .inl rfl id
  | settled round task outcome =>
      refine opening.kept [_] (fun _ => id) rfl .inl rfl fun some none => some ?_
      simp [ProcessWorld.settle, none]
  | closed r idle => exact opening.kept [_] (shut r) rfl .inl rfl id
  | closeFailed r error effect =>
      obtain rfl | rfl := effect
      · exact opening.kept [_] (fun _ => id) rfl .inl rfl id
      · exact opening.kept [_] (shut r) rfl .inl rfl id
  | listening =>
      obtain rfl := bootstrap_of_asks asks (.inl rfl)
      -- the handlers come later
      have off := early rfl asks.2
      refine ⟨opening.booted, opening.single, fun _ => ⟨_, List.mem_concat_self, rfl⟩, fun now => ?_,
        fun pid signal hp => ?_, fun some => ?_⟩
      · exact absurd (off.symm.trans now) nofun
      · exact absurd (off.symm.trans (opening.stopping pid signal hp).1) nofun
      · exact absurd (off.symm.trans (opening.drained some).1) nofun
  | handling =>
      refine ⟨opening.booted, opening.single, fun open_ => ?_, fun _ => ⟨_, List.mem_concat_self, rfl⟩,
        fun pid signal hp => ⟨rfl, (opening.stopping pid signal hp).2⟩,
        fun some => ⟨rfl, (opening.drained some).2⟩⟩
      obtain ⟨r, mem, asked⟩ := opening.listened open_
      exact ⟨r, List.mem_append_left _ mem, asked⟩
  | serverClosed rejecting drained =>
      cases call with
      | bootstrap | cleanUp => exact asks.elim
      | shutdown signal =>
          obtain ⟨handling, _⟩ := opening.stopping pid signal entry
          refine ⟨opening.booted, opening.single, fun open_ => ?_, fun now => ?_, opening.stopping,
            fun _ => ⟨handling, rejecting, drained⟩⟩
          · exact open_.elim (fun open_ => absurd (rejecting.symm.trans open_) nofun)
              fun left => absurd drained left
          · obtain ⟨r, mem, asked⟩ := opening.handled now
            exact ⟨r, List.mem_append_left _ mem, asked⟩

theorem run {clock : Nat} {c : ProcessConfig} {actions : List ProcessAction}
    (h : (processSystem port).run (.initial (.loaded clock)) actions = some c) :
    Opening c.world c.entries c.trace := by
  refine System.run_induction (fun _ c => Opening c.world c.entries c.trace)
    (fun taken d a d' reached opening hs => ?_) h (initial clock)
  have installed (handling : d.world.handling = true) : ∃ r call first rest, r ∈ d.trace ∧
      r.cmd = .handlers ∧ d.entries[r.pid]? = some call ∧ d.own r.pid = first ++ r :: rest ∧
        call.Asks port (first.map Record.answer) r.cmd := by
    obtain ⟨r, mem, asked⟩ := opening.handled handling
    obtain ⟨call, first, rest, found⟩ := asked_of_mem reached mem
    exact ⟨r, call, first, rest, mem, asked, found⟩
  cases a with
  | start call =>
      obtain ⟨x, v, hl, rfl⟩ := System.step_start hs
      rw [Config.entries, List.map_append]
      refine opening.launched (fun handling none => ?_) hl
      obtain ⟨r, call, first, rest, _, _, entry, _⟩ := installed handling
      rw [none] at entry
      cases entry
  | resume q choice =>
      obtain ⟨p, cmd, resume, reply, v, hp, hv, he, rfl⟩ := System.step_resume hs
      have entry : d.entries[q]? = some p.entry := by simp [Config.entries, hp]
      rw [Config.entries, System.entries_answered hp]
      refine opening.answered (r := ⟨q, cmd, choice, reply⟩)
        ((process_contract reached hp).1.awaited hv) entry (fun boot none => ?_)
        (processExec_effect he).2
      by_contra handling
      obtain ⟨r, call, first, rest, mem, asked, entry', _, asks⟩ :=
        installed (by simpa using handling)
      rw [bootstrap_of_asks asks (.inr asked)] at entry'
      rw [boot] at entry
      have one := opening.single r.pid q entry' entry
      exact none r.answer (List.mem_map_of_mem (System.mem_own.mpr ⟨mem, one⟩)) asked
  | env event =>
      obtain ⟨v, he, rfl⟩ := System.step_env hs
      exact opening.happened (processEnv_spec he).2

end Opening

end SalesforceTikTok
