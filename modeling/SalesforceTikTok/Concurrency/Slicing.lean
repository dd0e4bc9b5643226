import SalesforceTikTok.Concurrency.Contract
import SalesforceTikTok.Concurrency.Simulation

/-!
# Slices of runs

Some calls of a run are kept and the others left out, with everything they did. Where
the others leave alone what the kept calls see of the world, the slice is a run of the
same system (`run_sliced`): the kept calls are in the same states, they were answered the
same, and what they see of the world is the same. So no kept call can tell from its
answers whether there were any others.
-/

namespace Concurrency

variable {C : Type} {R : C → Type} {ε α W Ch V E X : Type}

/-! ## The numbers of the kept calls -/

def rank (keep : E → Bool) (entries : List E) (pid : Nat) : Nat := (entries.take pid).countP keep

def Record.kept (keep : E → Bool) (entries : List E) (r : Record C R ε Ch) :
    Option (Record C R ε Ch) :=
  match entries[r.pid]? with
  | some entry => if keep entry then some { r with pid := rank keep entries r.pid } else none
  | none => none

section

variable {keep : E → Bool} {entries : List E}

theorem rank_append (keep : E → Bool) {pid : Nat} (old : pid ≤ entries.length) (more : List E) :
    rank keep (entries ++ more) pid = rank keep entries pid := by
  rw [rank, List.take_append_of_le_length old, rank]

theorem Record.kept_append {r : Record C R ε Ch} (old : r.pid < entries.length) (more : List E) :
    r.kept keep (entries ++ more) = r.kept keep entries := by
  have same := rank_append keep (Nat.le_of_lt old) more
  rw [Record.kept, Record.kept, List.getElem?_append_left old, same]

theorem rank_lt {pid q : Nat} (before : pid < q) {entry : E} (here : entries[pid]? = some entry)
    (kept : keep entry = true) : rank keep entries pid < rank keep entries q := by
  have longer : rank keep entries (pid + 1) = rank keep entries pid + 1 := by
    rw [rank, List.take_add_one, here, List.countP_append]
    simp [rank, kept]
  have later : rank keep entries (pid + 1) ≤ rank keep entries q :=
    ((List.take_prefix_take_left before).sublist).countP_le
  omega

theorem rank_inj {pid q : Nat} {entry entry' : E} (here : entries[pid]? = some entry)
    (there : entries[q]? = some entry') (kept : keep entry = true) (kept' : keep entry' = true)
    (same : rank keep entries pid = rank keep entries q) : pid = q := by
  rcases Nat.lt_trichotomy pid q with before | rfl | after
  · have := rank_lt before here kept
    omega
  · rfl
  · have := rank_lt after there kept'
    omega

end

/-! ## The pool of the kept calls -/

section

variable (keep : E → Bool)

def keptProcs (procs : List (Proc E X)) : List (Proc E X) := procs.filter fun p => keep p.entry

variable {keep} {procs : List (Proc E X)}

theorem keptProcs_split {pid : Nat} {p : Proc E X} (hp : procs[pid]? = some p)
    (keep : E → Bool) :
    ∃ before after, procs = before ++ p :: after ∧ before.length = pid ∧
      (keptProcs keep before).length = rank keep (procs.map Proc.entry) pid := by
  obtain ⟨bound, rfl⟩ := List.getElem?_eq_some_iff.mp hp
  refine ⟨procs.take pid, procs.drop (pid + 1), ?_, by simp; omega, ?_⟩
  · rw [List.getElem_cons_drop, List.take_append_drop]
  · rw [keptProcs, ← List.countP_eq_length_filter, rank, ← List.map_take, List.countP_map]
    rfl

theorem keptProcs_get {pid : Nat} {p : Proc E X} (hp : procs[pid]? = some p)
    (kept : keep p.entry = true) :
    (keptProcs keep procs)[rank keep (procs.map Proc.entry) pid]? = some p := by
  obtain ⟨before, after, split, _, count⟩ := keptProcs_split hp keep
  rw [← count, split]
  simp [keptProcs, kept]

theorem keptProcs_set {pid : Nat} {p : Proc E X} (hp : procs[pid]? = some p)
    (kept : keep p.entry = true) (x : X) :
    keptProcs keep (procs.set pid ⟨p.entry, x⟩) =
      (keptProcs keep procs).set (rank keep (procs.map Proc.entry) pid) ⟨p.entry, x⟩ := by
  obtain ⟨before, after, split, length, count⟩ := keptProcs_split hp keep
  rw [← count, split, ← length]
  simp [keptProcs, kept]

theorem keptProcs_set_other {pid : Nat} {p : Proc E X} (hp : procs[pid]? = some p)
    (other : keep p.entry = false) (x : X) :
    keptProcs keep (procs.set pid ⟨p.entry, x⟩) = keptProcs keep procs := by
  obtain ⟨before, after, split, length, _⟩ := keptProcs_split hp keep
  rw [split, ← length]
  simp [keptProcs, other]

end

/-! ## Slices -/

namespace System

variable {rt : Runtime C R ε W Ch V} {S : System rt α E X}

/-- The action in the slice: of the environment some events are shared. -/
def keptAction (keep : E → Bool) (shared : V → Bool) :
    Observer C R ε W Ch V E X (Action E Ch V) := fun c a _ =>
  match a with
  | .start entry => if keep entry then some (.start entry) else none
  | .resume pid choice =>
      match c.entries[pid]? with
      | some entry => if keep entry then some (.resume (rank keep c.entries pid) choice) else none
      | none => none
  | .env event => if shared event then some (.env event) else none

variable (S) in
def slice (keep : E → Bool) (shared : V → Bool) (c : Config C R ε W Ch E X)
    (actions : List (Action E Ch V)) : List (Action E Ch V) :=
  S.observe (keptAction keep shared) c actions

end System

/-- `d` is what remains of `c` when only these calls are kept, and its world is alike. -/
structure Sliced (keep : E → Bool) (alike : W → W → Prop) (c d : Config C R ε W Ch E X) :
    Prop where
  world : alike c.world d.world
  procs : d.procs = keptProcs keep c.procs
  trace : d.trace = c.trace.filterMap (Record.kept keep c.entries)

namespace Sliced

variable {rt : Runtime C R ε W Ch V} {S : System rt α E X} {keep : E → Bool}
  {alike : W → W → Prop} {c d : Config C R ε W Ch E X}

theorem ended (h : Sliced keep alike c d) {pid : Nat} {p : Proc E X}
    (hp : c.procs[pid]? = some p) (kept : keep p.entry = true) {outcome : Except ε α} :
    S.Ended c pid outcome ↔ S.Ended d (rank keep c.entries pid) outcome := by
  have there : d.procs[rank keep c.entries pid]? = some p := by
    rw [h.procs]
    exact keptProcs_get hp kept
  exact ⟨fun ended => ⟨p, there, ended.view_eq hp⟩, fun ended => ⟨p, hp, ended.view_eq there⟩⟩

/-- Kept calls are answered in the slice as they are in the run. -/
theorem own (h : Sliced keep alike c d) {pid : Nat} {p : Proc E X}
    (hp : c.procs[pid]? = some p) (kept : keep p.entry = true) :
    (d.own (rank keep c.entries pid)).map Record.answer = (c.own pid).map Record.answer := by
  have here : c.entries[pid]? = some p.entry := by simp [Config.entries, hp]
  rw [Config.own, Config.own, h.trace]
  generalize c.trace = trace
  induction trace with
  | nil => rfl
  | cons r rest ih =>
      by_cases own : r.pid = pid
      · have numbered : r.kept keep c.entries =
            some { r with pid := rank keep c.entries pid } := by
          rw [Record.kept, own, here]
          exact if_pos kept
        rw [List.filterMap_cons_some numbered]
        simp only [List.filter_cons, own, decide_true, if_true, List.map_cons, ih]
        rfl
      · have elsewhere : ∀ r', r.kept keep c.entries = some r' →
            r'.pid ≠ rank keep c.entries pid := by
          intro r' numbered same
          unfold Record.kept at numbered
          split at numbered
          next entry there =>
            split at numbered <;> cases numbered
            next kept' => exact own (rank_inj there here kept' kept same)
          next => cases numbered
        rw [List.filter_cons_of_neg (by simpa using own), ← ih]
        cases numbered : r.kept keep c.entries with
        | none => rw [List.filterMap_cons_none numbered]
        | some r' =>
            rw [List.filterMap_cons_some numbered,
              List.filter_cons_of_neg (by simpa using elsewhere r' numbered)]

end Sliced

/-! ## What makes a slice a run -/

/-- Calls fit to be kept or left out: a kept call does in worlds alike the same and leaves them
alike, a call that is left out changes nothing of what is alike. -/
structure Isolates {rt : Runtime C R ε W Ch V} (S : System rt α E X) (keep : E → Bool)
    (shared : V → Bool) (alike : W → W → Prop) (fits : E → X → Prop)
    (admits : Action E Ch V → Prop) : Prop where
  launched : ∀ {entry w x v}, admits (.start entry) → S.launch entry w = some (x, v) →
    fits entry x
  starts : ∀ {entry w u x v}, keep entry = true → alike w u → S.launch entry w = some (x, v) →
    ∃ u', S.launch entry u = some (x, u') ∧ alike v u'
  unseen : ∀ {entry w u x v}, keep entry = false → alike w u → S.launch entry w = some (x, v) →
    alike v u
  answered : ∀ {entry x cmd resume w u reply v pid choice}, fits entry x →
    S.view x = .awaits cmd resume → alike w u → admits (.resume pid choice) →
    rt.exec cmd choice w = some (reply, v) → fits entry (resume reply)
  own : ∀ {entry x cmd resume choice w u reply v}, keep entry = true → fits entry x →
    S.view x = .awaits cmd resume → alike w u → rt.exec cmd choice w = some (reply, v) →
    ∃ u', rt.exec cmd choice u = some (reply, u') ∧ alike v u'
  other : ∀ {entry x cmd resume choice w u reply v}, keep entry = false → fits entry x →
    S.view x = .awaits cmd resume → alike w u → rt.exec cmd choice w = some (reply, v) →
    alike v u
  moved : ∀ {event w u v}, shared event = true → alike w u → rt.env event w = some v →
    ∃ u', rt.env event u = some u' ∧ alike v u'
  unmoved : ∀ {event w u v}, shared event = false → alike w u → rt.env event w = some v →
    alike v u

namespace System

variable {rt : Runtime C R ε W Ch V} {S : System rt α E X} {keep : E → Bool} {shared : V → Bool}
  {alike : W → W → Prop} {fits : E → X → Prop} {admits : Action E Ch V → Prop}

/-- The configuration is reached, its calls fit, and `d` is its slice. -/
structure Slices (S : System rt α E X) (keep : E → Bool) (alike : W → W → Prop)
    (fits : E → X → Prop) (w : W) (d c : Config C R ε W Ch E X) : Prop where
  reached : ∃ taken, S.run (.initial w) taken = some c
  fits : ∀ p ∈ c.procs, fits p.entry p.state
  sliced : Sliced keep alike c d

section

variable {w : W} {c c' d : Config C R ε W Ch E X}

theorem Slices.trace_started (h : Slices S keep alike fits w d c) (fresh : Proc E X) :
    c.trace.filterMap (Record.kept keep ((c.procs ++ [fresh]).map Proc.entry)) =
      c.trace.filterMap (Record.kept keep c.entries) := by
  obtain ⟨taken, hr⟩ := h.reached
  refine List.filterMap_congr fun r mem => ?_
  have known := run_pid_bound hr r mem
  rw [List.map_append]
  exact Record.kept_append (by simpa using known) _

theorem Slices.start_kept (isolates : Isolates S keep shared alike fits admits)
    (h : Slices S keep alike fits w d c) {entry : E} (admitted : admits (.start entry))
    (kept : keep entry = true) (hs : S.step c (.start entry) = some c') :
    ∃ d', S.step d (.start entry) = some d' ∧ Slices S keep alike fits w d' c' := by
  have reached := reached_step h.reached hs
  obtain ⟨x, v, hl, rfl⟩ := step_start hs
  obtain ⟨u, launched, part⟩ := isolates.starts kept h.sliced.world hl
  refine ⟨{ d with world := u, procs := d.procs ++ [⟨entry, x⟩] }, ?_, reached, ?_, part, ?_, ?_⟩
  · simp only [step, launched]
  · exact List.forall_mem_append.mpr
      ⟨h.fits, List.forall_mem_singleton.mpr (isolates.launched admitted hl)⟩
  · simp [keptProcs, h.sliced.procs, kept]
  · exact h.sliced.trace.trans (h.trace_started _).symm

theorem Slices.start_left (isolates : Isolates S keep shared alike fits admits)
    (h : Slices S keep alike fits w d c) {entry : E} (admitted : admits (.start entry))
    (left : keep entry = false) (hs : S.step c (.start entry) = some c') :
    Slices S keep alike fits w d c' := by
  have reached := reached_step h.reached hs
  obtain ⟨x, v, hl, rfl⟩ := step_start hs
  refine ⟨reached, ?_, isolates.unseen left h.sliced.world hl, ?_, ?_⟩
  · exact List.forall_mem_append.mpr
      ⟨h.fits, List.forall_mem_singleton.mpr (isolates.launched admitted hl)⟩
  · simp [keptProcs, h.sliced.procs, left]
  · exact h.sliced.trace.trans (h.trace_started _).symm

theorem Slices.fits_answered (isolates : Isolates S keep shared alike fits admits)
    (h : Slices S keep alike fits w d c) {pid : Nat} {choice : Ch}
    (admitted : admits (.resume pid choice)) {p : Proc E X} {cmd : C}
    {resume : Except ε (R cmd) → X} {reply : Except ε (R cmd)} {v : W}
    (hp : c.procs[pid]? = some p) (hv : S.view p.state = .awaits cmd resume)
    (he : rt.exec cmd choice c.world = some (reply, v)) :
    ∀ q ∈ c.procs.set pid ⟨p.entry, resume reply⟩, fits q.entry q.state := by
  intro q mem
  rcases List.mem_or_eq_of_mem_set mem with old | rfl
  · exact h.fits q old
  · have before := h.fits p (List.mem_of_getElem? hp)
    exact isolates.answered before hv h.sliced.world admitted he

/-- A kept call is answered in the slice as well, and alike. -/
theorem Slices.resume_kept (isolates : Isolates S keep shared alike fits admits)
    (h : Slices S keep alike fits w d c) {pid : Nat} {choice : Ch}
    (admitted : admits (.resume pid choice)) {entry : E} (here : c.entries[pid]? = some entry)
    (kept : keep entry = true) (hs : S.step c (.resume pid choice) = some c') :
    ∃ d', S.step d (.resume (rank keep c.entries pid) choice) = some d' ∧
      Slices S keep alike fits w d' c' := by
  have reached := reached_step h.reached hs
  obtain ⟨p, cmd, resume, reply, v, hp, hv, he, rfl⟩ := step_resume hs
  obtain rfl : p.entry = entry := by simpa [Config.entries, hp] using here
  obtain ⟨u, answered, part⟩ := isolates.own kept (h.fits p (List.mem_of_getElem? hp)) hv
    h.sliced.world he
  have there : d.procs[rank keep c.entries pid]? = some p := by
    rw [h.sliced.procs]
    exact keptProcs_get hp kept
  have numbered : Record.kept keep c.entries ⟨pid, cmd, choice, reply⟩ =
      some ⟨rank keep c.entries pid, cmd, choice, reply⟩ := by
    rw [Record.kept, here]
    exact if_pos kept
  refine ⟨_, step_answer there hv answered, reached,
    h.fits_answered isolates admitted hp hv he, part, ?_, ?_⟩
  · rw [keptProcs_set hp kept, h.sliced.procs]
    rfl
  · have same : (c.procs.set pid ⟨p.entry, resume reply⟩).map Proc.entry = c.entries :=
      entries_answered hp _
    show _ = (c.trace ++ [_]).filterMap (Record.kept keep ((c.procs.set pid _).map Proc.entry))
    rw [same, List.filterMap_append, List.filterMap_cons_some numbered, List.filterMap_nil,
      h.sliced.trace]

theorem Slices.resume_left (isolates : Isolates S keep shared alike fits admits)
    (h : Slices S keep alike fits w d c) {pid : Nat} {choice : Ch}
    (admitted : admits (.resume pid choice)) {entry : E} (here : c.entries[pid]? = some entry)
    (left : keep entry = false) (hs : S.step c (.resume pid choice) = some c') :
    Slices S keep alike fits w d c' := by
  have reached := reached_step h.reached hs
  obtain ⟨p, cmd, resume, reply, v, hp, hv, he, rfl⟩ := step_resume hs
  obtain rfl : p.entry = entry := by simpa [Config.entries, hp] using here
  have skipped : Record.kept keep c.entries ⟨pid, cmd, choice, reply⟩ = none := by
    rw [Record.kept, here]
    exact if_neg (by simp [left])
  refine ⟨reached, h.fits_answered isolates admitted hp hv he, ?_, ?_, ?_⟩
  · exact isolates.other left (h.fits p (List.mem_of_getElem? hp)) hv h.sliced.world he
  · rw [keptProcs_set_other hp left, h.sliced.procs]
  · have same : (c.procs.set pid ⟨p.entry, resume reply⟩).map Proc.entry = c.entries :=
      entries_answered hp _
    show _ = (c.trace ++ [_]).filterMap (Record.kept keep ((c.procs.set pid _).map Proc.entry))
    rw [same, List.filterMap_append, List.filterMap_cons_none skipped, List.filterMap_nil,
      List.append_nil, h.sliced.trace]

theorem Slices.env_shared (isolates : Isolates S keep shared alike fits admits)
    (h : Slices S keep alike fits w d c) {event : V} (both : shared event = true)
    (hs : S.step c (.env event) = some c') :
    ∃ d', S.step d (.env event) = some d' ∧ Slices S keep alike fits w d' c' := by
  have reached := reached_step h.reached hs
  obtain ⟨v, hv, rfl⟩ := step_env hs
  obtain ⟨u, moved, part⟩ := isolates.moved both h.sliced.world hv
  refine ⟨{ d with world := u }, ?_, reached, h.fits, part, h.sliced.procs, h.sliced.trace⟩
  simp only [step, moved]

theorem Slices.env_left (isolates : Isolates S keep shared alike fits admits)
    (h : Slices S keep alike fits w d c) {event : V} (alone : shared event = false)
    (hs : S.step c (.env event) = some c') : Slices S keep alike fits w d c' := by
  have reached := reached_step h.reached hs
  obtain ⟨v, hv, rfl⟩ := step_env hs
  exact ⟨reached, h.fits, isolates.unmoved alone h.sliced.world hv, h.sliced.procs,
    h.sliced.trace⟩

theorem resumed_entry {pid : Nat} {choice : Ch} (hs : S.step c (.resume pid choice) = some c') :
    ∃ entry, c.entries[pid]? = some entry := by
  obtain ⟨p, _, _, _, _, hp, _⟩ := step_resume hs
  exact ⟨p.entry, by simp [Config.entries, hp]⟩

/-- A step that kept calls take part in is one of the slice. -/
theorem Slices.noted (isolates : Isolates S keep shared alike fits admits)
    (h : Slices S keep alike fits w d c) {a b : Action E Ch V} (admitted : admits a)
    (hs : S.step c a = some c') (kept : keptAction keep shared c a c' = some b) :
    ∃ d', S.step d b = some d' ∧ Slices S keep alike fits w d' c' := by
  cases a with
  | start entry =>
      by_cases mine : keep entry = true
      · cases (if_pos mine).symm.trans kept
        exact h.start_kept isolates admitted mine hs
      · cases (if_neg mine).symm.trans kept
  | resume pid choice =>
      obtain ⟨entry, here⟩ := resumed_entry hs
      simp only [keptAction, here] at kept
      by_cases mine : keep entry = true
      · cases (if_pos mine).symm.trans kept
        exact h.resume_kept isolates admitted here mine hs
      · cases (if_neg mine).symm.trans kept
  | env event =>
      by_cases both : shared event = true
      · cases (if_pos both).symm.trans kept
        exact h.env_shared isolates both hs
      · cases (if_neg both).symm.trans kept

theorem Slices.silent (isolates : Isolates S keep shared alike fits admits)
    (h : Slices S keep alike fits w d c) {a : Action E Ch V} (admitted : admits a)
    (hs : S.step c a = some c') (left : keptAction keep shared c a c' = none) :
    Slices S keep alike fits w d c' := by
  cases a with
  | start entry =>
      by_cases mine : keep entry = true
      · cases (if_pos mine).symm.trans left
      · exact h.start_left isolates admitted (by simpa using mine) hs
  | resume pid choice =>
      obtain ⟨entry, here⟩ := resumed_entry hs
      simp only [keptAction, here] at left
      by_cases mine : keep entry = true
      · cases (if_pos mine).symm.trans left
      · exact h.resume_left isolates admitted here (by simpa using mine) hs
  | env event =>
      by_cases both : shared event = true
      · cases (if_pos both).symm.trans left
      · exact h.env_left isolates (by simpa using both) hs

theorem run_of_path {actions : List (Action E Ch V)}
    (path : Path (fun x a y => S.step x a = some y) c actions d) : S.run c actions = some d := by
  induction path with
  | nil c => rfl
  | cons first _ ih => simpa only [run, first] using ih

/-- The slice of a run, on a world that is alike, is a run. -/
theorem run_sliced (isolates : Isolates S keep shared alike fits admits) {u : W}
    {actions : List (Action E Ch V)} (h : S.run (.initial w) actions = some c)
    (admitted : ∀ a ∈ actions, admits a) (start : alike w u) :
    ∃ d, S.run (.initial u) (S.slice keep shared (.initial w) actions) = some d ∧
      Sliced keep alike c d := by
  have simulated : ∃ d, Path (fun x a y => S.step x a = some y) (.initial u)
      (S.slice keep shared (.initial w) actions) d ∧ Slices S keep alike fits w d c := by
    refine run_simulates_along (keptAction keep shared) (fun _ a _ => admits a)
      (Slices S keep alike fits w) ?_ ?_ h (along_of_actions admits admitted _) ?_
    · exact fun d c a c' b slices hs here kept => slices.noted isolates here hs kept
    · exact fun d c a c' slices hs here left => slices.silent isolates here hs left
    · exact ⟨⟨[], rfl⟩, by simp [Config.initial], start, rfl, rfl⟩
  obtain ⟨d, path, slices⟩ := simulated
  exact ⟨d, run_of_path path, slices.sliced⟩

end

end System
end Concurrency
