import SalesforceTikTok.Concurrency.System

/-!
# Invariant rules for pools

Each rule packages one induction over runs. `run_invariant` is the plain rule;
`run_invariant_of_trace` admits a condition on every answered command, which is
how assumptions about failing components enter; `run_invariant_along` admits a
condition on the steps themselves. `run_own` carries a fact about one call and
the commands answered to that call alone: what the other calls do cannot
disturb it.
-/

namespace Concurrency
namespace System

variable {C : Type} {R : C → Type} {ε α W Ch V E X : Type}
variable {rt : Runtime C R ε W Ch V} {S : System rt α E X}

theorem run_invariant (I : Config C R ε W Ch E X → Prop)
    (preserved : ∀ c a c', I c → S.step c a = some c' → I c')
    {c c' : Config C R ε W Ch E X} {actions : List (Action E Ch V)}
    (h : S.run c actions = some c') (initial : I c) : I c' := by
  induction actions generalizing c with
  | nil => cases h; exact initial
  | cons a rest ih =>
      obtain ⟨d, hd, hr⟩ := run_cons h
      exact ih hr (preserved c a d initial hd)

/-- Answers only accumulate, so a condition on the final trace held all along. -/
theorem run_invariant_of_trace (Ok : Record C R ε Ch → Prop) (I : Config C R ε W Ch E X → Prop)
    (preserved : ∀ c a c', I c → S.step c a = some c' → (∀ r ∈ c'.trace, Ok r) → I c')
    {c c' : Config C R ε W Ch E X} {actions : List (Action E Ch V)}
    (h : S.run c actions = some c') (ok : ∀ r ∈ c'.trace, Ok r) (initial : I c) : I c' := by
  induction actions generalizing c with
  | nil => cases h; exact initial
  | cons a rest ih =>
      obtain ⟨d, hd, hr⟩ := run_cons h
      have earlier : ∀ r ∈ d.trace, Ok r := fun r hr' => ok r ((run_trace hr).subset hr')
      exact ih hr (preserved c a d initial hd earlier)

/-- Every step of the run from `c` along `actions` satisfies `P`. -/
def Along (S : System rt α E X)
    (P : Config C R ε W Ch E X → Action E Ch V → Config C R ε W Ch E X → Prop)
    (c : Config C R ε W Ch E X) : List (Action E Ch V) → Prop
  | [] => True
  | a :: rest => ∀ d, S.step c a = some d → P c a d ∧ Along S P d rest

theorem run_invariant_along
    (P : Config C R ε W Ch E X → Action E Ch V → Config C R ε W Ch E X → Prop)
    (I : Config C R ε W Ch E X → Prop)
    (preserved : ∀ c a c', I c → S.step c a = some c' → P c a c' → I c')
    {c c' : Config C R ε W Ch E X} {actions : List (Action E Ch V)}
    (h : S.run c actions = some c') (along : S.Along P c actions) (initial : I c) : I c' := by
  induction actions generalizing c with
  | nil => cases h; exact initial
  | cons a rest ih =>
      obtain ⟨d, hd, hr⟩ := run_cons h
      obtain ⟨hp, tail⟩ := along d hd
      exact ih hr tail (preserved c a d initial hd hp)

theorem run_induction (M : List (Action E Ch V) → Config C R ε W Ch E X → Prop)
    {c c' : Config C R ε W Ch E X} {actions : List (Action E Ch V)}
    (preserved : ∀ taken d a d', S.run c taken = some d → M taken d → S.step d a = some d' →
      M (taken ++ [a]) d')
    (h : S.run c actions = some c') (initial : M [] c) : M actions c' := by
  have from_here : ∀ rest taken d, S.run c taken = some d → M taken d →
      S.run d rest = some c' → M (taken ++ rest) c' := by
    intro rest
    induction rest with
    | nil =>
        intro taken d _ hM hr
        cases hr
        simpa using hM
    | cons a rest ih =>
        intro taken d hd hM hr
        obtain ⟨d', hs, hr'⟩ := run_cons hr
        have reached : S.run c (taken ++ [a]) = some d' := by
          rw [run_append, hd]
          simp [run, hs]
        simpa using ih (taken ++ [a]) d' reached (preserved taken d a d' hd hM hs) hr'
  exact from_here actions [] c rfl initial h

theorem along_of_actions (Q : Action E Ch V → Prop) {actions : List (Action E Ch V)}
    (all : ∀ a ∈ actions, Q a) (c : Config C R ε W Ch E X) :
    S.Along (fun _ a _ => Q a) c actions := by
  induction actions generalizing c with
  | nil => trivial
  | cons a rest ih =>
      exact fun d _ => ⟨all a List.mem_cons_self, ih (fun b hb => all b (List.mem_cons_of_mem a hb)) d⟩

theorem along_of_prefixes (P : Config C R ε W Ch E X → Prop) {actions : List (Action E Ch V)}
    {c : Config C R ε W Ch E X}
    (all : ∀ first rest d, actions = first ++ rest → S.run c first = some d → P d) :
    S.Along (fun _ _ d => P d) c actions := by
  induction actions generalizing c with
  | nil => trivial
  | cons a rest ih =>
      intro d hd
      refine ⟨all [a] rest d rfl (by simp [run, hd]), ih fun first rest' e split reached => ?_⟩
      exact all (a :: first) rest' e (by rw [split]; rfl) (by simpa [run, hd] using reached)

theorem along_of_trace (Ok : Record C R ε Ch → Prop) {c c' : Config C R ε W Ch E X}
    {actions : List (Action E Ch V)} (h : S.run c actions = some c') (ok : ∀ r ∈ c'.trace, Ok r) :
    S.Along (fun _ _ d => ∀ r ∈ d.trace, Ok r) c actions := by
  refine along_of_prefixes (fun d => ∀ r ∈ d.trace, Ok r) fun first rest d split reached => ?_
  rw [split, run_append, reached] at h
  exact fun r hr => ok r ((run_trace h).subset hr)

theorem Along.and {P Q : Config C R ε W Ch E X → Action E Ch V → Config C R ε W Ch E X → Prop}
    {c : Config C R ε W Ch E X} {actions : List (Action E Ch V)} (hP : S.Along P c actions)
    (hQ : S.Along Q c actions) : S.Along (fun c a d => P c a d ∧ Q c a d) c actions := by
  induction actions generalizing c with
  | nil => trivial
  | cons a rest ih =>
      intro d hd
      obtain ⟨p, restP⟩ := hP d hd
      obtain ⟨q, restQ⟩ := hQ d hd
      exact ⟨⟨p, q⟩, ih restP restQ⟩

theorem Along.imp {P Q : Config C R ε W Ch E X → Action E Ch V → Config C R ε W Ch E X → Prop}
    {c : Config C R ε W Ch E X} {actions : List (Action E Ch V)} (hP : S.Along P c actions)
    (weaker : ∀ b a d, S.step b a = some d → P b a d → Q b a d) : S.Along Q c actions := by
  induction actions generalizing c with
  | nil => trivial
  | cons a rest ih =>
      intro d hd
      obtain ⟨p, tail⟩ := hP d hd
      exact ⟨weaker c a d hd p, ih tail⟩

theorem along_congr (I : Config C R ε W Ch E X → Prop)
    {P Q : Config C R ε W Ch E X → Action E Ch V → Config C R ε W Ch E X → Prop}
    (preserved : ∀ b a d, I b → S.step b a = some d → I d)
    (same : ∀ b a d, I b → S.step b a = some d → (P b a d ↔ Q b a d))
    {c : Config C R ε W Ch E X} {actions : List (Action E Ch V)} (initial : I c) :
    S.Along P c actions ↔ S.Along Q c actions := by
  induction actions generalizing c with
  | nil => exact Iff.rfl
  | cons a rest ih =>
      refine forall_congr' fun d => forall_congr' fun hd => ?_
      rw [same c a d initial hd, ih (preserved c a d initial hd)]

theorem Along.of_append
    {P : Config C R ε W Ch E X → Action E Ch V → Config C R ε W Ch E X → Prop}
    {c d : Config C R ε W Ch E X} {first rest : List (Action E Ch V)}
    (h : S.Along P c (first ++ rest)) (reached : S.run c first = some d) :
    S.Along P c first ∧ S.Along P d rest := by
  induction first generalizing c with
  | nil =>
      cases reached
      exact ⟨trivial, h⟩
  | cons a first ih =>
      obtain ⟨e, he, hr⟩ := run_cons reached
      refine ⟨fun d' hd => ?_, (ih (h e he).2 hr).2⟩
      obtain rfl : e = d' := by simpa [he] using hd
      exact ⟨(h e he).1, (ih (h e he).2 hr).1⟩

theorem along_concat
    {P : Config C R ε W Ch E X → Action E Ch V → Config C R ε W Ch E X → Prop}
    {c d e : Config C R ε W Ch E X} {first : List (Action E Ch V)} {a : Action E Ch V}
    (reached : S.run c first = some d) (hs : S.step d a = some e) :
    S.Along P c (first ++ [a]) ↔ S.Along P c first ∧ P d a e := by
  induction first generalizing c with
  | nil =>
      cases reached
      constructor
      · exact fun h => ⟨trivial, (h e hs).1⟩
      · rintro ⟨_, last⟩ e' he
        obtain rfl : e = e' := Option.some.inj (hs.symm.trans he)
        exact ⟨last, trivial⟩
  | cons b first ih =>
      obtain ⟨c', hc, hr⟩ := run_cons reached
      constructor
      · intro h
        obtain ⟨here, tail⟩ := h c' hc
        obtain ⟨front, last⟩ := (ih hr).mp tail
        refine ⟨fun d' hd => ?_, last⟩
        obtain rfl : c' = d' := Option.some.inj (hc.symm.trans hd)
        exact ⟨here, front⟩
      · rintro ⟨h, last⟩ d' hd
        obtain rfl : c' = d' := Option.some.inj (hc.symm.trans hd)
        exact ⟨(h c' hc).1, (ih hr).mpr ⟨(h c' hc).2, last⟩⟩

instance decidableAlong
    (P : Config C R ε W Ch E X → Action E Ch V → Config C R ε W Ch E X → Prop)
    [∀ c a d, Decidable (P c a d)] (c : Config C R ε W Ch E X) :
    (actions : List (Action E Ch V)) → Decidable (S.Along P c actions)
  | [] => isTrue trivial
  | a :: rest =>
      match h : S.step c a with
      | none => isTrue fun d hd => by simp [h] at hd
      | some d =>
          have : Decidable (S.Along P d rest) := decidableAlong P d rest
          decidable_of_iff (P c a d ∧ S.Along P d rest)
            ⟨fun along d' hd => by
              obtain rfl : d = d' := by simpa [h] using hd
              exact along, fun along => along d h⟩

/-! ## The start of a call -/

theorem run_started_from {c c' : Config C R ε W Ch E X} {actions : List (Action E Ch V)}
    (h : S.run c actions = some c') {pid : Nat} (later : c.procs.length ≤ pid) {p : Proc E X}
    (hp : c'.procs[pid]? = some p) :
    ∃ first rest d x w, actions = first ++ .start p.entry :: rest ∧ S.run c first = some d ∧
      d.procs.length = pid ∧ S.launch p.entry d.world = some (x, w) ∧
      S.run ⟨w, d.procs ++ [⟨p.entry, x⟩], d.trace⟩ rest = some c' := by
  induction actions generalizing c with
  | nil =>
      cases h
      have bound := (List.getElem?_eq_some_iff.mp hp).choose
      omega
  | cons a rest ih =>
      obtain ⟨d, hd, hr⟩ := run_cons h
      -- unless `a` starts the call itself, the call starts in the rest
      have tail (later : d.procs.length ≤ pid) : ∃ first rest' e x w,
          a :: rest = first ++ .start p.entry :: rest' ∧ S.run c first = some e ∧
            e.procs.length = pid ∧ S.launch p.entry e.world = some (x, w) ∧
            S.run ⟨w, e.procs ++ [⟨p.entry, x⟩], e.trace⟩ rest' = some c' := by
        obtain ⟨first, rest', e, x, w, split, run, rem⟩ := ih hr later
        exact ⟨a :: first, rest', e, x, w, by rw [split]; rfl, by simpa [System.run, hd] using run,
          rem⟩
      cases a with
      | start entry =>
          obtain ⟨x, w, hl, rfl⟩ := step_start hd
          by_cases here : c.procs.length = pid
          · subst here
            obtain ⟨p', hp', same⟩ := run_entry hr (List.getElem?_concat_length (l := c.procs))
            obtain rfl : p = p' := by simpa [hp] using hp'
            simp only at same
            subst same
            exact ⟨[], rest, c, x, w, rfl, rfl, rfl, hl, hr⟩
          · apply tail
            simp only [List.length_append, List.length_singleton]
            omega
      | resume q choice =>
          obtain ⟨p, cmd, resume, reply, w, _, _, _, rfl⟩ := step_resume hd
          exact tail (by simpa using later)
      | env event =>
          obtain ⟨w, _, rfl⟩ := step_env hd
          exact tail later

theorem run_started {w : W} {c : Config C R ε W Ch E X} {actions : List (Action E Ch V)}
    (h : S.run (.initial w) actions = some c) {pid : Nat} {p : Proc E X}
    (hp : c.procs[pid]? = some p) :
    ∃ first rest d x v, actions = first ++ .start p.entry :: rest ∧
      S.run (.initial w) first = some d ∧ d.procs.length = pid ∧
      S.launch p.entry d.world = some (x, v) ∧
      S.run ⟨v, d.procs ++ [⟨p.entry, x⟩], d.trace⟩ rest = some c :=
  run_started_from h (Nat.zero_le pid) hp

/-! ## The history of one call -/

theorem run_pid_bound {w : W} {c : Config C R ε W Ch E X} {actions : List (Action E Ch V)}
    (h : S.run (.initial w) actions = some c) : ∀ r ∈ c.trace, r.pid < c.procs.length := by
  apply run_invariant (fun c => ∀ r ∈ c.trace, r.pid < c.procs.length) ?_ h
  · simp [Config.initial]
  · intro c a c' hc hs
    cases a with
    | start entry =>
        obtain ⟨x, w, _, rfl⟩ := step_start hs
        intro r hr
        have := hc r hr
        simp only [List.length_append, List.length_cons, List.length_nil]
        omega
    | resume pid choice =>
        obtain ⟨p, cmd, resume, reply, w, hp, _, _, rfl⟩ := step_resume hs
        have bound : pid < c.procs.length := (List.getElem?_eq_some_iff.mp hp).choose
        intro r hr
        simp only [List.mem_append, List.mem_singleton] at hr
        rcases hr with hr | rfl
        · simpa using hc r hr
        · simpa using bound
    | env event =>
        obtain ⟨w, _, rfl⟩ := step_env hs
        exact hc

theorem own_append_self (c : Config C R ε W Ch E X) (pid : Nat) (cmd : C) (choice : Ch)
    (reply : Except ε (R cmd)) (w : W) (procs : List (Proc E X)) :
    (Config.mk w procs (c.trace ++ [⟨pid, cmd, choice, reply⟩])).own pid =
      c.own pid ++ [⟨pid, cmd, choice, reply⟩] := by
  simp [Config.own, List.filter_append]

theorem own_append_of_ne (c : Config C R ε W Ch E X) {pid q : Nat} (hne : pid ≠ q) (cmd : C)
    (choice : Ch) (reply : Except ε (R cmd)) (w : W) (procs : List (Proc E X)) :
    (Config.mk w procs (c.trace ++ [⟨pid, cmd, choice, reply⟩])).own q = c.own q := by
  simp [Config.own, List.filter_append, hne]

theorem mem_own {c : Config C R ε W Ch E X} {pid : Nat} {r : Record C R ε Ch} :
    r ∈ c.own pid ↔ r ∈ c.trace ∧ r.pid = pid := by
  simp [Config.own]

theorem countP_below_succ (trace : List (Record C R ε Ch)) (f : Record C R ε Ch → Bool) (n : Nat) :
    (trace.filter fun r => r.pid < n + 1).countP f =
      (trace.filter fun r => r.pid < n).countP f + (trace.filter fun r => r.pid = n).countP f := by
  induction trace with
  | nil => rfl
  | cons r rest ih =>
      simp only [List.filter_cons, decide_eq_true_eq]
      obtain below | here | above := Nat.lt_trichotomy r.pid n
      · have h1 : r.pid < n + 1 := by omega
        have h2 : ¬ r.pid = n := by omega
        simp only [if_pos below, if_pos h1, if_neg h2, List.countP_cons, ih]
        omega
      · have h1 : r.pid < n + 1 := by omega
        have h2 : ¬ r.pid < n := by omega
        simp only [if_pos h1, if_neg h2, if_pos here, List.countP_cons, ih]
        omega
      · have h1 : ¬ r.pid < n + 1 := by omega
        have h2 : ¬ r.pid < n := by omega
        have h3 : ¬ r.pid = n := by omega
        simp only [if_neg h1, if_neg h2, if_neg h3, ih]

/-- What is counted alike in every call's history is counted alike in the trace. -/
theorem countP_eq_of_own {c : Config C R ε W Ch E X} {f g : Record C R ε Ch → Bool}
    (h : ∀ pid, (c.own pid).countP f = (c.own pid).countP g) :
    c.trace.countP f = c.trace.countP g := by
  have below : ∀ n, (c.trace.filter fun r => r.pid < n).countP f =
      (c.trace.filter fun r => r.pid < n).countP g := by
    intro n
    induction n with
    | zero =>
        have none : (c.trace.filter fun r => r.pid < 0) = [] :=
          List.filter_eq_nil_iff.mpr (by simp)
        rw [none]
        rfl
    | succ n ih =>
        have here := h n
        simp only [Config.own] at here
        rw [countP_below_succ, countP_below_succ, ih, here]
  obtain ⟨bound, hb⟩ : ∃ bound, ∀ r ∈ c.trace, r.pid < bound := by
    induction c.trace with
    | nil => exact ⟨0, by simp⟩
    | cons r rest ih =>
        obtain ⟨bound, hb⟩ := ih
        refine ⟨max bound (r.pid + 1), fun q hq => ?_⟩
        obtain rfl | hq := List.mem_cons.mp hq
        · omega
        · have := hb q hq
          omega
  have all : (c.trace.filter fun r => r.pid < bound) = c.trace :=
    List.filter_eq_self.mpr fun r hr => decide_eq_true (hb r hr)
  rw [← all]
  exact below bound

/-- What only one call contributes can be read off that call's history. -/
theorem filterMap_eq_own {β : Type} {c : Config C R ε W Ch E X} {f : Record C R ε Ch → Option β}
    {pid : Nat} (h : ∀ r ∈ c.trace, r.pid ≠ pid → f r = none) :
    c.trace.filterMap f = (c.own pid).filterMap f := by
  unfold Config.own
  generalize c.trace = trace at h ⊢
  induction trace with
  | nil => rfl
  | cons r rest ih =>
      have tail := ih fun q hq => h q (List.mem_cons_of_mem r hq)
      by_cases own : r.pid = pid
      · simp [List.filterMap_cons, own, tail]
      · simp [own, tail, h r List.mem_cons_self own]

/-- A relation between a call, its state and its own history that launching
establishes and every answer preserves holds of every call of every run. -/
theorem run_own (Ok : Record C R ε Ch → Prop) (Own : E → X → List (Record C R ε Ch) → Prop)
    (launched : ∀ entry w x w', S.launch entry w = some (x, w') → Own entry x [])
    (answered : ∀ entry x history cmd resume pid choice reply w w',
      Own entry x history → S.view x = .awaits cmd resume →
      rt.exec cmd choice w = some (reply, w') → Ok ⟨pid, cmd, choice, reply⟩ →
      Own entry (resume reply) (history ++ [⟨pid, cmd, choice, reply⟩]))
    {w : W} {c : Config C R ε W Ch E X} {actions : List (Action E Ch V)}
    (h : S.run (.initial w) actions = some c) (ok : ∀ r ∈ c.trace, Ok r)
    {pid : Nat} {p : Proc E X} (hp : c.procs[pid]? = some p) :
    Own p.entry p.state (c.own pid) := by
  let I : Config C R ε W Ch E X → Prop := fun c =>
    (∀ r ∈ c.trace, r.pid < c.procs.length) ∧
      ∀ pid p, c.procs[pid]? = some p → Own p.entry p.state (c.own pid)
  suffices hI : I c from hI.2 pid p hp
  apply run_invariant_of_trace Ok I ?_ h ok
  · exact ⟨by simp [Config.initial], by simp [Config.initial]⟩
  · intro c a c' hc hs hok
    obtain ⟨bounds, own⟩ := hc
    cases a with
    | start entry =>
        obtain ⟨x, w, hl, rfl⟩ := step_start hs
        refine ⟨fun r hr => by have := bounds r hr; simp; omega, ?_⟩
        intro pid p hp
        obtain hp | ⟨rfl, rfl⟩ := get_started hp
        · exact own pid p hp
        · -- a fresh call: nothing in the trace carries its number yet
          have fresh : c.own c.procs.length = [] := by
            apply List.filter_eq_nil_iff.mpr
            intro r hr
            have := bounds r hr
            simp only [decide_eq_true_eq]
            omega
          have launch := launched entry c.world x w hl
          rw [← fresh] at launch
          exact launch
    | resume q choice =>
        obtain ⟨p0, cmd, resume, reply, w, hq, hv, he, rfl⟩ := step_resume hs
        have bound : q < c.procs.length := (List.getElem?_eq_some_iff.mp hq).choose
        refine ⟨?_, ?_⟩
        · intro r hr
          simp only [List.mem_append, List.mem_singleton] at hr
          rcases hr with hr | rfl
          · simpa using bounds r hr
          · simpa using bound
        · intro pid p hp
          obtain ⟨rfl, rfl⟩ | ⟨other, hp⟩ := get_answered hp
          · rw [own_append_self]
            exact answered _ _ _ _ _ _ _ _ _ _ (own pid p0 hq) hv he (hok _ (by simp))
          · rw [own_append_of_ne c (Ne.symm other)]
            exact own pid p hp
    | env event =>
        obtain ⟨w, _, rfl⟩ := step_env hs
        exact ⟨bounds, own⟩

end System
end Concurrency
