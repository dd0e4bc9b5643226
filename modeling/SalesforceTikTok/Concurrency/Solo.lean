import SalesforceTikTok.Concurrency.Contract

/-!
# Programs carried out alone

What a program can come to when nothing else happens in between: a relation
between the world it starts in, its outcome and the world it leaves, by recursion
on the program. It is what a run shows that resumes one call only
(`run_solo`).
-/

namespace Concurrency

variable {C : Type} {R : C → Type} {ε α β W Ch V E : Type}

namespace Prog

/-- Started in a world and answered without interruption, the program can end so. -/
def Yields (rt : Runtime C R ε W Ch V) (outcome : Except ε α) (v : W) :
    Prog C R ε α → W → Prop
  | done value, w => outcome = .ok value ∧ v = w
  | fail error, w => outcome = .error error ∧ v = w
  | await cmd resume, w =>
      ∃ choice reply u, rt.exec cmd choice w = some (reply, u) ∧
        (resume reply).Yields rt outcome v u

section

variable {rt : Runtime C R ε W Ch V} {v w : W}

theorem yields_call {cmd : C} {outcome : Except ε (R cmd)} :
    (call cmd : Prog C R ε (R cmd)).Yields rt outcome v w ↔
      ∃ choice, rt.exec cmd choice w = some (outcome, v) := by
  constructor
  · rintro ⟨choice, reply, u, he, ends⟩
    refine ⟨choice, ?_⟩
    cases reply <;> obtain ⟨rfl, rfl⟩ := ends <;> exact he
  · rintro ⟨choice, he⟩
    refine ⟨choice, outcome, v, he, ?_⟩
    cases outcome <;> exact ⟨rfl, rfl⟩

theorem yields_bind {p : Prog C R ε α} {next : α → Prog C R ε β} {outcome : Except ε β} :
    (p >>= next).Yields rt outcome v w ↔
      (∃ value u, p.Yields rt (.ok value) u w ∧ (next value).Yields rt outcome v u) ∨
        ∃ error, p.Yields rt (.error error) v w ∧ outcome = .error error := by
  induction p generalizing w with
  | done value =>
      constructor
      · exact fun h => .inl ⟨value, w, ⟨rfl, rfl⟩, h⟩
      · rintro (⟨value, u, ⟨same, rfl⟩, h⟩ | ⟨error, ⟨same, _⟩, _⟩)
        · cases same
          exact h
        · cases same
  | fail error =>
      constructor
      · exact fun h => .inr ⟨error, ⟨rfl, h.2⟩, h.1⟩
      · rintro (⟨value, u, ⟨same, _⟩, _⟩ | ⟨error, ⟨same, here⟩, h⟩)
        · cases same
        · cases same
          exact ⟨h, here⟩
  | await cmd resume ih =>
      constructor
      · rintro ⟨choice, reply, u, he, h⟩
        rcases (ih reply).mp h with ⟨value, u', first, rest⟩ | ⟨error, first, same⟩
        · exact .inl ⟨value, u', ⟨choice, reply, u, he, first⟩, rest⟩
        · exact .inr ⟨error, ⟨choice, reply, u, he, first⟩, same⟩
      · rintro (⟨value, u', ⟨choice, reply, u, he, first⟩, rest⟩ |
          ⟨error, ⟨choice, reply, u, he, first⟩, same⟩)
        · exact ⟨choice, reply, u, he, (ih reply).mpr (.inl ⟨value, u', first, rest⟩)⟩
        · exact ⟨choice, reply, u, he, (ih reply).mpr (.inr ⟨error, first, same⟩)⟩

theorem yields_catch {p : Prog C R ε α} {handler : ε → Prog C R ε α} {outcome : Except ε α} :
    (tryCatch p handler).Yields rt outcome v w ↔
      (∃ value, p.Yields rt (.ok value) v w ∧ outcome = .ok value) ∨
        ∃ error u, p.Yields rt (.error error) u w ∧ (handler error).Yields rt outcome v u := by
  induction p generalizing w with
  | done value =>
      constructor
      · exact fun h => .inl ⟨value, ⟨rfl, h.2⟩, h.1⟩
      · rintro (⟨value, ⟨same, here⟩, h⟩ | ⟨error, u, ⟨same, _⟩, _⟩)
        · cases same
          exact ⟨h, here⟩
        · cases same
  | fail error =>
      constructor
      · exact fun h => .inr ⟨error, w, ⟨rfl, rfl⟩, h⟩
      · rintro (⟨value, ⟨same, _⟩, _⟩ | ⟨error, u, ⟨same, rfl⟩, h⟩)
        · cases same
        · cases same
          exact h
  | await cmd resume ih =>
      constructor
      · rintro ⟨choice, reply, u, he, h⟩
        rcases (ih reply).mp h with ⟨value, first, same⟩ | ⟨error, u', first, rest⟩
        · exact .inl ⟨value, ⟨choice, reply, u, he, first⟩, same⟩
        · exact .inr ⟨error, u', ⟨choice, reply, u, he, first⟩, rest⟩
      · rintro (⟨value, ⟨choice, reply, u, he, first⟩, same⟩ |
          ⟨error, u', ⟨choice, reply, u, he, first⟩, rest⟩)
        · exact ⟨choice, reply, u, he, (ih reply).mpr (.inl ⟨value, first, same⟩)⟩
        · exact ⟨choice, reply, u, he, (ih reply).mpr (.inr ⟨error, u', first, rest⟩)⟩

/-- Started in `w`, the program comes to this outcome in `v`, and to no other. -/
def Comes (rt : Runtime C R ε W Ch V) (p : Prog C R ε α) (w : W) (outcome : Except ε α)
    (v : W) : Prop :=
  ∀ outcome' v', p.Yields rt outcome' v' w ↔ outcome' = outcome ∧ v' = v

theorem Comes.unique {p : Prog C R ε α} {outcome outcome' : Except ε α} {v' : W}
    (h : p.Comes rt w outcome v) (h' : p.Comes rt w outcome' v') : outcome = outcome' ∧ v = v' :=
  (h' outcome v).mp ((h outcome v).mpr ⟨rfl, rfl⟩)

/-- What comes before the rest and resolves can be left out. -/
theorem Comes.bind_yields {p : Prog C R ε α} {next : α → Prog C R ε β} {value : α} {u : W}
    {outcome : Except ε β} (h : p.Comes rt w (.ok value) u) :
    (p >>= next).Yields rt outcome v w ↔ (next value).Yields rt outcome v u := by
  rw [yields_bind]
  constructor
  · rintro (⟨value', u', first, second⟩ | ⟨error, first, _⟩)
    · obtain ⟨same, rfl⟩ := (h _ _).mp first
      cases same
      exact second
    · cases ((h _ _).mp first).1
  · exact fun second => .inl ⟨value, u, (h _ _).mpr ⟨rfl, rfl⟩, second⟩

theorem Comes.bind {p : Prog C R ε α} {next : α → Prog C R ε β} {value : α} {u : W}
    {outcome : Except ε β} (h : p.Comes rt w (.ok value) u)
    (rest : (next value).Comes rt u outcome v) : (p >>= next).Comes rt w outcome v :=
  fun outcome' v' => h.bind_yields.trans (rest outcome' v')

theorem Comes.catch {p : Prog C R ε α} {handler : ε → Prog C R ε α} {value : α}
    (h : p.Comes rt w (.ok value) v) : (tryCatch p handler).Comes rt w (.ok value) v := by
  intro outcome' v'
  rw [yields_catch]
  constructor
  · rintro (⟨value', first, rfl⟩ | ⟨error', u', first, _⟩)
    · exact (h _ _).mp first
    · cases ((h _ _).mp first).1
  · rintro ⟨rfl, rfl⟩
    exact .inl ⟨value, (h _ _).mpr ⟨rfl, rfl⟩, rfl⟩

theorem Yields.ends {P : C → Prop} {Q : Except ε α → Prop} {p : Prog C R ε α}
    {outcome : Except ε α} (h : p.Yields rt outcome v w) (within : p.Within P Q) : Q outcome := by
  induction p generalizing w with
  | done value => exact h.1 ▸ within
  | fail error => exact h.1 ▸ within
  | await cmd resume ih =>
      obtain ⟨choice, reply, u, _, rest⟩ := h
      exact ih reply rest (within.2 reply)

/-- What every command of the program leaves as it is, the program leaves as it is. -/
theorem Yields.kept {P : C → Prop} {Q : Except ε α → Prop} {p : Prog C R ε α}
    {outcome : Except ε α} (h : p.Yields rt outcome v w) (within : p.Within P Q) {F : Type}
    (field : W → F) (kept : ∀ cmd choice w reply v, P cmd → rt.exec cmd choice w = some (reply, v) →
      field v = field w) : field v = field w := by
  induction p generalizing w with
  | done value => rw [h.2]
  | fail error => rw [h.2]
  | await cmd resume ih =>
      obtain ⟨choice, reply, u, he, rest⟩ := h
      exact (ih reply rest (within.2 reply)).trans (kept cmd choice w reply u within.1 he)

end
end Prog

namespace System

variable {rt : Runtime C R ε W Ch V} {S : System rt α E (Prog C R ε α)}

theorem run_solo_ended {X : Type} {S : System rt α E X} {c : Config C R ε W Ch E X} {pid : Nat}
    {p : Proc E X} (hp : c.procs[pid]? = some p) {result outcome : Except ε α} {v : W}
    (ended : S.view p.state = .ended result) :
    (∃ (choices : List Ch) (d : Config C R ε W Ch E X),
      S.run c (choices.map fun choice => .resume pid choice) = some d ∧ S.Ended d pid outcome ∧
        d.world = v) ↔ outcome = result ∧ v = c.world := by
  constructor
  · rintro ⟨choices, d, run, now, rfl⟩
    cases choices with
    | nil =>
        cases run
        have hv := now.view_eq hp
        rw [ended] at hv
        cases hv
        exact ⟨rfl, rfl⟩
    | cons choice choices =>
        obtain ⟨d', hs, _⟩ := run_cons run
        exact absurd ended (step_ended hs hp result)
  · rintro ⟨rfl, rfl⟩
    exact ⟨[], c, rfl, ⟨p, hp, ended⟩, rfl⟩

/-- A call that is resumed alone comes to what its program yields. -/
theorem run_solo (view : S.view = Prog.view) {c : Config C R ε W Ch E (Prog C R ε α)} {pid : Nat}
    {entry : E} {program : Prog C R ε α} (hp : c.procs[pid]? = some ⟨entry, program⟩)
    {outcome : Except ε α} {v : W} :
    program.Yields rt outcome v c.world ↔
      ∃ (choices : List Ch) (d : Config C R ε W Ch E (Prog C R ε α)),
        S.run c (choices.map fun choice => .resume pid choice) = some d ∧
          S.Ended d pid outcome ∧ d.world = v := by
  induction program generalizing c with
  | done value => exact (run_solo_ended hp (by rw [view]; rfl)).symm
  | fail error => exact (run_solo_ended hp (by rw [view]; rfl)).symm
  | await cmd resume ih =>
      have bound : pid < c.procs.length := (List.getElem?_eq_some_iff.mp hp).choose
      constructor
      · rintro ⟨choice, reply, u, he, rest⟩
        have answered : S.step c (.resume pid choice) = some ⟨u, c.procs.set pid
            ⟨entry, resume reply⟩, c.trace ++ [⟨pid, cmd, choice, reply⟩]⟩ :=
          step_answer hp (by rw [view]; rfl) he
        obtain ⟨choices, d, run, ended⟩ := (@ih reply ⟨u, c.procs.set pid ⟨entry, resume reply⟩,
          c.trace ++ [⟨pid, cmd, choice, reply⟩]⟩ (List.getElem?_set_self bound)).mp rest
        exact ⟨choice :: choices, d, by simpa only [List.map_cons, System.run, answered], ended⟩
      · rintro ⟨choices, d, run, ended⟩
        cases choices with
        | nil =>
            cases run
            have hv := ended.1.view_eq hp
            rw [view] at hv
            cases hv
        | cons choice choices =>
            obtain ⟨d', hs, rest⟩ := run_cons run
            obtain ⟨p', cmd', resume', reply, w, hq, hv', he, rfl⟩ := step_resume hs
            obtain rfl : p' = ⟨entry, .await cmd resume⟩ := by simpa [hp] using hq.symm
            rw [view] at hv'
            cases hv'
            exact ⟨choice, reply, w, he, (@ih reply _ (List.getElem?_set_self bound)).mpr
              ⟨choices, d, rest, ended⟩⟩

end System
end Concurrency
