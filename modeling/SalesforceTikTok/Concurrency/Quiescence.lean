import SalesforceTikTok.Concurrency.Invariant

/-!
# Systems that come to rest

A potential pays for the answers: no admitted action adds to it, every answer lowers it,
and while some is left an answer can be reached. A run of admitted actions then has a
bounded number of answers, and one of them exhausts the potential.
-/

namespace Concurrency
namespace System

variable {C : Type} {R : C → Type} {ε α W Ch V E X : Type}
variable {rt : Runtime C R ε W Ch V}

/-! ## A quantity of the calls -/

theorem le_total {procs : List (Proc E X)} {pid : Nat} {p : Proc E X} (hp : procs[pid]? = some p)
    (f : Proc E X → Nat) : f p ≤ total f procs := by
  induction procs generalizing pid with
  | nil => cases hp
  | cons first rest ih =>
      simp only [total]
      cases pid with
      | zero =>
          cases hp
          omega
      | succ pid =>
          have later := ih hp
          omega

theorem exists_of_total_pos {f : Proc E X → Nat} {procs : List (Proc E X)}
    (positive : 0 < total f procs) : ∃ (pid : Nat) (p : Proc E X), procs[pid]? = some p ∧ 0 < f p := by
  induction procs with
  | nil => cases positive
  | cons first rest ih =>
      simp only [total] at positive
      by_cases here : 0 < f first
      · exact ⟨0, first, rfl, here⟩
      · obtain ⟨pid, p, hp, left⟩ := ih (by omega)
        exact ⟨pid + 1, p, hp, left⟩

theorem total_le {f : Proc E X → Nat} {bound : Nat} (light : ∀ p, f p ≤ bound)
    (procs : List (Proc E X)) : total f procs ≤ bound * procs.length := by
  induction procs with
  | nil => exact Nat.le_refl 0
  | cons first rest ih =>
      have := light first
      simp only [total, List.length_cons, Nat.mul_succ]
      omega

/-! ## Potentials -/

theorem run_step {S : System rt α E X} {c d e : Config C R ε W Ch E X} {a : Action E Ch V}
    {rest : List (Action E Ch V)} (hs : S.step c a = some d) (hr : S.run d rest = some e) :
    S.run c (a :: rest) = some e := by
  simp only [run, hs]
  exact hr

/-- Under the invariant `I` the admitted actions live on the potential. -/
structure Drains (S : System rt α E X) (admits : Action E Ch V → Prop)
    (I : Config C R ε W Ch E X → Prop) (potential : Config C R ε W Ch E X → Nat) : Prop where
  kept : ∀ c a d, I c → admits a → S.step c a = some d → I d
  spends : ∀ c a d, I c → admits a → S.step c a = some d →
    potential d + d.trace.length ≤ potential c + c.trace.length
  moves : ∀ c, I c → 0 < potential c → ∃ actions d, (∀ a ∈ actions, admits a) ∧
    S.run c actions = some d ∧ c.trace.length < d.trace.length

namespace Drains

variable {S : System rt α E X} {admits : Action E Ch V → Prop}
  {I : Config C R ε W Ch E X → Prop} {potential : Config C R ε W Ch E X → Nat}
  {c d : Config C R ε W Ch E X} {actions : List (Action E Ch V)}

theorem run_kept (h : Drains S admits I potential) (hr : S.run c actions = some d)
    (admitted : ∀ a ∈ actions, admits a) (initial : I c) : I d :=
  run_invariant_along (fun _ a _ => admits a) I (fun c a d kept hs ok => h.kept c a d kept ok hs) hr
    (along_of_actions admits admitted c) initial

theorem run_spends (h : Drains S admits I potential) (hr : S.run c actions = some d)
    (admitted : ∀ a ∈ actions, admits a) (initial : I c) :
    potential d + d.trace.length ≤ potential c + c.trace.length := by
  induction actions generalizing c with
  | nil =>
      cases hr
      exact Nat.le_refl _
  | cons a rest ih =>
      obtain ⟨e, he, hr⟩ := run_cons hr
      have first : admits a := admitted a List.mem_cons_self
      have later := ih hr (fun b hb => admitted b (List.mem_cons_of_mem a hb))
        (h.kept c a e initial first he)
      exact Nat.le_trans later (h.spends c a e initial first he)

theorem run_exhausts (h : Drains S admits I potential) (c : Config C R ε W Ch E X) (initial : I c) :
    ∃ actions d, (∀ a ∈ actions, admits a) ∧ S.run c actions = some d ∧ I d ∧ potential d = 0 := by
  induction left : potential c using Nat.strongRecOn generalizing c with
  | ind left' ih =>
      subst left
      by_cases spent : potential c = 0
      · exact ⟨[], c, by simp, rfl, initial, spent⟩
      · obtain ⟨first, e, admitted, hr, answered⟩ := h.moves c initial (Nat.pos_of_ne_zero spent)
        have paid := h.run_spends hr admitted initial
        obtain ⟨rest, d, admitted', hr', kept, none⟩ :=
          ih (potential e) (by omega) e (h.run_kept hr admitted initial) rfl
        refine ⟨first ++ rest, d, fun a ha => ?_, by rw [run_append, hr]; exact hr', kept, none⟩
        obtain ha | ha := List.mem_append.mp ha
        · exact admitted a ha
        · exact admitted' a ha

end Drains
end System
end Concurrency
