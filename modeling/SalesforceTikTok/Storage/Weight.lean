import Mathlib.Algebra.Order.BigOperators.Group.List
import Mathlib.Algebra.Order.Ring.Nat
import Mathlib.Algebra.GroupWithZero.Action.Defs
import SalesforceTikTok.Storage.Expiring

/-!
# Weight of a table

What the values of a table weigh together, and how an update changes it.
-/

namespace Storage

variable {κ β : Type} [DecidableEq κ] {f : β → Nat} {m : AList fun _ : κ => β} {key : κ}
  {value old : β}

def weight (f : β → Nat) (m : AList fun _ : κ => β) : Nat := (m.entries.map fun e => f e.2).sum

omit [DecidableEq κ] in
@[simp] theorem weight_empty (f : β → Nat) : weight f (∅ : AList fun _ : κ => β) = 0 := rfl

theorem sum_kerase {l : List (Sigma fun _ : κ => β)} (found : l.dlookup key = some value) :
    ((l.kerase key).map fun e => f e.2).sum + f value = (l.map fun e => f e.2).sum := by
  induction l with
  | nil => cases found
  | cons e rest ih =>
      obtain ⟨key', value'⟩ := e
      by_cases same : key = key'
      · subst same
        rw [List.dlookup_cons_eq] at found
        cases found
        simp only [List.kerase_cons_eq, List.map_cons, List.sum_cons]
        omega
      · rw [List.dlookup_cons_ne rest ⟨key', value'⟩ same] at found
        have later := ih found
        rw [List.kerase_cons_ne same]
        simp only [List.map_cons, List.sum_cons]
        omega

theorem weight_erase (found : m.lookup key = some old) :
    weight f (m.erase key) + f old = weight f m :=
  sum_kerase found

theorem weight_insert_new (absent : m.lookup key = none) (value : β) :
    weight f (m.insert key value) = weight f m + f value := by
  rw [weight, AList.entries_insert_of_notMem (AList.lookup_eq_none.mp absent), List.map_cons,
    List.sum_cons]
  exact Nat.add_comm _ _

/-- An update takes the old value out of the weight and puts the new one in. -/
theorem weight_insert (found : m.lookup key = some old) (value : β) :
    weight f (m.insert key value) + f old = weight f m + f value := by
  have erased := weight_erase (f := f) found
  rw [weight, AList.entries_insert, List.map_cons, List.sum_cons]
  change f value + weight f (m.erase key) + f old = weight f m + f value
  omega

theorem le_weight (found : m.lookup key = some value) : f value ≤ weight f m := by
  have erased := weight_erase (f := f) found
  omega

theorem exists_of_weight_pos (some_weight : 0 < weight f m) :
    ∃ key value, m.lookup key = some value ∧ 0 < f value := by
  obtain ⟨x, mem, pos⟩ := List.sum_pos_iff_exists_pos_nat.mp some_weight
  obtain ⟨e, stored, rfl⟩ := List.mem_map.mp mem
  exact ⟨e.1, e.2, AList.mem_lookup_iff.mpr stored, pos⟩

/-- Weights of at most `bound` add up to at most that for each entry. -/
theorem weight_le {bound : Nat} (light : ∀ key value, m.lookup key = some value → f value ≤ bound) :
    weight f m ≤ bound * m.entries.length := by
  have each : ∀ x ∈ m.entries.map fun e => f e.2, x ≤ bound :=
    List.forall_mem_map.mpr (forall_entries.mpr light)
  have sum := List.sum_le_card_nsmul _ bound each
  rw [List.length_map, smul_eq_mul, Nat.mul_comm] at sum
  exact sum

end Storage
