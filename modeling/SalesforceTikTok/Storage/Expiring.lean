import Mathlib.Data.List.AList

/-!
# Keyed values that expire

A table whose entries carry the time from which they are gone. Reading is
relative to a clock; an entry that has expired is as good as no entry.
-/

namespace Storage

abbrev Expiring (κ β : Type) := AList fun _ : κ => β × Int

/-- What holds of every entry holds of every key that is found. -/
theorem forall_entries {κ : Type} [DecidableEq κ] {β : Type} {table : AList fun _ : κ => β}
    {P : κ → β → Prop} : (∀ entry ∈ table.entries, P entry.1 entry.2) ↔
      ∀ key value, table.lookup key = some value → P key value := by
  refine ⟨fun all key value found => all ⟨key, value⟩ (List.of_mem_dlookup found), ?_⟩
  exact fun all entry he => all entry.1 entry.2 ((List.mem_dlookup_iff table.nodupKeys).mpr he)

section

variable {κ β : Type} [DecidableEq κ] {table : AList fun _ : κ => β} {key key' : κ}
  {value value' : β}

/-- An entry found after an insertion is the inserted one or was there before. -/
theorem lookup_insert_cases (h : (table.insert key value).lookup key' = some value') :
    key' = key ∧ value' = value ∨ table.lookup key' = some value' := by
  by_cases same : key' = key
  · subst same
    rw [AList.lookup_insert] at h
    exact .inl ⟨rfl, (Option.some.inj h).symm⟩
  · rw [AList.lookup_insert_ne same] at h
    exact .inr h

theorem lookup_of_erase (h : (table.erase key).lookup key' = some value) :
    table.lookup key' = some value := by
  by_cases same : key' = key
  · subst same
    rw [AList.lookup_erase] at h
    cases h
  · rwa [AList.lookup_erase_ne same] at h

end

namespace Expiring

variable {κ β : Type} [DecidableEq κ]

def get (table : Expiring κ β) (now : Int) (key : κ) : Option β :=
  match table.lookup key with
  | some (value, expiry) => if now < expiry then some value else none
  | none => none

def set (table : Expiring κ β) (key : κ) (value : β) (expiry : Int) : Expiring κ β :=
  table.insert key (value, expiry)

def del (table : Expiring κ β) (key : κ) : Expiring κ β := table.erase key

theorem lookup_of_get {table : Expiring κ β} {now : Int} {key : κ} {value : β}
    (h : table.get now key = some value) : ∃ expiry, table.lookup key = some (value, expiry) := by
  unfold get at h
  split at h
  next value' expiry found =>
    split at h <;> cases h
    exact ⟨expiry, found⟩
  next => cases h

theorem get_of_absent {table : Expiring κ β} {key : κ} (h : table.lookup key = none) (now : Int) :
    table.get now key = none := by
  simp [get, h]

theorem get_earlier {table : Expiring κ β} {now later : Int} {key : κ} {value : β}
    (order : now ≤ later) (h : table.get later key = some value) :
    table.get now key = some value := by
  unfold get at h ⊢
  cases found : table.lookup key with
  | none =>
      rw [found] at h
      cases h
  | some entry =>
      rw [found] at h
      dsimp only at h ⊢
      split at h
      next live =>
        have earlier : now < entry.2 := by omega
        rwa [if_pos earlier]
      next => cases h

/-- After a write a key holds the value written or what it held. -/
theorem get_set_cases {table : Expiring κ β} {now : Int} {key key' : κ} {value value' : β}
    {expiry : Int} (h : (table.set key value expiry).get now key' = some value') :
    key' = key ∧ value' = value ∨ table.get now key' = some value' := by
  by_cases same : key' = key
  · subst same
    obtain ⟨expiry', found⟩ := lookup_of_get h
    rw [set, AList.lookup_insert] at found
    cases found
    exact .inl ⟨rfl, rfl⟩
  · right
    unfold get at h ⊢
    rwa [set, AList.lookup_insert_ne same] at h

theorem lookup_set_cases {table : Expiring κ β} {key key' : κ} {value value' : β}
    {expiry expiry' : Int} (h : (table.set key value expiry).lookup key' = some (value', expiry')) :
    key' = key ∧ value' = value ∨ table.lookup key' = some (value', expiry') := by
  by_cases same : key' = key
  · subst same
    rw [set, AList.lookup_insert] at h
    cases h
    exact .inl ⟨rfl, rfl⟩
  · rw [set, AList.lookup_insert_ne same] at h
    exact .inr h

theorem lookup_set_ne {table : Expiring κ β} {key key' : κ} (other : key' ≠ key) (value : β)
    (expiry : Int) : (table.set key value expiry).lookup key' = table.lookup key' :=
  AList.lookup_insert_ne other

@[simp] theorem lookup_del (table : Expiring κ β) (key : κ) :
    (table.del key).lookup key = none :=
  AList.lookup_erase key table

theorem lookup_of_del {table : Expiring κ β} {key key' : κ} {entry : β × Int}
    (h : (table.del key).lookup key' = some entry) : table.lookup key' = some entry :=
  lookup_of_erase h

theorem get_del {table : Expiring κ β} {now : Int} {key key' : κ}
    (h : table.get now key = none) : (table.del key').get now key = none := by
  by_cases same : key = key'
  · subst same
    exact get_of_absent (lookup_del table key) now
  · unfold get at h ⊢
    rwa [del, AList.lookup_erase_ne same]

theorem get_set_ne {table : Expiring κ β} {now : Int} {key key' : κ} (other : key' ≠ key)
    (value : β) (expiry : Int) : (table.set key value expiry).get now key' =
      table.get now key' := by
  simp only [get, lookup_set_ne other]

theorem get_later {table : Expiring κ β} {now later : Int} {key : κ} (order : now ≤ later)
    (h : table.get now key = none) : table.get later key = none := by
  cases live : table.get later key with
  | none => rfl
  | some value =>
      rw [get_earlier order live] at h
      cases h

theorem get_eq_some {table : Expiring κ β} {now : Int} {key : κ} {value : β} :
    table.get now key = some value ↔
      ∃ expiry, table.lookup key = some (value, expiry) ∧ now < expiry := by
  unfold get
  cases table.lookup key with
  | none => simp
  | some entry =>
      by_cases live : now < entry.2
      · simp only [if_pos live, Option.some.injEq]
        exact ⟨fun same => ⟨entry.2, by rw [← same], live⟩, fun ⟨_, same, _⟩ => by rw [same]⟩
      · simp only [if_neg live, Option.some.injEq, reduceCtorEq, false_iff, not_exists, not_and]
        rintro expiry rfl
        exact live

end Expiring
end Storage
