import Mathlib.Data.List.Forall2
import Mathlib.Data.Rat.Defs

/-!
# Redaction of JSON

JSON values, and a logger that overwrites what lies at certain paths of a record. A
`*` in a path stands for exactly one level. A path changes only what its last
segment names: below a field of another name everything stays.
-/

/-- A JSON value; the numbers are exact. -/
inductive Json where
  | null
  | bool (value : Bool)
  | number (value : ℚ)
  | string (value : String)
  | array (items : List Json)
  | object (fields : List (String × Json))

namespace Json

def property (key : String) : Json → Option Json
  | object fields => fields.lookup key
  | _ => none

def truthy : Option Json → Bool
  | none | some null => false
  | some (bool value) => value
  | some (number value) => value ≠ 0
  | some (string value) => value ≠ ""
  | some (array _) | some (object _) => true

/-! ## Paths -/

def selects (segment key : String) : Bool := segment = "*" || segment = key

/-- The value at the end of the path is overwritten, unless it is null. -/
def redactAt (censor : Json) : List String → Json → Json
  | [], null => null
  | [], _ => censor
  | segment :: rest, object fields =>
      object (fields.map fun field =>
        (field.1, if selects segment field.1 then redactAt censor rest field.2 else field.2))
  | segment :: rest, array items =>
      if segment = "*" then array (items.map (redactAt censor rest)) else array items
  | _ :: _, value => value

def redact (censor : Json) (paths : List (List String)) (value : Json) : Json :=
  paths.foldl (fun redacted path => redactAt censor path redacted) value

/-! ## Values that differ in some fields only -/

/-- The same keys in the same order, with values that `R` relates under their key. -/
def SameKeys (R : String → Json → Json → Prop) (f g : List (String × Json)) : Prop :=
  List.Forall₂ (fun a b => a.1 = b.1 ∧ R a.1 a.2 b.2) f g

def Alike (R : String → Json → Json → Prop) : Json → Json → Prop
  | object f, object g => SameKeys R f g
  | v, w => v = w

section

variable {R : String → Json → Json → Prop} {f g : List (String × Json)} {v w : Json}

theorem SameKeys.lookup (h : SameKeys R f g) (key : String) :
    f.lookup key = none ∧ g.lookup key = none ∨
      ∃ a b, f.lookup key = some a ∧ g.lookup key = some b ∧ R key a b := by
  induction h with
  | nil => exact .inl ⟨rfl, rfl⟩
  | @cons a b f g related _ ih =>
      obtain ⟨name, a⟩ := a
      obtain ⟨_, b⟩ := b
      obtain ⟨rfl, related⟩ := related
      by_cases here : key = name
      · subst here
        exact .inr ⟨a, b, by simp, by simp, related⟩
      · have other : (key == name) = false := beq_false_of_ne here
        simpa only [List.lookup_cons, other] using ih

theorem Alike.cases (h : Alike R v w) :
    v = w ∨ ∃ f g, v = object f ∧ w = object g ∧ SameKeys R f g := by
  cases v with
  | object f =>
      cases w with
      | object g => exact .inr ⟨f, g, rfl, rfl, h⟩
      | _ => exact .inl h
  | _ => exact .inl h

theorem Alike.fields (h : Alike R v w) (same : ∀ key a, R key a a) (key : String) :
    property key v = none ∧ property key w = none ∨
      ∃ a b, property key v = some a ∧ property key w = some b ∧ R key a b := by
  rcases h.cases with rfl | ⟨f, g, rfl, rfl, fields⟩
  · cases found : v.property key with
    | none => exact .inl ⟨rfl, rfl⟩
    | some a => exact .inr ⟨a, a, rfl, rfl, same key a⟩
  · exact fields.lookup key

end

/-! ## What redaction keeps -/

def EqualUnder (key name : String) (a b : Json) : Prop := name = key → a = b

abbrev Keeps (key : String) : Json → Json → Prop := Alike (EqualUnder key)

section

variable {R : String → Json → Json → Prop} {f g h : List (String × Json)} {u v w : Json}
  {key : String}

theorem SameKeys.trans (same : ∀ name a b c, R name a b → R name b c → R name a c)
    (first : SameKeys R f g) (second : SameKeys R g h) : SameKeys R f h := by
  induction first generalizing h with
  | nil => exact second
  | cons related _ ih =>
      cases second with
      | cons related' rest =>
          refine .cons ⟨related.1.trans related'.1, ?_⟩ (ih rest)
          exact same _ _ _ _ related.2 (related.1 ▸ related'.2)

theorem SameKeys.refl (same : ∀ name a, R name a a) (f : List (String × Json)) : SameKeys R f f :=
  List.forall₂_same.mpr fun a _ => ⟨rfl, same a.1 a.2⟩

theorem Keeps.refl (v : Json) : Keeps key v v := by
  cases v with
  | object f => exact SameKeys.refl (R := EqualUnder key) (fun _ _ _ => rfl) f
  | _ => rfl

theorem Keeps.trans (first : Keeps key u v) (second : Keeps key v w) : Keeps key u w := by
  rcases first.cases with rfl | ⟨f, g, rfl, rfl, left⟩
  · exact second
  · rcases second.cases with rfl | ⟨_, h, same, rfl, right⟩
    · exact left
    · cases same
      exact left.trans (fun name a b c before after here =>
        (before here).trans (after here)) right

private theorem redactAt_keeps (censor : Json) {last : String} (other : selects last key = false)
    (v : Json) : Keeps key v (redactAt censor [last] v) := by
  cases v with
  | object f =>
      refine List.forall₂_map_right_iff.mpr (List.forall₂_same.mpr fun field _ => ⟨rfl, ?_⟩)
      rintro rfl
      rw [other]
      rfl
  | array items =>
      unfold redactAt
      split
      next every => simp [selects, every] at other
      next => rfl
  | _ => rfl

/-- Paths of two segments change nothing under the key in the value that a record names. -/
theorem redact_record (censor : Json) (name : String) {paths : List (List String)}
    (short : ∀ path ∈ paths, ∃ first last, path = [first, last] ∧ selects last key = false)
    (v : Json) : ∃ w, redact censor paths (object [(name, v)]) = object [(name, w)] ∧
      Keeps key v w := by
  induction paths generalizing v with
  | nil => exact ⟨v, rfl, .refl v⟩
  | cons path rest ih =>
      obtain ⟨first, last, rfl, other⟩ := short path List.mem_cons_self
      have later := ih fun path hp => short path (List.mem_cons_of_mem _ hp)
      obtain ⟨u, kept, same⟩ : ∃ u, Keeps key v u ∧
          redactAt censor [first, last] (object [(name, v)]) = object [(name, u)] := by
        by_cases selected : selects first name = true
        · exact ⟨_, redactAt_keeps censor other v, by simp [redactAt, selected]⟩
        · exact ⟨v, .refl v, by simp [redactAt, selected]⟩
      obtain ⟨w, redacted, kept'⟩ := later u
      refine ⟨w, ?_, kept.trans kept'⟩
      rw [redact, List.foldl_cons, same]
      exact redacted

/-- Objects that differ under the key only are equal if they keep the same under it. -/
theorem SameKeys.eq_of_keeps (alike : SameKeys R f g)
    (different : ∀ name a b, R name a b → name ≠ key → a = b)
    (left : SameKeys (EqualUnder key) f h) (right : SameKeys (EqualUnder key) g h) : f = g := by
  induction alike generalizing h with
  | nil => rfl
  | @cons a b f g related _ ih =>
      cases left with
      | cons kept left =>
          cases right with
          | cons kept' right =>
              obtain ⟨name, a⟩ := a
              obtain ⟨_, b⟩ := b
              obtain ⟨rfl, related⟩ := related
              simp only at kept kept' related
              have value : a = b := by
                by_cases here : name = key
                · exact (kept.2 here).trans (kept'.2 here).symm
                · exact different name a b related here
              rw [value, ih left right]

theorem Alike.eq_of_keeps (alike : Alike R u v)
    (different : ∀ name a b, R name a b → name ≠ key → a = b) (left : Keeps key u w)
    (right : Keeps key v w) : u = v := by
  rcases alike.cases with same | ⟨f, g, rfl, rfl, fields⟩
  · exact same
  · cases w with
    | object h => exact congrArg object (fields.eq_of_keeps different left right)
    | _ => cases left

end
end Json
