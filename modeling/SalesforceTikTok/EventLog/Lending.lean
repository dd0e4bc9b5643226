import Mathlib.Data.List.Nodup
import SalesforceTikTok.Concurrency.Invariant
import SalesforceTikTok.EventLog.Protocol

/-!
# Who has a client

What the commands of the pool do to the clients: a client that a caller has is left alone by
everything that caller does not ask for, and a free client has no transaction.
-/

namespace SalesforceTikTok

open Concurrency Storage

variable {Q Rows T : Type}

namespace PoolWorld

/-- The pool has each free client once, and without a transaction. -/
structure Sound (w : PoolWorld Q) : Prop where
  once : w.available.Nodup
  clean : ∀ client ∈ w.available, w.sessions[client]? = some .idle

theorem Sound.fresh : (fresh : PoolWorld Q).Sound where
  once := List.nodup_nil
  clean _ mem := by cases mem

/-- A caller that has the client `before`, if any, comes to have `after`. The clients that
others have stay as they are, and every working client is free or somebody has it. -/
structure Moves (w v : PoolWorld Q) (before after : Option Nat) : Prop where
  sound : v.Sound
  others : ∀ client session, w.sessions[client]? = some session → client ∉ w.available →
    before ≠ some client →
      v.sessions[client]? = some session ∧ client ∉ v.available ∧ after ≠ some client
  owned : ∀ client session, v.sessions[client]? = some session → session ≠ .broken →
    client ∈ v.available ∨ after = some client ∨
      w.sessions[client]? = some session ∧ client ∉ w.available ∧ before ≠ some client

variable {w u v : PoolWorld Q} {client : Nat} {before between after : Option Nat}

theorem Moves.refl (sound : w.Sound) : Moves w w none none where
  sound := sound
  others _ _ found free _ := ⟨found, free, nofun⟩
  owned client session found _ := by
    by_cases free : client ∈ w.available
    · exact .inl free
    · exact .inr (.inr ⟨found, free, nofun⟩)

theorem Moves.trans (first : Moves w u before between) (second : Moves u v between after) :
    Moves w v before after where
  sound := second.sound
  others client session found free apart := by
    obtain ⟨found, free, apart⟩ := first.others client session found free apart
    exact second.others client session found free apart
  owned client session found working := by
    obtain free | here | ⟨found, free, apart⟩ := second.owned client session found working
    · exact .inl free
    · exact .inr (.inl here)
    · obtain free' | here | earlier := first.owned client session found working
      · exact absurd free' free
      · exact absurd here apart
      · exact .inr (.inr earlier)

/-! ## The operations -/

theorem lend_moves (sound : w.Sound) (lent : w.lend client = some v) :
    Moves w v none (some client) ∧ v.sessions[client]? = some .idle ∧ client ∉ v.available ∧
      v.committed = w.committed := by
  unfold lend at lent
  split at lent
  next free =>
    cases lent
    have gone : client ∉ w.available.erase client := by simp [sound.once.mem_erase_iff]
    refine ⟨⟨⟨sound.once.erase client, ?_⟩, ?_, ?_⟩, sound.clean client free, gone, rfl⟩
    · exact fun other mem => sound.clean other (List.mem_of_mem_erase mem)
    · rintro other session found held _
      refine ⟨found, fun mem => held (List.mem_of_mem_erase mem), ?_⟩
      rintro ⟨rfl⟩
      exact held free
    · intro other session found _
      by_cases here : client = other
      · exact .inr (.inl (congrArg some here))
      · by_cases mem : other ∈ w.available
        · exact .inl ((List.mem_erase_of_ne (Ne.symm here)).mpr mem)
        · exact .inr (.inr ⟨found, mem, nofun⟩)
  next taken =>
    split at lent
    next new =>
      cases lent
      subst new
      refine ⟨⟨⟨sound.once, ?_⟩, ?_, ?_⟩, List.getElem?_concat_length, taken, rfl⟩
      · intro other mem
        have bound := (List.getElem?_eq_some_iff.mp (sound.clean other mem)).choose
        rw [List.getElem?_append_left bound]
        exact sound.clean other mem
      · rintro other session found held _
        have bound := (List.getElem?_eq_some_iff.mp found).choose
        refine ⟨by rw [List.getElem?_append_left bound]; exact found, held, ?_⟩
        rintro ⟨rfl⟩
        exact absurd bound (Nat.lt_irrefl _)
      · intro other session found _
        by_cases here : w.sessions.length = other
        · exact .inr (.inl (congrArg some here))
        · have bound := (List.getElem?_eq_some_iff.mp found).choose
          rw [List.length_append, List.length_singleton] at bound
          rw [List.getElem?_append_left (by omega)] at found
          by_cases mem : other ∈ w.available
          · exact .inl mem
          · exact .inr (.inr ⟨found, mem, nofun⟩)
    next => cases lent

theorem perform_spec {request : SessionRequest Q} {verdict : SessionVerdict}
    (performed : w.perform client request verdict = some v) :
    ∃ session next units, w.sessions[client]? = some session ∧
      session.answer request verdict = some (next, units) ∧
        v = { w with committed := w.committed ++ units, sessions := w.sessions.set client next } := by
  unfold perform at performed
  split at performed
  next => cases performed
  next session found =>
    split at performed
    next => cases performed
    next next units answered =>
      cases performed
      exact ⟨session, next, units, found, answered, rfl⟩

theorem set_moves (sound : w.Sound) (held : client ∉ w.available) (units : List (List Q))
    (session : Session Q) :
    Moves w { w with committed := w.committed ++ units, sessions := w.sessions.set client session }
      (some client) (some client) := by
  refine ⟨⟨sound.once, fun other mem => ?_⟩, fun other found held' before apart => ?_,
    fun other found set _ => ?_⟩
  · have apart : client ≠ other := by
      rintro rfl
      exact held mem
    rw [List.getElem?_set_ne apart]
    exact sound.clean other mem
  · have apart' : client ≠ other := by
      rintro rfl
      exact apart rfl
    exact ⟨by rw [List.getElem?_set_ne apart']; exact held', before, apart⟩
  · by_cases here : client = other
    · exact .inr (.inl (congrArg some here))
    · rw [List.getElem?_set_ne here] at set
      by_cases mem : other ∈ w.available
      · exact .inl mem
      · exact .inr (.inr ⟨set, mem, fun same => here (Option.some.inj same)⟩)

theorem giveBack_moves (sound : w.Sound) (held : client ∉ w.available) {session : Session Q}
    (found : w.sessions[client]? = some session) (settled : session.Settled) :
    Moves w (w.giveBack client) (some client) none ∧
      (w.giveBack client).committed = w.committed := by
  obtain rfl | rfl := settled
  · simp only [giveBack, found]
    refine ⟨⟨⟨by simpa using sound.once.concat held, ?_⟩, ?_, ?_⟩, trivial⟩
    · intro other mem
      obtain mem | rfl := by simpa using mem
      · exact sound.clean other mem
      · exact found
    · intro other session found' free apart
      refine ⟨found', fun mem => ?_, nofun⟩
      obtain mem | rfl := by simpa using mem
      · exact free mem
      · exact apart rfl
    · intro other session found' _
      by_cases here : client = other
      · exact .inl (by simp [here])
      · by_cases mem : other ∈ w.available
        · exact .inl (List.mem_append_left _ mem)
        · exact .inr (.inr ⟨found', mem, fun same => here (Option.some.inj same)⟩)
  · simp only [giveBack, found]
    refine ⟨⟨sound, fun other session found' free _ => ⟨found', free, nofun⟩, ?_⟩, trivial⟩
    intro other session found' working
    by_cases mem : other ∈ w.available
    · exact .inl mem
    · refine .inr (.inr ⟨found', mem, ?_⟩)
      rintro ⟨rfl⟩
      rw [found] at found'
      exact working (Option.some.inj found').symm

theorem close_moves (sound : w.Sound) (held : client ∉ w.available) :
    Moves w (w.close client) (some client) none := by
  have same : w.available.erase client = w.available := List.erase_of_not_mem held
  have set := set_moves sound held [] .broken
  rw [List.append_nil] at set
  refine ⟨by simpa only [close, same] using set.sound, fun other session found free apart => ?_,
    fun other session found working => ?_⟩
  · obtain ⟨found, free, _⟩ := set.others other session found free apart
    exact ⟨found, by simpa only [close, same] using free, nofun⟩
  · simp only [close, same] at found ⊢
    by_cases here : client = other
    · subst here
      have bound := (List.getElem?_eq_some_iff.mp found).choose
      rw [List.getElem?_set_self (by simpa using bound)] at found
      exact absurd (Option.some.inj found).symm working
    · obtain free | taken | earlier := set.owned other session found working
      · exact .inl free
      · exact absurd (Option.some.inj taken) here
      · exact .inr (.inr earlier)

end PoolWorld

end SalesforceTikTok
