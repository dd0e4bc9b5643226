import SalesforceTikTok.Auth.RefreshTask
import SalesforceTikTok.Server.Keyspace

/-!
# The part of the stores that belongs to an advertiser

An advertiser has a token row, a copy of its token, a row with its event set, a copy of
the id and its sets at TikTok. A command that serves the advertiser does the same in all
stores that are alike there, and a command that spares it changes none of this.
-/

namespace SalesforceTikTok

open Concurrency Storage

/-! ## Tokens -/

/-- The command reads and writes no row and no copy but this advertiser's. -/
def TokenCmd.Serves (a : String) (cmd : TokenCmd) : Prop := cmd.Concerns a ∨ cmd = .deleteRow a

def TokenCmd.Spares (b : String) : TokenCmd → Prop
  | .cacheSet key _ _ | .cacheDel key => key ≠ TokenStore.cacheKey b
  | .upsertRow row => row.advertiserId ≠ b
  | .deleteRow a => a ≠ b
  | _ => True

theorem TokenCmd.Serves.spares {a b : String} {cmd : TokenCmd} (h : cmd.Serves a) (ne : a ≠ b) :
    cmd.Spares b := by
  have keys : TokenStore.cacheKey a ≠ TokenStore.cacheKey b := fun same => ne (cacheKey_inj same)
  rcases h with concerns | rfl
  · cases cmd with
    | cacheSet key value ttl =>
        obtain rfl : key = TokenStore.cacheKey a := concerns
        exact keys
    | cacheDel key =>
        obtain rfl : key = TokenStore.cacheKey a := concerns
        exact keys
    | upsertRow row =>
        obtain rfl : row.advertiserId = a := concerns
        exact ne
    | deleteRow c => exact concerns.elim
    | _ => trivial
  · exact ne

namespace TokenWorld

variable {b : String} {w u v : TokenWorld} {cmd : TokenCmd} {choice : TokenChoice}
  {reply : Except JsError cmd.Reply}

theorem SameFor.cacheDel_ne (h : w.SameFor b u) {key : String} (ne : key ≠ TokenStore.cacheKey b) :
    (w.cacheDel key).SameFor b u :=
  ⟨h.row, (AList.lookup_erase_ne ne.symm).trans h.copy⟩

theorem SameFor.spared (h : w.SameFor b u) (spares : cmd.Spares b)
    (he : tokenExec cmd choice w = some (reply, v)) : v.SameFor b u := by
  rcases tokenExec_effect he with rfl | rfl
  · exact h
  · cases cmd with
    | cacheSet key value ttl =>
        have ne : TokenStore.cacheKey b ≠ key := Ne.symm spares
        exact ⟨h.row, (Expiring.lookup_set_ne ne _ _).trans h.copy⟩
    | cacheDel key => exact h.cacheDel_ne spares
    | upsertRow row =>
        have ne : b ≠ row.advertiserId := Ne.symm spares
        exact ⟨(AList.lookup_insert_ne ne).trans h.row, h.copy⟩
    | deleteRow a =>
        have ne : b ≠ a := Ne.symm spares
        exact ⟨(AList.lookup_erase_ne ne).trans h.row, h.copy⟩
    | _ => exact ⟨h.row, h.copy⟩

theorem SameFor.served (h : w.SameFor b u) (clock : w.clock = u.clock) (serves : cmd.Serves b)
    (he : tokenExec cmd choice w = some (reply, v)) :
    ∃ u', tokenExec cmd choice u = some (reply, u') ∧ v.SameFor b u' := by
  rcases serves with concerns | rfl
  · have answered := h.own concerns he
    rwa [clock] at answered
  · have after : (w.deleteRow b).SameFor b (u.deleteRow b) :=
      ⟨(AList.lookup_erase _ w.rows).trans (AList.lookup_erase _ u.rows).symm, h.copy⟩
    exact h.apply after rfl he

end TokenWorld

/-! ## Event sets -/

/-- The command reads and writes no row, no copy and no set but this advertiser's. -/
def EventSetCmd.Serves (a : String) : EventSetCmd → Prop
  | .now => True
  | .listSets c _ | .createSet c _ _ | .selectId c => c = a
  | .cacheGet key | .cacheSet key _ _ => key = CRMEventSetManager.cacheKey a
  | .upsertSet row => row.advertiserId = a

/-- The command writes neither the advertiser's row nor its copy, and creates none of its sets. -/
def EventSetCmd.Spares (b : String) : EventSetCmd → Prop
  | .createSet c _ _ => c ≠ b
  | .cacheSet key _ _ => key ≠ CRMEventSetManager.cacheKey b
  | .upsertSet row => row.advertiserId ≠ b
  | _ => True

theorem EventSetCmd.Serves.spares {a b : String} {cmd : EventSetCmd} (h : cmd.Serves a)
    (ne : a ≠ b) : cmd.Spares b := by
  have keys : CRMEventSetManager.cacheKey a ≠ CRMEventSetManager.cacheKey b :=
    fun same => ne ((String.append_right_inj _).mp same)
  cases cmd with
  | createSet c accessToken name =>
      obtain rfl : c = a := h
      exact ne
  | cacheSet key eventSetId ttl =>
      obtain rfl : key = CRMEventSetManager.cacheKey a := h
      exact keys
  | upsertSet row =>
      obtain rfl : row.advertiserId = a := h
      exact ne
  | _ => trivial

namespace EventSetWorld

/-- The two worlds hold the same row, the same copy and the same sets for the advertiser. -/
structure SameFor (a : String) (w u : EventSetWorld) : Prop where
  row : w.rows.lookup a = u.rows.lookup a
  copy : w.cache.lookup (CRMEventSetManager.cacheKey a) =
    u.cache.lookup (CRMEventSetManager.cacheKey a)
  sets : w.setsOf a = u.setsOf a

variable {b : String} {w u v : EventSetWorld} {cmd : EventSetCmd} {choice : EventSetChoice}
  {reply : Except JsError cmd.Reply}

theorem SameFor.create_ne (h : w.SameFor b u) {a : String} (ne : a ≠ b)
    (response : CRMCreateResponse) : (w.create a response).SameFor b u where
  row := by rw [rows_create, h.row]
  copy := by rw [cache_create, h.copy]
  sets := by rw [setsOf_create, if_neg fun both => ne both.2, h.sets]

theorem SameFor.spared (h : w.SameFor b u) (spares : cmd.Spares b)
    (he : eventSetExec cmd choice w = some (reply, v)) : v.SameFor b u := by
  cases cmd with
  | now =>
      cases choice <;> cases he
      exact h
  | listSets a accessToken => cases choice <;> cases he <;> exact h
  | createSet a accessToken name =>
      cases choice <;> cases he
      · exact h
      · exact h.create_ne spares _
      · exact h.create_ne spares _
  | cacheGet key =>
      obtain ⟨_, _, rfl⟩ | ⟨_, _, _, rfl | rfl⟩ := EventSetChoice.apply_cases he <;> exact h
  | selectId a =>
      obtain ⟨_, _, rfl⟩ | ⟨_, _, _, rfl | rfl⟩ := EventSetChoice.apply_cases he <;> exact h
  | cacheSet key eventSetId ttl =>
      have ne : CRMEventSetManager.cacheKey b ≠ key := Ne.symm spares
      have after : (w.cacheSet key eventSetId ttl).SameFor b u :=
        ⟨h.row, (Expiring.lookup_set_ne ne _ _).trans h.copy, h.sets⟩
      obtain ⟨_, _, rfl⟩ | ⟨_, _, _, rfl | rfl⟩ := EventSetChoice.apply_cases he
      · exact after
      · exact h
      · exact after
  | upsertSet row =>
      have ne : b ≠ row.advertiserId := Ne.symm spares
      have after : (w.upsertSet row).SameFor b u :=
        ⟨(AList.lookup_insert_ne ne).trans h.row, h.copy, h.sets⟩
      obtain ⟨_, _, rfl⟩ | ⟨_, _, _, rfl | rfl⟩ := EventSetChoice.apply_cases he
      · exact after
      · exact h
      · exact after

theorem SameFor.apply (h : w.SameFor b u) {effect effect' : EventSetWorld}
    (after : effect.SameFor b effect') {α : Type} {value value' : α} (same : value = value')
    {reply : Except JsError α} (he : choice.apply w value effect = some (reply, v)) :
    ∃ u', choice.apply u value' effect' = some (reply, u') ∧ v.SameFor b u' := by
  subst same
  cases choice with
  | ok => cases he; exact ⟨effect', rfl, after⟩
  | fail error => cases he; exact ⟨u, rfl, h⟩
  | failAfter error => cases he; exact ⟨effect', rfl, after⟩
  | _ => cases he

theorem SameFor.create (h : w.SameFor b u) (clock : w.clock = u.clock)
    (response : CRMCreateResponse) : (w.create b response).SameFor b (u.create b response) where
  row := by rw [rows_create, rows_create, h.row]
  copy := by rw [cache_create, cache_create, h.copy]
  sets := by
    have same : w.createdSet b response = u.createdSet b response := by
      simp only [createdSet, clock]
    rw [setsOf_create, setsOf_create, h.sets, same]

theorem SameFor.served (h : w.SameFor b u) (clock : w.clock = u.clock) (serves : cmd.Serves b)
    (he : eventSetExec cmd choice w = some (reply, v)) :
    ∃ u', eventSetExec cmd choice u = some (reply, u') ∧ v.SameFor b u' := by
  cases cmd with
  | now =>
      cases choice <;> cases he
      exact ⟨u, by rw [clock]; rfl, h⟩
  | listSets a accessToken =>
      obtain rfl : a = b := serves
      cases choice <;> cases he
      · exact ⟨u, by rw [h.sets]; rfl, h⟩
      · exact ⟨u, rfl, h⟩
      · exact ⟨u, rfl, h⟩
  | createSet a accessToken name =>
      obtain rfl : a = b := serves
      cases choice <;> cases he
      · exact ⟨u, rfl, h⟩
      · exact ⟨_, rfl, h.create clock _⟩
      · exact ⟨_, rfl, h.create clock _⟩
  | cacheGet key =>
      obtain rfl : key = CRMEventSetManager.cacheKey b := serves
      refine h.apply h ?_ he
      simp only [Expiring.get, h.copy, clock]
  | selectId a =>
      obtain rfl : a = b := serves
      refine h.apply h ?_ he
      simp only [selectId, h.row]
  | cacheSet key eventSetId ttl =>
      obtain rfl : key = CRMEventSetManager.cacheKey b := serves
      have after : (w.cacheSet (CRMEventSetManager.cacheKey b) eventSetId ttl).SameFor b
          (u.cacheSet (CRMEventSetManager.cacheKey b) eventSetId ttl) := by
        refine ⟨h.row, ?_, h.sets⟩
        simp only [EventSetWorld.cacheSet, Expiring.set, AList.lookup_insert, clock]
      exact h.apply after rfl he
  | upsertSet row =>
      obtain rfl : row.advertiserId = b := serves
      have after : (w.upsertSet row).SameFor row.advertiserId (u.upsertSet row) := by
        refine ⟨?_, h.copy, h.sets⟩
        simp only [EventSetWorld.upsertSet, AList.lookup_insert]
      exact h.apply after rfl he

end EventSetWorld

/-! ## The server -/

/-- The command reads and writes nothing but the advertiser's part, or sends a response. -/
def ServerCmd.Serves (a : String) : ServerCmd → Prop
  | .token cmd => cmd.Serves a
  | .eventSet cmd => cmd.Serves a
  | .respond _ => True
  | _ => False

def ServerCmd.Spares (b : String) : ServerCmd → Prop
  | .token cmd => cmd.Spares b
  | .eventSet cmd => cmd.Spares b
  | .setState key _ _ | .getDelState key => ∃ state, key = TokenStore.stateKey state
  | _ => True

theorem ServerCmd.Serves.spares {a b : String} {cmd : ServerCmd} (h : cmd.Serves a)
    (ne : a ≠ b) : cmd.Spares b := by
  cases cmd with
  | token cmd => exact TokenCmd.Serves.spares h ne
  | eventSet cmd => exact EventSetCmd.Serves.spares h ne
  | respond response => trivial
  | _ => exact h.elim

namespace ServerWorld

/-- The two worlds are the same for the advertiser, at the same time. -/
structure SameFor (b : String) (w u : ServerWorld) : Prop where
  token : w.token.SameFor b u.token
  eventSet : w.eventSet.SameFor b u.eventSet
  tokenClock : w.token.clock = u.token.clock
  eventSetClock : w.eventSet.clock = u.eventSet.clock

theorem SameFor.refl (b : String) (w : ServerWorld) : w.SameFor b w :=
  ⟨⟨rfl, rfl⟩, ⟨rfl, rfl, rfl⟩, rfl, rfl⟩

variable {b : String} {w u v : ServerWorld}

theorem SameFor.redisDel (h : w.SameFor b u) (state : String) :
    (w.redisDel (TokenStore.stateKey state)).SameFor b u where
  token := h.token.cacheDel_ne (stateKey_ne_token state b)
  eventSet := ⟨h.eventSet.row,
    (AList.lookup_erase_ne (stateKey_ne_eventSet state b).symm).trans h.eventSet.copy,
    h.eventSet.sets⟩
  tokenClock := h.tokenClock
  eventSetClock := h.eventSetClock

theorem SameFor.redisSet (h : w.SameFor b u) (state value : String) (ttl : Int) :
    (w.redisSet (TokenStore.stateKey state) value ttl).SameFor b u := by
  have deleted := h.redisDel state
  exact ⟨deleted.token, deleted.eventSet, deleted.tokenClock, deleted.eventSetClock⟩

theorem SameFor.tick (h : w.SameFor b u) (elapsed : Nat) :
    (w.tick elapsed).SameFor b (u.tick elapsed) where
  token := ⟨h.token.row, h.token.copy⟩
  eventSet := ⟨h.eventSet.row, h.eventSet.copy, h.eventSet.sets⟩
  tokenClock := by simp only [ServerWorld.tick, h.tokenClock]
  eventSetClock := by simp only [ServerWorld.tick, h.eventSetClock]

variable {env : Env} {copyText : ActiveToken → String} {cmd : ServerCmd} {choice : ServerChoice}
  {reply : Except JsError cmd.Reply}

theorem SameFor.spared (h : w.SameFor b u) (spares : cmd.Spares b)
    (he : serverExec env copyText cmd choice w = some (reply, v)) : v.SameFor b u := by
  have effect := serverExec_effect he
  clear he
  cases effect with
  | token he =>
      exact ⟨h.token.spared spares he, h.eventSet, (tokenExec_key he).1.trans h.tokenClock,
        h.eventSetClock⟩
  | eventSet he =>
      exact ⟨h.token, h.eventSet.spared spares he, h.tokenClock,
        (eventSetExec_key he).1.trans h.eventSetClock⟩
  | setState effect =>
      obtain ⟨state, rfl⟩ := spares
      obtain rfl | rfl := effect
      · exact h
      · exact h.redisSet state _ _
  | getDelState effect =>
      obtain ⟨state, rfl⟩ := spares
      obtain rfl | rfl := effect
      · exact h
      · exact h.redisDel state
  | _ => exact ⟨h.token, h.eventSet, h.tokenClock, h.eventSetClock⟩

theorem SameFor.served (h : w.SameFor b u) (serves : cmd.Serves b)
    (he : serverExec env copyText cmd choice w = some (reply, v)) :
    ∃ u', serverExec env copyText cmd choice u = some (reply, u') ∧ v.SameFor b u' := by
  have effect := serverExec_effect he
  clear he
  cases effect with
  | token he =>
      obtain ⟨part, answered, same⟩ := h.token.served h.tokenClock serves he
      refine ⟨{ u with token := part }, by simp only [serverExec, answered, Option.map_some], same, h.eventSet,
        ?_, h.eventSetClock⟩
      exact (tokenExec_key he).1.trans (h.tokenClock.trans (tokenExec_key answered).1.symm)
  | eventSet he =>
      obtain ⟨part, answered, same⟩ := h.eventSet.served h.eventSetClock serves he
      refine ⟨{ u with eventSet := part }, by simp only [serverExec, answered, Option.map_some], h.token, same,
        h.tokenClock, ?_⟩
      exact (eventSetExec_key he).1.trans (h.eventSetClock.trans (eventSetExec_key answered).1.symm)
  | respond => exact ⟨u, rfl, h⟩
  | _ => exact serves.elim

end ServerWorld
end SalesforceTikTok
