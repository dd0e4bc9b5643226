import SalesforceTikTok.Delivery.Effects
import SalesforceTikTok.Storage.Window

/-!
# The deduplication window

`isDuplicate` is a window over the event ids, as wide as the keys live: whatever Redis and
the other stores answer, the verdicts of a run that come from an answer of Redis are those
of the window, each at the time at which Redis carried out the `SET`. A call whose `SET` is
rejected is let through.
-/

namespace SalesforceTikTok

open Concurrency Pipeline Storage

/-- How long a deduplication key lives, in milliseconds. -/
def Pipeline.dedupWidth (P : Pipeline) : Int := P.env.REDIS_DEDUP_TTL_SECONDS * 1000

private theorem width_pos {P : Pipeline} (positive : 0 < P.env.REDIS_DEDUP_TTL_SECONDS) :
    0 < P.dedupWidth := by
  unfold Pipeline.dedupWidth
  omega

/-- What `isDuplicate` told a call, by the row that it logs next. -/
def verdict {X : Type} : View DeliveryCmd DeliveryCmd.Reply JsError Unit X → Option Bool
  | .awaits (.insertLog _ record) _ => some (record.status = .duplicate)
  | _ => none

/-- What a step that led from `w` to `v`, and to this verdict, tells the window. A rejected `SET`
counts when it took effect. -/
def DeliveryStep.mark (w v : DeliveryWorld) (told : Option Bool) :
    DeliveryStep → Option (Window.Mark String)
  | .marked key (some _) =>
      told.map fun duplicate => ⟨key, w.clock, if duplicate then .duplicate else .novel⟩
  | .marked key none =>
      if v.dedup.lookup key = w.dedup.lookup key then none else some ⟨key, w.clock, .lost⟩
  | _ => none

section

variable {X : Type} (view : X → View DeliveryCmd DeliveryCmd.Reply JsError Unit X)

def told (d : DeliveryConfig X) (pid : Nat) : Option Bool :=
  d.procs[pid]?.bind fun p => verdict (view p.state)

def noteVerdict (b : DeliveryConfig X) :
    DeliveryAction → DeliveryConfig X → Option (Window.Mark String)
  | .resume pid _, d =>
      (d.trace.getLast?.bind deliveryStep).bind (·.mark b.world d.world (told view d pid))
  | _, _ => none

/-- A call whose `SET` was rejected is told that its event is new. -/
def FailsOpen (a : DeliveryAction) (d : DeliveryConfig X) : Prop :=
  ∀ pid choice key, a = .resume pid choice →
    d.trace.getLast?.bind deliveryStep = some (.marked key none) → told view d pid = some false

end

def Tracks (P : Pipeline) (last : Window.State String) (w : DeliveryWorld) : Prop :=
  ∀ key, w.dedup.lookup key = (last key).map (· + P.dedupWidth)

namespace Tracks

variable {P : Pipeline} {last : Window.State String} {w v : DeliveryWorld}

private theorem of_dedup (h : Tracks P last w) (same : v.dedup = w.dedup) : Tracks P last v :=
  fun key => same ▸ h key

private theorem holds_iff (h : Tracks P last w) (key : String) :
    w.holds key = true ↔ ¬ Window.Free P.dedupWidth last key w.clock := by
  have stored := h key
  unfold DeliveryWorld.holds Window.Free
  cases found : last key with
  | none => simp [stored, found]
  | some passed => simp [stored, found]

theorem free (h : Tracks P last w) {key : String} (free : w.holds key = false) :
    Window.Free P.dedupWidth last key w.clock := by
  by_contra held
  rw [(h.holds_iff key).mpr held] at free
  cases free

theorem set (h : Tracks P last w) {key : String}
    (grown : v.dedup = w.dedup.insert key (w.clock + P.dedupWidth)) :
    Tracks P (Function.update last key (some w.clock)) v := by
  intro key'
  rw [grown]
  by_cases same : key' = key
  · subst same
    rw [AList.lookup_insert, Function.update_self]
    rfl
  · rw [AList.lookup_insert_ne same, Function.update_of_ne same]
    exact h key'

end Tracks

theorem DeliveryWorld.setNx_dedup (w : DeliveryWorld) (key : String) (ttlSeconds : Int) :
    (w.setNx key ttlSeconds).2.dedup = w.dedup ∨ 0 < ttlSeconds ∧ w.holds key = false ∧
      (w.setNx key ttlSeconds).2.dedup = w.dedup.insert key (w.clock + ttlSeconds * 1000) := by
  unfold setNx
  split
  next => exact .inl rfl
  next positive =>
    split
    next => exact .inl rfl
    next free => exact .inr ⟨by omega, by simpa using free, rfl⟩

theorem DeliveryTransition.verdict_eq {P : Pipeline} {x y : DeliveryPoint} {w v : DeliveryWorld}
    {r : DeliveryRecord} (t : DeliveryTransition P x w r y v) {key : String}
    {reply : Option SetReply} (hs : deliveryStep r = some (.marked key reply)) :
    verdict (y.view P) = some (decide (reply = some .null)) := by
  cases t with
  | novel => cases hs; rfl
  | duplicate => cases hs; rfl
  | markFailed => cases hs; rfl
  | accepted code | refused code => simp [deliveryStep, code] at hs
  | jobPosted =>
      simp only [deliveryStep, Option.some.injEq] at hs
      split at hs <;> cases hs
  | _ => simp [deliveryStep] at hs

/-- Every answer is a move of the window, or passes unnoticed. -/
theorem DeliveryTransition.windowed {P : Pipeline} {x y : DeliveryPoint} {w v : DeliveryWorld}
    {r : DeliveryRecord} {last : Window.State String} (t : DeliveryTransition P x w r y v)
    (tracked : Tracks P last w) :
    (∀ m, (deliveryStep r).bind (·.mark w v (verdict (y.view P))) = some m →
      ∃ next, Window.Move P.dedupWidth last m next ∧ Tracks P next v) ∧
    ((deliveryStep r).bind (·.mark w v (verdict (y.view P))) = none → Tracks P last v) := by
  by_cases rejected : ∃ key, deliveryStep r = some (.marked key none)
  · obtain ⟨key, hs⟩ := rejected
    have effect : v.dedup = w.dedup ∨ 0 < P.env.REDIS_DEDUP_TTL_SECONDS ∧ w.holds key = false ∧
        v.dedup = w.dedup.insert key (w.clock + P.dedupWidth) := by
      cases t with
      | markFailed lost effect =>
          cases hs
          obtain rfl | rfl := effect
          · exact .inl rfl
          · exact w.setNx_dedup _ _
      | accepted code | refused code => simp [deliveryStep, code] at hs
      | jobPosted =>
          simp only [deliveryStep, Option.some.injEq] at hs
          split at hs <;> cases hs
      | _ => simp [deliveryStep] at hs
    rw [hs]
    simp only [Option.bind_some, DeliveryStep.mark]
    obtain same | ⟨positive, free, grown⟩ := effect
    · rw [if_pos (by rw [same])]
      exact ⟨by simp, fun _ => tracked.of_dedup same⟩
    · have changed : v.dedup.lookup key ≠ w.dedup.lookup key := by
        intro same
        rw [grown, AList.lookup_insert] at same
        rw [DeliveryWorld.holds_of_lookup same.symm (Int.lt_add_of_pos_right _ (width_pos positive))]
          at free
        cases free
      rw [if_neg changed]
      refine ⟨fun m hm => ?_, by simp⟩
      cases hm
      exact ⟨_, .passes (width_pos positive) (tracked.free free) (by simp), tracked.set grown⟩
  · obtain ⟨same, unclaimed⟩ | ⟨key, hs, positive, free, grown⟩ :=
      t.dedup_cases fun key hs => rejected ⟨key, hs⟩
    · refine ⟨fun m hm => ?_, fun _ => tracked.of_dedup same⟩
      obtain ⟨s, hs, marked⟩ := Option.bind_eq_some_iff.mp hm
      cases s with
      | marked key reply =>
          cases reply with
          | none => exact absurd ⟨key, hs⟩ rejected
          | some reply =>
              cases reply with
              | ok => exact absurd hs (unclaimed key)
              | null =>
                  rw [DeliveryStep.mark, t.verdict_eq hs] at marked
                  cases marked
                  exact ⟨last, .stays ((tracked.holds_iff key).mp (t.held_of_null hs)),
                    tracked.of_dedup same⟩
      | _ => cases marked
    · rw [t.verdict_eq hs, hs]
      refine ⟨fun m hm => ?_, fun none => by cases none⟩
      cases hm
      exact ⟨_, .passes (width_pos positive) (tracked.free free) (by simp), tracked.set grown⟩

private theorem told_answered {P : Pipeline} {d : DeliveryConfig DeliveryPoint} {pid : Nat}
    {p : Proc DeliveryCall DeliveryPoint} (hp : d.procs[pid]? = some p) (y : DeliveryPoint)
    (v : DeliveryWorld) (trace : List DeliveryRecord) :
    told (DeliveryPoint.view P) ⟨v, d.procs.set pid ⟨p.entry, y⟩, trace⟩ pid =
      verdict (y.view P) := by
  have bound := (List.getElem?_eq_some_iff.mp hp).choose
  simp [told, List.getElem?_set_self bound]

private theorem verdicts_path {P : Pipeline} {clock : Int} {c : DeliveryConfig DeliveryPoint}
    {actions : List DeliveryAction}
    (h : P.protocol.run (.initial (.fresh clock)) actions = some c) :
    ∃ last, Path (Window.Move P.dedupWidth) (fun _ => none)
      (P.protocol.observe (noteVerdict (DeliveryPoint.view P)) (.initial (.fresh clock)) actions)
        last := by
  have moved : ∀ last (b : DeliveryConfig DeliveryPoint) a d, Tracks P last b.world →
      P.protocol.step b a = some d →
      (∀ m, noteVerdict (DeliveryPoint.view P) b a d = some m →
        ∃ next, Window.Move P.dedupWidth last m next ∧ Tracks P next d.world) ∧
      (noteVerdict (DeliveryPoint.view P) b a d = none → Tracks P last d.world) := by
    intro last b a d tracked hs
    cases a with
    | start call =>
        obtain ⟨x, w, hl, rfl⟩ := System.step_start hs
        cases hl
        exact ⟨nofun, fun _ => tracked⟩
    | env event =>
        obtain ⟨w, hw, rfl⟩ := System.step_env hs
        refine ⟨nofun, fun _ => ?_⟩
        obtain ⟨elapsed, rfl⟩ | ⟨id, rfl⟩ := deliveryEnv_cases hw <;> exact tracked
    | resume pid choice =>
        obtain ⟨p, cmd, resume, reply, v, hp, hv, he, rfl⟩ := System.step_resume hs
        simp only [noteVerdict, told_answered hp, List.getLast?_append, List.getLast?_singleton,
          Option.some_or, Option.bind_some]
        exact (DeliveryPoint.transition pid hv he).windowed tracked
  have start : Tracks P (fun _ => none) (.fresh clock) := fun key => by
    simp [DeliveryWorld.fresh]
  obtain ⟨last, path, _⟩ := System.run_simulates (noteVerdict (DeliveryPoint.view P))
    (fun last (c : DeliveryConfig DeliveryPoint) => Tracks P last c.world)
    (fun last b a d m tracked hs hm => (moved last b a d tracked hs).1 m hm)
    (fun last b a d tracked hs none => (moved last b a d tracked hs).2 none) h start
  exact ⟨last, path⟩

private theorem step_failsOpen {P : Pipeline} {b d : DeliveryConfig DeliveryPoint}
    {a : DeliveryAction}
    (hs : P.protocol.step b a = some d) : FailsOpen (DeliveryPoint.view P) a d := by
  rintro pid choice key rfl rejected
  obtain ⟨p, cmd, resume, reply, v, hp, hv, he, rfl⟩ := System.step_resume hs
  rw [List.getLast?_concat] at rejected
  rw [told_answered hp, (DeliveryPoint.transition pid hv he).verdict_eq rejected]
  rfl

private theorem told_map (P : Pipeline) (d : DeliveryConfig DeliveryPoint) (pid : Nat) :
    told Prog.view (d.map (DeliveryPoint.program P)) pid = told (DeliveryPoint.view P) d pid := by
  have mapped (v : View DeliveryCmd DeliveryCmd.Reply JsError Unit DeliveryPoint) :
      verdict (v.map (DeliveryPoint.program P)) = verdict v := by
    cases v with
    | ended outcome => rfl
    | awaits cmd resume => cases cmd <;> rfl
  simp only [told, Config.map, List.getElem?_map]
  cases d.procs[pid]? with
  | none => rfl
  | some p =>
      show verdict (Prog.view (p.state.program P)) = verdict (p.state.view P)
      rw [DeliveryPoint.view_program, mapped]

/-- In every run from freshly installed stores, whatever they answer: two calls are told by Redis
that one event is new only a lifetime of its key apart, counting the `SET`s that took effect and
whose reply was lost, and a call is told that it is a duplicate only when the key was set less
than a lifetime before. A call whose `SET` is rejected is let through. -/
theorem dedup_window {P : Pipeline} {clock : Int} {c : DeliveryConfig (DeliveryProg Unit)}
    {actions : List DeliveryAction} (h : P.system.run (.initial (.fresh clock)) actions = some c) :
    Window.Windowed P.dedupWidth
        (P.system.observe (noteVerdict Prog.view) (.initial (.fresh clock)) actions) ∧
      P.system.Along (fun _ a d => FailsOpen Prog.view a d) (.initial (.fresh clock)) actions := by
  obtain ⟨c, hc, rfl⟩ := exists_protocol h
  constructor
  · obtain ⟨last, path⟩ := verdicts_path hc
    have alike : (fun b a d => noteVerdict Prog.view (b.map (DeliveryPoint.program P)) a
        (d.map (DeliveryPoint.program P))) = noteVerdict (DeliveryPoint.view P) := by
      funext b a d
      cases a with
      | resume pid choice =>
          simp only [noteVerdict, told_map]
          rfl
      | _ => rfl
    have same := (protocol_refines P).observe (noteVerdict Prog.view) (.initial (.fresh clock))
      actions
    rw [alike] at same
    exact same ▸ Window.windowed path
  · show P.system.Along _ ((Config.initial (.fresh clock)).map (DeliveryPoint.program P)) actions
    refine (protocol_refines P).along.mpr ?_
    refine (System.along_of_actions (fun _ => True) (fun _ _ => trivial) _).imp
      fun b a d hs _ pid choice key resumed rejected => ?_
    rw [told_map]
    exact step_failsOpen hs pid choice key resumed rejected

def acrossWindow : List DeliveryAction :=
  [.start Sample.call, .resume 0 .ok, .env (.tick 1000), .start Sample.call, .resume 1 .ok,
    .env (.tick 172800000), .start Sample.call, .resume 2 .ok]

theorem dedup_window_across :
    Window.Windowed Sample.pipeline.dedupWidth
      [⟨DEDUP_KEY_PREFIX ++ Sample.delivery.eventId, 0, .novel⟩,
        ⟨DEDUP_KEY_PREFIX ++ Sample.delivery.eventId, 1000, .duplicate⟩,
        ⟨DEDUP_KEY_PREFIX ++ Sample.delivery.eventId, 172801000, .novel⟩] := by
  have possible : (Sample.pipeline.system.run (.initial (.fresh 0)) acrossWindow).isSome = true := by
    decide
  exact (dedup_window (System.run_result possible)).1

end SalesforceTikTok
