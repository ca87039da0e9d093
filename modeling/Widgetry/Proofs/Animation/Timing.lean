import Widgetry.Animation.Channel
import Widgetry.Proofs.Binary.Alike
import Widgetry.Proofs.Host.Ends

/-! A timing as a channel. It refuses a negative duration and a negative step only, rests nowhere
but on its target, and does not move once it rests. -/
namespace Widgetry

/-- Zero is not negative and equals itself, so a transition of no time is allowed and lands. -/
class HasZero (α : Type) [Scalar α] : Prop where
  not_neg : ¬(0 : α) < 0
  beq : ((0 : α) == 0) = true

instance : HasZero Binary32 where
  not_neg := by decide +kernel
  beq := by decide +kernel

variable {α σ : Type} [Scalar α]

namespace Timing

variable {t t' : Timing α} {start target duration shown dt : α} {easing : Easing} {h : σ}

/-- Only the duration can be wrong. -/
theorem begin_error {e : Error} (hb : begin start target duration easing = .error e) :
    duration < 0 := by
  rw [begin] at hb
  split at hb
  · assumption
  · exact (error_ne_ok hb.symm).elim

theorem not_neg_of_begin (hb : begin start target duration easing = .ok t) : ¬duration < 0 := by
  intro hneg
  rw [begin, if_pos hneg] at hb
  exact error_ne_ok hb

theorem ends_begin {post : Except Error Unit → Timing α × σ → Prop} :
    Ends (Channel.begin start target duration easing : Step (Timing α) σ Unit) (t, h) post ↔
      match begin start target duration easing with
      | .ok t' => post (.ok ()) (t', h)
      | .error e => post (.error e) (t, h) := by
  change Ends (beginStep start target duration easing) (t, h) post ↔ _
  rw [beginStep, ends_bind, Step.ends_check]
  cases begin start target duration easing <;> exact Iff.rfl

theorem ends_advance {post : Except Error (Reading α) → Timing α × σ → Prop} :
    Ends (Channel.step dt : Step (Timing α) σ (Reading α)) (t, h) post ↔
      match t.advance dt with
      | .ok t' => post (.ok t'.reading) (t', h)
      | .error e => post (.error e) (t, h) := by
  change Ends (advanceStep dt) (t, h) post ↔ _
  rw [advanceStep, ends_bind, Step.ends_self]
  dsimp only
  rw [ends_bind, Step.ends_check]
  cases t.advance dt <;> exact Iff.rfl

/-- At rest on a value, after a transition of no time. -/
def landed (value : α) : Timing α := ⟨value, value, 0, 0, .linear, value, true, false⟩

theorem begin_landed [HasZero α] (value : α) :
    begin value value 0 .linear = .ok (landed value) := by
  rw [begin, if_neg HasZero.not_neg, HasZero.beq]
  rfl

/-- Not on its way, with `value` as what it reads. -/
def RestsOn (t : Timing α) (value : α) : Prop := t.running = false ∧ t.current = value

theorem landed_restsOn (value : α) : (landed value).RestsOn value := ⟨rfl, rfl⟩

/-- The time spent after a step. -/
def clockAfter (t : Timing α) (dt : α) : α := min (t.elapsed + dt) t.duration

/-- What a step does to a channel that was started: nothing more, or it arrives, or it moves on. -/
inductive Advances (t : Timing α) (dt : α) : Timing α → Prop
  | rests (stopped : t.running = false) : Advances t dt t
  | arrives (moving : t.running = true) (late : t.duration ≤ t.clockAfter dt) :
      Advances t dt { t with elapsed := t.clockAfter dt, current := t.target, running := false }
  | moves (moving : t.running = true) (early : ¬t.duration ≤ t.clockAfter dt) :
      Advances t dt { t with
        elapsed := t.clockAfter dt
        current := t.start + (t.target - t.start) *
          t.easing.apply (t.clockAfter dt / t.duration) }

theorem advances (ha : t.advance dt = .ok t') : t.started = true ∧ Advances t dt t' := by
  rw [advance] at ha
  split at ha
  · exact (error_ne_ok ha).elim
  split at ha
  · exact (error_ne_ok ha).elim
  next hstarted =>
    refine ⟨by simpa using hstarted, ?_⟩
    split at ha
    next hstopped =>
      obtain rfl := Except.ok.inj ha
      exact .rests (by simpa using hstopped)
    next hmoving =>
      have hmoving : t.running = true := by simpa using hmoving
      dsimp only at ha
      split at ha
      next hlate =>
        obtain rfl := Except.ok.inj ha
        exact .arrives hmoving hlate
      next hearly =>
        obtain rfl := Except.ok.inj ha
        exact .moves hmoving hearly

theorem started_of_advance (ha : t.advance dt = .ok t') : t.started = true := (advances ha).1

/-- A step that is not back in time fails on an idle channel only. -/
theorem idle_of_advance {e : Error} (hdt : ¬dt < 0) (ha : t.advance dt = .error e) :
    t.started = false := by
  rw [advance, if_neg hdt] at ha
  split at ha
  next hidle => simpa using hidle
  split at ha
  · exact (error_ne_ok ha.symm).elim
  · dsimp only at ha
    split at ha
    · exact (error_ne_ok ha.symm).elim
    · exact (error_ne_ok ha.symm).elim

/-- A channel under way does not look at what it reads. -/
theorem advance_reread (hmoving : t.running = true) (current : α) :
    { t with current }.advance dt = t.advance dt := by
  simp [advance, hmoving]

theorem advance_stopped (hs : t.running = false) (h : t.advance dt = .ok t') : t' = t := by
  cases (advances h).2 with
  | rests => rfl
  | arrives moving => exact Bool.noConfusion (hs.symm.trans moving)
  | moves moving => exact Bool.noConfusion (hs.symm.trans moving)

/-- The timing goes to `target` and rests nowhere else; `shown` is what was last read off it. -/
structure Tracks (t : Timing α) (shown target : α) : Prop where
  aim : t.target = target
  rests : t.running = false → t.current = target
  shown : Alike t.current shown

theorem begin_tracks (hb : begin start target duration easing = .ok t) :
    t.Tracks t.current target := by
  rw [begin] at hb
  split at hb
  · exact (error_ne_ok hb).elim
  · obtain rfl := Except.ok.inj hb
    refine ⟨rfl, fun hstopped => ?_, .inl rfl⟩
    have hatOnce : (duration == 0) = true := by simpa using hstopped
    exact if_pos hatOnce

/-- A step that arrives sets the target itself. -/
theorem Tracks.advance (ht : t.Tracks shown target) (ha : t.advance dt = .ok t') :
    t'.Tracks t'.current target := by
  cases (advances ha).2 with
  | rests => exact ⟨ht.aim, ht.rests, .inl rfl⟩
  | arrives => exact ⟨ht.aim, fun _ => ht.aim, .inl rfl⟩
  | moves moving =>
    exact ⟨ht.aim, fun hstopped => Bool.noConfusion (hstopped.symm.trans moving), .inl rfl⟩

theorem Tracks.reshown (ht : t.Tracks t.current target) (hs : (t.current == shown) = true) :
    t.Tracks shown target := ⟨ht.aim, ht.rests, .inr hs⟩

end Timing

end Widgetry
