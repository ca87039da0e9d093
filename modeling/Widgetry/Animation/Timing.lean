import Widgetry.Animation.Easing
/-!
A number that moves from a start to a target over a duration, driven by an outside clock.
-/
namespace Widgetry

structure Timing (α : Type) where
  start : α
  target : α
  duration : α
  /-- Time spent, at most `duration`. -/
  elapsed : α
  easing : Easing
  current : α
  started : Bool
  /-- The target has not been reached yet. -/
  running : Bool

/-- The value after a step, and whether the target has been reached. -/
structure Reading (α : Type) where
  value : α
  finished : Bool

namespace Timing

variable {α : Type} [Scalar α]

def idle : Timing α := ⟨0, 0, 0, 0, .easeOut, 0, false, false⟩

def stop (t : Timing α) : Timing α := { t with running := false }

/-- A transition of no duration lands on its target at once. -/
def begin (start target duration : α) (easing : Easing) : Except Error (Timing α) :=
  if duration < 0 then .error (.range .duration)
  else
    let atOnce := duration == 0
    .ok {
      start, target, duration, easing
      elapsed := 0
      current := if atOnce then target else start
      started := true
      running := !atOnce }

/-- A curve need not end on the target exactly, so the last step sets it. -/
def advance (t : Timing α) (dt : α) : Except Error (Timing α) :=
  if dt < 0 then .error (.range .timeStep)
  else if !t.started then .error (.state .channelIdle)
  else if !t.running then .ok t
  else
    let elapsed := min (t.elapsed + dt) t.duration
    if t.duration ≤ elapsed then .ok { t with elapsed, current := t.target, running := false }
    else
      let eased := t.easing.apply (elapsed / t.duration)
      .ok { t with elapsed, current := t.start + (t.target - t.start) * eased }

def reading (t : Timing α) : Reading α := ⟨t.current, !t.running⟩

end Timing

end Widgetry
