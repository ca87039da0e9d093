import Widgetry.Animation.Timing
import Widgetry.Host
/-!
Animated numbers as a widget sees them: any channel may refuse a call and may ask its host.
-/
namespace Widgetry

class Channel (α : outParam Type) (σ χ : Type) where
  begin : (start target duration : α) → Easing → Step χ σ Unit
  step : (dt : α) → Step χ σ (Reading α)
  value : Step χ σ α
  /-- Nothing was started since creation or the last reset. -/
  isIdle : χ → Bool
  reset : χ → χ

variable {α σ : Type} [Scalar α]

namespace Timing

def beginStep (start target duration : α) (easing : Easing) : Step (Timing α) σ Unit := do
  let t ← Step.check (begin start target duration easing)
  Step.update fun _ => t

def advanceStep (dt : α) : Step (Timing α) σ (Reading α) := do
  let t ← Step.check ((← Step.self).advance dt)
  Step.update fun _ => t
  return t.reading

instance : Channel α σ (Timing α) where
  begin := beginStep
  step := advanceStep
  value := return (← Step.self).current
  isIdle t := !t.started
  reset _ := idle

end Timing

/-- The two numbers of a selection indicator. -/
inductive Lane where
  | position
  | width
  deriving DecidableEq, Repr

/-- A host that may refuse the calls to a channel. -/
class Gate (σ : Type) where
  begin : Lane → HostM σ Unit
  step : Lane → HostM σ Unit
  value : Lane → HostM σ Unit

/-- A timing behind a gate; without a lane it passes always. -/
structure Gated (α : Type) where
  lane : Option Lane
  timing : Timing α

namespace Gated

variable [Gate σ] {β : Type}

def pass (ask : Lane → HostM σ Unit) (act : Step (Timing α) σ β) : Step (Gated α) σ β := do
  match (← Step.self).lane with
  | some lane => Step.host (ask lane)
  | none => pure ()
  Step.zoom timing (fun timing g => { g with timing }) act

instance : Channel α σ (Gated α) where
  begin start target duration easing :=
    pass Gate.begin (Timing.beginStep start target duration easing)
  step dt := pass Gate.step (Timing.advanceStep dt)
  value := pass Gate.value (Channel.value : Step (Timing α) σ α)
  isIdle g := !g.timing.started
  reset g := { g with timing := .idle }

end Gated

end Widgetry
