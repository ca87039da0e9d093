import Widgetry.Proofs.Binary.Alike
import Widgetry.Proofs.Tabs.Stillness

/-! Offsets to which a row may scroll. Clamping answers to such an offset, with another one. -/
namespace Widgetry

variable {α : Type} [Scalar α]

/-- An offset that a row may scroll to. -/
def Admissible (offset : α) : Prop := ¬(Scalar.isNaN offset = true ∨ offset < 0)

/-- Zero may be scrolled to, and so may what lies between zero and an offset that may. -/
class HasOffsets (α : Type) [Scalar α] : Prop extends HasZero α where
  zero_le : (0 : α) ≤ 0
  zero : Admissible (0 : α)
  min_max : ∀ {offset : α} (limit : α), Admissible offset → Admissible (min offset (max limit 0))

instance : HasOffsets Binary32 where
  zero_le := by decide +kernel
  zero := by unfold Admissible; decide +kernel
  min_max {offset} limit ho := by
    have hmax : Admissible (max limit 0) := by
      change Admissible (Binary.max limit 0)
      unfold Binary.max
      split
      · unfold Admissible
        decide +kernel
      next hnan =>
        split
        · unfold Admissible
          decide +kernel
        next hneg => exact fun h => h.elim hnan hneg
    rcases Binary.min_eq_or offset (max limit 0) with h | h
    · rwa [h]
    · rwa [h]

namespace TabLayout

variable {l : TabLayout α} {offset scroll : α}

theorem clampScroll_eq_ok :
    l.clampScroll offset = .ok scroll ↔ Admissible offset ∧
      scroll = match l.mode with
        | .fixed => 0
        | .scrollable => min offset l.maxScroll := by
  unfold clampScroll Admissible
  split
  next h => exact ⟨fun hs => (error_ne_ok hs).elim, fun hs => (hs.1 h).elim⟩
  next h =>
    cases l.mode with
    | fixed => exact ⟨fun hs => ⟨h, (Except.ok.inj hs).symm⟩, fun hs => congrArg _ hs.2.symm⟩
    | scrollable => exact ⟨fun hs => ⟨h, (Except.ok.inj hs).symm⟩, fun hs => congrArg _ hs.2.symm⟩

theorem admissible_of_clampScroll [HasOffsets α] (h : l.clampScroll offset = .ok scroll) :
    Admissible scroll := by
  obtain ⟨ho, rfl⟩ := clampScroll_eq_ok.mp h
  cases l.mode with
  | fixed => exact HasOffsets.zero
  | scrollable => exact HasOffsets.min_max _ ho

end TabLayout

end Widgetry
