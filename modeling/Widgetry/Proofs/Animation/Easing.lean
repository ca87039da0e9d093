import Mathlib.Order.Monotone.Basic
import Widgetry.Animation.Easing
import Widgetry.Proofs.Geometry.Exact

/-! Easing curves in exact arithmetic. On the unit interval each of them rises from zero to one, and
what lies beside the interval is first moved to its nearer end. -/
namespace Widgetry.Easing

section Unit

variable {s t : Rat}

theorem unit_of_neg (h : t < 0) : unit t = 0 := if_pos h

theorem unit_of_one_lt (h : 1 < t) : unit t = 1 := by
  have hnonneg : ¬t < 0 := by linarith
  exact (if_neg hnonneg).trans (if_pos h)

theorem unit_of_mem (h0 : 0 ≤ t) (h1 : t ≤ 1) : unit t = t :=
  (if_neg (not_lt.mpr h0)).trans (if_neg (not_lt.mpr h1))

theorem unit_mem (t : Rat) : 0 ≤ unit t ∧ unit t ≤ 1 := by
  rcases lt_or_ge t 0 with hneg | hnonneg
  · rw [unit_of_neg hneg]
    exact ⟨le_rfl, zero_le_one⟩
  rcases lt_or_ge 1 t with hbeyond | hle
  · rw [unit_of_one_lt hbeyond]
    exact ⟨zero_le_one, le_rfl⟩
  · rw [unit_of_mem hnonneg hle]
    exact ⟨hnonneg, hle⟩

theorem unit_mono (h : s ≤ t) : unit s ≤ unit t := by
  rcases lt_or_ge s 0 with hneg | hnonneg
  · rw [unit_of_neg hneg]
    exact (unit_mem t).1
  rcases lt_or_ge 1 t with hbeyond | hle
  · rw [unit_of_one_lt hbeyond]
    exact (unit_mem s).2
  · rwa [unit_of_mem hnonneg (h.trans hle), unit_of_mem (hnonneg.trans h) hle]

end Unit

section Curve

variable {s t : Rat}

theorem curve_easeInOut_early (h : t < 1 / 2) : easeInOut.curve t = 2 * t * t := by
  rw [curve, Scalar.rat_half]
  exact if_pos h

theorem curve_easeInOut_late (h : 1 / 2 ≤ t) :
    easeInOut.curve t = 1 - (2 - 2 * t) * (2 - 2 * t) * (1 / 2) := by
  have hinv : (Scalar.ofInt (-2) : Rat) * t + 2 = 2 - 2 * t := by
    change (-2 : Rat) * t + 2 = 2 - 2 * t
    linarith
  rw [curve, Scalar.rat_half, ← hinv]
  exact if_neg (not_lt.mpr h)

theorem curve_zero (easing : Easing) : easing.curve (0 : Rat) = 0 := by
  cases easing <;> decide +kernel

theorem curve_one (easing : Easing) : easing.curve (1 : Rat) = 1 := by
  cases easing <;> decide +kernel

theorem curve_mono (easing : Easing) (hs : 0 ≤ s) (h : s ≤ t) (ht : t ≤ 1) :
    easing.curve s ≤ easing.curve t := by
  cases easing with
  | linear => exact h
  | easeIn => exact mul_self_le_mul_self hs h
  | easeOut =>
    have hrest : (1 - t) * (1 - t) ≤ (1 - s) * (1 - s) :=
      mul_self_le_mul_self (sub_nonneg.mpr ht) (sub_le_sub_left h 1)
    exact sub_le_sub_left hrest 1
  | easeInOut =>
    -- both halves meet at one half, where the curve is one half too
    rcases lt_or_ge t (1 / 2) with ht' | ht'
    · have hsquare := mul_self_le_mul_self hs h
      rw [curve_easeInOut_early (h.trans_lt ht'), curve_easeInOut_early ht']
      linarith
    · have hrest : 0 ≤ 2 - 2 * t := by linarith
      rw [curve_easeInOut_late ht']
      rcases lt_or_ge s (1 / 2) with hs' | hs'
      · have hsquare := mul_self_le_mul_self hs hs'.le
        have hsquare' := mul_self_le_mul_self hrest (show 2 - 2 * t ≤ 1 by linarith)
        rw [curve_easeInOut_early hs']
        linarith
      · have hsquare := mul_self_le_mul_self hrest (show 2 - 2 * t ≤ 2 - 2 * s by linarith)
        rw [curve_easeInOut_late hs']
        linarith

end Curve

variable (easing : Easing)

theorem apply_zero : easing.apply (0 : Rat) = 0 := by
  rw [apply, unit_of_mem le_rfl zero_le_one, curve_zero]

theorem apply_one : easing.apply (1 : Rat) = 1 := by
  rw [apply, unit_of_mem zero_le_one le_rfl, curve_one]

theorem apply_monotone : Monotone (easing.apply : Rat → Rat) := fun s t h =>
  easing.curve_mono (unit_mem s).1 (unit_mono h) (unit_mem t).2

theorem apply_mem (t : Rat) : 0 ≤ easing.apply t ∧ easing.apply t ≤ 1 := by
  obtain ⟨h0, h1⟩ := unit_mem t
  constructor
  · calc (0 : Rat) = easing.curve 0 := easing.curve_zero.symm
      _ ≤ easing.apply t := easing.curve_mono le_rfl h0 h1
  · calc easing.apply t ≤ easing.curve 1 := easing.curve_mono h0 h1 le_rfl
      _ = 1 := easing.curve_one

end Widgetry.Easing
