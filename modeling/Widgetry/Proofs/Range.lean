import Widgetry.RowGeometry
import Widgetry.Validate

/-! Indices that address one of a number of items, and the checks and casts that give them. -/
namespace Widgetry

/-- None, or one of `count`. -/
def Fits (count : Nat) (index : Option Nat) : Prop := ∀ i, index = some i → i < count

variable {count : Nat} {index : Option Nat}

theorem fits_none (count : Nat) : Fits count none := nofun

theorem fits_some {i : Nat} (h : i < count) : Fits count (some i) := by
  rintro _ ⟨⟩
  exact h

theorem Fits.lt {i : Nat} (h : Fits count (some i)) : i < count := h i rfl

namespace Validate

theorem fits_of_selection (h : selection index count = .ok ()) : Fits count index := by
  cases index with
  | none => exact fits_none count
  | some i =>
    rw [selection] at h
    split at h
    · exact fits_some ‹_›
    · exact nomatch h

theorem selection_eq_ok (h : Fits count index) : selection index count = .ok () := by
  cases index with
  | none => rfl
  | some i => exact if_pos h.lt

theorem fits_inRange (count : Nat) (index : Option Nat) : Fits count (inRange count index) := by
  intro i hi
  rw [inRange, Option.filter_eq_some_iff] at hi
  exact of_decide_eq_true hi.2

theorem states_eq_ok {flags : List Bool} : states flags count = .ok () ↔ flags.length = count := by
  rw [states]
  split
  · simpa
  · simpa

end Validate

variable {α : Type} [Scalar α]

/-- However large or odd the position, the item found is one of those there are. -/
theorem Row.fits_uniformHit {pos width spacing : α}
    (h : uniformHit pos width spacing count = .ok index) : Fits count index := by
  unfold uniformHit at h
  dsimp only at h
  split at h
  · exact nomatch h
  split at h
  · obtain rfl := Except.ok.inj h
    exact fits_none count
  split at h
  · obtain rfl := Except.ok.inj h
    exact fits_none count
  next hlt =>
    split at h
    · obtain rfl := Except.ok.inj h
      exact fits_none count
    · obtain rfl := Except.ok.inj h
      exact fits_some (Nat.lt_of_not_le hlt)

end Widgetry
