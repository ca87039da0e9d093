import Mathlib.Order.Bounds.Basic
import Widgetry.Proofs.Geometry.Strip
import Widgetry.Proofs.Host.Steady

/-! Natural sizes in exact arithmetic. What measuring adds up, laying out takes apart again: insets
around an extent, items of one width and their gaps, and the band that items of natural height
lie in. -/
namespace Widgetry

namespace Edges

variable {e : Edges Rat}

theorem Inward.horizontal_nonneg (he : e.Inward) : 0 ≤ e.horizontal := add_nonneg he.left he.right

theorem Inward.vertical_nonneg (he : e.Inward) : 0 ≤ e.vertical := add_nonneg he.top he.bottom

end Edges

namespace Rect

variable {e : Edges Rat} {width height : Rat}

/-- A rectangle that leaves an extent inside the insets. -/
def around (e : Edges Rat) (x y width height : Rat) : Rect Rat :=
  ⟨x, y, width + e.horizontal, height + e.vertical⟩

theorem validate_around (he : e.Inward) (hwidth : 0 ≤ width) (hheight : 0 ≤ height) (x y : Rat) :
    (around e x y width height).validate = .ok () := by
  have hhorizontal := he.horizontal_nonneg
  have hvertical := he.vertical_nonneg
  refine if_neg (not_or.mpr ⟨not_lt.mpr ?_, not_lt.mpr ?_⟩)
  · exact add_nonneg hwidth hhorizontal
  · exact add_nonneg hheight hvertical

theorem inset_around (hwidth : 0 ≤ width) (hheight : 0 ≤ height) (x y : Rat) :
    (around e x y width height).inset e = .ok ⟨x + e.left, y + e.top, width, height⟩ := by
  unfold inset around
  dsimp only
  rw [add_sub_cancel_right, add_sub_cancel_right,
    if_neg (not_or.mpr ⟨not_lt.mpr hwidth, not_lt.mpr hheight⟩)]

end Rect

namespace Row

variable {natural width spacing : Rat} {count : Nat}

/-- Natural height needs neither clipping nor centring. -/
theorem fitBand_natural (hnatural : 0 < natural) (top : Rat) (count : Nat) :
    fitBand natural top natural count = .ok ⟨top, natural⟩ := by
  unfold fitBand
  rw [if_neg (not_le.mpr hnatural), if_neg fun h => (not_le.mpr hnatural) h.2]
  have hfits : (if natural < natural ∧ 0 < natural then natural else natural) = natural :=
    ite_self natural
  dsimp only
  rw [hfits, if_neg (lt_irrefl natural)]
  exact congrArg (fun top => Except.ok (Band.mk top natural)) (add_zero top)

theorem evenWidth_runLength (hcount : 0 < count) (hwidth : 0 ≤ width) :
    evenWidth (runLength width spacing count) spacing count = .ok width := by
  have hn : (0 : Rat) < Scalar.ofNat count := by
    rw [Scalar.rat_ofNat]
    exact_mod_cast hcount
  unfold evenWidth runLength
  rw [if_neg hcount.ne', if_neg hcount.ne']
  dsimp only
  rw [if_neg (not_lt.mpr (le_add_of_nonneg_left (mul_nonneg hwidth hn.le))), add_sub_cancel_right,
    mul_div_cancel_right₀ _ hn.ne', if_neg (not_lt.mpr hwidth)]

theorem runLength_nonneg (hcount : 0 < count) (hwidth : 0 ≤ width) (hspacing : 0 ≤ spacing) :
    0 ≤ runLength width spacing count := by
  have hn : (1 : Rat) ≤ Scalar.ofNat count := by
    rw [Scalar.rat_ofNat]
    exact_mod_cast hcount
  unfold runLength
  rw [if_neg hcount.ne']
  exact add_nonneg (mul_nonneg hwidth (zero_le_one.trans hn))
    (mul_nonneg hspacing (sub_nonneg.mpr hn))

end Row

theorem Strip.Proper.reach_nonneg {t : Strip} (ht : t.Proper) (hwidths : t.widths ≠ []) :
    0 ≤ t.reach := by
  obtain ⟨w, rest, hcons⟩ := List.exists_cons_of_ne_nil hwidths
  have ha : t.rects[0]? = some (t.rect 0 w) := getElem?_rects.mpr ⟨w, by rw [hcons]; rfl, rfl⟩
  obtain ⟨hleft, hright⟩ := ht.bounds ha
  have hwidth := ht.width_nonneg ha
  rw [Rect.right] at hright
  linarith

namespace LabelExtents

/-- The extents of labels that measure so. -/
def ofMetrics {α : Type} [Scalar α] (metrics : String → TextMetrics α) (items : List String) :
    LabelExtents α :=
  (items.filter (!·.isEmpty)).foldl (fun e item => e.join (metrics item)) zero

theorem returns_measure {α σ : Type} [Scalar α] {measurer : Measurer α σ}
    {metrics : String → TextMetrics α} (hm : ∀ text, Returns (measurer text) (metrics text))
    (items : List String) : Returns (measure measurer items) (ofMetrics metrics items) := by
  unfold measure ofMetrics
  generalize (zero : LabelExtents α) = e
  induction items generalizing e with
  | nil => exact .pure e
  | cons item rest ih =>
    rw [measure.go]
    split
    next hblank =>
      rw [List.filter_cons_of_neg (by simp [hblank])]
      exact ih e
    next hlabel =>
      rw [List.filter_cons_of_pos (by simp [hlabel]), List.foldl_cons]
      exact (hm item).bind (ih _)

/-- Each extent is the largest one of the labels that are not blank, and none is below zero. -/
theorem isGreatest_extent {length : TextMetrics Rat → Rat} {extent : LabelExtents Rat → Rat}
    (hzero : extent zero = 0)
    (hjoin : ∀ e m, extent (e.join m) = max (extent e) (length m))
    (metrics : String → TextMetrics Rat) (items : List String) :
    IsGreatest (insert 0 {w | ∃ item ∈ items, item ≠ "" ∧ length (metrics item) = w})
      (extent (ofMetrics metrics items)) := by
  let lengths := (items.filter (!·.isEmpty)).map fun item => length (metrics item)
  have hfold : extent (ofMetrics metrics items) = lengths.foldl max 0 := by
    rw [List.foldl_map, ← hzero]
    exact (List.foldl_hom extent fun e item => (hjoin e (metrics item)).symm).symm
  have hset : insert 0 {w | ∃ item ∈ items, item ≠ "" ∧ length (metrics item) = w} =
      {w | w ∈ 0 :: lengths} := by
    ext w
    simp [lengths, and_assoc]
  rw [hfold, hset]
  exact List.max?_eq_some_iff.mp List.max?_cons'

end LabelExtents

end Widgetry
