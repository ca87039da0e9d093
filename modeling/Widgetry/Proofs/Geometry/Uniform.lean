import Mathlib.Data.Rat.Floor
import Widgetry.Proofs.Geometry.Searches

/-! Items of one width. From one to the next it is a stride, and a position divided by the stride
and rounded down is the index of the last item that starts before it. -/
namespace Widgetry

theorem Scalar.rat_toIndex (q : Rat) : Scalar.toIndex q = ⌊q⌋₊ := rfl

namespace Row

variable {pos width spacing : Rat} (hstride : 0 < width + spacing) (hspacing : 0 ≤ spacing)
  (hpos : 0 ≤ pos)

include hstride hpos in
theorem index_eq_iff {i : Nat} : ⌊pos / (width + spacing)⌋₊ = i ↔
    i * (width + spacing) ≤ pos ∧ pos < (i + 1) * (width + spacing) := by
  rw [Nat.floor_eq_iff (div_nonneg hpos hstride.le), le_div_iff₀ hstride, div_lt_iff₀ hstride]

include hstride hspacing hpos

/-- An item ends before the next one starts, except where they touch. -/
theorem index_eq {i : Nat} (hstart : i * (width + spacing) ≤ pos)
    (hend : pos ≤ i * (width + spacing) + width)
    (hedge : spacing = 0 → pos ≠ i * (width + spacing) + width) :
    ⌊pos / (width + spacing)⌋₊ = i := by
  refine (index_eq_iff hstride hpos).mpr ⟨hstart, ?_⟩
  rw [add_one_mul]
  rcases hspacing.eq_or_lt with hzero | hgap
  · have hlt := lt_of_le_of_ne hend (hedge hzero.symm)
    linarith
  · linarith

theorem uniformHit_eq (count : Nat) :
    ∃ hit, uniformHit pos width spacing count = .ok hit ∧ ∀ i, hit = some i ↔
      i < count ∧ i * (width + spacing) ≤ pos ∧ pos ≤ i * (width + spacing) + width ∧
        (spacing = 0 → pos ≠ i * (width + spacing) + width) := by
  obtain ⟨hstart, hnext⟩ := (index_eq_iff hstride hpos).mp rfl
  unfold uniformHit
  dsimp only
  rw [if_neg (not_le.mpr hstride), if_neg (not_lt.mpr hpos), Scalar.rat_toIndex]
  split
  next hcount =>
    refine ⟨none, rfl, fun i => iff_of_false (Option.some_ne_none i).symm ?_⟩
    rintro ⟨hlt, hstart, hend, hedge⟩
    rw [index_eq hstride hspacing hpos hstart hend hedge] at hcount
    exact hlt.not_ge hcount
  next hcount =>
    rw [Scalar.rat_ofNat]
    split
    next hafter =>
      refine ⟨none, rfl, fun i => iff_of_false (Option.some_ne_none i).symm ?_⟩
      rintro ⟨-, hstart, hend, hedge⟩
      rw [index_eq hstride hspacing hpos hstart hend hedge] at hafter
      exact hafter.not_ge hend
    next hend =>
      refine ⟨some _, rfl, fun i => ⟨?_, ?_⟩⟩
      · rintro ⟨⟩
        refine ⟨not_le.mp hcount, hstart, not_lt.mp hend, fun hzero => ?_⟩
        rw [add_one_mul, hzero] at hnext
        rw [hzero]
        linarith
      · rintro ⟨-, hstart, hend, hedge⟩
        rw [index_eq hstride hspacing hpos hstart hend hedge]

end Row

namespace Strip

theorem offset_replicate (gap width : Rat) {count i : Nat} (hi : i ≤ count) :
    offset gap (List.replicate count width) i = i * (width + gap) := by
  induction i with
  | zero => rw [offset_zero, Nat.cast_zero, zero_mul]
  | succ i ih =>
    have hwidth : (List.replicate count width)[i]? = some width :=
      List.getElem?_replicate_of_lt hi
    rw [offset_succ hwidth, ih (Nat.le_of_succ_le hi), Nat.cast_succ]
    linarith

variable {t : Strip} {count : Nat} {width : Rat} (hwidths : t.widths = List.replicate count width)
include hwidths

theorem getElem?_uniform {i : Nat} {w : Rat} :
    t.widths[i]? = some w ↔ i < count ∧ width = w := by
  rw [hwidths, List.getElem?_replicate]
  split
  next hi => exact ⟨fun hw => ⟨hi, Option.some.inj hw⟩, fun hw => congrArg some hw.2⟩
  next hi => exact iff_of_false (Option.some_ne_none w).symm fun hw => hi hw.1

/-- A row of items of one width is as long as it is said to be. -/
theorem reach_uniform (hcount : 0 < count) : t.reach = Row.runLength width t.gap count := by
  rw [reach, hwidths, List.length_replicate, offset_replicate _ _ le_rfl, Row.runLength,
    if_neg hcount.ne']
  dsimp only
  rw [Scalar.rat_ofNat]
  linarith

/-- The search by division, from the first item to the end of the last one. -/
theorem picks_uniform {x y : Rat} (ht : t.Proper) (hcount : 0 < count) (hstart : t.origin ≤ x)
    (hend : x ≤ t.origin + t.reach) (htop : t.top ≤ y) (hbottom : y ≤ t.top + t.height) :
    t.Picks .stride x y (Row.uniformHit (x - t.origin) width t.gap count) := by
  have hgap := ht.gap
  have hfirst : t.widths[0]? = some width := (getElem?_uniform hwidths).mpr ⟨hcount, rfl⟩
  have hwidth : 0 ≤ width := ht.widths width (List.mem_of_getElem? hfirst)
  rcases (add_nonneg hwidth hgap).eq_or_lt with hzero | hstride
  · have hwidth0 : width = 0 := by linarith
    have hgap0 : t.gap = 0 := by linarith
    have herror : Row.uniformHit (x - t.origin) width t.gap count = .error (.range .hitStride) :=
      if_pos hzero.ge
    rw [herror]
    refine .of_no_width hgap0 (fun i a ha => ?_) (getElem?_rects.mpr ⟨width, hfirst, rfl⟩)
      ⟨?_, ?_, htop, hbottom⟩
    · obtain ⟨w, hw, rfl⟩ := getElem?_rects.mp ha
      exact ((getElem?_uniform hwidths).mp hw).2.symm.trans hwidth0
    · change t.start 0 ≤ x
      rwa [start, offset_zero, add_zero]
    · change x ≤ t.start 0 + width
      rw [reach_uniform hwidths hcount, hgap0, hwidth0, Row.runLength, if_neg hcount.ne'] at hend
      rw [start, offset_zero]
      linarith
  · obtain ⟨found, hfound, hiff⟩ :=
      Row.uniformHit_eq hstride hgap (sub_nonneg.mpr hstart) count
    rw [hfound]
    refine .of_lands htop hbottom fun i => (hiff i).trans ⟨?_, ?_⟩
    · rintro ⟨hi, hfits⟩
      refine ⟨width, (getElem?_uniform hwidths).mpr ⟨hi, rfl⟩, ?_⟩
      rw [hwidths, offset_replicate _ _ hi.le]
      exact hfits
    · rintro ⟨w, hw, hfits⟩
      obtain ⟨hi, rfl⟩ := (getElem?_uniform hwidths).mp hw
      rw [hwidths, offset_replicate _ _ hi.le] at hfits
      exact ⟨hi, hfits⟩

end Strip

end Widgetry
