import Mathlib.Analysis.Convex.Combination
import Widgetry.Proofs.Geometry.Exact
import Widgetry.Proofs.Recorder.Frames

/-! The triangles of a rectangle in exact arithmetic. Both turn the same way, they meet in the
diagonal from the top right to the bottom left, and what they cover is the rectangle. -/
namespace Widgetry

/-- A point, as in the plane. -/
def Vertex.point (v : Vertex Rat) : ℚ × ℚ := (v.x, v.y)

structure Triangle (α : Type) where
  a : Vertex α
  b : Vertex α
  c : Vertex α

namespace Triangle

/-- Vertices, three by three. -/
def ofVertices {α : Type} : List (Vertex α) → List (Triangle α)
  | a :: b :: c :: rest => ⟨a, b, c⟩ :: ofVertices rest
  | _ => []

/-- Twice the area, positive if the corners follow each other clockwise on the screen. -/
def turn (t : Triangle Rat) : ℚ :=
  (t.b.x - t.a.x) * (t.c.y - t.a.y) - (t.b.y - t.a.y) * (t.c.x - t.a.x)

def region (t : Triangle Rat) : Set (ℚ × ℚ) := convexHull ℚ {t.a.point, t.b.point, t.c.point}

/-- A mixture of the corners. -/
def Mixes (t : Triangle Rat) (p : ℚ × ℚ) : Prop := ∃ u v w : ℚ,
  0 ≤ u ∧ 0 ≤ v ∧ 0 ≤ w ∧ u + v + w = 1 ∧ u • t.a.point + v • t.b.point + w • t.c.point = p

theorem convex_mixes (t : Triangle Rat) : Convex ℚ {p | t.Mixes p} := by
  rintro _ ⟨u, v, w, hu, hv, hw, hsum, rfl⟩ _ ⟨u', v', w', hu', hv', hw', hsum', rfl⟩
    k k' hk hk' hkk
  refine ⟨k * u + k' * u', k * v + k' * v', k * w + k' * w', by positivity, by positivity,
    by positivity, ?_, ?_⟩
  · calc k * u + k' * u' + (k * v + k' * v') + (k * w + k' * w')
        = k * (u + v + w) + k' * (u' + v' + w') := by ring
      _ = 1 := by rw [hsum, hsum', mul_one, mul_one, hkk]
  · module

/-- The points of a triangle are the mixtures of its corners. -/
theorem mem_region {t : Triangle Rat} {p : ℚ × ℚ} : p ∈ t.region ↔ t.Mixes p := by
  constructor
  · intro hp
    refine convexHull_min ?_ t.convex_mixes hp
    rintro q (rfl | rfl | rfl)
    · exact ⟨1, 0, 0, by simp⟩
    · exact ⟨0, 1, 0, by simp⟩
    · exact ⟨0, 0, 1, by simp⟩
  · rintro ⟨u, v, w, hu, hv, hw, hsum, rfl⟩
    refine mem_convexHull_of_exists_fintype ![u, v, w] ![t.a.point, t.b.point, t.c.point] ?_ ?_ ?_
      (Fin.sum_univ_three _)
    · simp [Fin.forall_fin_succ, hu, hv, hw]
    · simpa [Fin.sum_univ_three] using hsum
    · simp [Fin.forall_fin_succ]

end Triangle

namespace Rect

variable {r : Rect Rat} {p : ℚ × ℚ}

/-- The point at these shares of the width and the height. -/
def share (r : Rect Rat) (s t : ℚ) : ℚ × ℚ := (r.x + s * r.width, r.y + t * r.height)

theorem share_inj (hw : 0 < r.width) (hh : 0 < r.height) {s t s' t' : ℚ}
    (h : r.share s t = r.share s' t') : s = s' ∧ t = t' := by
  obtain ⟨hx, hy⟩ := Prod.mk.inj h
  exact ⟨mul_right_cancel₀ hw.ne' (add_left_cancel hx),
    mul_right_cancel₀ hh.ne' (add_left_cancel hy)⟩

/-- The points of the rectangle are those at shares up to the whole. -/
theorem mem_extent (hw : 0 < r.width) (hh : 0 < r.height) :
    p ∈ Set.Icc r.x r.right ×ˢ Set.Icc r.y r.bottom ↔ ∃ s t : ℚ,
      0 ≤ s ∧ s ≤ 1 ∧ 0 ≤ t ∧ t ≤ 1 ∧ r.share s t = p := by
  constructor
  · rintro ⟨⟨hleft, hright⟩, htop, hbottom⟩
    refine ⟨(p.1 - r.x) / r.width, (p.2 - r.y) / r.height, ?_, ?_, ?_, ?_, ?_⟩
    · exact div_nonneg (sub_nonneg.mpr hleft) hw.le
    · exact (div_le_one hw).mpr (sub_left_le_of_le_add hright)
    · exact div_nonneg (sub_nonneg.mpr htop) hh.le
    · exact (div_le_one hh).mpr (sub_left_le_of_le_add hbottom)
    · rw [share, div_mul_cancel₀ _ hw.ne', div_mul_cancel₀ _ hh.ne', add_sub_cancel,
        add_sub_cancel]
  · rintro ⟨s, t, hs, hs', ht, ht', rfl⟩
    have hx : s * r.width ≤ r.width := mul_le_of_le_one_left hw.le hs'
    have hy : t * r.height ≤ r.height := mul_le_of_le_one_left hh.le ht'
    exact ⟨⟨le_add_of_nonneg_right (mul_nonneg hs hw.le), add_le_add_right hx r.x⟩,
      le_add_of_nonneg_right (mul_nonneg ht hh.le), add_le_add_right hy r.y⟩

/-- The points of the diagonal are those at shares that make up one whole. -/
theorem mem_diagonal : p ∈ segment ℚ (r.right, r.y) (r.x, r.bottom) ↔ ∃ s t : ℚ,
    0 ≤ s ∧ 0 ≤ t ∧ s + t = 1 ∧ r.share s t = p := by
  have hmix {s t : ℚ} (h : s + t = 1) :
      s • (r.right, r.y) + t • (r.x, r.bottom) = r.share s t := by
    apply Prod.ext
    · change s * (r.x + r.width) + t * r.x = r.x + s * r.width
      linear_combination r.x * h
    · change s * r.y + t * (r.y + r.height) = r.y + t * r.height
      linear_combination r.y * h
  constructor
  · rintro ⟨s, t, hs, ht, hsum, rfl⟩
    exact ⟨s, t, hs, ht, hsum, (hmix hsum).symm⟩
  · rintro ⟨s, t, hs, ht, hsum, rfl⟩
    exact ⟨s, t, hs, ht, hsum, hmix hsum⟩

end Rect

namespace Recorder

variable {run : RectRun Rat}

/-- The triangle at the top left. -/
def upper {α : Type} [Scalar α] (run : RectRun α) : Triangle α :=
  let b := run.bounds
  ⟨⟨b.x, b.y, run.color⟩, ⟨b.right, b.y, run.color⟩, ⟨b.x, b.bottom, run.color⟩⟩

/-- The triangle at the bottom right. -/
def lower {α : Type} [Scalar α] (run : RectRun α) : Triangle α :=
  let b := run.bounds
  ⟨⟨b.right, b.y, run.color⟩, ⟨b.right, b.bottom, run.color⟩, ⟨b.x, b.bottom, run.color⟩⟩

/-- The mesh of a frame has the two triangles of each rectangle in turn. -/
theorem ofVertices_flatMap {α : Type} [Scalar α] (rects : List (RectRun α)) :
    Triangle.ofVertices (rects.flatMap corners) =
      rects.flatMap fun run => [upper run, lower run] := by
  induction rects with
  | nil => rfl
  | cons run rects ih =>
    rw [List.flatMap_cons, List.flatMap_cons, ← ih]
    rfl

/-- Above the diagonal the two shares make up a whole at most. -/
theorem mem_upper {p : ℚ × ℚ} : p ∈ (upper run).region ↔ ∃ s t : ℚ,
    0 ≤ s ∧ 0 ≤ t ∧ s + t ≤ 1 ∧ run.bounds.share s t = p := by
  have hmix {u s t : ℚ} (h : u + s + t = 1) : u • (upper run).a.point + s • (upper run).b.point +
      t • (upper run).c.point = run.bounds.share s t := by
    obtain ⟨⟨x, y, width, height⟩, _, _⟩ := run
    apply Prod.ext
    · change u * x + s * (x + width) + t * x = x + s * width
      linear_combination x * h
    · change u * y + s * y + t * (y + height) = y + t * height
      linear_combination y * h
  rw [Triangle.mem_region]
  constructor
  · rintro ⟨u, s, t, hu, hs, ht, hsum, rfl⟩
    exact ⟨s, t, hs, ht, by linarith, (hmix hsum).symm⟩
  · rintro ⟨s, t, hs, ht, hsum, rfl⟩
    exact ⟨1 - s - t, s, t, by linarith, hs, ht, by ring, hmix (by ring)⟩

/-- Below the diagonal the two shares make up a whole at least. -/
theorem mem_lower {p : ℚ × ℚ} : p ∈ (lower run).region ↔ ∃ s t : ℚ,
    s ≤ 1 ∧ t ≤ 1 ∧ 1 ≤ s + t ∧ run.bounds.share s t = p := by
  have hmix {u v w : ℚ} (h : u + v + w = 1) : u • (lower run).a.point + v • (lower run).b.point +
      w • (lower run).c.point = run.bounds.share (1 - w) (1 - u) := by
    obtain ⟨⟨x, y, width, height⟩, _, _⟩ := run
    apply Prod.ext
    · change u * (x + width) + v * (x + width) + w * x = x + (1 - w) * width
      linear_combination (x + width) * h
    · change u * y + v * (y + height) + w * (y + height) = y + (1 - u) * height
      linear_combination (y + height) * h
  rw [Triangle.mem_region]
  constructor
  · rintro ⟨u, v, w, hu, hv, hw, hsum, rfl⟩
    exact ⟨1 - w, 1 - u, by linarith, by linarith, by linarith, (hmix hsum).symm⟩
  · rintro ⟨s, t, hs, ht, hsum, rfl⟩
    refine ⟨1 - t, s + t - 1, 1 - s, by linarith, by linarith, by linarith, by ring, ?_⟩
    rw [hmix (by ring), sub_sub_cancel, sub_sub_cancel]

end Recorder

/-- Two triangles that turn the same way, cover the rectangle together and share its diagonal from
the top right to the bottom left. -/
structure Halves (r : Rect Rat) (t t' : Triangle Rat) : Prop where
  turns : 0 < t.turn ∧ 0 < t'.turn
  covers : t.region ∪ t'.region = Set.Icc r.x r.right ×ˢ Set.Icc r.y r.bottom
  shares : t.region ∩ t'.region = segment ℚ (r.right, r.y) (r.x, r.bottom)

theorem Recorder.halves {run : RectRun Rat} (hw : 0 < run.bounds.width)
    (hh : 0 < run.bounds.height) : Halves run.bounds (upper run) (lower run) where
  turns := by
    obtain ⟨⟨x, y, width, height⟩, _, _⟩ := run
    have harea : 0 < width * height := mul_pos hw hh
    constructor
    · change 0 < (x + width - x) * (y + height - y) - (y - y) * (x - x)
      linarith
    · change 0 < (x + width - (x + width)) * (y + height - y) - (y + height - y) * (x - (x + width))
      linarith
  covers := by
    ext p
    rw [Set.mem_union, mem_upper, mem_lower, Rect.mem_extent hw hh]
    constructor
    · rintro (⟨s, t, hs, ht, hsum, rfl⟩ | ⟨s, t, hs, ht, hsum, rfl⟩)
      · exact ⟨s, t, hs, by linarith, ht, by linarith, rfl⟩
      · exact ⟨s, t, by linarith, hs, by linarith, ht, rfl⟩
    · rintro ⟨s, t, hs, hs', ht, ht', rfl⟩
      rcases le_total (s + t) 1 with hsum | hsum
      · exact .inl ⟨s, t, hs, ht, hsum, rfl⟩
      · exact .inr ⟨s, t, hs', ht', hsum, rfl⟩
  shares := by
    ext p
    rw [Set.mem_inter_iff, mem_upper, mem_lower, Rect.mem_diagonal]
    constructor
    · rintro ⟨⟨s, t, hs, ht, hle, rfl⟩, s', t', _, _, hge, hsame⟩
      obtain ⟨rfl, rfl⟩ := Rect.share_inj hw hh hsame
      exact ⟨s', t', hs, ht, le_antisymm hle hge, rfl⟩
    · rintro ⟨s, t, hs, ht, hsum, rfl⟩
      exact ⟨⟨s, t, hs, ht, hsum.le, rfl⟩, s, t, by linarith, by linarith, hsum.ge, rfl⟩

/-- The triangles of a rectangle are found by its number. -/
theorem Recorder.triangles_of_rect {frame : Recorder Rat} {i : Nat} {run : RectRun Rat}
    (hrun : frame.rects[i]? = some run) (hw : 0 < run.bounds.width) (hh : 0 < run.bounds.height) :
    ∃ t t', ((Triangle.ofVertices frame.vertices).drop (2 * i)).take 2 = [t, t'] ∧
      Halves run.bounds t t' := by
  refine ⟨upper run, lower run, ?_, halves hw hh⟩
  rw [vertices, ofVertices_flatMap]
  exact slice_flatMap (f := fun run => [upper run, lower run]) (fun _ => rfl) hrun

end Widgetry
