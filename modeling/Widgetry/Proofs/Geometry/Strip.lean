import Widgetry.Proofs.Geometry.Exact

/-! Items side by side in exact arithmetic. Each starts where the ones before it and their gaps end,
so they do not overlap, and what lies above, below, beside or between them is on none of them. -/
namespace Widgetry

/-- Where the first item starts, the band that all share, the gap between two of them, and their
widths. -/
structure Strip where
  origin : Rat
  top : Rat
  height : Rat
  gap : Rat
  widths : List Rat

namespace Strip

/-- What lies before item `i`: other items, each with the gap that follows it. -/
def offset (gap : Rat) : List Rat → Nat → Rat
  | width :: rest, i + 1 => width + gap + offset gap rest i
  | _, _ => 0

theorem offset_nil (gap : Rat) (i : Nat) : offset gap [] i = 0 := rfl

theorem offset_zero (gap : Rat) (widths : List Rat) : offset gap widths 0 = 0 := by
  cases widths <;> rfl

theorem offset_succ {gap width : Rat} {widths : List Rat} {i : Nat} (h : widths[i]? = some width) :
    offset gap widths (i + 1) = offset gap widths i + width + gap := by
  induction widths generalizing i with
  | nil => exact nomatch h
  | cons first rest ih =>
    cases i with
    | zero =>
      obtain rfl := Option.some.inj h
      rw [offset, offset_zero, offset_zero]
      linarith
    | succ i =>
      rw [offset, offset, ih h]
      linarith

theorem offset_mono {gap : Rat} {widths : List Rat} (hgap : 0 ≤ gap) (hw : ∀ w ∈ widths, 0 ≤ w)
    {i j : Nat} (hij : i ≤ j) : offset gap widths i ≤ offset gap widths j := by
  induction widths generalizing i j with
  | nil => exact le_rfl
  | cons first rest ih =>
    obtain ⟨hfirst, hrest⟩ := List.forall_mem_cons.mp hw
    have hstep {i j : Nat} (hij : i ≤ j) := ih hrest hij
    cases j with
    | zero => rw [Nat.le_zero.mp hij]
    | succ j =>
      cases i with
      | zero =>
        have hnext := hstep (Nat.zero_le j)
        rw [offset_zero] at hnext
        rw [offset_zero, offset]
        linarith
      | succ i =>
        rw [offset, offset]
        linarith [hstep (Nat.le_of_succ_le_succ hij)]

def start (t : Strip) (i : Nat) : Rat := t.origin + offset t.gap t.widths i

/-- From the first item to the end of the last one. -/
def reach (t : Strip) : Rat := offset t.gap t.widths t.widths.length - t.gap

def rect (t : Strip) (i : Nat) (width : Rat) : Rect Rat := ⟨t.start i, t.top, width, t.height⟩

def rects (t : Strip) : List (Rect Rat) := t.widths.mapIdx t.rect

/-- Neither the gap nor a width is negative. -/
structure Proper (t : Strip) : Prop where
  gap : 0 ≤ t.gap
  widths : ∀ w ∈ t.widths, 0 ≤ w

variable {t : Strip} {i j : Nat} {a b : Rect Rat} {x y : Rat}

theorem getElem?_rects : t.rects[i]? = some a ↔ ∃ w, t.widths[i]? = some w ∧ t.rect i w = a := by
  rw [rects, List.getElem?_mapIdx, Option.map_eq_some_iff]

theorem length_rects : t.rects.length = t.widths.length := List.length_mapIdx

/-- The next item starts behind the gap. -/
theorem next_x (ha : t.rects[i]? = some a) (hb : t.rects[i + 1]? = some b) :
    b.x = a.right + t.gap := by
  obtain ⟨w, hw, rfl⟩ := getElem?_rects.mp ha
  obtain ⟨w', -, rfl⟩ := getElem?_rects.mp hb
  change t.origin + offset t.gap t.widths (i + 1) = t.origin + offset t.gap t.widths i + w + t.gap
  rw [offset_succ hw]
  linarith

/-- All items lie in one band. -/
theorem band (ha : t.rects[i]? = some a) : a.y = t.top ∧ a.bottom = t.top + t.height := by
  obtain ⟨w, -, rfl⟩ := getElem?_rects.mp ha
  exact ⟨rfl, rfl⟩

/-- A point at the height of one item is at the height of all. -/
theorem covers_beside (ha : t.rects[i]? = some a) (hb : t.rects[j]? = some b)
    (hcovers : a.Covers x y) (hleft : b.x ≤ x) (hright : x ≤ b.right) : b.Covers x y := by
  obtain ⟨htop, hbottom⟩ := band ha
  obtain ⟨htop', hbottom'⟩ := band hb
  refine ⟨hleft, hright, ?_, ?_⟩
  · rw [htop', ← htop]
    exact hcovers.top
  · rw [hbottom', ← hbottom]
    exact hcovers.bottom

namespace Proper

variable (ht : t.Proper)
include ht

theorem width_nonneg (ha : t.rects[i]? = some a) : 0 ≤ a.width := by
  obtain ⟨w, hw, rfl⟩ := getElem?_rects.mp ha
  exact ht.widths w (List.mem_of_getElem? hw)

/-- The gap at least lies between two items. -/
theorem apart (hij : i < j) (ha : t.rects[i]? = some a) (hb : t.rects[j]? = some b) :
    a.right + t.gap ≤ b.x := by
  obtain ⟨w, hw, rfl⟩ := getElem?_rects.mp ha
  obtain ⟨w', -, rfl⟩ := getElem?_rects.mp hb
  have hmono := offset_mono ht.gap ht.widths (show i + 1 ≤ j from hij)
  rw [offset_succ hw] at hmono
  change t.origin + offset t.gap t.widths i + w + t.gap ≤ t.origin + offset t.gap t.widths j
  linarith

theorem right_le (hij : i < j) (ha : t.rects[i]? = some a) (hb : t.rects[j]? = some b) :
    a.right ≤ b.x := by
  have hapart := ht.apart hij ha hb
  have hgap := ht.gap
  linarith

theorem x_mono (hij : i ≤ j) (ha : t.rects[i]? = some a) (hb : t.rects[j]? = some b) :
    a.x ≤ b.x := by
  rcases hij.eq_or_lt with rfl | hlt
  · obtain rfl := Option.some.inj (ha.symm.trans hb)
    exact le_rfl
  · have hright := ht.right_le hlt ha hb
    have hwidth := ht.width_nonneg ha
    change a.x + a.width ≤ b.x at hright
    linarith

theorem right_mono (hij : i ≤ j) (ha : t.rects[i]? = some a) (hb : t.rects[j]? = some b) :
    a.right ≤ b.right := by
  rcases hij.eq_or_lt with rfl | hlt
  · obtain rfl := Option.some.inj (ha.symm.trans hb)
    exact le_rfl
  · have hright := ht.right_le hlt ha hb
    have hwidth := ht.width_nonneg hb
    change a.right ≤ b.x + b.width
    linarith

/-- All items lie between the start of the first one and the end of the last one. -/
theorem bounds (ha : t.rects[i]? = some a) : t.origin ≤ a.x ∧ a.right ≤ t.origin + t.reach := by
  obtain ⟨w, hw, rfl⟩ := getElem?_rects.mp ha
  have hlt : i < t.widths.length := (List.getElem?_eq_some_iff.mp hw).1
  have hfirst := offset_mono ht.gap ht.widths (Nat.zero_le i)
  rw [offset_zero] at hfirst
  have hlast := offset_mono ht.gap ht.widths (show i + 1 ≤ t.widths.length from hlt)
  rw [offset_succ hw] at hlast
  constructor
  · change t.origin ≤ t.origin + offset t.gap t.widths i
    linarith
  · change t.origin + offset t.gap t.widths i + w ≤ t.origin + t.reach
    rw [reach]
    linarith

end Proper

end Strip

end Widgetry
