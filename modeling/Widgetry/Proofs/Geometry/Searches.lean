import Widgetry.Proofs.Geometry.Strip

/-! Searches for the item at a point, in exact arithmetic. Both find the items that cover the point.
They differ where an edge of one item touches another or a gap: dividing by the stride favours the
item that starts there, walking along the items the one that ends there. -/
namespace Widgetry

namespace Rect

/-- A point inside, off the edges. -/
structure Surrounds (r : Rect Rat) (x y : Rat) : Prop where
  left : r.x < x
  right : x < r.right
  top : r.y < y
  bottom : y < r.bottom

theorem Surrounds.covers {r : Rect Rat} {x y : Rat} (h : r.Surrounds x y) : r.Covers x y :=
  ⟨h.left.le, h.right.le, h.top.le, h.bottom.le⟩

end Rect

/-- The answer of a search at a point is the item there: one that covers the point, the one that
surrounds it, and none above, below, left or right of the items or between two of them. -/
structure Inverts (rects : List (Rect Rat)) (x y : Rat) (r : Except Error (Option Nat)) : Prop where
  sound : ∀ i, r = .ok (some i) → ∃ rect, rects[i]? = some rect ∧ rect.Covers x y
  inside : ∀ (i : Nat) rect, rects[i]? = some rect → rect.Surrounds x y → r = .ok (some i)
  beyond : (∀ rect ∈ rects, y < rect.y ∨ rect.bottom < y) → r = .ok none
  before : ∀ rect, rects.head? = some rect → x < rect.x → r = .ok none
  after : ∀ rect, rects.getLast? = some rect → rect.right < x → r = .ok none
  between : ∀ (i : Nat) rect next, rects[i]? = some rect → rects[i + 1]? = some next →
    rect.right < x → x < next.x → r = .ok none

/-- By division by the stride, or along the items. -/
inductive Search where
  | stride
  | walk
  deriving DecidableEq

/-- An item from `left` to `right` that covers the point is found, but for an edge. -/
def Search.Takes (gap x : Rat) (i : Nat) (left right : Rat) : Search → Prop
  | stride => gap = 0 → x ≠ right
  | walk => i ≠ 0 → x ≠ left

theorem Search.takes_sub {search : Search} {gap x origin left right : Rat} {i : Nat} :
    search.Takes gap (x - origin) i left right ↔
      search.Takes gap x i (origin + left) (origin + right) := by
  cases search
  all_goals exact imp_congr_right fun _ => not_congr sub_eq_iff_eq_add'

/-- The edges that the search finds no item on. -/
def Search.Loses (gap : Rat) (rects : List (Rect Rat)) (x : Rat) : Search → Prop
  | stride => gap = 0 ∧ ∃ rect, rects.getLast? = some rect ∧ x = rect.right
  | walk => 0 < gap ∧ ∃ (i : Nat) (rect : Rect Rat), rects[i + 1]? = some rect ∧ x = rect.x

/-- On an edge of an item the answer is an item that covers the point, unless the search loses that
edge. -/
def Inclusive (search : Search) (gap : Rat) (rects : List (Rect Rat)) (x y : Rat)
    (r : Except Error (Option Nat)) : Prop :=
  ∀ rect ∈ rects, x = rect.x ∨ x = rect.right → rect.y ≤ y → y ≤ rect.bottom →
    (search.Loses gap rects x → r = .ok none) ∧
      (¬search.Loses gap rects x →
        ∃ i hit, r = .ok (some i) ∧ rects[i]? = some hit ∧ hit.Covers x y)

namespace Strip

variable {t : Strip} {search : Search} {i j : Nat} {a b : Rect Rat} {x y : Rat}
  {r : Except Error (Option Nat)}

/-- At a position measured from the first item, item `i` is found. -/
def Lands (search : Search) (gap : Rat) (widths : List Rat) (pos : Rat) (i : Nat) : Prop :=
  ∃ w, widths[i]? = some w ∧ offset gap widths i ≤ pos ∧ pos ≤ offset gap widths i + w ∧
    search.Takes gap pos i (offset gap widths i) (offset gap widths i + w)

/-- The answer is the item that covers the point and is taken. There is no answer only where an item
of no width covers the point. -/
structure Picks (t : Strip) (search : Search) (x y : Rat) (r : Except Error (Option Nat)) :
    Prop where
  hit : ∀ (i : Nat) a, t.rects[i]? = some a → a.Covers x y → search.Takes t.gap x i a.x a.right →
    r = .ok (some i)
  only : ∀ i, r = .ok (some i) →
    ∃ a, t.rects[i]? = some a ∧ a.Covers x y ∧ search.Takes t.gap x i a.x a.right
  answers : ∀ e, r = .error e →
    ∃ (i : Nat) (a : Rect Rat), t.rects[i]? = some a ∧ a.Covers x y ∧ a.width = 0

namespace Picks

theorem of_lands {found : Option Nat} (htop : t.top ≤ y) (hbottom : y ≤ t.top + t.height)
    (h : ∀ i, found = some i ↔ Lands search t.gap t.widths (x - t.origin) i) :
    t.Picks search x y (.ok found) := by
  refine ⟨fun i a ha hcovers htakes => ?_, fun i hi => ?_, fun _ hr => nomatch hr⟩
  · obtain ⟨w, hw, rfl⟩ := getElem?_rects.mp ha
    have hleft : t.start i ≤ x := hcovers.left
    have hright : x ≤ t.start i + w := hcovers.right
    rw [start, add_assoc] at hright
    refine congrArg Except.ok ((h i).mpr ⟨w, hw, le_sub_iff_add_le'.mpr hleft,
      sub_le_iff_le_add'.mpr hright, ?_⟩)
    rw [Search.takes_sub, ← add_assoc]
    exact htakes
  · obtain ⟨w, hw, hleft, hright, htakes⟩ := (h i).mp (Except.ok.inj hi)
    rw [Search.takes_sub, ← add_assoc] at htakes
    have hright := sub_le_iff_le_add'.mp hright
    rw [← add_assoc] at hright
    exact ⟨_, getElem?_rects.mpr ⟨w, hw, rfl⟩, ⟨le_sub_iff_add_le'.mp hleft, hright, htop, hbottom⟩,
      htakes⟩

/-- Items without a width end where they start, so none that covers the point is taken. -/
theorem of_no_width {e : Error} (hgap : t.gap = 0)
    (hwidth : ∀ (i : Nat) a, t.rects[i]? = some a → a.width = 0) (hb : t.rects[j]? = some b)
    (hcovers : b.Covers x y) : t.Picks .stride x y (.error e) where
  hit i a ha hcovers htakes := by
    have hright : a.right ≤ x := by
      rw [Rect.right, hwidth i a ha, add_zero]
      exact hcovers.left
    exact (htakes hgap (hcovers.right.antisymm hright)).elim
  only _ hr := nomatch hr
  answers _ _ := ⟨j, b, hb, hcovers, hwidth j b hb⟩

theorem of_uncovered (h : ∀ (i : Nat) a, t.rects[i]? = some a → ¬a.Covers x y) :
    t.Picks search x y (.ok none) where
  hit i a ha hcovers := (h i a ha hcovers).elim
  only _ hr := nomatch hr
  answers _ hr := nomatch hr

theorem of_no_items (h : t.widths = []) : t.Picks search x y (.ok none) := by
  refine of_uncovered fun i a ha _ => ?_
  obtain ⟨w, hw, -⟩ := getElem?_rects.mp ha
  rw [h] at hw
  exact nomatch hw

theorem of_outside_band (h : y < t.top ∨ t.top + t.height < y) :
    t.Picks search x y (.ok none) := by
  refine of_uncovered fun i a ha hcovers => ?_
  obtain ⟨htop, hbottom⟩ := band ha
  rcases h with habove | hbelow
  · exact habove.not_ge (htop ▸ hcovers.top)
  · exact hbelow.not_ge (hbottom ▸ hcovers.bottom)

theorem of_outside_run (ht : t.Proper) (h : x < t.origin ∨ t.origin + t.reach < x) :
    t.Picks search x y (.ok none) := by
  refine of_uncovered fun i a ha hcovers => ?_
  obtain ⟨hstart, hend⟩ := ht.bounds ha
  rcases h with hbefore | hafter
  · exact hbefore.not_ge (hstart.trans hcovers.left)
  · exact hafter.not_ge (hcovers.right.trans hend)

theorem none_of_uncovered (hr : t.Picks search x y r)
    (h : ∀ (i : Nat) a, t.rects[i]? = some a → ¬a.Covers x y) : r = .ok none := by
  rcases r with e | _ | i
  · obtain ⟨i, a, ha, hcovers, -⟩ := hr.answers e rfl
    exact (h i a ha hcovers).elim
  · rfl
  · obtain ⟨a, ha, hcovers, -⟩ := hr.only i rfl
    exact (h i a ha hcovers).elim

/-- Where every item has a width, there is an answer. -/
theorem none_of_untaken (hr : t.Picks search x y r)
    (hwidth : ∀ (i : Nat) a, t.rects[i]? = some a → 0 < a.width)
    (h : ∀ (i : Nat) a, t.rects[i]? = some a → a.Covers x y → ¬search.Takes t.gap x i a.x a.right) :
    r = .ok none := by
  rcases r with e | _ | i
  · obtain ⟨i, a, ha, -, hzero⟩ := hr.answers e rfl
    exact ((hwidth i a ha).ne' hzero).elim
  · rfl
  · obtain ⟨a, ha, hcovers, htakes⟩ := hr.only i rfl
    exact (h i a ha hcovers htakes).elim

theorem inverts (ht : t.Proper) (hr : t.Picks search x y r) : Inverts t.rects x y r where
  sound i hi := by
    obtain ⟨a, ha, hcovers, -⟩ := hr.only i hi
    exact ⟨a, ha, hcovers⟩
  inside i a ha hinside := by
    refine hr.hit i a ha hinside.covers ?_
    cases search with
    | stride => exact fun _ => hinside.right.ne
    | walk => exact fun _ => hinside.left.ne'
  beyond h := by
    refine hr.none_of_uncovered fun i a ha hcovers => ?_
    rcases h a (List.mem_of_getElem? ha) with habove | hbelow
    · exact absurd hcovers.top (not_le.mpr habove)
    · exact absurd hcovers.bottom (not_le.mpr hbelow)
  before a ha hx := by
    rw [List.head?_eq_getElem?] at ha
    refine hr.none_of_uncovered fun i b hb hcovers => ?_
    have hmono := ht.x_mono (Nat.zero_le i) ha hb
    exact absurd hcovers.left (not_le.mpr (hx.trans_le hmono))
  after a ha hx := by
    rw [List.getLast?_eq_getElem?] at ha
    refine hr.none_of_uncovered fun i b hb hcovers => ?_
    have hlt := (List.getElem?_eq_some_iff.mp hb).1
    have hmono := ht.right_mono (Nat.le_sub_one_of_lt hlt) hb ha
    exact absurd hcovers.right (not_le.mpr (hmono.trans_lt hx))
  between i a b ha hb hright hx := by
    refine hr.none_of_uncovered fun j c hc hcovers => ?_
    rcases Nat.lt_or_ge i j with hlt | hge
    · have hmono := ht.x_mono (Nat.succ_le_of_lt hlt) hb hc
      exact absurd hcovers.left (not_le.mpr (hx.trans_le hmono))
    · have hmono := ht.right_mono hge hc ha
      exact absurd hcovers.right (not_le.mpr (hmono.trans_lt hright))

end Picks

section Edges

variable (ht : t.Proper) (hwidth : ∀ (i : Nat) a, t.rects[i]? = some a → 0 < a.width)
include ht hwidth

/-- Nothing else that covers the right edge of the last item ends there too, and nothing else that
covers the left edge of a later item starts there, if a gap lies before it. -/
theorem untaken_of_loses (hloses : search.Loses t.gap t.rects x) (ha : t.rects[i]? = some a)
    (hcovers : a.Covers x y) : ¬search.Takes t.gap x i a.x a.right := by
  cases search with
  | stride =>
    obtain ⟨hgap, last, hlast, rfl⟩ := hloses
    rw [List.getLast?_eq_getElem?] at hlast
    have hlt := (List.getElem?_eq_some_iff.mp ha).1
    have hright := hcovers.right
    rcases (Nat.le_sub_one_of_lt hlt).eq_or_lt with rfl | hbefore
    · obtain rfl := Option.some.inj (ha.symm.trans hlast)
      exact fun htakes => htakes hgap rfl
    · have hle := ht.right_le hbefore ha hlast
      have hpos := hwidth _ last hlast
      change last.x + last.width ≤ a.right at hright
      linarith
  | walk =>
    obtain ⟨hgap, j, b, hb, rfl⟩ := hloses
    have hleft := hcovers.left
    have hright := hcovers.right
    rcases lt_trichotomy i (j + 1) with hlt | rfl | hgt
    · have hapart := ht.apart hlt ha hb
      linarith
    · obtain rfl := Option.some.inj (ha.symm.trans hb)
      exact fun htakes => htakes (Nat.succ_ne_zero j) rfl
    · have hle := ht.right_le hgt hb ha
      have hpos := hwidth _ b hb
      change b.x + b.width ≤ a.x at hle
      linarith

/-- Where an item is passed over for its edge, the one that it touches there is taken. -/
theorem taken_of_not_loses (hloses : ¬search.Loses t.gap t.rects x) (ha : t.rects[i]? = some a)
    (hcovers : a.Covers x y) :
    ∃ (j : Nat) (b : Rect Rat),
      t.rects[j]? = some b ∧ b.Covers x y ∧ search.Takes t.gap x j b.x b.right := by
  by_cases htakes : search.Takes t.gap x i a.x a.right
  · exact ⟨i, a, ha, hcovers, htakes⟩
  cases search with
  | stride =>
    obtain ⟨hgap, hx⟩ : t.gap = 0 ∧ x = a.right := by
      simpa only [Search.Takes, Classical.not_imp, not_not] using htakes
    rcases hb : t.rects[i + 1]? with _ | b
    · -- the item is the last one, and its right edge is lost
      have hlast : t.rects.getLast? = some a := by
        have hlt := (List.getElem?_eq_some_iff.mp ha).1
        have hle := List.getElem?_eq_none_iff.mp hb
        rw [List.getLast?_eq_getElem?, ← ha]
        congr 1
        omega
      exact (hloses ⟨hgap, a, hlast, hx⟩).elim
    · have hnext := next_x ha hb
      have hpos := hwidth _ b hb
      rw [hgap, add_zero, ← hx] at hnext
      have hright : x < b.right := by
        change x < b.x + b.width
        linarith
      have htouched := covers_beside ha hb hcovers hnext.le hright.le
      exact ⟨i + 1, b, hb, htouched, fun _ => hright.ne⟩
  | walk =>
    obtain ⟨hi, hx⟩ : i ≠ 0 ∧ x = a.x := by
      simpa only [Search.Takes, Classical.not_imp, not_not] using htakes
    obtain ⟨j, rfl⟩ := Nat.exists_eq_succ_of_ne_zero hi
    have hgap : t.gap = 0 := by
      refine le_antisymm (not_lt.mp fun hgap => ?_) ht.gap
      exact hloses ⟨hgap, j, a, ha, hx⟩
    have hlt := (List.getElem?_eq_some_iff.mp ha).1
    have hb : t.rects[j]? = some t.rects[j] := List.getElem?_eq_getElem (Nat.lt_of_succ_lt hlt)
    generalize t.rects[j] = b at hb
    have hnext := next_x hb ha
    have hpos := hwidth _ b hb
    rw [hgap, add_zero, ← hx] at hnext
    have hleft : b.x < x := by
      change x = b.x + b.width at hnext
      linarith
    have htouched := covers_beside ha hb hcovers hleft.le hnext.le
    exact ⟨j, b, hb, htouched, fun _ => hleft.ne'⟩

theorem Picks.inclusive (hr : t.Picks search x y r) : Inclusive search t.gap t.rects x y r := by
  intro a hmem hedge htop hbottom
  obtain ⟨i, ha⟩ := List.mem_iff_getElem?.mp hmem
  have hpos : a.x ≤ a.right := le_add_of_nonneg_right (hwidth i a ha).le
  have hcovers : a.Covers x y := by
    rcases hedge with rfl | rfl
    · exact ⟨le_rfl, hpos, htop, hbottom⟩
    · exact ⟨hpos, le_rfl, htop, hbottom⟩
  constructor
  · intro hloses
    exact hr.none_of_untaken hwidth fun j b hb => untaken_of_loses ht hwidth hloses hb
  · intro hloses
    obtain ⟨j, b, hb, hcovers, htakes⟩ := taken_of_not_loses ht hwidth hloses ha hcovers
    exact ⟨j, b, hr.hit j b hb hcovers htakes, hb, hcovers⟩

end Edges

end Strip

end Widgetry
