import Widgetry.Proofs.Geometry.Searches

/-! Items that tile a row in exact arithmetic. Each starts the gap behind the one before it, and the
first start and the last end are those of the whole row, so no two of them overlap. All lie in one
band. -/
namespace Widgetry

/-- No point is inside both. -/
def Rect.Apart (a b : Rect Rat) : Prop := ∀ x y, a.Surrounds x y → ¬b.Surrounds x y

theorem Rect.apart_of_right_le {a b : Rect Rat} (h : a.right ≤ b.x) : a.Apart b := by
  intro x y ha hb
  have hright := ha.right
  have hleft := hb.left
  linarith

/-- Rectangles from left to right that start at `start`, leave `gap` between any two neighbours and
end `length` further on. -/
structure Tiles (start gap length : Rat) (rects : List (Rect Rat)) : Prop where
  first : ∀ a, rects.head? = some a → a.x = start
  next : ∀ (i : Nat) a b, rects[i]? = some a → rects[i + 1]? = some b → b.x = a.right + gap
  last : ∀ a, rects.getLast? = some a → a.right = start + length
  apart : rects.Pairwise Rect.Apart

/-- Rectangles in one band, in the middle of the room for it. -/
structure Banded (room : Rect Rat) (band : Band Rat) (rects : List (Rect Rat)) : Prop where
  amid : band.Amid room
  shared : ∀ a ∈ rects, a.y = band.startY ∧ a.height = band.height

/-- Rectangles that take up the width of the room and stay in it. -/
structure Fills (room : Rect Rat) (length : Rat) (rects : List (Rect Rat)) : Prop where
  width : length = room.width
  within : ∀ a ∈ rects, a.Within room

namespace Strip

variable {t : Strip} {room a : Rect Rat}

theorem first_x (ha : t.rects.head? = some a) : a.x = t.origin := by
  rw [List.head?_eq_getElem?] at ha
  obtain ⟨w, -, rfl⟩ := getElem?_rects.mp ha
  change t.start 0 = t.origin
  rw [start, offset_zero, add_zero]

/-- The last item ends where the gap that would follow it starts. -/
theorem last_right (ha : t.rects.getLast? = some a) : a.right = t.origin + t.reach := by
  rw [List.getLast?_eq_getElem?, length_rects] at ha
  obtain ⟨w, hw, rfl⟩ := getElem?_rects.mp ha
  have hlt := (List.getElem?_eq_some_iff.mp hw).1
  have hlast : offset t.gap t.widths (t.widths.length - 1 + 1) =
      offset t.gap t.widths (t.widths.length - 1) + w + t.gap := offset_succ hw
  rw [Nat.sub_add_cancel (Nat.one_le_of_lt hlt)] at hlast
  change t.start (t.widths.length - 1) + w = t.origin + t.reach
  rw [start, reach, hlast]
  linarith

theorem Proper.tiles (ht : t.Proper) : Tiles t.origin t.gap t.reach t.rects where
  first _ := first_x
  next _ _ _ := next_x
  last _ := last_right
  apart := by
    rw [List.pairwise_iff_getElem]
    intro i j hi hj hij
    exact Rect.apart_of_right_le
      (ht.right_le hij (List.getElem?_eq_getElem hi) (List.getElem?_eq_getElem hj))

theorem banded (hband : Band.Amid ⟨t.top, t.height⟩ room) :
    Banded room ⟨t.top, t.height⟩ t.rects where
  amid := hband
  shared a ha := by
    obtain ⟨i, ha⟩ := List.mem_iff_getElem?.mp ha
    obtain ⟨w, -, rfl⟩ := getElem?_rects.mp ha
    exact ⟨rfl, rfl⟩

theorem Proper.fills (ht : t.Proper) (hstart : t.origin = room.x) (hreach : t.reach = room.width)
    (hband : Band.Amid ⟨t.top, t.height⟩ room) : Fills room t.reach t.rects := by
  refine ⟨hreach, fun a ha => ?_⟩
  obtain ⟨i, ha⟩ := List.mem_iff_getElem?.mp ha
  obtain ⟨hleft, hright⟩ := ht.bounds ha
  obtain ⟨htop, hbottom⟩ := band ha
  rw [hstart] at hleft
  rw [hstart, hreach] at hright
  refine ⟨hleft, hright, ?_, ?_⟩
  · rw [htop]
    exact hband.top
  · rw [hbottom]
    exact hband.bottom

end Strip

end Widgetry
