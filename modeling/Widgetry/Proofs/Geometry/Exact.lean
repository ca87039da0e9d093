import Mathlib.Tactic.Linarith
import Mathlib.Tactic.NormNum
import Widgetry.RowGeometry
import Widgetry.Validate

/-! Rows in exact arithmetic: checked numbers are not negative, an inset rectangle and its band of
items lie within the bounds, and items of one width fill the space they share. -/
namespace Widgetry

namespace Scalar

@[simp] theorem rat_isNaN (q : Rat) : Scalar.isNaN q = false := rfl

@[simp] theorem rat_ofNat (n : Nat) : (Scalar.ofNat n : Rat) = n := rfl

@[simp] theorem rat_half :
    @OfScientific.ofScientific Rat Scalar.instOfScientific 5 true 1 = 1 / 2 := by
  decide +kernel

end Scalar

/-- Checks that follow one another all pass. -/
theorem Validate.bind_eq_ok {β γ : Type} {e : Except Error β} {f : β → Except Error γ} {c : γ} :
    (e >>= f) = .ok c ↔ ∃ b, e = .ok b ∧ f b = .ok c := by
  cases e with
  | error err => exact ⟨nofun, fun ⟨_, h, _⟩ => nomatch h⟩
  | ok b =>
    constructor
    · intro h
      exact ⟨b, rfl, h⟩
    · rintro ⟨_, ⟨⟩, h⟩
      exact h

theorem Validate.nonNegative_eq_ok {lengths : List (Rat × String)} :
    nonNegative lengths = .ok () ↔ ∀ length ∈ lengths, 0 ≤ length.1 := by
  induction lengths with
  | nil => simp [nonNegative]
  | cons length rest ih =>
    rw [nonNegative, List.forall_mem_cons, Scalar.rat_isNaN]
    split
    next hneg =>
      have hneg : length.1 < 0 := hneg.resolve_left Bool.false_ne_true
      exact ⟨nofun, fun h => (not_le.mpr hneg h.1).elim⟩
    next hneg =>
      have hpos : 0 ≤ length.1 := not_lt.mp fun hneg' => hneg (.inr hneg')
      rw [ih]
      exact ⟨fun h => ⟨hpos, h⟩, And.right⟩

namespace Edges

/-- Edges that push inwards. -/
structure Inward (e : Edges Rat) : Prop where
  left : 0 ≤ e.left
  top : 0 ≤ e.top
  right : 0 ≤ e.right
  bottom : 0 ≤ e.bottom

theorem inward_of_validate {e : Edges Rat} (h : e.validate = .ok ()) : e.Inward := by
  unfold validate at h
  split at h
  · exact nomatch h
  next hneg =>
    obtain ⟨hleft, hneg⟩ := not_or.mp hneg
    obtain ⟨htop, hneg⟩ := not_or.mp hneg
    obtain ⟨hright, hbottom⟩ := not_or.mp hneg
    exact ⟨not_lt.mp hleft, not_lt.mp htop, not_lt.mp hright, not_lt.mp hbottom⟩

end Edges

namespace Rect

section

variable {α : Type} [Scalar α]

/-- A point of the closed rectangle. -/
structure Covers (r : Rect α) (x y : α) : Prop where
  left : r.x ≤ x
  right : x ≤ r.right
  top : r.y ≤ y
  bottom : y ≤ r.bottom

instance (r : Rect α) (x y : α) : Decidable (r.Covers x y) :=
  decidable_of_iff (r.x ≤ x ∧ x ≤ r.right ∧ r.y ≤ y ∧ y ≤ r.bottom)
    ⟨fun ⟨hl, hr, ht, hb⟩ => ⟨hl, hr, ht, hb⟩, fun ⟨hl, hr, ht, hb⟩ => ⟨hl, hr, ht, hb⟩⟩

structure Within (inner outer : Rect α) : Prop where
  left : outer.x ≤ inner.x
  right : inner.right ≤ outer.right
  top : outer.y ≤ inner.y
  bottom : inner.bottom ≤ outer.bottom

end

variable {r inner : Rect Rat} {e : Edges Rat}

/-- What is left inside the insets lies within, and neither of its extents is negative. -/
theorem within_of_inset (he : e.Inward) (h : r.inset e = .ok inner) :
    inner.Within r ∧ 0 ≤ inner.width ∧ 0 ≤ inner.height := by
  unfold inset at h
  dsimp only at h
  split at h
  · exact nomatch h
  next hneg =>
    obtain ⟨hwidth, hheight⟩ := not_or.mp hneg
    obtain rfl := Except.ok.inj h
    obtain ⟨hleft, htop, hright, hbottom⟩ := he
    simp only [Edges.horizontal, Edges.vertical, not_lt] at hwidth hheight
    refine ⟨⟨?_, ?_, ?_, ?_⟩, hwidth, hheight⟩
    all_goals
      simp only [right, bottom, Edges.horizontal, Edges.vertical]
      linarith

end Rect

/-- The band of items lies in the middle of the room for it. -/
structure Band.Amid (band : Band Rat) (room : Rect Rat) : Prop where
  height : 0 < band.height
  top : room.y ≤ band.startY
  bottom : band.startY + band.height ≤ room.bottom
  centred : band.startY - room.y = room.bottom - (band.startY + band.height)

namespace Row

/-- Where a row is laid out: its padding leaves `room`, and its items share `band`. -/
structure Seat (padding : Edges Rat) (bounds : Rect Rat) (count : Nat) (room : Rect Rat)
    (band : Band Rat) : Prop where
  inset : bounds.inset padding = .ok room
  amid : 0 < count → band.Amid room

variable {natural available width spacing : Rat} {count : Nat}

theorem amid_of_fitBand {room : Rect Rat} {band : Band Rat} (hcount : 0 < count)
    (h : fitBand natural room.y room.height count = .ok band) : band.Amid room := by
  unfold fitBand at h
  split at h
  · exact nomatch h
  next hnatural =>
    have hnatural : 0 < natural := not_le.mp hnatural
    split at h
    · exact nomatch h
    next hroom =>
      have hroom : 0 < room.height := not_le.mp fun hle => hroom ⟨hcount, hle⟩
      obtain rfl := Except.ok.inj h
      generalize hheight :
        (if room.height < natural ∧ 0 < room.height then room.height else natural) = height
      have hfits : 0 < height ∧ height ≤ room.height := by
        rw [← hheight]
        split
        · exact ⟨hroom, le_rfl⟩
        next hshort => exact ⟨hnatural, not_lt.mp fun hlt => hshort ⟨hlt, hroom⟩⟩
      -- the slack above the band is half of what the band leaves
      split
      · rw [Scalar.rat_half]
        refine ⟨hfits.1, ?_, ?_, ?_⟩
        all_goals
          simp only [Rect.bottom]
          linarith
      next hfull =>
        have hfull : height = room.height := le_antisymm hfits.2 (not_lt.mp hfull)
        subst hfull
        change Band.Amid ⟨room.y + 0, room.height⟩ room
        rw [add_zero]
        refine ⟨hroom, le_rfl, le_rfl, ?_⟩
        rw [Rect.bottom, sub_self, sub_self]

theorem runLength_evenWidth (hcount : 0 < count)
    (h : evenWidth available spacing count = .ok width) :
    runLength width spacing count = available := by
  unfold evenWidth at h
  rw [if_neg hcount.ne'] at h
  dsimp only at h
  split at h
  · exact nomatch h
  split at h
  · exact nomatch h
  obtain rfl := Except.ok.inj h
  have hn : (Scalar.ofNat count : Rat) ≠ 0 := by
    rw [Scalar.rat_ofNat]
    exact_mod_cast hcount.ne'
  rw [runLength, if_neg hcount.ne']
  dsimp only
  rw [div_mul_cancel₀ _ hn]
  linarith

theorem nonneg_of_evenWidth (h : evenWidth available spacing count = .ok width) : 0 ≤ width := by
  unfold evenWidth at h
  split at h
  · obtain rfl := Except.ok.inj h
    exact le_rfl
  dsimp only at h
  split at h
  · exact nomatch h
  split at h
  · exact nomatch h
  next hneg =>
    obtain rfl := Except.ok.inj h
    exact not_lt.mp hneg

/-- A padded extent is at least its minimum. -/
theorem minimum_le_padded (content padding minimum : Rat) :
    minimum ≤ padded content padding minimum := le_max_right _ _

end Row

end Widgetry
