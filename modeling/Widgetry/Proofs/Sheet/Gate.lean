import Widgetry.Proofs.Geometry.Exact
import Widgetry.Sheet.Library
import Widgetry.Sheet.Document

/-! What a style sheet is checked for. A length that is NaN is refused like a negative one; the
insets and the extents of a badge are compared only, and a comparison with NaN finds nothing. -/
namespace Widgetry

namespace Binary

variable {f : Format} {x y : Binary f}

theorem isNaN_of_le (h : x ≤ y) : x.isNaN = false ∧ y.isNaN = false := by
  change (x.lt y || x.eq y) = true at h
  rcases x with _ | s | ⟨s, a, ha⟩ <;> rcases y with _ | t | ⟨t, b, hb⟩
  all_goals simp_all [lt, eq, isNaN]

theorem not_lt_iff : ¬x < y ↔ x.isNaN = true ∨ y.isNaN = true ∨ y ≤ x := by
  change ¬x.lt y = true ↔ _ ∨ _ ∨ (y.lt x || y.eq x) = true
  rcases x with _ | s | ⟨s, a, ha⟩ <;> rcases y with _ | t | ⟨t, b, hb⟩
  all_goals simp [lt, eq, isNaN]
  · cases s <;> cases t <;> decide
  · omega

theorem not_le_iff : ¬x ≤ y ↔ x.isNaN = true ∨ y.isNaN = true ∨ y < x := by
  constructor
  · intro h
    by_contra hc
    rw [not_or, not_or, not_lt_iff] at hc
    grind
  · rintro (hx | hy | hlt) hle
    · exact Bool.false_ne_true ((isNaN_of_le hle).1.symm.trans hx)
    · exact Bool.false_ne_true ((isNaN_of_le hle).2.symm.trans hy)
    · exact not_lt_iff.mpr (.inr (.inr hle)) hlt

end Binary

section Checks

variable {α : Type} [Scalar α]

/-- A check that gives nothing, and what follows it. -/
theorem Validate.seq_eq_ok {β : Type} {check : Except Error Unit} {rest : Except Error β} {b : β} :
    (check >>= fun _ => rest) = .ok b ↔ check = .ok () ∧ rest = .ok b := by
  rw [Validate.bind_eq_ok]
  exact ⟨fun ⟨_, hcheck, hrest⟩ => ⟨hcheck, hrest⟩, fun ⟨hcheck, hrest⟩ => ⟨_, hcheck, hrest⟩⟩

theorem Validate.guard_eq_ok {β : Type} {p : Prop} [Decidable p] {e : Error} {rest : Except Error β}
    {b : β} : (if p then throw e else rest) = .ok b ↔ ¬p ∧ rest = .ok b := by
  by_cases hp : p
  · rw [if_pos hp]
    exact ⟨nofun, fun h => (h.1 hp).elim⟩
  · rw [if_neg hp]
    exact (and_iff_right hp).symm

/-- A check that fails, before what follows it. -/
theorem Validate.require_eq_ok {β γ : Type} {p : Prop} [Decidable p] {e : Error}
    {after : γ → Except Error β} {rest : Except Error β} {b : β} :
    (if p then (throw e >>= after) else rest) = .ok b ↔ ¬p ∧ rest = .ok b :=
  Validate.guard_eq_ok

theorem Validate.all_eq_ok {β : Type} {check : β → Except Error Unit} {bs : List β} :
    bs.forM check = .ok () ↔ ∀ b ∈ bs, check b = .ok () := by
  induction bs with
  | nil => exact iff_of_true rfl nofun
  | cons b bs ih =>
    rw [List.forall_mem_cons, ← ih]
    exact Validate.seq_eq_ok

theorem Validate.accepts_eq_ok {p : Prop} [Decidable p] {e : Error} :
    (if p then .ok () else .error e : Except Error Unit) = .ok () ↔ p := by
  by_cases hp : p
  · rw [if_pos hp]
    exact iff_of_true rfl hp
  · rw [if_neg hp]
    exact iff_of_false nofun hp

theorem Validate.lengths_eq_ok {lengths : List (α × String)} : nonNegative lengths = .ok () ↔
    ∀ x ∈ lengths.map Prod.fst, Scalar.isNaN x = false ∧ ¬x < 0 := by
  induction lengths with
  | nil => exact iff_of_true rfl nofun
  | cons length rest ih =>
    rw [nonNegative, List.map_cons, List.forall_mem_cons, ← ih, ← Bool.not_eq_true, ← not_or]
    exact Validate.guard_eq_ok

theorem Validate.colors_eq_ok {colors : List (Color α)} :
    Validate.colors colors = .ok () ↔ ∀ c ∈ colors, c.validate = .ok () := by
  induction colors with
  | nil => exact iff_of_true rfl nofun
  | cons color rest ih =>
    rw [Validate.colors, List.forall_mem_cons, ← ih]
    rcases color.validate with e | _
    · exact iff_of_false nofun nofun
    · exact (and_iff_right rfl).symm

theorem Color.validate_eq_ok {c : Color α} :
    c.validate = .ok () ↔ InUnit c.r ∧ InUnit c.g ∧ InUnit c.b ∧ InUnit c.a :=
  Validate.accepts_eq_ok

/-- A text style that is checked, its colour aside. -/
def TextStyle.Sized (t : TextStyle α) : Prop := 0 < t.sizePx ∧ 100 ≤ t.weight ∧ t.weight ≤ 900

theorem TextStyle.validate_eq_ok {t : TextStyle α} :
    t.validate false = .ok () ↔ t.Sized ∧ t.color.validate = .ok () := by
  rw [TextStyle.validate, if_neg fun h => Bool.false_ne_true h.1, TextStyle.Sized]
  refine Validate.guard_eq_ok.trans ((and_congr_right' Validate.guard_eq_ok).trans ?_)
  rw [← and_assoc, not_le, not_or, not_lt, not_lt]

def Edges.sides (e : Edges α) : List α := [e.left, e.top, e.right, e.bottom]

theorem Edges.validate_eq_ok {e : Edges α} : e.validate = .ok () ↔ ∀ x ∈ e.sides, ¬x < 0 := by
  refine Validate.guard_eq_ok.trans ?_
  simp [Edges.sides]

namespace StyleSheet

/-- The numbers of tabs, segments and tooltips, insets apart. -/
def lengths (s : StyleSheet α) : List α :=
  [s.tabs.spacing, s.tabs.minWidth, s.tabs.minHeight, s.tabs.paddingX, s.tabs.paddingY,
    s.tabs.indicatorThickness, s.tabs.indicatorCorner, s.tabs.indicatorDuration,
    s.segmented.spacing, s.segmented.minWidth, s.segmented.minHeight, s.segmented.paddingX,
    s.segmented.paddingY, s.segmented.outlineWidth, s.segmented.cornerRadius,
    s.tooltip.minWidth, s.tooltip.minHeight, s.tooltip.maxWidth, s.tooltip.maxHeight,
    s.tooltip.cornerRadius, s.tooltip.anchorGap, s.tooltip.titleBodySpacing]

def insets (s : StyleSheet α) : List α :=
  s.tabs.padding.sides ++ s.segmented.padding.sides ++ s.tooltip.padding.sides

def badgeExtents (s : StyleSheet α) : List α :=
  [s.badge.dotDiameter, s.badge.minWidth, s.badge.height]

/-- A tooltip draws with some of its text styles; the others are not checked. -/
def checkedTexts (s : StyleSheet α) : List (TextStyle α) :=
  [s.tabs.text, s.segmented.text, s.badge.text, s.text] ++ s.tooltip.activeText

def checkedColors (s : StyleSheet α) : List (Color α) :=
  s.checkedTexts.map TextStyle.color ++ s.tabs.colors ++ s.segmented.colors ++
    [s.badge.background, s.badge.textColor, s.tooltip.background]

/-- A limit of zero is none. -/
def Limited (least most : α) : Prop := ¬(0 < most ∧ most < least)

omit [Scalar α] in
theorem lengths_eq (s : StyleSheet α) :
    s.lengths = s.tabs.lengths.map Prod.fst ++ s.segmented.lengths.map Prod.fst ++
      s.tooltip.lengths.map Prod.fst := rfl

theorem validate_eq_ok {s : StyleSheet α} : s.validate = .ok () ↔
    (∀ x ∈ s.lengths, Scalar.isNaN x = false ∧ ¬x < 0) ∧ (∀ x ∈ s.insets, ¬x < 0) ∧
      (∀ x ∈ s.badgeExtents, ¬x ≤ 0) ∧ ¬s.badge.paddingX < 0 ∧
      (∀ t ∈ s.checkedTexts, t.Sized) ∧ (∀ c ∈ s.checkedColors, c.validate = .ok ()) ∧
      Limited s.tooltip.minWidth s.tooltip.maxWidth ∧
      Limited s.tooltip.minHeight s.tooltip.maxHeight := by
  simp only [StyleSheet.validate, TabStyle.validate, SegmentStyle.validate, BadgeStyle.validate,
    TooltipStyle.validate, Validate.seq_eq_ok, Validate.require_eq_ok, Validate.lengths_eq_ok,
    Validate.colors_eq_ok, Validate.all_eq_ok, TextStyle.validate_eq_ok, Edges.validate_eq_ok,
    lengths_eq, insets, badgeExtents, checkedTexts, checkedColors, Limited, not_or,
    List.forall_mem_append, List.forall_mem_map, List.map_append, List.map_cons, List.map_nil,
    List.forall_mem_cons, List.not_mem_nil, IsEmpty.forall_iff, implies_true, and_true, imp_and,
    forall_and]
  tauto

end StyleSheet

end Checks

namespace StyleSheet

variable {s : StyleSheet Binary32} {lib : Toml.Library}

/-- What the numbers of a valid sheet are known to be. -/
structure Gated (s : StyleSheet Binary32) : Prop where
  lengths : ∀ x ∈ s.lengths, x.isNaN = false ∧ 0 ≤ x
  insets : ∀ x ∈ s.insets, x.isNaN = true ∨ 0 ≤ x
  badgeExtents : ∀ x ∈ s.badgeExtents, x.isNaN = true ∨ 0 < x
  badgePadding : s.badge.paddingX.isNaN = true ∨ 0 ≤ s.badge.paddingX
  texts : ∀ t ∈ s.checkedTexts, t.Sized
  colors : ∀ c ∈ s.checkedColors, ∀ u ∈ [c.r, c.g, c.b, c.a], u.isNaN = false ∧ 0 ≤ u ∧ u ≤ 1
  width : Limited s.tooltip.minWidth s.tooltip.maxWidth
  height : Limited s.tooltip.minHeight s.tooltip.maxHeight

theorem zero_not_isNaN : ¬(0 : Binary32).isNaN = true := by decide +kernel

theorem not_negative_iff {x : Binary32} : ¬x < 0 ↔ x.isNaN = true ∨ 0 ≤ x :=
  Binary.not_lt_iff.trans (or_congr_right (or_iff_right zero_not_isNaN))

theorem not_nonpositive_iff {x : Binary32} : ¬x ≤ 0 ↔ x.isNaN = true ∨ 0 < x :=
  Binary.not_le_iff.trans (or_congr_right (or_iff_right zero_not_isNaN))

theorem nonnegative_iff {x : Binary32} :
    Scalar.isNaN x = false ∧ ¬x < 0 ↔ x.isNaN = false ∧ 0 ≤ x := by
  refine and_congr_right fun hx => not_negative_iff.trans (or_iff_right ?_)
  exact fun hnan => Bool.false_ne_true (hx.symm.trans hnan)

theorem channels_iff {c : Color Binary32} : c.validate = .ok () ↔
    ∀ u ∈ [c.r, c.g, c.b, c.a], u.isNaN = false ∧ 0 ≤ u ∧ u ≤ 1 := by
  have hunit (u : Binary32) : Color.InUnit u ↔ u.isNaN = false ∧ 0 ≤ u ∧ u ≤ 1 :=
    ⟨fun h => ⟨(Binary.isNaN_of_le h.1).2, h⟩, And.right⟩
  simp only [Color.validate_eq_ok, hunit, List.forall_mem_cons, List.not_mem_nil,
    IsEmpty.forall_iff, implies_true, and_true]

theorem gated_iff : s.validate = .ok () ↔ s.Gated := by
  rw [validate_eq_ok]
  simp only [nonnegative_iff]
  simp only [not_negative_iff, not_nonpositive_iff, channels_iff]
  constructor
  · rintro ⟨hlengths, hinsets, hextents, hpadding, htexts, hcolors, hwidth, hheight⟩
    exact ⟨hlengths, hinsets, hextents, hpadding, htexts, hcolors, hwidth, hheight⟩
  · rintro ⟨hlengths, hinsets, hextents, hpadding, htexts, hcolors, hwidth, hheight⟩
    exact ⟨hlengths, hinsets, hextents, hpadding, htexts, hcolors, hwidth, hheight⟩

theorem validate_of_ofDocument {document : Toml.Value} (h : ofDocument lib document = .ok s) :
    s.validate = .ok () := by
  unfold ofDocument at h
  split at h
  · exact nomatch h
  · split at h
    next hvalid =>
      obtain rfl := Except.ok.inj h
      exact hvalid
    · exact nomatch h

theorem exists_unfilled_of_ofDocument {document : Toml.Value}
    (h : ofDocument lib document = .ok s) :
    ∃ unfilled, (codec lib.codecs).read document = .ok unfilled ∧ s = unfilled.filled := by
  unfold ofDocument at h
  split at h
  · exact nomatch h
  next unfilled hread =>
    split at h
    · exact ⟨unfilled, hread, (Except.ok.inj h).symm⟩
    · exact nomatch h

theorem exists_document_of_parse {source : String} (h : parse lib source = .ok s) :
    ∃ entries, lib.read source = .ok entries ∧ ofDocument lib (.table entries) = .ok s := by
  unfold parse at h
  split at h
  · exact nomatch h
  next entries hread => exact ⟨entries, hread, h⟩

/-- The numbers that are compared with zero only. -/
def compared (s : StyleSheet Binary32) : List Binary32 :=
  s.insets ++ s.badgeExtents ++ [s.badge.paddingX]

/-- No number is NaN or below what it has to be. -/
structure Sound (s : StyleSheet Binary32) : Prop where
  lengths : ∀ x ∈ s.lengths, x.isNaN = false ∧ 0 ≤ x
  insets : ∀ x ∈ s.insets, x.isNaN = false ∧ 0 ≤ x
  badgeExtents : ∀ x ∈ s.badgeExtents, x.isNaN = false ∧ 0 < x
  badgePadding : s.badge.paddingX.isNaN = false ∧ 0 ≤ s.badge.paddingX
  colors : ∀ c ∈ s.checkedColors, ∀ u ∈ [c.r, c.g, c.b, c.a], u.isNaN = false ∧ 0 ≤ u ∧ u ≤ 1

theorem Gated.sound (h : s.Gated) (hnan : ∀ x ∈ s.compared, x.isNaN = false) : s.Sound := by
  have hresolve {x : Binary32} {p : Prop} (hx : x ∈ s.compared) (h : x.isNaN = true ∨ p) :
      x.isNaN = false ∧ p :=
    ⟨hnan x hx, h.resolve_left (Bool.eq_false_iff.mp (hnan x hx))⟩
  simp only [compared, List.mem_append, List.mem_singleton] at hresolve
  exact {
    lengths := h.lengths
    insets := fun x hx => hresolve (.inl (.inl hx)) (h.insets x hx)
    badgeExtents := fun x hx => hresolve (.inl (.inr hx)) (h.badgeExtents x hx)
    badgePadding := hresolve (.inr rfl) h.badgePadding
    colors := h.colors }

theorem Sound.isNaN (h : s.Sound) : ∀ x ∈ s.compared, x.isNaN = false := by
  simp only [compared, List.mem_append, List.mem_singleton]
  rintro x ((hx | hx) | rfl)
  · exact (h.insets x hx).1
  · exact (h.badgeExtents x hx).1
  · exact h.badgePadding.1

/-- A sheet that was read, whatever library it was read with, has no NaN among its lengths and
colours, but may have one as an inset, as an extent of a badge or as its padding. Where it has none
there, all its numbers are sound. -/
theorem valid_numbers (lib : Toml.Library) (source : String) (s : StyleSheet Binary32)
    (h : parse lib source = .ok s) : s.Gated ∧ (s.Sound ↔ ∀ x ∈ s.compared, x.isNaN = false) := by
  obtain ⟨entries, -, hdocument⟩ := exists_document_of_parse h
  have hgated := gated_iff.mp (validate_of_ofDocument hdocument)
  exact ⟨hgated, Sound.isNaN, hgated.sound⟩

theorem valid_numbers_nanInset : ∃ s, parse .own "[tabs.padding]\nleft = nan\n" = .ok s ∧
    s.tabs.padding.left = .nan ∧ s.Gated ∧ (s.Sound ↔ ∀ x ∈ s.compared, x.isNaN = false) := by
  have hread : (match parse .own "[tabs.padding]\nleft = nan\n" with
      | .ok s => decide (s.tabs.padding.left = .nan)
      | .error _ => false) = true := by decide +kernel
  rcases hparse : parse .own "[tabs.padding]\nleft = nan\n" with e | s
  all_goals rw [hparse] at hread
  · exact nomatch hread
  · exact ⟨s, rfl, of_decide_eq_true hread, valid_numbers .own _ s hparse⟩

/-- The height of a badge is to be above zero, and NaN is not. -/
theorem nan_height_accepted : ∃ s, parse .own "[badge]\nheight = nan\n" = .ok s ∧
    s.badge.height.isNaN = true ∧ ¬0 < s.badge.height := by
  have hread : (match parse .own "[badge]\nheight = nan\n" with
      | .ok s => decide (s.badge.height.isNaN = true ∧ ¬0 < s.badge.height)
      | .error _ => false) = true := by decide +kernel
  rcases hparse : parse .own "[badge]\nheight = nan\n" with e | s
  all_goals rw [hparse] at hread
  · exact nomatch hread
  · exact ⟨s, rfl, of_decide_eq_true hread⟩

end StyleSheet

end Widgetry
