import Widgetry.Proofs.Binary.Sign
import Widgetry.Proofs.Host.Yields
import Widgetry.Proofs.Range
import Widgetry.Proofs.Tabs.Offset
import Widgetry.Tabs.Layout

/-! Geometry that is checked for being negative and never is. Labels may measure as they like: what
is made of them is at least a minimum, and the rest is sums and products. -/
namespace Widgetry

/-- Errors that tab geometry has a check for and never ends in. -/
inductive Phantom : Error → Prop
  | itemWidth : Phantom (.range .itemWidth)
  | tabContentWidth : Phantom (.range .tabContentWidth)
  | indicatorGeometry : Phantom (.range .indicatorGeometry)
  | tabRectangle : Phantom (.range .tabRectangle)
  | scrollOffset : Phantom (.range .scrollOffset)

section Checks

variable {α σ : Type} [Scalar α]

theorem Validate.avoids_nonNegative (lengths : List (α × String)) :
    Avoids Phantom (nonNegative lengths) := by
  induction lengths with
  | nil => exact .ok ()
  | cons length rest ih => exact .ite (fun _ => .error nofun) fun _ => ih

theorem Color.avoids_validate (c : Color α) : Avoids Phantom c.validate :=
  .ite (fun _ => .ok ()) fun _ => .error nofun

theorem Validate.avoids_colors (colors : List (Color α)) :
    Avoids Phantom (Validate.colors colors) := by
  induction colors with
  | nil => exact .ok ()
  | cons color rest ih =>
    rw [Validate.colors]
    cases hc : color.validate with
    | ok => exact ih
    | error e => exact .error (color.avoids_validate e hc)

theorem TextStyle.avoids_validate (s : TextStyle α) (requireFamily : Bool) :
    Avoids Phantom (s.validate requireFamily) :=
  .ite (fun _ => .error nofun) fun _ => .ite (fun _ => .error nofun) fun _ =>
    .ite (fun _ => .error nofun) fun _ => s.color.avoids_validate

theorem Edges.avoids_validate (e : Edges α) : Avoids Phantom e.validate :=
  .ite (fun _ => .error nofun) fun _ => .ok ()

theorem TabStyle.avoids_validate (s : TabStyle α) (requireFamily : Bool) :
    Avoids Phantom (s.validate requireFamily) :=
  (Validate.avoids_nonNegative _).bind fun _ => s.padding.avoids_validate.bind fun _ =>
    (s.text.avoids_validate requireFamily).bind fun _ => Validate.avoids_colors _

theorem MeasureSpec.avoids_validate (spec : MeasureSpec α) : Avoids Phantom spec.validate := by
  cases spec with
  | unspecified => exact .ok ()
  | exactly size => exact .ite (fun _ => .error nofun) fun _ => .ok ()
  | atMost size => exact .ite (fun _ => .error nofun) fun _ => .ok ()

theorem Rect.avoids_validate (r : Rect α) : Avoids Phantom r.validate :=
  .ite (fun _ => .error nofun) fun _ => .ok ()

theorem Rect.avoids_inset (r : Rect α) (e : Edges α) : Avoids Phantom (r.inset e) :=
  .ite (fun _ => .error nofun) fun _ => .ok _

theorem Row.avoids_fitBand (natural top available : α) (count : Nat) :
    Avoids Phantom (fitBand natural top available count) :=
  .ite (fun _ => .error nofun) fun _ => .ite (fun _ => .error nofun) fun _ => .ok _

theorem Row.avoids_uniformHit (pos width spacing : α) (count : Nat) :
    Avoids Phantom (uniformHit pos width spacing count) :=
  .ite (fun _ => .error nofun) fun _ => .ite (fun _ => .ok _) fun _ =>
    .ite (fun _ => .ok _) fun _ => .ite (fun _ => .ok _) fun _ => .ok _

/-- A selection that fits is refused nowhere. -/
theorem Validate.avoids_selection_of {bad : Error → Prop} {index : Option Nat} {count : Nat}
    (hi : bad (.range .selectedIndex) → Fits count index) : Avoids bad (selection index count) := by
  by_cases hb : bad (.range .selectedIndex)
  · rw [selection_eq_ok (hi hb)]
    exact .ok ()
  · cases index with
    | none => exact .ok ()
    | some i => exact .ite (fun _ => .ok ()) fun _ => .error hb

omit [Scalar α] in
theorem OwnedFont.avoids_handle {bad : Error → Prop} {font : OwnedFont}
    (hf : bad (.state .fontReleased) → font.isLive) : Avoids bad font.handle := by
  obtain ⟨_ | handle⟩ := font
  · exact .error fun hb => Bool.false_ne_true (hf hb)
  · exact .ok _

omit [Scalar α] in
theorem OwnedFont.avoids_measurer [TextHost α σ] {bad : Error → Prop} {font : OwnedFont}
    (hf : bad (.state .fontReleased) → font.isLive) :
    Avoids bad (font.measurer : Except Error (Measurer α σ)) := by
  obtain ⟨_ | handle⟩ := font
  · exact .error fun hb => Bool.false_ne_true (hf hb)
  · exact .ok _

theorem TabLayout.avoids_clampScroll {bad : Error → Prop} (l : TabLayout α) {offset : α}
    (ho : Admissible offset) : Avoids bad (l.clampScroll offset) := by
  rw [clampScroll, if_neg ho]
  cases l.mode with
  | fixed => exact .ok _
  | scrollable => exact .ok _

end Checks

namespace Row

variable {width spacing : Binary32}

theorem nonNeg_padded (content padding : Binary32) {minimum : Binary32}
    (hm : Admissible minimum) : (padded content padding minimum).NonNeg :=
  Binary.nonNeg_max (not_lt_zero_iff.mp fun h => hm (.inr h)) fun h => hm (.inl h)

theorem nonNeg_runLength (hw : width.NonNeg) (hs : spacing.NonNeg) (count : Nat) :
    (runLength width spacing count).NonNeg := by
  rw [runLength]
  split
  · exact nonNeg_zero
  next hc => exact (hw.mul (nonNeg_count count)).add (hs.mul (nonNeg_gaps hc))

/-- Room for the gaps is room for the items. -/
theorem avoids_evenWidth (available spacing : Binary32) (count : Nat) :
    Avoids Phantom (evenWidth available spacing count) := by
  refine .ite (fun _ => .ok _) fun _ => .ite (fun _ => .error nofun) fun hroom => ?_
  refine .ite (fun hneg => ?_) fun _ => .ok _
  exact (not_lt_zero_iff.mpr (nonNeg_div_count (Binary.nonNeg_sub hroom) count) hneg).elim

theorem nonNeg_evenWidth {available : Binary32} {count : Nat}
    (h : evenWidth available spacing count = .ok width) : width.NonNeg := by
  unfold evenWidth at h
  split at h
  · obtain rfl := Except.ok.inj h
    exact nonNeg_zero
  dsimp only at h
  split at h
  · exact nomatch h
  split at h
  · exact nomatch h
  next hneg =>
    obtain rfl := Except.ok.inj h
    exact not_lt_zero_iff.mp hneg

/-- A band has no negative height. -/
theorem fitBand_height {natural top available : Binary32} {count : Nat} {band : Band Binary32}
    (h : fitBand natural top available count = .ok band) : ¬band.height < 0 := by
  unfold fitBand at h
  split at h
  · exact nomatch h
  next hnatural =>
    split at h
    · exact nomatch h
    · obtain rfl := Except.ok.inj h
      dsimp only
      split
      next hroom => exact Binary.lt_asymm hroom.2
      · exact fun hneg => hnatural (Binary.le_of_lt hneg)

end Row

/-- Labels are measured, and nothing else is asked for. -/
theorem LabelExtents.yields_measure {α σ : Type} [Scalar α] {bad : Error → Prop} {inv : σ → Prop}
    {measurer : Measurer α σ} (hm : ∀ text, Yields bad inv (fun _ => True) (measurer text))
    (items : List String) : Yields bad inv (fun _ => True) (measure measurer items) := by
  have hgo (e : LabelExtents α) : Yields bad inv (fun _ => True) (measure.go measurer e items) := by
    induction items generalizing e with
    | nil => exact .pure trivial
    | cons item rest ih =>
      unfold measure.go
      exact .ite (fun _ => ih e) fun _ => (hm item).bind fun m _ => ih (e.join m)
  exact hgo .zero

/-- The numbers of a style that a layout is computed from are not negative. -/
structure TabStyle.NonNeg (s : TabStyle Binary32) : Prop where
  spacing : s.spacing.NonNeg
  minWidth : Admissible s.minWidth
  minHeight : s.minHeight.NonNeg
  indicatorDuration : s.indicatorDuration.NonNeg

theorem TabStyle.nonNeg_of_validate {s : TabStyle Binary32} {requireFamily : Bool}
    (h : s.validate requireFamily = .ok ()) : s.NonNeg := by
  obtain ⟨_, hlengths, -⟩ := Validate.bind_eq_ok.mp h
  have hlengths := Validate.lengths_eq_ok.mp hlengths
  have hmin := hlengths s.minWidth (by simp [lengths])
  refine ⟨?_, ?_, ?_, ?_⟩
  · exact not_lt_zero_iff.mp (hlengths s.spacing (by simp [lengths])).2
  · rw [Admissible, hmin.1]
    exact fun h => h.elim Bool.false_ne_true hmin.2
  · exact not_lt_zero_iff.mp (hlengths s.minHeight (by simp [lengths])).2
  · exact not_lt_zero_iff.mp (hlengths s.indicatorDuration (by simp [lengths])).2

/-- The extents of a layout are not negative. -/
structure TabLayout.NonNeg (l : TabLayout Binary32) : Prop where
  tabWidth : l.tabWidth.NonNeg
  tabHeight : l.tabHeight.NonNeg
  spacing : l.spacing.NonNeg

theorem TabLayout.NonNeg.fixedOffset {l : TabLayout Binary32} (hl : l.NonNeg) (index : Nat) :
    (l.fixedOffset index).NonNeg := (hl.tabWidth.add hl.spacing).mul (nonNeg_count index)

theorem TabLayout.nonNeg_unplaced {s : TabStyle Binary32} (hs : s.NonNeg) :
    (unplaced s).NonNeg := ⟨nonNeg_zero, hs.minHeight, hs.spacing⟩

namespace TabStyle

variable {σ : Type} {bad : Error → Prop} {inv : σ → Prop} {measurer : Measurer Binary32 σ}
  {s : TabStyle Binary32} {l : TabLayout Binary32}

section Measured

variable (hm : ∀ text, Yields bad inv (fun _ => True) (measurer text))
include hm

theorem yields_itemWidth (hs : s.NonNeg) (item : String) :
    Yields bad inv Binary.NonNeg (s.itemWidth measurer item) := by
  have hlabel : Yields bad inv (fun _ => True) (Row.labelMetrics measurer item) :=
    .ite (fun _ => .pure trivial) fun _ => hm item
  exact hlabel.bind fun _ _ => .pure (Row.nonNeg_padded _ _ hs.minWidth)

theorem yields_scrollableRun (hs : s.NonNeg) (items : List String) {total : Binary32}
    (ht : total.NonNeg) :
    Yields bad inv Binary.NonNeg (s.scrollableRun measurer total items) := by
  induction items generalizing total with
  | nil => exact .pure ht
  | cons item rest ih =>
    cases rest with
    | nil => exact (yields_itemWidth hm hs item).bind fun w hw => .pure (ht.add hw)
    | cons next rest =>
      exact (yields_itemWidth hm hs item).bind fun w hw => ih ((ht.add hw).add hs.spacing)

theorem yields_scrollableOffset (hs : s.NonNeg) (items : List String) {offset : Binary32}
    (ho : offset.NonNeg) :
    Yields bad inv Binary.NonNeg (s.scrollableOffset measurer offset items) := by
  induction items generalizing offset with
  | nil => exact .pure ho
  | cons item rest ih =>
    exact (yields_itemWidth hm hs item).bind fun w hw => ih (ho.add (hw.add hs.spacing))

theorem yields_itemSpan (hs : s.NonNeg) (hl : l.NonNeg) (items : List String) (index : Nat)
    (item : String) :
    Yields bad inv (fun span => span.1.NonNeg ∧ span.2.NonNeg)
      (s.itemSpan measurer items l index item) := by
  unfold itemSpan
  split
  · exact .pure ⟨hl.fixedOffset index, hl.tabWidth⟩
  · refine (yields_scrollableOffset hm hs _ nonNeg_zero).bind fun start hstart => ?_
    exact (yields_itemWidth hm hs item).bind fun width hwidth => .pure ⟨hstart, hwidth⟩

theorem averts_indicatorTarget (hs : s.NonNeg) (hl : l.NonNeg) {items : List String}
    {selected : Option Nat} (hi : bad (.range .selectedIndex) → Fits items.length selected) :
    Yields bad inv (fun _ => True) (s.indicatorTarget measurer items l selected) := by
  unfold indicatorTarget
  cases selected with
  | none => exact .pure trivial
  | some index =>
    dsimp only
    split
    next hnone =>
      refine .throw fun hb => ?_
      exact Nat.not_lt.mpr (List.getElem?_eq_none_iff.mp hnone) (hi hb).lt
    · refine (yields_itemSpan hm hs hl items index _).bind fun span hspan => ?_
      refine .ite (fun hneg => ?_) fun _ => .pure trivial
      exact (hneg.elim (not_lt_zero_iff.mpr hspan.1) (not_lt_zero_iff.mpr hspan.2)).elim

theorem averts_itemRect (hs : s.NonNeg) (hl : l.NonNeg) {items : List String} {index : Nat}
    (hi : bad (.range .tabIndex) → index < items.length) (scroll : Binary32) :
    Yields bad inv (fun _ => True) (s.itemRect measurer items l index scroll) := by
  unfold itemRect
  split
  next hnone =>
    refine .throw fun hb => ?_
    exact Nat.not_lt.mpr (List.getElem?_eq_none_iff.mp hnone) (hi hb)
  · refine (yields_itemSpan hm hs hl items index _).bind fun span hspan => ?_
    refine .ite (fun hneg => ?_) fun _ => .pure trivial
    exact (hneg.elim (not_lt_zero_iff.mpr hspan.2) (not_lt_zero_iff.mpr hl.tabHeight)).elim

theorem averts_walk (hs : s.NonNeg) (index : Nat) (pos : Binary32) (items : List String) :
    Yields bad inv (fun _ => True) (s.walk measurer l index pos items) := by
  induction items generalizing index pos with
  | nil => exact .pure trivial
  | cons item rest ih =>
    refine (yields_itemWidth hm hs item).bind fun width _ => ?_
    refine .ite (fun _ => .pure trivial) fun _ => .ite (fun _ => .pure trivial) fun _ => ?_
    exact .ite (fun _ => .pure trivial) fun _ => ih _ _

end Measured

section Checked

variable (hbad : ∀ e, bad e → Phantom e)
  (hm : ∀ text, Yields bad inv (fun _ => True) (measurer text))
include hbad hm

theorem yields_widths (hs : s.NonNeg) (items : List String) (available : Binary32) :
    Yields bad inv (fun w => w.1.NonNeg ∧ w.2.NonNeg)
      (s.widths measurer items available) := by
  unfold widths
  split
  · refine .check_bind ((Row.avoids_evenWidth _ _ _).mono hbad) fun width hwidth => ?_
    have hwidth := Row.nonNeg_evenWidth hwidth
    exact .pure ⟨hwidth, Row.nonNeg_runLength hwidth hs.spacing _⟩
  · refine (yields_scrollableRun hm hs items nonNeg_zero).bind fun run hrun => ?_
    exact .pure ⟨nonNeg_zero, hrun⟩

theorem yields_computeLayout (items : List String) (bounds : Rect Binary32) :
    Yields bad inv TabLayout.NonNeg (s.computeLayout measurer items bounds) := by
  refine .check_bind ((s.avoids_validate false).mono hbad) fun _ hvalid => ?_
  have hs := nonNeg_of_validate hvalid
  refine .check_bind (bounds.avoids_validate.mono hbad) fun _ _ => ?_
  refine .check_bind ((bounds.avoids_inset _).mono hbad) fun available _ => ?_
  refine (LabelExtents.yields_measure hm items).bind fun extents _ => ?_
  refine .check_bind ((Row.avoids_fitBand _ _ _ _).mono hbad) fun band hband => ?_
  refine (yields_widths hbad hm hs items available.width).bind ?_
  rintro ⟨tabWidth, contentWidth⟩ ⟨hwidth, hcontent⟩
  refine .ite (fun hneg => (not_lt_zero_iff.mpr hcontent hneg).elim) fun _ => .pure ?_
  exact ⟨hwidth, not_lt_zero_iff.mp (Row.fitBand_height hband), hs.spacing⟩

theorem averts_hitTest (hs : s.NonNeg) (items : List String) (x y scroll : Binary32) :
    Yields bad inv (fun _ => True) (s.hitTest measurer items l x y scroll) := by
  unfold hitTest
  refine .ite (fun _ => .pure trivial) fun _ => .ite (fun _ => .pure trivial) fun _ => ?_
  split
  · refine .ite (fun _ => .pure trivial) fun _ => ?_
    exact .check ((Row.avoids_uniformHit _ _ _ _).mono hbad) fun _ _ => trivial
  · exact .ite (fun _ => .pure trivial) fun _ => averts_walk hm hs 0 _ items

theorem averts_measureContent (items : List String) :
    Yields bad inv (fun _ => True) (s.measureContent measurer items) := by
  refine .check_bind ((s.avoids_validate false).mono hbad) fun _ hvalid => ?_
  refine (LabelExtents.yields_measure hm items).bind fun extents _ => ?_
  dsimp only
  split
  · exact .pure trivial
  · refine (yields_scrollableRun hm (nonNeg_of_validate hvalid) items nonNeg_zero).bind ?_
    exact fun _ _ => .pure trivial

end Checked

end TabStyle

end Widgetry
