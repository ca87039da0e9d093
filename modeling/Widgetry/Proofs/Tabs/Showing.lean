import Widgetry.Proofs.Host.Paints
import Widgetry.Proofs.Tabs.NonNeg
import Widgetry.Proofs.Tabs.View

/-! Errors in which a row does not end. Where host, channels and listener answer none of certain
errors and the layout of the row ends in none, neither does what the row does with that layout. With
all errors for those, the row cannot fail; with phantoms, no row ever ends in one. -/
namespace Widgetry

variable {σ τ χ β : Type}

/-- What host and channels are asked for when a row shows itself ends in no `bad` error. -/
structure Shows (bad : Error → Prop) (τ χ : Type) [TextHost Binary32 τ] [PaintHost Binary32 τ]
    [Channel Binary32 τ χ] : Prop where
  measureText : ∀ font text,
    Averts bad (TextHost.measureText font text : HostM τ (TextMetrics Binary32))
  drawRect : ∀ r color (corner : Binary32),
    Averts bad (PaintHost.drawRect r color corner : HostM τ _)
  drawText : ∀ font text (x y : Binary32) color,
    Averts bad (PaintHost.drawText font text x y color : HostM τ _)
  begin : ∀ (start target duration : Binary32) easing, duration.NonNeg →
    Averts bad (Channel.begin start target duration easing : Step χ τ _)
  value : Averts bad (Channel.value : Step χ τ Binary32)

/-- So does all else that they are asked for. -/
structure Serves (bad : Error → Prop) (τ χ : Type) [TextHost Binary32 τ] [PaintHost Binary32 τ]
    [Channel Binary32 τ χ] : Prop extends Shows bad τ χ where
  createFont : ∀ style : TextStyle Binary32, style.validate true = .ok () →
    Averts bad (TextHost.createFont style : HostM τ _)
  destroyFont : ∀ font, Averts bad (TextHost.destroyFont (α := Binary32) font : HostM τ _)
  step : ∀ dt : Binary32, Averts bad (Channel.step dt : Step χ τ _)

/-- The layout of such a row ends in no `bad` error. -/
structure TabView.Sound (bad : Error → Prop) (τ : Type) [TextHost Binary32 τ]
    (v : TabView Binary32) : Prop where
  style : v.style.NonNeg
  font : bad (.state .fontReleased) → v.font.isLive
  laid : ∀ measurer : Measurer Binary32 τ, v.font.measurer = .ok measurer →
    Yields bad (fun _ => True) TabLayout.NonNeg (v.style.computeLayout measurer v.items v.bounds)

namespace TabRow

variable {bad : Error → Prop} {v : TabView Binary32} {f : Option (TabListener τ)}

/-- A row of this view and listener whose offset and selection lead to no `bad` error. -/
structure Ready (bad : Error → Prop) (v : TabView Binary32) (f : Option (TabListener τ))
    (row : TabRow Binary32 τ χ) : Prop where
  view : row.view = v
  scroll : Admissible row.scroll
  selected : bad (.range .selectedIndex) → Fits v.items.length row.selected
  told : row.onSelect = f

/-- The step keeps the row ready, ends in no `bad` error, and gives what `P` says. -/
abbrev Smooth (bad : Error → Prop) (v : TabView Binary32) (f : Option (TabListener τ))
    (P : β → Prop) (act : Step (TabRow Binary32 τ χ) τ β) : Prop :=
  Yields bad (fun p => Ready bad v f p.1) P act

theorem smooth_onPosition {act : Step χ τ β} (ha : Averts bad act) :
    Smooth bad v f (fun _ => True) (onPosition act : Step (TabRow Binary32 τ χ) τ β) :=
  Step.yields_zoom (I := Ready bad v f)
    (fun _ _ hr => ⟨hr.view, hr.scroll, hr.selected, hr.told⟩) ha

theorem smooth_onWidth {act : Step χ τ β} (ha : Averts bad act) :
    Smooth bad v f (fun _ => True) (onWidth act : Step (TabRow Binary32 τ χ) τ β) :=
  Step.yields_zoom (I := Ready bad v f)
    (fun _ _ hr => ⟨hr.view, hr.scroll, hr.selected, hr.told⟩) ha

theorem smooth_host {act : HostM τ β} (ha : Averts bad act) :
    Smooth bad v f (fun _ => True) (Step.host act : Step (TabRow Binary32 τ χ) τ β) :=
  Step.yields_host (I := Ready bad v f) ha

end TabRow

variable [TextHost Binary32 τ] [PaintHost Binary32 τ] [Channel Binary32 τ χ]

theorem Shows.measures {bad : Error → Prop} (hs : Shows bad τ χ) {font : OwnedFont}
    {measurer : Measurer Binary32 τ} (hm : font.measurer = .ok measurer) (text : String) :
    Averts bad (measurer text) := by
  obtain ⟨handle, -, rfl⟩ := OwnedFont.measurer_eq_ok.mp hm
  exact hs.measureText handle text

theorem Shows.paints {bad : Error → Prop} (hs : Shows bad τ χ) :
    Paints bad (fun _ : τ => True) fun _ => True :=
  ⟨fun font _ => hs.measureText font, hs.drawRect, fun font _ => hs.drawText font⟩

namespace TabRow

section Paint

variable {bad : Error → Prop} {inv : τ → Prop} {held : FontHandle → Prop}
  (hp : Paints bad inv held) {row : TabRow Binary32 τ χ} {l : TabLayout Binary32}
include hp

omit [Channel Binary32 τ χ] in
theorem yields_paintLabels (hrow : row.style.NonNeg) (hl : l.NonNeg) {font : FontHandle}
    (hf : held font) {index : Nat} {items : List String}
    (hitems : index + items.length = row.items.length) :
    Yields bad inv (fun _ => True) (row.paintLabels font l index items) := by
  induction items generalizing index with
  | nil => exact .pure trivial
  | cons item rest ih =>
    rw [List.length_cons] at hitems
    have hrest : Yields bad inv (fun _ => True) (row.paintLabels font l (index + 1) rest) :=
      ih (by omega)
    refine (TabStyle.averts_itemRect (hp.measureText font hf) hrow hl (fun _ => ?_) _).bind ?_
    · omega
    · intro rect _
      refine .ite (fun _ => hrest) fun _ => ?_
      refine (hp.measureText font hf item).bind fun text _ => ?_
      exact (hp.drawText font hf _ _ _ _).bind fun _ _ => hrest

omit [Channel Binary32 τ χ] in
theorem yields_paintBackground (row : TabRow Binary32 τ χ) :
    Yields bad inv (fun _ => True) row.paintBackground := by
  unfold paintBackground
  split
  · exact hp.drawRect _ _ _
  · exact .pure trivial

omit [Channel Binary32 τ χ] in
theorem yields_paintIndicator (row : TabRow Binary32 τ χ) (l : TabLayout Binary32) :
    Yields bad inv (fun _ => True) (row.paintIndicator l) := by
  unfold paintIndicator
  split
  · exact hp.drawRect _ _ _
  · exact .pure trivial

end Paint

section Shown

variable {bad : Error → Prop} {v : TabView Binary32} {f : Option (TabListener τ)}
  {l : TabLayout Binary32}

variable (hv : v.Sound bad τ) (hs : Shows bad τ χ)
include hv

omit [PaintHost Binary32 τ] [Channel Binary32 τ χ] in
theorem smooth_currentLayout :
    Smooth bad v f TabLayout.NonNeg (currentLayout : Step (TabRow Binary32 τ χ) τ _) := by
  refine Step.yields_self_bind fun row _ hr => ?_
  obtain rfl := hr.view
  refine .check_bind (OwnedFont.avoids_measurer hv.font) fun measurer hm => ?_
  exact Step.yields_host (I := Ready bad row.view f) (hv.laid measurer hm)

include hs

theorem smooth_syncIndicator (hl : l.NonNeg) (animate : Bool) :
    Smooth bad v f (fun _ => True)
      (syncIndicator l animate : Step (TabRow Binary32 τ χ) τ Unit) := by
  refine Step.yields_self_bind fun row _ hr => ?_
  obtain rfl := hr.view
  refine .check_bind (OwnedFont.avoids_measurer hv.font) fun measurer hm => ?_
  refine (smooth_host (TabStyle.averts_indicatorTarget (hs.measures hm) hv.style hl
    hr.selected)).bind fun target _ => ?_
  dsimp only
  split
  all_goals
    refine (smooth_onPosition (hs.begin _ _ _ _ ?_)).bind fun _ _ => ?_
    rotate_left
    refine (smooth_onWidth (hs.begin _ _ _ _ ?_)).bind fun _ _ => ?_
    rotate_left
    refine (smooth_onPosition hs.value).bind fun start _ => ?_
    refine (smooth_onWidth hs.value).bind fun width _ => ?_
    exact Step.yields_update (fun _ _ hr => ⟨hr.view, hr.scroll, hr.selected, hr.told⟩) trivial
  · exact hv.style.indicatorDuration
  · exact hv.style.indicatorDuration
  · exact nonNeg_zero
  · exact nonNeg_zero

theorem smooth_selectOrRollBack (hl : l.NonNeg) {selected : Option Nat}
    (hi : bad (.range .selectedIndex) → Fits v.items.length selected)
    {accept : Step (TabRow Binary32 τ χ) τ Unit} (ha : Smooth bad v f (fun _ => True) accept) :
    Smooth bad v f (fun _ => True) (selectOrRollBack selected l accept) := by
  refine Step.yields_self_bind fun row _ hr => ?_
  refine Yields.bind (Step.yields_update (P := fun _ => True)
    (fun _ _ hr => ⟨hr.view, hr.scroll, hi, hr.told⟩) trivial) fun _ _ => ?_
  refine Yields.tryCatch ((smooth_syncIndicator hv hs hl true).bind fun _ _ => ha) fun e he => ?_
  refine Yields.bind (P := fun _ => True) ?_ fun _ _ => .throw he
  refine Yields.bind (Step.yields_update (P := fun _ => True)
    (fun _ _ hr' => ⟨hr'.view, hr'.scroll, hr.selected, hr'.told⟩) trivial) fun _ _ => ?_
  refine (smooth_syncIndicator hv hs hl false).tryCatch fun _ _ => ?_
  exact Step.yields_update (fun _ _ hr => ⟨hr.view, hr.scroll, hr.selected, hr.told⟩) trivial

theorem smooth_setSelected {selected : Option Nat}
    (hi : bad (.range .selectedIndex) → Fits v.items.length selected) :
    Smooth bad v f (fun _ => True) (setSelected selected : Step (TabRow Binary32 τ χ) τ Unit) := by
  refine Step.yields_self_bind fun row _ hr => ?_
  obtain rfl := hr.view
  refine .check_bind (Validate.avoids_selection_of hi) fun _ _ => ?_
  refine .ite (fun _ => Step.yields_update
    (fun _ _ hr => ⟨hr.view, hr.scroll, hi, hr.told⟩) trivial) fun _ => ?_
  refine (smooth_currentLayout hv).bind fun l hl => ?_
  exact smooth_selectOrRollBack hv hs hl hi (.pure trivial)

omit hs [PaintHost Binary32 τ] [Channel Binary32 τ χ] in
theorem smooth_setScroll {offset : Binary32} (ho : Admissible offset) :
    Smooth bad v f (fun _ => True) (setScroll offset : Step (TabRow Binary32 τ χ) τ Unit) := by
  rw [setScroll, if_neg ho]
  refine Step.yields_self_bind fun row _ hr => ?_
  split
  · exact Step.yields_update
      (fun _ _ hr => ⟨hr.view, HasOffsets.zero, hr.selected, hr.told⟩) trivial
  · refine (smooth_currentLayout hv).bind fun l _ => ?_
    refine .check_bind (l.avoids_clampScroll ho) fun scroll hscroll => ?_
    have hscroll := TabLayout.admissible_of_clampScroll hscroll
    exact Step.yields_update
      (fun _ _ hr => ⟨hr.view, hscroll, hr.selected, hr.told⟩) trivial

theorem smooth_resnap :
    Smooth bad v f (fun _ => True) (resnap : Step (TabRow Binary32 τ χ) τ Unit) := by
  refine (smooth_currentLayout hv).bind fun l hl => ?_
  refine Step.yields_self_bind fun row _ hr => ?_
  refine .check_bind (l.avoids_clampScroll hr.scroll) fun scroll hscroll => ?_
  have hscroll := TabLayout.admissible_of_clampScroll hscroll
  refine (smooth_syncIndicator hv hs hl false).bind fun _ _ => ?_
  exact Step.yields_update (fun _ _ hr => ⟨hr.view, hscroll, hr.selected, hr.told⟩) trivial

theorem smooth_paint :
    Smooth bad v f (fun _ => True) (paint : Step (TabRow Binary32 τ χ) τ Unit) := by
  refine (smooth_currentLayout hv).bind fun l hl => ?_
  refine Step.yields_self_bind fun row _ hr => ?_
  refine .check_bind (l.avoids_clampScroll hr.scroll) fun scroll hscroll => ?_
  have hscroll := TabLayout.admissible_of_clampScroll hscroll
  refine Yields.bind (Step.yields_update (P := fun _ => True)
    (fun _ _ hr => ⟨hr.view, hscroll, hr.selected, hr.told⟩) trivial) fun _ _ => ?_
  refine Step.yields_self_bind fun row _ hr => ?_
  obtain rfl := hr.view
  refine (smooth_host (yields_paintBackground hs.paints row)).bind fun _ _ => ?_
  refine (smooth_host (yields_paintIndicator hs.paints row l)).bind fun _ _ => ?_
  refine .check_bind (OwnedFont.avoids_handle hv.font) fun font _ => ?_
  exact smooth_host (yields_paintLabels hs.paints hv.style hl trivial (Nat.zero_add _))

/-- Laying out in other bounds takes that this ends in no `bad` error either. -/
theorem avoids_layout {bounds : Rect Binary32} (hbounds : Avoids bad bounds.validate)
    (hnew : TabView.Sound bad τ { v with bounds }) {p : TabRow Binary32 τ χ × τ}
    (hp : Ready bad v f p.1) : Ends (layout bounds) p fun r _ => Avoids bad r := by
  rw [TabRow.layout]
  refine .of_check (fun _ _ => ?_) fun e he => .error (hbounds e he)
  rw [ends_bind, Step.ends_self]
  obtain rfl := hp.view
  have hfont : Avoids bad (p.1.font.measurer : Except Error (Measurer Binary32 τ)) :=
    OwnedFont.avoids_measurer hv.font
  refine .of_check (fun measurer hm => ?_) fun e he => .error (hfont e he)
  refine Yields.bind_avoids (Step.yields_host (I := Ready bad p.1.view f) (hnew.laid measurer hm))
    hp fun l q hl hq => ?_
  refine .of_check (fun scroll _ => ?_) fun e he => .error (l.avoids_clampScroll hp.scroll e he)
  have hsync : Smooth bad p.1.view f (fun _ => True) (tryCatch (syncIndicator l false) fun e => do
      if p.1.bounds.isDegenerate then pure () else Step.attempt resnap
      throw e : Step (TabRow Binary32 τ χ) τ Unit) := by
    refine (smooth_syncIndicator hv hs hl false).tryCatch fun e he => ?_
    refine .ite (fun _ => .throw he) fun _ => ?_
    refine Yields.bind (P := fun _ => True) ?_ fun _ _ => .throw he
    exact (smooth_resnap hv hs).tryCatch fun _ _ => .pure trivial
  exact hsync.bind_avoids hq fun _ _ _ _ => .ok ()

end Shown

end TabRow

end Widgetry
