import Widgetry.Proofs.Tabs.LaidOut
import Widgetry.Proofs.Tabs.Scrolling
import Widgetry.Proofs.Tabs.Showing

/-! No operation of a row ends in an error that geometry is checked for and never has, unless host,
channels or listener answer that error themselves. -/
namespace Widgetry

variable {σ τ χ β : Type} {bad : Error → Prop}

theorem Timing.averts_begin (start target : Binary32) {duration : Binary32} (easing : Easing)
    (hd : duration.NonNeg) :
    Averts bad (Channel.begin start target duration easing : Step (Timing Binary32) τ Unit) := by
  rintro ⟨t, h⟩ -
  rw [ends_begin, begin, if_neg (not_lt_zero_iff.mpr hd)]
  exact ⟨trivial, trivial⟩

/-- Time runs forward, and only for what has begun. -/
theorem Timing.averts_step (hbad : ∀ e, bad e → Phantom e) (dt : Binary32) :
    Averts bad (Channel.step dt : Step (Timing Binary32) τ (Reading Binary32)) := by
  rintro ⟨t, h⟩ -
  have hadvance : Avoids bad (t.advance dt) :=
    .ite (fun _ => .error fun hb => nomatch hbad _ hb) fun _ =>
      .ite (fun _ => .error fun hb => nomatch hbad _ hb) fun _ =>
        .ite (fun _ => .ok _) fun _ => .ite (fun _ => .ok _) fun _ => .ok _
  rw [ends_advance]
  cases ht : t.advance dt with
  | error e => exact ⟨trivial, hadvance e ht⟩
  | ok t' => exact ⟨trivial, trivial⟩

variable [TextHost Binary32 τ] [PaintHost Binary32 τ] [Channel Binary32 τ χ]

section Fonts

variable (hs : Serves bad τ χ)
include hs

theorem OwnedFont.averts_create {style : TextStyle Binary32} (h : style.validate true = .ok ()) :
    Averts bad (create style : HostM τ OwnedFont) :=
  (hs.createFont style h).bind fun _ _ => .pure trivial

theorem OwnedFont.averts_release : Averts bad (release : Step OwnedFont τ Unit) := by
  refine Step.yields_self_bind fun font _ _ => ?_
  refine Yields.bind (Step.yields_update (P := fun _ => True) (fun _ _ _ => trivial) trivial) ?_
  intro _ _
  obtain ⟨_ | handle⟩ := font
  · exact .pure trivial
  · exact Step.yields_host (I := fun _ => True) (hs.destroyFont handle)

theorem OwnedFont.averts_replace (next : OwnedFont) :
    Averts bad (replace next : Step OwnedFont τ Unit) := by
  have hdiscard : Averts bad (next.discard : HostM τ Unit) := by
    unfold discard
    split
    · exact (hs.destroyFont _).tryCatch fun _ _ => .pure trivial
    · exact .pure trivial
  have hupdate : Averts bad (Step.update fun _ => next : Step OwnedFont τ Unit) :=
    Step.yields_update (fun _ _ _ => trivial) trivial
  refine Step.yields_self_bind fun font _ _ => ?_
  obtain ⟨_ | current⟩ := font
  · exact hupdate
  · refine Yields.bind (P := fun _ => True) ?_ fun _ _ => hupdate
    refine (Step.yields_host (I := fun _ => True) (hs.destroyFont current)).tryCatch fun e he => ?_
    refine (Step.yields_host (I := fun _ => True) hdiscard).bind fun _ _ => .throw he

end Fonts

/-- That an index is out of range is nothing geometry is checked for. -/
theorem not_selectedIndex (hbad : ∀ e, bad e → Phantom e) : ¬bad (.range .selectedIndex) :=
  fun hb => nomatch hbad _ hb

/-- Where scrolling a row may refuse an offset. -/
def TabOp.Slides : TabOp Binary32 σ → Prop
  | setScroll _ | event (.scroll ..) => True
  | _ => False

namespace TabRow

variable {v : TabView Binary32} {f : Option (TabListener τ)} {l : TabLayout Binary32}
  (hbad : ∀ e, bad e → Phantom e)
include hbad

omit [PaintHost Binary32 τ] [Channel Binary32 τ χ] in
/-- Whatever it measures, a valid style lays out without phantoms. -/
theorem sound_of_style (hm : ∀ font text,
      Averts bad (TextHost.measureText font text : HostM τ (TextMetrics Binary32)))
    (hstyle : v.style.NonNeg) : v.Sound bad τ where
  style := hstyle
  font hb := nomatch hbad _ hb
  laid measurer hmeasurer := by
    obtain ⟨handle, -, rfl⟩ := OwnedFont.measurer_eq_ok.mp hmeasurer
    exact TabStyle.yields_computeLayout hbad (hm handle) v.items v.bounds

variable (hv : v.Sound bad τ) (hs : Shows bad τ χ)
include hv hs

theorem smooth_hit (point : Point) :
    Smooth bad v f (fun found => found.1.NonNeg)
      (hit point : Step (TabRow Binary32 τ χ) τ _) := by
  refine (smooth_currentLayout hv).bind fun l hl => ?_
  refine Step.yields_self_bind fun row _ hr => ?_
  refine .check_bind (l.avoids_clampScroll hr.scroll) fun scroll hscroll => ?_
  have hscroll := TabLayout.admissible_of_clampScroll hscroll
  refine Yields.bind (Step.yields_update (P := fun _ => True)
    (fun _ _ hr => ⟨hr.view, hscroll, hr.selected, hr.told⟩) trivial) fun _ _ => ?_
  refine Step.yields_self_bind fun row _ hr => ?_
  obtain rfl := hr.view
  refine .check_bind (OwnedFont.avoids_measurer hv.font) fun measurer hm => ?_
  refine (smooth_host (TabStyle.averts_hitTest hbad (hs.measures hm) hv.style _ _ _ _)).bind ?_
  exact fun _ _ => .pure hl

theorem smooth_onPointerDown (point : Point) :
    Smooth bad v f (fun _ => True) (onPointerDown point : Step (TabRow Binary32 τ χ) τ Bool) := by
  refine (smooth_hit hbad hv hs point).bind fun found _ => ?_
  refine Step.yields_self_bind fun row _ _ => ?_
  refine .ite (fun _ => .throw fun hb => nomatch hbad _ hb) fun _ => ?_
  cases found.2 with
  | none => exact .pure trivial
  | some index =>
    exact Yields.bind (Step.yields_update (P := fun _ => True)
      (fun _ _ hr => ⟨hr.view, hr.scroll, hr.selected, hr.told⟩) trivial) fun _ _ =>
        .pure trivial

theorem smooth_commit (hf : ∀ listener, f = some listener → ∀ index, Averts bad (listener index))
    (hl : l.NonNeg) (index : Nat) :
    Smooth bad v f (fun _ => True) (commit index l : Step (TabRow Binary32 τ χ) τ Unit) := by
  refine Step.yields_self_bind fun row _ hr => ?_
  refine smooth_selectOrRollBack hv hs hl (fun hb => (not_selectedIndex hbad hb).elim) ?_
  cases hlistener : row.onSelect with
  | none => exact .pure trivial
  | some listener => exact smooth_host (hf listener (hr.told.symm.trans hlistener) index)

theorem smooth_onPointerUp
    (hf : ∀ listener, f = some listener → ∀ index, Averts bad (listener index)) (point : Point) :
    Smooth bad v f (fun _ => True) (onPointerUp point : Step (TabRow Binary32 τ χ) τ Bool) := by
  have hrelease : Smooth bad v f (fun _ => True) (release : Step (TabRow Binary32 τ χ) τ Unit) :=
    Step.yields_update (fun _ _ hr => ⟨hr.view, hr.scroll, hr.selected, hr.told⟩) trivial
  refine (smooth_hit hbad hv hs point).bind fun found hl => ?_
  refine Step.yields_self_bind fun row _ _ => ?_
  cases row.pressed with
  | none => exact .pure trivial
  | some pressed =>
    refine Yields.bind (P := fun _ => True) ?_ fun _ _ => hrelease.bind fun _ _ => .pure trivial
    refine Yields.tryCatch ?_ fun e he => hrelease.bind fun _ _ => .throw he
    exact .ite (fun _ => smooth_commit hbad hv hs hf hl pressed) fun _ => .pure trivial

omit hbad hs [PaintHost Binary32 τ] [Channel Binary32 τ χ] in
/-- Only an offset that is none is refused. -/
theorem smooth_setScroll_of {offset : Binary32}
    (ho : bad (.range .scrollOffset) → Admissible offset) :
    Smooth bad v f (fun _ => True) (setScroll offset : Step (TabRow Binary32 τ χ) τ Unit) := by
  by_cases hoffset : Admissible offset
  · exact smooth_setScroll hv hoffset
  · rw [setScroll, if_pos (not_not.mp hoffset)]
    exact .throw fun hb => hoffset (ho hb)

theorem smooth_handleEvent
    (hf : ∀ listener, f = some listener → ∀ index, Averts bad (listener index)) {event : InputEvent}
    (he : (TabOp.event event : TabOp Binary32 σ).Slides → ¬bad (.range .scrollOffset)) :
    Smooth bad v f (fun _ => True) (handleEvent event : Step (TabRow Binary32 τ χ) τ Bool) := by
  refine Step.yields_self_bind fun row _ _ => .ite (fun _ => .pure trivial) fun _ => ?_
  cases event with
  | scroll point dx dy =>
    refine Step.yields_self_bind fun row _ _ => .ite (fun _ => .pure trivial) fun _ => ?_
    refine (smooth_setScroll_of hv fun hb => (he trivial hb).elim).bind fun _ _ => .pure trivial
  | pointerDown point => exact smooth_onPointerDown hbad hv hs point
  | pointerUp point => exact smooth_onPointerUp hbad hv hs hf point
  | pointerMove _ => exact .pure trivial
  | keyDown _ => exact .pure trivial
  | keyUp _ => exact .pure trivial

omit hbad hv hs in
theorem smooth_step (hs : Serves bad τ χ) {dt : Binary32} (hdt : ¬bad (.range .timeStep)) :
    Smooth bad v f (fun _ => True) (step dt : Step (TabRow Binary32 τ χ) τ Bool) := by
  refine .ite (fun _ => .throw hdt) fun _ => ?_
  refine Yields.bind (P := fun _ => True) ?_ fun moved _ =>
    Yields.bind (P := fun _ => True) ?_ fun _ _ => .pure trivial
  · refine Step.yields_self_bind fun row _ _ => .ite (fun _ => .pure trivial) fun _ => ?_
    refine (smooth_onPosition (hs.step dt)).bind fun reading _ => ?_
    refine .ite (fun _ => .pure trivial) fun _ => ?_
    exact Yields.bind (Step.yields_update (P := fun _ => True)
      (fun _ _ hr => ⟨hr.view, hr.scroll, hr.selected, hr.told⟩) trivial) fun _ _ =>
        .pure trivial
  · refine Step.yields_self_bind fun row _ _ => .ite (fun _ => .pure trivial) fun _ => ?_
    refine (smooth_onWidth (hs.step dt)).bind fun reading _ => ?_
    refine .ite (fun _ => .pure trivial) fun _ => ?_
    exact Yields.bind (Step.yields_update (P := fun _ => True)
      (fun _ _ hr => ⟨hr.view, hr.scroll, hr.selected, hr.told⟩) trivial) fun _ _ =>
        .pure trivial

theorem smooth_measure (width height : MeasureSpec Binary32) :
    Smooth bad v f (fun _ => True)
      (measure width height : Step (TabRow Binary32 τ χ) τ (Size Binary32)) := by
  refine .check_bind (width.avoids_validate.mono hbad) fun _ _ => ?_
  refine .check_bind (height.avoids_validate.mono hbad) fun _ _ => ?_
  refine Step.yields_self_bind fun row _ hr => ?_
  obtain rfl := hr.view
  refine .check_bind (OwnedFont.avoids_measurer hv.font) fun measurer hm => ?_
  refine (smooth_host (TabStyle.averts_measureContent hbad (hs.measures hm) _)).bind ?_
  exact fun _ _ => .pure trivial

omit hv in
theorem avoids_setItems (hstyle : v.style.NonNeg) (items : List String)
    {p : TabRow Binary32 τ χ × τ} (hp : Ready bad v f p.1) :
    Ends (setItems items) p fun r _ => Avoids bad r := by
  obtain rfl := hp.view
  rw [ends_setItems_iff]
  split
  · exact .ok ()
  have hsound (items : List String) : TabView.Sound bad τ { p.1.view with items } :=
    sound_of_style hbad hs.measureText hstyle
  have hready : Ready bad { p.1.view with items } f (p.1.refill items) :=
    ⟨rfl, hp.scroll, fun hb => (not_selectedIndex hbad hb).elim, hp.told⟩
  apply (smooth_resnap (hsound items) hs (_, p.2) hready).imp
  rintro (e | ⟨⟩) q ⟨hq, he⟩
  · exact (ends_run _ _).imp fun _ _ _ => .error he
  · exact .ok ()

omit hs hv in
theorem averts_setStyle (hs : Serves bad τ χ) (style : TabStyle Binary32) :
    Averts bad (setStyle style : Step (TabRow Binary32 τ χ) τ Unit) := by
  refine .check_bind ((style.avoids_validate true).mono hbad) fun _ hvalid => ?_
  have htext := TabStyle.validate_text hvalid
  refine (Step.yields_host (I := fun _ => True) (OwnedFont.averts_create hs htext)).bind ?_
  intro font _
  have hreplace : Averts bad (onFont (OwnedFont.replace font) :
      Step (TabRow Binary32 τ χ) τ Unit) :=
    Step.yields_zoom (I := fun _ => True) (fun _ _ _ => trivial) (OwnedFont.averts_replace hs font)
  exact hreplace.bind fun _ _ => Step.yields_update (fun _ _ _ => trivial) trivial

omit hbad hs hv in
theorem averts_destroy (hs : Serves bad τ χ) :
    Averts bad (destroy : Step (TabRow Binary32 τ χ) τ Unit) := by
  intro p _
  have hrelease : Averts bad (onFont OwnedFont.release : Step (TabRow Binary32 τ χ) τ Unit) :=
    Step.yields_zoom (I := fun _ => True) (fun _ _ _ => trivial) (OwnedFont.averts_release hs)
  rw [ends_destroy]
  exact (hrelease p trivial).imp fun _ _ hq => ⟨trivial, hq.2⟩

omit hs hv in
theorem avoids_create (hs : Serves bad τ χ) (style : TabStyle Binary32) (items : List String)
    (selected : Option Nat) (positionChannel widthChannel : χ) (h : τ) :
    Ends (create style items selected positionChannel widthChannel) h fun r _ => Avoids bad r := by
  rw [create]
  refine .of_check (fun _ hvalid => ?_) fun e he =>
    .error ((style.avoids_validate true).mono hbad e he)
  have hselection : Avoids bad (Validate.selection selected items.length) :=
    Validate.avoids_selection_of fun hb => (not_selectedIndex hbad hb).elim
  refine .of_check (fun _ hselected => ?_) fun e he => .error (hselection e he)
  have htext := TabStyle.validate_text hvalid
  refine (OwnedFont.averts_create hs htext).bind_avoids trivial fun font h₁ _ _ => ?_
  rw [Step.ends_construct]
  have hstyle := TabStyle.nonNeg_of_validate hvalid
  have hsound : TabView.Sound bad τ ⟨style, items, font, .zero⟩ :=
    sound_of_style hbad hs.measureText hstyle
  have hsync (q : TabRow Binary32 τ χ × τ) (hq : Ready bad ⟨style, items, font, .zero⟩ none q.1) :
      Ends (tryCatch (syncIndicator (.unplaced style) false) fun e => do
        drop
        throw e : Step (TabRow Binary32 τ χ) τ Unit) q fun r _ => Avoids bad r := by
    refine (smooth_syncIndicator hsound hs.toShows (TabLayout.nonNeg_unplaced hstyle) false q
      hq).tryCatch (fun _ _ _ => .ok _) fun e q' hq' => ?_
    rw [ends_bind, drop, Step.ends_attempt]
    exact (ends_run _ _).imp fun _ _ _ => .error hq'.2
  refine (hsync _ ?_).imp ?_
  · exact ⟨rfl, HasOffsets.zero, fun hb => (not_selectedIndex hbad hb).elim, rfl⟩
  · rintro (e | ⟨⟩) q hr
    · exact .error (hr e rfl)
    · exact .ok _

omit hs hv in
/-- Nor is there one that an operation ends in, wherever a program has brought the row. -/
theorem avoids_run (hserves : Serves bad τ χ) (hear : TabListener σ → TabListener τ)
    (op : TabOp Binary32 σ) (hop : op.Slides → ¬bad (.range .scrollOffset))
    {p : TabRow Binary32 τ χ × τ} (hp : Reachable hear p)
    (polite : ∀ listener, p.1.onSelect = some listener → ∀ index, Averts bad (listener index)) :
    Ends (op.run hear) p fun r _ => Avoids bad r := by
  have hstyle : p.1.view.style.NonNeg := TabStyle.nonNeg_of_validate hp.styled
  have hsound : p.1.view.Sound bad τ := sound_of_style hbad hserves.measureText hstyle
  have hs := hserves.toShows
  have hready : Ready bad p.1.view p.1.onSelect p.1 :=
    ⟨rfl, hp.admissible, fun hb => (not_selectedIndex hbad hb).elim, rfl⟩
  have smooth {act : Step (TabRow Binary32 τ χ) τ Unit}
      (ha : Smooth bad p.1.view p.1.onSelect (fun _ => True) act) :
      Ends act p fun r _ => Avoids bad r :=
    ha.avoids hready
  have answer {β : Type} {act : Step (TabRow Binary32 τ χ) τ β}
      (ha : Smooth bad p.1.view p.1.onSelect (fun _ => True) act) :
      Ends (ignore act) p fun r _ => Avoids bad r :=
    smooth (ha.bind fun _ _ => .pure trivial)
  cases op with
  | setItems items => exact avoids_setItems hbad hs hstyle items hready
  | setStyle style => exact (averts_setStyle hbad hserves style).avoids trivial
  | setSelected selected =>
    exact smooth (smooth_setSelected hsound hs fun hb => (not_selectedIndex hbad hb).elim)
  | setScroll offset =>
    exact smooth (smooth_setScroll_of hsound fun hb => (hop trivial hb).elim)
  | setOnSelect listener => exact .ok ()
  | setFlags flags => exact .ok ()
  | setDisabled on => exact .ok ()
  | step dt => exact answer (smooth_step hserves fun hb => nomatch hbad _ hb)
  | measure width height => exact answer (smooth_measure hbad hsound hs width height)
  | layout bounds =>
    refine avoids_layout hsound hs (bounds.avoids_validate.mono hbad) ?_ hready
    exact sound_of_style hbad hserves.measureText hstyle
  | paint => exact smooth (smooth_paint hsound hs)
  | event e => exact answer (smooth_handleEvent hbad hsound hs polite hop)
  | destroy => exact (averts_destroy hserves).avoids trivial

end TabRow

end Widgetry
