import Widgetry.Proofs.Host.Scripted
import Widgetry.Proofs.Reachable
import Widgetry.Proofs.Segmented.Painting
import Widgetry.Proofs.Tabs.Showing
import Widgetry.Proofs.Tooltip.Backed

/-! On a host that refuses nothing, what a widget checks when it is painted it has checked before
it draws, with one exception: whether there is room inside the outline of a segment is found out
when the outline has been drawn. -/
namespace Widgetry

variable {α σ χ : Type} {inv : σ → Prop}

section Rows

variable [TextHost Binary32 σ] [PaintHost Binary32 σ]
  {row : TabRow Binary32 (Canvas Binary32 σ) χ}
  (hw : Willing inv fun font => row.font.handle? = some font) {t : Canvas Binary32 σ}
  (ht : inv t.host)
include hw ht

/-- The layout is checked for what is drawn with it. -/
theorem TabRow.ends_currentLayout_unseen :
    Ends (currentLayout : Step (TabRow Binary32 (Canvas Binary32 σ) χ) _ _) (row, t)
      fun r p => p.1 = row ∧ inv p.2.host ∧ p.2.commands = t.commands ∧ ∀ l, r = .ok l →
        l.NonNeg ∧ row.style.NonNeg ∧ ∃ font, row.font.handle? = some font := by
  rw [currentLayout, ends_bind, Step.ends_self]
  refine .of_check (fun measurer hm => ?_) fun _ _ =>
    ⟨rfl, ht, rfl, fun _ hr => (error_ne_ok hr).elim⟩
  obtain ⟨font, hfont, rfl⟩ := OwnedFont.measurer_eq_ok.mp hm
  have hmeasure (text : String) : Yields (fun _ => False) (fun t' : Canvas Binary32 σ =>
      inv t'.host ∧ t'.commands = t.commands) (fun _ => True) (TextHost.measureText font text) :=
    (hw.measureText_unseen t.commands hfont text).mono fun _ => False.elim
  have hyields := TabStyle.yields_computeLayout (s := row.style) (fun _ => False.elim) hmeasure
    row.items row.bounds t ⟨ht, rfl⟩
  have hcomputes : Ends (row.style.computeLayout (TextHost.measureText font) row.items row.bounds)
      t _ := row.style.ends_computeLayout_computes row.items row.bounds t
  rw [Step.ends_host]
  apply (hyields.and hcomputes).imp
  rintro r t' ⟨⟨⟨hkept, hcommands⟩, hl⟩, hcomputes⟩
  refine ⟨rfl, hkept, hcommands, ?_⟩
  rintro l rfl
  exact ⟨hl, TabStyle.nonNeg_of_validate (hcomputes l rfl).style, font, hfont⟩

theorem TabRow.ends_paint_untouched :
    Ends (paint : Step (TabRow Binary32 (Canvas Binary32 σ) χ) _ Unit) (row, t) fun r p =>
      t.Untouched r p.2 := by
  refine (ends_currentLayout_unseen hw ht).bind ?_ fun _ _ hr _ _ => hr.2.2.1
  rintro layout ⟨row', t₁⟩ ⟨hrow, ht₁, hcommands, hlayout⟩
  obtain rfl : row' = row := hrow
  obtain ⟨hl, hstyle, font, hfont⟩ := hlayout layout rfl
  rw [ends_bind, Step.ends_self]
  refine .of_check (fun scroll _ => ?_) fun _ _ _ _ => hcommands
  rw [ends_bind, Step.ends_update]
  dsimp only
  rw [ends_bind, Step.ends_self]
  dsimp only
  have hp := hw.canvas
  refine Canvas.untouched_of_yields (P := fun _ => True) ?_ ht₁
  refine (Canvas.yields_host (yields_paintBackground hp _)).bind fun _ _ => ?_
  refine (Canvas.yields_host (yields_paintIndicator hp _ layout)).bind fun _ _ => ?_
  refine .checked (OwnedFont.handle_eq_ok.mpr hfont) ?_
  refine Canvas.yields_host (yields_paintLabels hp ?_ hl hfont (Nat.zero_add _))
  exact hstyle

end Rows

section Labels

variable [Scalar α] [TextHost α σ] [PaintHost α σ] {label : Label α}
  (hw : Willing inv fun font => label.font.handle? = some font) {t : Canvas α σ}
  (ht : inv t.host)
include hw ht

/-- A label draws once, and last. -/
theorem Label.ends_paint_untouched :
    Ends (paint : Step (Label α) (Canvas α σ) Unit) (label, t) fun r p => t.Untouched r p.2 := by
  have hmetrics : Ends (metrics : Step (Label α) (Canvas α σ) _) (label, t) fun _ p =>
      p.1.font = label.font ∧ inv p.2.host ∧ p.2.commands = t.commands := by
    rw [metrics, ends_bind, Step.ends_self]
    dsimp only
    split
    · exact ⟨rfl, ht, rfl⟩
    refine .of_check (fun font hfont => ?_) fun _ _ => ⟨rfl, ht, rfl⟩
    have hmeasured := hw.measureText_unseen t.commands (OwnedFont.handle_eq_ok.mp hfont) label.text
      t ⟨ht, rfl⟩
    rw [ends_bind, Step.ends_host]
    apply hmeasured.imp
    rintro (e | m) t' ⟨hkept, -⟩
    · exact ⟨rfl, hkept⟩
    · exact ⟨rfl, hkept⟩
  refine hmetrics.bind ?_ fun _ _ hr _ _ => hr.2.2
  rintro m ⟨label', t₁⟩ ⟨hfont, ht₁, hcommands⟩
  rw [ends_bind, Step.ends_self]
  refine .of_check (fun font hhandle => ?_) fun _ _ _ _ => hcommands
  refine Canvas.untouched_of_yields (P := fun _ => True) (Canvas.yields_host ?_) ht₁
  refine hw.canvas.drawText font ?_ _ _ _ _
  rw [← hfont]
  exact OwnedFont.handle_eq_ok.mp hhandle

end Labels

section Badges

variable [Scalar α] [TextHost α σ] [PaintHost α σ] {badge : Badge α}
  (hw : Willing inv fun font => badge.font.handle? = some font) {t : Canvas α σ}
  (ht : inv t.host)
include hw ht

/-- A badge draws its label only in a font that it holds. -/
theorem Badge.ends_paint_untouched :
    Ends (paint : Step (Badge α) (Canvas α σ) Unit) (badge, t) fun r p => t.Untouched r p.2 := by
  have hp := hw.canvas
  have hwidth : Yields (fun _ => True) (fun t : Canvas α σ => inv t.host) (fun _ => True)
      badge.labelWidth := by
    unfold labelWidth
    split
    next label font _ hfont => exact (hp.measureText font hfont label).bind fun _ _ => .pure trivial
    next => exact .pure trivial
  have hlabel (label : String) : Yields (fun _ => True) (fun t : Canvas α σ => inv t.host)
      (fun _ => True) (badge.paintLabel label) := by
    refine .ite (fun hshown => ?_) fun _ => .pure trivial
    obtain ⟨font, hfont⟩ := Option.isSome_iff_exists.mp hshown.1
    refine hwidth.bind fun width _ => .checked (OwnedFont.handle_eq_ok.mpr hfont) ?_
    exact hp.drawText font hfont _ _ _ _
  rw [paint, ends_bind, Step.ends_self]
  refine Canvas.untouched_of_yields (P := fun _ => True) (.ite (fun _ => ?_) fun _ => ?_) ht
  · refine (Canvas.yields_host (hp.drawRect _ _ _)).bind fun _ _ => ?_
    cases badge.label with
    | none => exact .pure trivial
    | some label => exact Canvas.yields_host (hlabel label)
  · exact .pure trivial

end Badges

section Tooltips

variable [Scalar α] [TextHost α σ] [PaintHost α σ] {tip : Tooltip α}
  (hw : Willing inv fun font =>
    tip.titleFont.handle? = some font ∨ tip.bodyFont.handle? = some font)
  {t : Canvas α σ} (ht : inv t.host)

include hw ht

/-- The lines of a tooltip are drawn in fonts that it holds. -/
theorem Tooltip.ends_paint_untouched (hb : tip.Stores Backed) :
    Ends (paint : Step (Tooltip α) (Canvas α σ) Unit) (tip, t) fun r p => t.Untouched r p.2 := by
  rw [paint, ends_bind, Step.ends_self]
  dsimp only
  split
  · exact fun _ hr => nomatch hr
  have hkeeps : Ends content (tip, t) fun _ p => inv p.2.host ∧ p.2.commands = t.commands :=
    ends_content_keeps (fun font hf text => (hw.measureText_unseen t.commands (.inl hf) text).keeps)
      (fun font hf text => (hw.measureText_unseen t.commands (.inr hf) text).keeps) ⟨ht, rfl⟩
  refine ((ends_content_backed hb).and hkeeps).bind ?_ fun _ _ hr _ _ => hr.2.2
  rintro content ⟨_, t₁⟩ ⟨⟨rfl, hbacked⟩, ht₁, hcommands⟩
  rw [ends_bind, Step.ends_self]
  have hp := hw.canvas
  have hline {font : OwnedFont} (hlive : font.isLive)
      (hheld : ∀ handle, font.handle? = some handle →
        tip.titleFont.handle? = some handle ∨ tip.bodyFont.handle? = some handle)
      (text : String) (y : α) (color : Color α) :
      Yields (fun _ => True) (fun t : Canvas α σ => inv t.host) (fun _ => True)
        (({ tip with content? := some content } : Tooltip α).drawLine font text y color) := by
    obtain ⟨handle, hhandle⟩ := Option.isSome_iff_exists.mp hlive
    refine .checked (OwnedFont.handle_eq_ok.mpr hhandle) ?_
    exact hp.drawText handle (hheld handle hhandle) _ _ _ _
  refine Canvas.untouched_of_yields (P := fun _ => True) ?_ ht₁
  refine (Canvas.yields_host (hp.drawRect _ _ _)).bind fun _ _ => ?_
  refine Yields.bind (P := fun _ => True) (Canvas.yields_host ?_) fun y _ => ?_
  · unfold paintTitle
    split
    next title metrics _ hmetrics =>
      obtain ⟨-, -, hlive⟩ := hbacked.title (Option.isSome_of_eq_some hmetrics)
      exact (hline hlive (fun _ => .inl) _ _ _).bind fun _ _ => .pure trivial
    next => exact .pure trivial
  · cases hbody : content.body with
    | none => exact .pure trivial
    | some metrics =>
      have hlive := hbacked.body (Option.isSome_of_eq_some hbody)
      exact Canvas.yields_host (hline hlive (fun _ => .inr) _ _ _)

end Tooltips

variable [TextHost Binary32 σ] [PaintHost Binary32 σ] [Channel Binary32 (Canvas Binary32 σ) χ]

/-- On a host that refuses nothing in the fonts that a widget holds, painting the widget has drawn
nothing if it fails, unless the widget is a group with an outline too wide for its segments: then
the outline of the first segment is drawn, and only that. A group that is painted is drawn to the
end. -/
theorem Widget.paint_whole_or_outline {w : Widget Binary32 (Canvas Binary32 σ) χ} (made : w.Made)
    (hw : Willing inv fun font => font ∈ w.heldFonts) {t : Canvas Binary32 σ} (ht : inv t.host) :
    Ends (paint : Step (Widget Binary32 (Canvas Binary32 σ) χ) _ Unit) (w, t) fun r p =>
      (∀ e, r = .error e → p.2.commands = t.commands ∨
        ∃ group, w = .segmented group ∧ group.OutlineOnly e t.commands p.2.commands) ∧
      (r = .ok () → ∀ group, w = .segmented group → group.Whole t.commands p.2.commands) := by
  have untouched {r : Except Error Unit} {t' : Canvas Binary32 σ} (h : t.Untouched r t')
      (hw : ∀ group, w ≠ .segmented group) :
      (∀ e, r = .error e → t'.commands = t.commands ∨
        ∃ group, w = .segmented group ∧ group.OutlineOnly e t.commands t'.commands) ∧
      (r = .ok () → ∀ group, w = .segmented group → group.Whole t.commands t'.commands) :=
    ⟨fun e he => .inl (h e he), fun _ group hgroup => (hw group hgroup).elim⟩
  cases w with
  | tabs row =>
    have hheld : Willing inv fun font => row.font.handle? = some font :=
      hw.of_held fun _ => Option.mem_toList.mpr
    exact ends_dispatch_tabs.mpr
      ((row.ends_paint_untouched hheld ht).imp fun _ _ h =>
        untouched h fun _ hgroup => nomatch hgroup)
  | segmented group =>
    have hheld : Willing inv fun font => group.font.handle? = some font :=
      hw.of_held fun _ => Option.mem_toList.mpr
    refine ends_dispatch_segmented.mpr ((group.ends_paint_whole hheld ht).imp ?_)
    rintro (e | ⟨⟩) p hp
    · refine ⟨?_, nofun⟩
      rintro _ ⟨⟩
      exact hp.imp id fun h => ⟨group, rfl, h⟩
    · refine ⟨nofun, fun _ => ?_⟩
      rintro _ ⟨⟩
      exact hp
  | label l =>
    have hheld : Willing inv fun font => l.font.handle? = some font :=
      hw.of_held fun _ => Option.mem_toList.mpr
    exact ends_dispatch_label.mpr
      ((Label.ends_paint_untouched hheld ht).imp fun _ _ h =>
        untouched h fun _ hgroup => nomatch hgroup)
  | badge b =>
    have hheld : Willing inv fun font => b.font.handle? = some font :=
      hw.of_held fun _ => Option.mem_toList.mpr
    exact ends_dispatch_badge.mpr
      ((Badge.ends_paint_untouched hheld ht).imp fun _ _ h =>
        untouched h fun _ hgroup => nomatch hgroup)
  | tooltip tip =>
    have hheld : Willing inv fun font =>
        tip.titleFont.handle? = some font ∨ tip.bodyFont.handle? = some font :=
      hw.of_held fun _ hf =>
        List.mem_append.mpr (hf.imp Option.mem_toList.mpr Option.mem_toList.mpr)
    exact ends_dispatch_tooltip.mpr
      ((Tooltip.ends_paint_untouched hheld ht made.tooltip.backed).imp fun _ _ h =>
        untouched h fun _ hgroup => nomatch hgroup)

/-- A scripted host with nothing left to refuse. -/
def Scripted.Quiet (s : Scripted Binary32) : Prop := s.refusals = []

theorem Scripted.willing : Willing Quiet fun _ => True := by
  refine ⟨fun font _ text => ?_, fun bounds color cornerRadius => ?_,
    fun font _ text x y color => ?_⟩
  all_goals
    rintro ⟨issued, _⟩ ⟨⟩
    exact ⟨rfl, trivial⟩

abbrev Pad := Canvas Binary32 (Scripted Binary32)

def blankPad : Pad := ⟨.start [], []⟩

def outlined (outlineWidth : Binary32) : HostM Pad (Widget Binary32 Pad (Timing Binary32)) :=
  Creation.run (.segmented
    { SegmentStyle.default with text := .withFamily "Sans", outlineWidth := outlineWidth }
    ["One", "Two"] (.single (some 1)))

/-- In bounds that have room for outlines of 16 at the most. -/
def placed (outlineWidth : Binary32) : HostM Pad (Widget Binary32 Pad (Timing Binary32)) := do
  Step.construct (← outlined outlineWidth)
    (WidgetOp.run id id (.segmented (.layout ⟨0, 0, 200, 32⟩)))

/-- What comes of painting it, and what is drawn. -/
def painted (outlineWidth : Binary32) :
    Option (Except Error Unit × List (PaintCommand Binary32)) :=
  match (placed outlineWidth).run blankPad with
  | (.ok w, _) =>
    let (r, _, t) := Widget.paint.run (w, blankPad)
    some (r, t.commands)
  | (.error _, _) => none

theorem made_of_placed {outlineWidth : Binary32} {w : Widget Binary32 Pad (Timing Binary32)}
    {t : Pad} (h : (placed outlineWidth).run blankPad = (.ok w, t)) : w.Made := by
  have hmade : Ends (placed outlineWidth) blankPad fun r _ => ∀ w, r = .ok w → w.Made := by
    refine (ends_run _ _).bind (fun new t₁ hnew => ?_) fun _ _ _ _ hr => nomatch hr
    rw [Step.ends_construct]
    apply (ends_run _ _).imp
    rintro (e | ⟨⟩) q hq w hw
    · exact nomatch hw
    · obtain rfl := Except.ok.inj hw
      have hafter :=
        (Widget.Made.created hnew).operated (.segmented (.layout ⟨0, 0, 200, 32⟩)) t₁
      rwa [hq] at hafter
  exact (ends_of_run h).mp hmade w rfl

theorem exists_painted {outlineWidth : Binary32} (h : (painted outlineWidth).isSome) :
    ∃ w : Widget Binary32 Pad (Timing Binary32), w.Made ∧
      Ends Widget.paint (w, blankPad) fun r p => painted outlineWidth = some (r, p.2.commands) := by
  unfold painted at h ⊢
  rcases hplaced : (placed outlineWidth).run blankPad with ⟨e | w, t⟩
  all_goals rw [hplaced] at h
  · exact nomatch h
  · exact ⟨w, made_of_placed hplaced, rfl⟩

/-- There is room inside outlines of 1. -/
theorem Widget.paint_whole_or_outline_thin :
    ∃ w : Widget Binary32 Pad (Timing Binary32), w.Made ∧
      (Willing Scripted.Quiet fun font => font ∈ w.heldFonts) ∧ Scripted.Quiet blankPad.host ∧
      (Ends paint (w, blankPad) fun r p => r = .ok () ∧ p.2.commands.length = 5) ∧
      Ends paint (w, blankPad) fun r p =>
        (∀ e, r = .error e → p.2.commands = blankPad.commands ∨
          ∃ group, w = .segmented group ∧
            group.OutlineOnly e blankPad.commands p.2.commands) ∧
        (r = .ok () → ∀ group, w = .segmented group →
          group.Whole blankPad.commands p.2.commands) := by
  have hpainted : (painted 1).map (fun out => (out.1, out.2.length)) = some (.ok (), 5) := by
    decide +kernel
  obtain ⟨out, hout, -⟩ := Option.map_eq_some_iff.mp hpainted
  obtain ⟨w, hmade, hends⟩ := exists_painted (Option.isSome_of_eq_some hout)
  have hheld : Willing Scripted.Quiet fun font => font ∈ w.heldFonts :=
    Scripted.willing.of_held fun _ _ => trivial
  refine ⟨w, hmade, hheld, rfl, hends.imp fun r p hp => ?_,
    paint_whole_or_outline hmade hheld rfl⟩
  rw [hp] at hpainted
  exact Prod.mk.inj (Option.some.inj hpainted)

/-- There is none inside outlines of 20, and the first of them is drawn. -/
theorem Widget.outline_outlives_error :
    ∃ w : Widget Binary32 Pad (Timing Binary32), w.Made ∧
      (Willing Scripted.Quiet fun _ => True) ∧
      Scripted.Quiet blankPad.host ∧ blankPad.commands = [] ∧
      Ends paint (w, blankPad) fun r p => r = .error (.range .insetsExceedExtent) ∧
        p.2.commands = [.rect ⟨0, 0, 100, 32⟩ (.rgb 0.44 0.44 0.44) 4] := by
  have hpainted : painted 20 = some (.error (.range .insetsExceedExtent),
      [.rect ⟨0, 0, 100, 32⟩ (.rgb 0.44 0.44 0.44) 4]) := by decide +kernel
  obtain ⟨w, hmade, hends⟩ := exists_painted (Option.isSome_of_eq_some hpainted)
  refine ⟨w, hmade, Scripted.willing, rfl, rfl, hends.imp fun r p hp => ?_⟩
  rw [hp] at hpainted
  exact Prod.mk.inj (Option.some.inj hpainted)

end Widgetry
