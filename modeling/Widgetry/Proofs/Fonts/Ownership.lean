import Mathlib.Data.List.Perm.Basic
import Widgetry.Proofs.Fonts.Owning
import Widgetry.Proofs.Fonts.Rows
import Widgetry.Proofs.Host.Scripted

/-! Any number of widgets on one host. Whatever is done with them and whichever calls the host
refuses, the fonts that live are those the widgets hold and those it refused to destroy. -/
namespace Widgetry

open Ledger

variable {α σ τ χ : Type}

namespace Widget

/-- The widget's listener, if any, is one that is recorded. -/
def Heard : Widget α (Traced σ) χ → Prop
  | tabs row => ∃ listener : Option (TabListener σ), row.onSelect = listener.map Traced.hearTab
  | segmented group =>
    ∃ listener : Option (SegmentListener σ), group.onSelect = listener.map Traced.hearSegment
  | label _ | badge _ | tooltip _ => True

structure Owns (others : List FontHandle) (p : Widget α (Traced σ) χ × Traced σ) : Prop where
  heard : p.1.Heard
  fonts : Held (p.1.heldFonts ++ others) p.2

variable {others : List FontHandle}

theorem keeps_dispatch {β : Type} {onTabs : Step (TabRow α (Traced σ) χ) (Traced σ) β}
    {onSegmented : Step (SegmentGroup α (Traced σ)) (Traced σ) β}
    {onLabel : Step (Label α) (Traced σ) β} {onBadge : Step (Badge α) (Traced σ) β}
    {onTooltip : Step (Tooltip α) (Traced σ) β} (htabs : Keeps (TabRow.Owns others) onTabs)
    (hsegmented : Keeps (SegmentGroup.Owns others) onSegmented)
    (hlabel : Keeps (Label.Owns others) onLabel) (hbadge : Keeps (Badge.Owns others) onBadge)
    (htooltip : Keeps (Tooltip.Owns others) onTooltip) :
    Keeps (Owns others) (dispatch onTabs onSegmented onLabel onBadge onTooltip) := by
  rintro ⟨w, t⟩ ⟨heard, hfonts⟩
  cases w with
  | tabs row =>
    rw [ends_dispatch_tabs]
    exact (htabs (row, t) ⟨heard, hfonts⟩).imp fun _ _ h => ⟨h.heard, h.fonts⟩
  | segmented group =>
    rw [ends_dispatch_segmented]
    exact (hsegmented (group, t) ⟨heard, hfonts⟩).imp fun _ _ h => ⟨h.heard, h.fonts⟩
  | label l =>
    rw [ends_dispatch_label]
    exact (hlabel (l, t) hfonts).imp fun _ _ h => ⟨trivial, h⟩
  | badge b =>
    rw [ends_dispatch_badge]
    exact (hbadge (b, t) hfonts).imp fun _ _ h => ⟨trivial, h⟩
  | tooltip tip =>
    rw [ends_dispatch_tooltip]
    exact (htooltip (tip, t) hfonts).imp fun _ _ h => ⟨trivial, h⟩

/-- A widget without a listener owns the fonts it brings. -/
theorem ends_brought {ω : Type} {fonts : ω → List FontHandle} {act : HostM (Traced σ) ω}
    (wrap : ω → Widget α (Traced σ) (Silent χ)) (hwrap : ∀ w, (wrap w).heldFonts = fonts w)
    (hheard : ∀ w, (wrap w).Heard) (hact : Brings fonts act) {t : Traced σ} (h : Held others t) :
    Ends (do return wrap (← act)) t fun r t' =>
      match r with
      | .ok w => Owns others (w, t')
      | .error _ => Held others t' := by
  rw [ends_bind]
  apply (hact others t h).imp
  rintro (e | w) t' ht
  · exact ht
  · refine ⟨hheard w, ?_⟩
    rwa [hwrap]

variable [TextHost α σ]

theorem ends_drop {w : Widget α (Traced σ) (Silent χ)} {t : Traced σ} (h : Owns others (w, t)) :
    Ends drop (w, t) fun _ p => Held others p.2 := by
  obtain ⟨heard, hfonts⟩ := h
  cases w with
  | tabs row => exact ends_dispatch_tabs.mpr (TabRow.ends_drop ⟨heard, hfonts⟩)
  | segmented group => exact ends_dispatch_segmented.mpr (SegmentGroup.ends_drop ⟨heard, hfonts⟩)
  | label l => exact ends_dispatch_label.mpr (OwnedFont.ends_dropIn hfonts)
  | badge b => exact ends_dispatch_badge.mpr (OwnedFont.ends_dropIn hfonts)
  | tooltip tip => exact ends_dispatch_tooltip.mpr (Tooltip.ends_drop hfonts)

variable [Scalar α] [Channel α σ χ]

theorem keeps_run [PaintHost α σ] (op : WidgetOp α σ) :
    Keeps (Owns others) (op.run Traced.hearTab Traced.hearSegment :
      Step (Widget α (Traced σ) (Silent χ)) (Traced σ) Unit) := by
  cases op with
  | tabs op =>
    exact keeps_dispatch (TabRow.keeps_run op) (.pure _) (.pure _) (.pure _) (.pure _)
  | segmented op =>
    exact keeps_dispatch (.pure _) (SegmentGroup.keeps_run op) (.pure _) (.pure _) (.pure _)
  | label op => exact keeps_dispatch (.pure _) (.pure _) (Label.keeps_run op) (.pure _) (.pure _)
  | badge op => exact keeps_dispatch (.pure _) (.pure _) (.pure _) (Badge.keeps_run op) (.pure _)
  | tooltip op =>
    exact keeps_dispatch (.pure _) (.pure _) (.pure _) (.pure _) (Tooltip.keeps_run op)

/-- A widget comes with its fonts; a failed creation leaves none behind. -/
theorem ends_create (c : Creation α (Silent χ)) {t : Traced σ} (h : Held others t) :
    Ends c.run t fun r t' =>
      match r with
      | .ok w => Owns others (w, t')
      | .error _ => Held others t' := by
  cases c with
  | tabs style items selected positionChannel widthChannel =>
    rw [Creation.run, ends_bind]
    apply (TabRow.ends_create style items selected positionChannel widthChannel h).imp
    rintro (e | row) t' ht
    · exact ht
    · exact ⟨ht.heard, ht.fonts⟩
  | segmented style items selection =>
    rw [Creation.run, ends_bind]
    apply (SegmentGroup.ends_create style items selection h).imp
    rintro (e | group) t' ht
    · exact ht
    · exact ⟨ht.heard, ht.fonts⟩
  | label style text =>
    exact ends_brought label (fun _ => rfl) (fun _ => trivial) (Label.brings_create style text) h
  | badge style text? =>
    exact ends_brought badge (fun _ => rfl) (fun _ => trivial) (Badge.brings_create style text?) h
  | tooltip style anchor placement body =>
    exact ends_brought tooltip (fun _ => rfl) (fun _ => trivial)
      (Tooltip.brings_create style anchor placement body) h

end Widget

/-- All widgets of a program and the host they share. -/
structure Stage (α σ χ : Type) where
  widgets : List (Widget α (Traced σ) (Silent χ))
  host : Traced σ

inductive StageOp (α σ χ : Type) where
  | build (creation : Creation α (Silent χ))
  | act (slot : Nat) (op : WidgetOp α σ)
  | drop (slot : Nat)

namespace Stage

variable {s : Stage α σ χ}

def empty (host : σ) : Stage α σ χ := ⟨[], ⟨host, []⟩⟩

/-- The fonts held, widget by widget. -/
def held (s : Stage α σ χ) : List FontHandle := s.widgets.flatMap Widget.heldFonts

/-- Every font is accounted for and every listener recorded. -/
structure Kept (s : Stage α σ χ) : Prop where
  heard : ∀ w ∈ s.widgets, w.Heard
  fonts : Held s.held s.host

/-- A widget owns its fonts against those of all others. -/
theorem Kept.owns (h : s.Kept) {slot : Nat} {w : Widget α (Traced σ) (Silent χ)}
    (hw : s.widgets[slot]? = some w) :
    Widget.Owns ((s.widgets.eraseIdx slot).flatMap Widget.heldFonts) (w, s.host) := by
  obtain ⟨hlt, rfl⟩ := List.getElem?_eq_some_iff.mp hw
  have hp := (List.getElem_cons_eraseIdx_perm hlt).flatMap_right Widget.heldFonts
  exact ⟨h.heard _ (List.getElem_mem hlt), h.fonts.perm hp.symm⟩

theorem Kept.set (h : s.Kept) {slot : Nat} (hlt : slot < s.widgets.length)
    {w : Widget α (Traced σ) (Silent χ)} {t : Traced σ}
    (hw : Widget.Owns ((s.widgets.eraseIdx slot).flatMap Widget.heldFonts) (w, t)) :
    (⟨s.widgets.set slot w, t⟩ : Stage α σ χ).Kept := by
  have hp := (List.set_perm_cons_eraseIdx hlt w).flatMap_right Widget.heldFonts
  refine ⟨fun w' hw' => ?_, hw.fonts.perm hp.symm⟩
  rcases List.mem_or_eq_of_mem_set hw' with hw' | rfl
  · exact h.heard w' hw'
  · exact hw.heard

theorem Kept.cons (h : s.Kept) {w : Widget α (Traced σ) (Silent χ)} {t : Traced σ}
    (hw : Widget.Owns s.held (w, t)) : (⟨w :: s.widgets, t⟩ : Stage α σ χ).Kept :=
  ⟨List.forall_mem_cons.mpr ⟨hw.heard, h.heard⟩, hw.fonts⟩

theorem kept_empty (host : σ) : (empty host : Stage α σ χ).Kept := by
  refine ⟨fun w hw => ?_, Accounted.nil⟩
  simp [empty] at hw

variable [Scalar α] [TextHost α σ] [PaintHost α σ] [Channel α σ χ]

/-- A slot without a widget does nothing. -/
def next (s : Stage α σ χ) : StageOp α σ χ → Stage α σ χ
  | .build creation =>
    match creation.run.run s.host with
    | (.ok w, host) => ⟨w :: s.widgets, host⟩
    | (.error _, host) => ⟨s.widgets, host⟩
  | .act slot op =>
    match s.widgets[slot]? with
    | some w =>
      let (_, w, host) := (op.run Traced.hearTab Traced.hearSegment).run (w, s.host)
      ⟨s.widgets.set slot w, host⟩
    | none => s
  | .drop slot =>
    match s.widgets[slot]? with
    | some w =>
      let (_, _, host) := (Widget.drop : Step _ (Traced σ) Unit).run (w, s.host)
      ⟨s.widgets.eraseIdx slot, host⟩
    | none => s

def run (s : Stage α σ χ) (ops : List (StageOp α σ χ)) : Stage α σ χ := ops.foldl next s

theorem kept_next (h : s.Kept) (op : StageOp α σ χ) : (s.next op).Kept := by
  cases op with
  | build creation =>
    have hnew := Widget.ends_create creation h.fonts
    rcases hrun : creation.run.run s.host with ⟨e | w, t⟩
    · rw [ends_of_run hrun] at hnew
      simp only [next, hrun]
      exact ⟨h.heard, hnew⟩
    · rw [ends_of_run hrun] at hnew
      simp only [next, hrun]
      exact h.cons hnew
  | act slot op =>
    cases hw : s.widgets[slot]? with
    | none => simpa only [next, hw] using h
    | some w =>
      have hlt : slot < s.widgets.length := (List.getElem?_eq_some_iff.mp hw).1
      simp only [next, hw]
      exact h.set hlt (Widget.keeps_run op (w, s.host) (h.owns hw))
  | drop slot =>
    cases hw : s.widgets[slot]? with
    | none => simpa only [next, hw] using h
    | some w =>
      simp only [next, hw]
      exact ⟨fun w' hw' => h.heard w' (List.mem_of_mem_eraseIdx hw'),
        Widget.ends_drop (h.owns hw)⟩

theorem kept_run (h : s.Kept) (ops : List (StageOp α σ χ)) : (s.run ops).Kept := by
  induction ops generalizing s with
  | nil => exact h
  | cons op ops ih => exact ih (kept_next h op)

/-- Whatever the widgets on a host that never issues a live handle again have been told to do, and
whichever calls have failed: each call was made on a live font, no font has two holders, and the
live fonts are those held and those the host refused to destroy. -/
theorem fonts_accounted (host : σ) (ops : List (StageOp α σ χ))
    (hfresh : Fresh ((empty host : Stage α σ χ).run ops).host.calls) :
    let s := (empty host : Stage α σ χ).run ops
    Balanced s.held s.host.calls ∧
      ((∀ font, .destroyFailed font ∉ s.host.calls) → s.widgets = [] → live s.host.calls = []) := by
  intro s
  have hb : Balanced s.held s.host.calls := (kept_run (kept_empty host) ops).fonts hfresh
  refine ⟨hb, fun hd hw => ?_⟩
  have hheld : s.held = [] := by rw [held, hw, List.flatMap_nil]
  apply List.eq_nil_iff_forall_not_mem.mpr
  intro font hf
  rw [hb.live_iff, hheld, stuck_eq_nil hd] at hf
  simp at hf

/-- The host keeps both fonts of a label that is given a style, and makes only one of the two fonts
of a tooltip. -/
def refusedRun : Stage Rat (Scripted Rat) (Timing Rat) :=
  let style : TextStyle Rat := .withFamily "Sans"
  let tip : TooltipStyle Rat := { TooltipStyle.rich with title := style, body := style }
  (empty (.start [false, false, true, true, false, false, true])).run
    [.build (.label style "label"), .act 0 (.label (.setStyle style)), .act 0 (.label .metrics),
      .build (.tooltip tip (.point 0 0) .default "body"), .drop 0]

theorem fonts_accounted_refusedRun :
    Fresh refusedRun.host.calls ∧ refusedRun.host.calls.length = 8 ∧
      Balanced refusedRun.held refusedRun.host.calls := by
  have hfresh : Fresh refusedRun.host.calls := by decide +kernel
  have hcalls : refusedRun.host.calls.length = 8 := by decide +kernel
  exact ⟨hfresh, hcalls, (fonts_accounted _ _ hfresh).1⟩

end Stage

end Widgetry
