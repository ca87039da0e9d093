import Widgetry.Proofs.Fonts.Ownership
import Widgetry.Proofs.Fonts.Replacing

/-! A new style is taken over with its font or not at all. A tooltip has two fonts and goes another
way: once both are made, its old ones are released, and it keeps the new style whatever comes of
that. -/
namespace Widgetry

open Ledger

variable {α σ χ ω β : Type}

/-- The font that a call asks to be destroyed. -/
def HostCall.released? : HostCall → Option FontHandle
  | destroyed font | destroyFailed font => some font
  | _ => none

/-- A thing that was to take another font, on the calls `base` before and `after`: it is as it was,
or it is made over in the new font. -/
inductive Swap (font : ω → OwnedFont) (remade : FontHandle → ω → Prop) (w : ω)
    (base : List HostCall) : Except Error Unit → ω → List HostCall → Prop
  | kept {e : Error} {after : List HostCall} (reverted : Fresh after → Reverted base after) :
      Swap font remade w base (.error e) w after
  | swapped {new : FontHandle} {w' : ω} {after : List HostCall} (made : remade new w')
      (holds : font w' = .adopt new) (replaced : Fresh after → Replaced base (font w) new after) :
      Swap font remade w base (.ok ()) w' after

theorem Swap.refused {font : ω → OwnedFont} {remade : FontHandle → ω → Prop} {w : ω}
    {base : List HostCall} (e : Error) : Swap font remade w base (.error e) w base :=
  .kept fun _ => .refl base

variable [TextHost α σ]

section Part

variable {part : ω → OwnedFont} {put : OwnedFont → ω → ω} {remade : FontHandle → ω → Prop}
  {w : ω} {t : Traced σ}

/-- What follows the replacement does not fail and needs nothing of the host. -/
theorem ends_swapIn (hput : ∀ w, put (part w) w = w) {brought : β → OwnedFont}
    {load : HostM (Traced σ) β} (hload : Loads brought load)
    (hold : Fresh t.calls → ∀ font ∈ (part w).toList, font ∈ live t.calls)
    {f : β → Step ω (Traced σ) Unit} (finish : β → ω → ω)
    (hf : ∀ b p, Ends (f b) p fun r q => r = .ok () ∧ q = (finish b p.1, p.2))
    (hremade : ∀ b new, brought b = .adopt new →
      remade new (finish b (put (.adopt new) w)) ∧
        part (finish b (put (.adopt new) w)) = .adopt new) :
    Ends (do
      let b ← Step.host load
      Step.zoom part put (OwnedFont.replace (brought b))
      f b) (w, t) fun r p => Swap part remade w t.calls r p.1 p.2.calls := by
  rw [ends_bind, Step.ends_host]
  apply (hload t).imp
  rintro (e | b) t' hloaded
  · exact .kept hloaded
  obtain ⟨new, asked, hnew, hcalls, hb⟩ := hloaded
  dsimp only
  rw [ends_bind, Step.ends_zoom, hnew]
  apply (OwnedFont.ends_replace_brought hcalls hb hold).imp
  rintro (e | ⟨⟩) ⟨font, t''⟩ ⟨rfl, hledger⟩
  · dsimp only
    rw [hput]
    exact .kept hledger
  · apply (hf b (put (.adopt new) w, t'')).imp
    rintro _ _ ⟨rfl, rfl⟩
    exact .swapped (hremade b new hnew).1 (hremade b new hnew).2 hledger

end Part

theorem ends_update_done {p : ω × σ} (f : ω → ω) :
    Ends (Step.update f : Step ω σ Unit) p fun r q => r = .ok () ∧ q = (f p.1, p.2) := ⟨rfl, rfl⟩

variable [Scalar α] {others : List FontHandle} {t : Traced σ}

/-- A font that someone holds is live. -/
theorem Held.live {held : List FontHandle} (h : Held held t) (hfresh : Fresh t.calls) :
    ∀ font ∈ held, font ∈ live t.calls :=
  fun font hf => ((h hfresh).live_iff font).mpr (.inl hf)

theorem TabRow.ends_setStyle_swap {row : TabRow α (Traced σ) χ} (h : Owns others (row, t))
    (style : TabStyle α) : Ends (setStyle style) (row, t) fun r p =>
      Swap font (fun new row' => row' = { row with style, font := .adopt new }) row t.calls r
        p.1 p.2.calls := by
  refine .of_check (fun _ _ => ?_) fun e _ => .refused e
  exact ends_swapIn (fun _ => rfl) (OwnedFont.loads_create style.text)
    (fun hfresh font hf => h.fonts.live hfresh font (List.mem_append_left _ hf))
    (fun _ row => { row with style }) (fun _ _ => ends_update_done _) fun _ _ _ => ⟨rfl, rfl⟩

theorem SegmentGroup.ends_setStyle_swap {group : SegmentGroup α (Traced σ)}
    (h : Owns others (group, t)) (style : SegmentStyle α) :
    Ends (setStyle style) (group, t) fun r p =>
      Swap font (fun new group' => group' = { group with style, font := .adopt new }) group t.calls
        r p.1 p.2.calls := by
  refine .of_check (fun _ _ => ?_) fun e _ => .refused e
  exact ends_swapIn (fun _ => rfl) (OwnedFont.loads_create style.text)
    (fun hfresh font hf => h.fonts.live hfresh font (List.mem_append_left _ hf))
    (fun _ group => { group with style }) (fun _ _ => ends_update_done _) fun _ _ _ => ⟨rfl, rfl⟩

theorem Label.ends_setStyle_swap {label : Label α} (h : Owns others (label, t))
    (style : TextStyle α) : Ends (setStyle style) (label, t) fun r p =>
      Swap font
        (fun new label' => label' = { label with style, font := .adopt new, metrics? := none })
        label t.calls r p.1 p.2.calls := by
  refine .of_check (fun _ _ => ?_) fun e _ => .refused e
  exact ends_swapIn (fun _ => rfl) (OwnedFont.loads_create style)
    (fun hfresh font hf => h.live hfresh font (List.mem_append_left _ hf))
    (fun _ label => { label with style, metrics? := none }) (fun _ _ => ends_update_done _)
    fun _ _ _ => ⟨rfl, rfl⟩

namespace Badge

omit [Scalar α] in
theorem loads_loadFont (style : BadgeStyle α) :
    Loads Prod.fst (loadFont style : HostM (Traced σ) (OwnedFont × TextMetrics α)) := by
  intro t
  rw [loadFont, ends_bind]
  apply (ends_createFont_calls style.text).imp
  rintro (e | new) t₁ hcreated
  · intro _
    rw [show t₁.calls = t.calls from hcreated]
    exact .refl _
  have hmeasure : Ends (TextHost.measureText new "" : HostM (Traced σ) (TextMetrics α)) t₁
      fun _ t₂ => t₂.calls = [.measured new, .created new] ++ t.calls := by
    apply (Traced.ends_call _ _).mpr
    apply (ends_run _ _).imp
    intro _ _ _
    change .measured new :: t₁.calls = _
    rw [show t₁.calls = _ from hcreated]
    rfl
  have hb {t₂ : Traced σ} (hcalls : t₂.calls = [.measured new, .created new] ++ t.calls)
      (hfresh : Fresh t₂.calls) : Brought new t.calls [.measured new, .created new] := by
    rw [hcalls] at hfresh
    exact (Brought.created hfresh.2).cons nofun nofun fun _ => rfl
  dsimp only
  rw [ends_tryCatch, ends_bind]
  apply hmeasure.imp
  rintro (e | line) t₂ hcalls
  · dsimp only
    rw [ends_bind]
    apply (OwnedFont.ends_discard_brought hcalls (hb hcalls)).imp
    rintro _ t₃ ⟨rfl, hreverted⟩
    exact hreverted
  · exact ⟨new, _, rfl, hcalls, hb hcalls⟩

/-- A badge that holds no font takes its style alone. -/
theorem ends_setStyle_swap {badge : Badge α} (h : Owns others (badge, t)) (style : BadgeStyle α) :
    Ends (setStyle style) (badge, t) fun r p =>
      if badge.font.isLive then
        Swap font
          (fun new badge' => ∃ line, badge' = { badge with style, line, font := .adopt new })
          badge t.calls r p.1 p.2.calls
      else
        p = (match style.validate with
          | .ok () => { badge with style }
          | .error _ => badge, t) ∧ r = style.validate := by
  rw [setStyle, ends_bind, Step.ends_check]
  cases hvalid : style.validate with
  | error e =>
    dsimp only
    split
    · exact .refused e
    · exact ⟨rfl, rfl⟩
  | ok _ =>
    dsimp only
    rw [ends_bind, Step.ends_self]
    dsimp only
    split
    · exact ends_swapIn (fun _ => rfl) (loads_loadFont style)
        (fun hfresh font hf => h.live hfresh font (List.mem_append_left _ hf))
        (fun loaded badge => { badge with style, line := loaded.2 }) (fun _ _ => ⟨rfl, rfl⟩)
        fun loaded _ _ => ⟨⟨loaded.2, rfl⟩, rfl⟩
    · exact ⟨rfl, rfl⟩

end Badge

omit [TextHost α σ] [Scalar α] in
theorem OwnedFont.toList_reverse (font : OwnedFont) : font.toList.reverse = font.toList := by
  obtain ⟨_ | handle⟩ := font
  · rfl
  · rfl

omit [Scalar α] in
/-- A held font is asked to be destroyed once, and nothing else happens. -/
theorem OwnedFont.ends_release_calls (font : OwnedFont) :
    Ends (release : Step OwnedFont (Traced σ) Unit) (font, t) fun r p =>
      p.1 = .empty ∧ ∃ asked, p.2.calls = asked ++ t.calls ∧
        asked.filterMap HostCall.released? = font.toList ∧
          (r = .ok () ↔ ∀ f, .destroyFailed f ∉ asked) := by
  obtain ⟨_ | handle⟩ := font
  · exact ⟨rfl, [], rfl, rfl, fun _ _ => List.not_mem_nil, fun _ => rfl⟩
  · rw [release, ends_bind, Step.ends_self]
    dsimp only
    rw [ends_bind, Step.ends_update]
    dsimp only
    rw [Step.ends_host]
    apply (ends_destroyFont_calls handle).imp
    rintro (e | ⟨⟩) t' hcalls
    · exact ⟨rfl, [.destroyFailed handle], hcalls, rfl, by simp⟩
    · exact ⟨rfl, [.destroyed handle], hcalls, rfl, by simp⟩

namespace Tooltip

/-- How a tooltip takes a style. Until its new fonts are made nothing of it changes. Then it has
the style and the fonts, and each font it held has been asked to be destroyed once. -/
inductive Restyled (tip : Tooltip α) (style : TooltipStyle α) (t : Traced σ) :
    Except Error Unit → Tooltip α × Traced σ → Prop
  | refused {e : Error} (invalid : style.validate true = .error e) :
      Restyled tip style t (.error e) (tip, t)
  | kept {e : Error} {t' : Traced σ} (valid : style.validate true = .ok ())
      (unmade : (createFonts style).run t = (.error e, t'))
      (reverted : Fresh t'.calls → Reverted t.calls t'.calls) :
      Restyled tip style t (.error e) (tip, t')
  | swapped {r : Except Error Unit} {title body : OwnedFont} {t₁ t' : Traced σ}
      {asked : List HostCall} (valid : style.validate true = .ok ())
      (made : (createFonts style).run t = (.ok (title, body), t₁))
      (called : t'.calls = asked ++ t.calls)
      (created : ∀ font ∈ title.toList ++ body.toList, .created font ∈ asked)
      (live : Fresh t'.calls → ∀ font ∈ title.toList ++ body.toList, font ∈ Ledger.live t'.calls)
      (released : asked.filterMap HostCall.released? = (fonts tip).reverse)
      (once : Fresh t'.calls → ∀ font ∈ fonts tip,
        (asked.filterMap HostCall.released?).count font = 1)
      (succeeded : r = .ok () ↔ ∀ font, .destroyFailed font ∉ asked) :
      Restyled tip style t r
        ({ tip with style, titleFont := title, bodyFont := body, content? := none }, t')

theorem both_eq_ok {first second : Except Error Unit} :
    both first second = .ok () ↔ first = .ok () ∧ second = .ok () := by
  rcases first with e | ⟨⟩
  · exact ⟨fun h => (error_ne_ok h).elim, fun h => (error_ne_ok h.1).elim⟩
  · exact ⟨fun h => ⟨rfl, h⟩, fun h => h.2⟩

omit [Scalar α] in
theorem ends_createFonts_calls (style : TooltipStyle α) :
    Ends (createFonts style : HostM (Traced σ) (OwnedFont × OwnedFont)) t fun r t' =>
      match r with
      | .ok (title, body) => ∃ made, t'.calls = made ++ t.calls ∧
          made.filterMap HostCall.released? = [] ∧ (∀ font, .destroyFailed font ∉ made) ∧
            ∀ font ∈ title.toList ++ body.toList, .created font ∈ made
      | .error _ => Fresh t'.calls → Reverted t.calls t'.calls := by
  unfold createFonts
  split
  · rw [ends_bind]
    apply (OwnedFont.ends_create_calls style.text).imp
    rintro (e | _) t₁ hbody
    · intro _
      rw [show t₁.calls = _ from hbody]
      exact .refl _
    · obtain ⟨body, rfl, hcalls⟩ := hbody
      refine ⟨[.created body], hcalls, rfl, by simp, ?_⟩
      simp [OwnedFont.toList, OwnedFont.empty, OwnedFont.adopt]
  · rw [ends_bind]
    apply (OwnedFont.ends_create_calls style.title).imp
    rintro (e | _) t₁ htitle
    · intro _
      rw [show t₁.calls = _ from htitle]
      exact .refl _
    obtain ⟨title, rfl, htitle⟩ := htitle
    dsimp only
    rw [ends_tryCatch, ends_bind]
    apply (OwnedFont.ends_create_calls style.body).imp
    rintro (e | _) t₂ hbody
    · have hcalls : t₂.calls = [.created title] ++ t.calls := hbody.trans htitle
      dsimp only
      rw [ends_bind]
      apply (OwnedFont.ends_discard_brought hcalls fun hfresh => ?_).imp
      · rintro _ t₃ ⟨rfl, hreverted⟩
        exact hreverted
      · rw [hcalls] at hfresh
        exact .created hfresh
    · obtain ⟨body, rfl, hbody⟩ := hbody
      refine ⟨[.created body, .created title], ?_, rfl, by simp, ?_⟩
      · change t₂.calls = _
        rw [hbody, htitle]
        rfl
      · simp [OwnedFont.toList, OwnedFont.adopt]

omit [Scalar α] in
theorem ends_releaseFonts_calls (tip : Tooltip α) :
    Ends (releaseFonts : Step (Tooltip α) (Traced σ) (Except Error Unit)) (tip, t) fun r p =>
      p.1 = { tip with titleFont := .empty, bodyFont := .empty } ∧ ∃ released asked,
        r = .ok released ∧ p.2.calls = asked ++ t.calls ∧
          asked.filterMap HostCall.released? = (fonts tip).reverse ∧
            (released = .ok () ↔ ∀ f, .destroyFailed f ∉ asked) := by
  rw [releaseFonts, ends_bind, ends_outcome, onTitleFont, Step.ends_zoom]
  apply (OwnedFont.ends_release_calls tip.titleFont).imp
  rintro title ⟨_, t₁⟩ ⟨rfl, asked, hcalls, hreleased, hok⟩
  dsimp only
  rw [ends_bind, ends_outcome, onBodyFont, Step.ends_zoom]
  apply (OwnedFont.ends_release_calls tip.bodyFont).imp
  rintro body ⟨_, t₂⟩ ⟨rfl, asked', hcalls', hreleased', hok'⟩
  refine ⟨rfl, both title body, asked' ++ asked, rfl, ?_, ?_, ?_⟩
  · change t₂.calls = _
    rw [show t₂.calls = _ from hcalls', show t₁.calls = _ from hcalls, List.append_assoc]
  · rw [List.filterMap_append, hreleased, hreleased', fonts, List.reverse_append,
      OwnedFont.toList_reverse, OwnedFont.toList_reverse]
  · simp only [both_eq_ok, hok, hok', List.mem_append, not_or, forall_and, and_comm]

theorem ends_setStyle_restyled {tip : Tooltip α} (h : Owns others (tip, t))
    (style : TooltipStyle α) : Ends (setStyle style) (tip, t) (Restyled tip style t) := by
  refine .of_check (fun _ hvalid => ?_) fun e => .refused
  have hmade : Ends (createFonts style : HostM (Traced σ) _) t _ := ends_createFonts_calls style
  have hheld : Ends (createFonts style : HostM (Traced σ) _) t _ := brings_createFonts style _ t h
  rw [ends_bind, Step.ends_host]
  rcases hrun : (createFonts style : HostM (Traced σ) _).run t with ⟨e | ⟨title, body⟩, t₁⟩
  all_goals rw [ends_of_run hrun] at hmade hheld ⊢
  · exact .kept hvalid hrun hmade
  obtain ⟨made, hcalls, hunreleased, hunrefused, hcreated⟩ := hmade
  have howns : Owns (title.toList ++ body.toList ++ others) (tip, t₁) :=
    hheld.perm (List.perm_append_comm_assoc _ _ _)
  dsimp only
  rw [ends_bind]
  apply ((ends_releaseFonts howns).and (ends_releaseFonts_calls tip)).imp
  rintro _ ⟨_, t₂⟩ ⟨⟨-, -, hnew⟩, rfl, released, asked, rfl, hasked, hreleased, hok⟩
  dsimp only
  rw [ends_bind, Step.ends_update, Step.ends_check]
  have hall : t₂.calls = (asked ++ made) ++ t.calls := by
    rw [show t₂.calls = asked ++ t₁.calls from hasked, hcalls, List.append_assoc]
  have hasked' : (asked ++ made).filterMap HostCall.released? = (fonts tip).reverse := by
    rw [List.filterMap_append, hreleased, hunreleased, List.append_nil]
  refine .swapped hvalid hrun hall (fun font hf => List.mem_append_right _ (hcreated font hf))
    (fun hfresh font hf => hnew.live hfresh font (List.mem_append_left _ hf)) hasked'
    (fun hfresh font hf => ?_) ?_
  · rw [hall] at hfresh
    have hnodup : (fonts tip).Nodup := (List.nodup_append.mp (h hfresh.of_append).nodup).1
    rw [hasked', List.count_reverse, hnodup.count, if_pos hf]
  · rw [hok]
    simp [hunrefused]

end Tooltip

namespace Widget

/-- What becomes of the widget when it is given a style, whichever style it is and whatever the host
refuses. -/
def TakesStyles (t : Traced σ) : Widget α (Traced σ) χ → Prop
  | tabs row => ∀ style, Ends (TabRow.setStyle style) (row, t) fun r p =>
      Swap TabRow.font (fun new row' => row' = { row with style, font := .adopt new }) row t.calls
        r p.1 p.2.calls
  | segmented group => ∀ style, Ends (SegmentGroup.setStyle style) (group, t) fun r p =>
      Swap SegmentGroup.font (fun new group' => group' = { group with style, font := .adopt new })
        group t.calls r p.1 p.2.calls
  | label l => ∀ style, Ends (Label.setStyle style) (l, t) fun r p =>
      Swap Label.font (fun new l' => l' = { l with style, font := .adopt new, metrics? := none }) l
        t.calls r p.1 p.2.calls
  | badge b => ∀ style, Ends (Badge.setStyle style) (b, t) fun r p =>
      if b.font.isLive then
        Swap Badge.font (fun new b' => ∃ line, b' = { b with style, line, font := .adopt new }) b
          t.calls r p.1 p.2.calls
      else
        p = (match style.validate with
          | .ok () => { b with style }
          | .error _ => b, t) ∧ r = style.validate
  | tooltip tip => ∀ style, Ends (Tooltip.setStyle style) (tip, t) (Tooltip.Restyled tip style t)

theorem Owns.takesStyles {w : Widget α (Traced σ) χ} (h : Owns others (w, t)) :
    w.TakesStyles t := by
  obtain ⟨heard, hfonts⟩ := h
  cases w with
  | tabs row => exact TabRow.ends_setStyle_swap ⟨heard, hfonts⟩
  | segmented group => exact SegmentGroup.ends_setStyle_swap ⟨heard, hfonts⟩
  | label l => exact Label.ends_setStyle_swap hfonts
  | badge b => exact Badge.ends_setStyle_swap hfonts
  | tooltip tip => exact Tooltip.ends_setStyle_restyled hfonts

end Widget

namespace Stage

/-- Whatever the widgets on a host have been told to do, and whichever calls have failed or fail
now: a widget that is given a style swaps its font or stays as it was, and a tooltip, once its new
fonts are made, takes them and has the old ones released. -/
theorem setStyle_swaps_or_fails [PaintHost α σ] [Channel α σ χ] (host : σ)
    (ops : List (StageOp α σ χ)) {slot : Nat} {w : Widget α (Traced σ) (Silent χ)}
    (hw : ((empty host : Stage α σ χ).run ops).widgets[slot]? = some w) :
    w.TakesStyles ((empty host : Stage α σ χ).run ops).host :=
  ((kept_run (kept_empty host) ops).owns hw).takesStyles

/-- A label on a host that will make it another font, but destroy neither of the two. -/
def grudging : Stage Rat (Scripted Rat) (Timing Rat) :=
  (empty (.start [false, false, true, true])).run [.build (.label (.withFamily "Sans") "label")]

def grudgingLabel : Label Rat where
  style := .withFamily "Sans"
  text := "label"
  font := .adopt ⟨1, 1⟩
  metrics? := none
  bounds := .zero
  flags := .none

theorem setStyle_strands_replacement : grudging.widgets[0]? = some (.label grudgingLabel) ∧
    Ends (Label.setStyle (.withFamily "Serif")) (grudgingLabel, grudging.host) fun r p =>
      r.isOk = false ∧ p.1 = grudgingLabel ∧ Reverted grudging.host.calls p.2.calls ∧
        (live p.2.calls).length = 2 := by
  have hw : grudging.widgets[0]? = some (.label grudgingLabel) := by rfl
  have hstranded :
      let q := (Label.setStyle (.withFamily "Serif")).run (grudgingLabel, grudging.host)
      decide (q.1.isOk = false ∧ Fresh q.2.2.calls ∧ (live q.2.2.calls).length = 2) = true := by
    decide +kernel
  have htakes : Ends (Label.setStyle (.withFamily "Serif")) (grudgingLabel, grudging.host) _ :=
    setStyle_swaps_or_fails _ _ hw (.withFamily "Serif")
  obtain ⟨hfailed, hfresh, hlive⟩ := of_decide_eq_true hstranded
  refine ⟨hw, ?_⟩
  rcases hrun : (Label.setStyle (.withFamily "Serif")).run (grudgingLabel, grudging.host)
    with ⟨r, l, h⟩
  rw [hrun] at hfailed hfresh hlive
  rw [ends_of_run hrun] at htakes ⊢
  cases htakes with
  | kept reverted => exact ⟨hfailed, rfl, reverted hfresh, hlive⟩
  | swapped => exact Bool.noConfusion hfailed

end Stage

end Widgetry
