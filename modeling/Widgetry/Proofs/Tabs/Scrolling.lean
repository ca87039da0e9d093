import Widgetry.Proofs.Reachable
import Widgetry.Proofs.Tabs.Offset
import Widgetry.Proofs.Tabs.View

/-! Where a row is scrolled to. Its offset is put to zero or clamped in a layout of the row as it
stands, and otherwise left alone. -/
namespace Widgetry

open Step (At)

variable {α σ τ χ β γ : Type} [Scalar α]

namespace TabRow

section Clamped

variable [TextHost α σ] {row row' row₁ row₂ : TabRow α σ χ} {h : σ} {l : TabLayout α} {offset : α}

/-- Fixed tabs are not scrolled, others to where a layout of the row clamps some offset. -/
def Clamped (row : TabRow α σ χ) : Prop :=
  match row.style.mode with
  | .fixed => row.scroll = 0
  | .scrollable => ∃ l offset, LayoutOf σ row.view l ∧ l.clampScroll offset = .ok row.scroll

theorem Clamped.of_fixed (hm : row.style.mode = .fixed) (hs : row.scroll = 0) : Clamped row := by
  unfold Clamped
  rwa [hm]

theorem Clamped.fixed (hc : Clamped row) (hm : row.style.mode = .fixed) : row.scroll = 0 := by
  unfold Clamped at hc
  rwa [hm] at hc

theorem LayoutOf.clamped (hl : LayoutOf σ row.view l)
    (hs : l.clampScroll offset = .ok row.scroll) : Clamped row := by
  have hmode : l.mode = row.style.mode := hl.computes.mode
  unfold Clamped
  cases hm : row.style.mode with
  | fixed =>
    obtain ⟨-, hscroll⟩ := TabLayout.clampScroll_eq_ok.mp hs
    rw [hmode, hm] at hscroll
    exact hscroll
  | scrollable => exact ⟨l, offset, hl, hs⟩

theorem Clamped.of_shown (hc : Clamped row) (hs : row'.shown = row.shown) : Clamped row' := by
  have hview : row'.view = row.view := congrArg Prod.fst hs
  have hstyle : row'.style = row.style := congrArg TabView.style hview
  have hscroll : row'.scroll = row.scroll := congrArg Prod.snd hs
  unfold Clamped at hc ⊢
  rwa [hview, hstyle, hscroll]

theorem Clamped.admissible [HasOffsets α] (hc : Clamped row) : Admissible row.scroll := by
  unfold Clamped at hc
  split at hc
  · rw [hc]
    exact HasOffsets.zero
  · obtain ⟨l, offset, -, hs⟩ := hc
    exact TabLayout.admissible_of_clampScroll hs

/-- The row is clamped, or the step has failed before it came to that. -/
def Reclamped (row : TabRow α σ χ) (r : Except Error β) (row' : TabRow α σ χ) : Prop :=
  row'.view = row.view ∧ (Clamped row' ∨ row'.scroll = row.scroll ∧ ∃ e, r = .error e)

theorem Reclamped.clamped {b : β} (hr : Reclamped row (.ok b) row') : Clamped row' := by
  obtain ⟨-, hc | ⟨-, e, he⟩⟩ := hr
  · exact hc
  · exact (error_ne_ok he.symm).elim

theorem Reclamped.bind {act : Step (TabRow α σ χ) σ β} {f : β → Step (TabRow α σ χ) σ γ}
    {p : TabRow α σ χ × σ} (ha : Ends act p fun r q => Reclamped row r q.1)
    (hf : ∀ b k, Keeps (At shown k fun _ => True) (f b)) :
    Ends (act >>= f) p fun r q => Reclamped row r q.1 := by
  refine ha.bind (fun b q hq => ?_) ?_
  · apply (hf b q.1.shown).ends ⟨rfl, trivial⟩
    rintro r q' ⟨hshown, -⟩
    exact ⟨(congrArg Prod.fst hshown).trans hq.1, .inl (hq.clamped.of_shown hshown)⟩
  · rintro e q ⟨hview, hq⟩
    exact ⟨hview, hq.imp_right fun hs => ⟨hs.1, e, rfl⟩⟩

/-- The offset is as it was, or clamped. -/
def Refit (row row' : TabRow α σ χ) : Prop :=
  row'.view = row.view ∧ (row'.scroll = row.scroll ∨ Clamped row')

/-- An operation that leaves the style alone. -/
structure Scrolls (row row' : TabRow α σ χ) : Prop where
  style : row'.style = row.style
  scroll : row'.scroll = row.scroll ∨ row'.scroll = 0 ∨ Clamped row'

theorem Scrolls.of_shown (hs : row'.shown = row.shown) : Scrolls row row' where
  style := congrArg TabView.style (congrArg Prod.fst hs)
  scroll := .inl (congrArg Prod.snd hs)

theorem Refit.scrolls (hr : Refit row row') : Scrolls row row' where
  style := congrArg TabView.style hr.1
  scroll := hr.2.imp_right .inr

theorem Reclamped.scrolls {r : Except Error β} (hr : Reclamped row r row') : Scrolls row row' where
  style := congrArg TabView.style hr.1
  scroll := hr.2.elim (fun hc => .inr (.inr hc)) fun hs => .inl hs.1

theorem ends_setStyle_scroll (style : TabStyle α) :
    Ends (setStyle style : Step (TabRow α σ χ) σ Unit) (row, h) fun r q =>
      q.1.scroll = row.scroll ∧
        match r with
        | .ok () => q.1.style = style ∧ style.validate true = .ok ()
        | .error _ => q.1.style = row.style := by
  rw [setStyle]
  refine .of_check (fun _ hvalid => ?_) fun _ _ => ⟨rfl, rfl⟩
  rw [ends_bind, Step.ends_host]
  apply (ends_run _ _).imp
  rintro (e | font) h₁ -
  · exact ⟨rfl, rfl⟩
  dsimp only
  rw [ends_bind, onFont, Step.ends_zoom]
  apply (ends_run _ _).imp
  rintro (e | ⟨⟩) q -
  · exact ⟨rfl, rfl⟩
  · exact ⟨rfl, rfl, hvalid⟩

variable [Channel α σ χ]

/-- How resnapping, painting and a hit test begin. -/
theorem ends_fitting {f : TabLayout α → α → Step (TabRow α σ χ) σ β}
    {post : Except Error β → TabRow α σ χ × σ → Prop}
    (ok : ∀ l scroll h', LayoutOf σ row.view l → l.clampScroll row.scroll = .ok scroll →
      Ends (f l scroll) (row, h') post)
    (error : ∀ e h', post (.error e) (row, h')) :
    Ends (do
      let layout ← currentLayout
      let scroll ← Step.check (layout.clampScroll (← Step.self).scroll)
      f layout scroll) (row, h) post := by
  refine ends_currentLayout_of.bind ?_ ?_
  · rintro l ⟨row', h'⟩ ⟨hrow, hl⟩
    obtain rfl : row' = row := hrow
    rw [ends_bind, Step.ends_self]
    exact .of_check (fun scroll hs => ok l scroll h' (hl l rfl) hs) fun e _ => error e h'
  · rintro e ⟨row', h'⟩ ⟨hrow, -⟩
    obtain rfl : row' = row := hrow
    exact error e h'

/-- A row that fails to resnap stays where it is. -/
theorem ends_resnap_clamped :
    Ends (resnap : Step (TabRow α σ χ) σ Unit) (row, h) fun r q =>
      match r with
      | .ok () => q.1.view = row.view ∧ Clamped q.1
      | .error _ => q.1.shown = row.shown := by
  refine ends_fitting (fun l scroll h' hl hs => ?_) fun _ _ => rfl
  refine (unmoved_syncIndicator l false (row, h') ⟨rfl, trivial⟩).bind ?_ fun _ _ hq => hq.1
  rintro ⟨⟩ ⟨row', h₁⟩ ⟨hshown, -⟩
  have hview : row'.view = row.view := congrArg Prod.fst hshown
  rw [← hview] at hl
  have hc : Clamped { row' with scroll, contentWidth := l.contentWidth } := LayoutOf.clamped hl hs
  exact ⟨hview, hc⟩

theorem ends_hit_clamped (point : Point) :
    Ends (hit point : Step (TabRow α σ χ) σ _) (row, h) fun r q => Reclamped row r q.1 := by
  refine ends_fitting (fun l scroll h' hl hs => ?_) fun e _ => ⟨rfl, .inr ⟨rfl, e, rfl⟩⟩
  have hupdate : Ends (Step.update fun row => { row with scroll }) (row, h') fun r q =>
      Reclamped row r q.1 := ⟨rfl, .inl (LayoutOf.clamped hl hs)⟩
  refine Reclamped.bind hupdate fun _ k => Step.keeps_at_self fun row _ => ?_
  refine (Step.keeps_check _).bind fun measurer => ?_
  exact (Step.keeps_at_host (.of_true _)).bind fun _ => .pure _

theorem ends_paint_clamped [PaintHost α σ] :
    Ends (paint : Step (TabRow α σ χ) σ Unit) (row, h) fun r q => Reclamped row r q.1 := by
  refine ends_fitting (fun l scroll h' hl hs => ?_) fun e _ => ⟨rfl, .inr ⟨rfl, e, rfl⟩⟩
  have hupdate : Ends (Step.update fun row : TabRow α σ χ =>
      { row with scroll, contentWidth := l.contentWidth }) (row, h') fun r q =>
      Reclamped row r q.1 := ⟨rfl, .inl (LayoutOf.clamped hl hs)⟩
  refine Reclamped.bind hupdate fun _ k => Step.keeps_at_self fun row _ => ?_
  refine (Step.keeps_at_host (.of_true _)).bind fun _ => ?_
  refine (Step.keeps_at_host (.of_true _)).bind fun _ => ?_
  exact (Step.keeps_check _).bind fun font => Step.keeps_at_host (.of_true _)

/-- A refused offset leaves the row alone. -/
theorem ends_setScroll_clamped (offset : α) :
    Ends (setScroll offset : Step (TabRow α σ χ) σ Unit) (row, h) fun r q =>
      match r with
      | .ok () => q.1.view = row.view ∧ Clamped q.1
      | .error _ => q.1 = row := by
  rw [setScroll]
  split
  · rfl
  rw [ends_bind, Step.ends_self]
  dsimp only
  split
  next hmode => exact ⟨rfl, .of_fixed hmode rfl⟩
  · refine ends_currentLayout_of.bind ?_ fun _ _ hq => hq.1
    rintro l ⟨row', h'⟩ ⟨hrow, hl⟩
    obtain rfl : row' = row := hrow
    exact .of_check (fun scroll hs => ⟨rfl, LayoutOf.clamped (hl l rfl) hs⟩) fun _ _ => rfl

theorem ends_onPointerDown_clamped (point : Point) :
    Ends (onPointerDown point : Step (TabRow α σ χ) σ Bool) (row, h) fun r q =>
      Reclamped row r q.1 := by
  refine Reclamped.bind (ends_hit_clamped point) fun ⟨layout, index⟩ k => ?_
  refine Step.keeps_at_self fun row _ => .ite (fun _ => .throw _) fun _ => ?_
  cases index with
  | none => exact .pure _
  | some index => exact Keeps.bind (Step.keeps_at_update fun _ => rfl) fun _ => .pure _

theorem ends_onPointerUp_clamped (point : Point) :
    Ends (onPointerUp point : Step (TabRow α σ χ) σ Bool) (row, h) fun r q =>
      Reclamped row r q.1 := by
  refine Reclamped.bind (ends_hit_clamped point) fun ⟨layout, index⟩ k => ?_
  refine Step.keeps_at_self fun row _ => ?_
  cases row.pressed with
  | none => exact .pure _
  | some pressed =>
    refine Keeps.bind (Keeps.tryCatch ?_ fun e => unmoved_release.bind fun _ => .throw e) fun _ =>
      unmoved_release.bind fun _ => .pure _
    exact .ite (fun _ => unmoved_commit pressed layout) fun _ => .pure _

theorem ends_resnap_refit :
    Ends (resnap : Step (TabRow α σ χ) σ Unit) (row, h) fun _ q => Refit row q.1 := by
  apply ends_resnap_clamped.imp
  rintro (e | ⟨⟩) q hq
  · exact ⟨congrArg Prod.fst hq, .inl (congrArg Prod.snd hq)⟩
  · exact ⟨hq.1, .inr hq.2⟩

theorem ends_layout_clamped (bounds : Rect α) :
    Ends (TabRow.layout bounds : Step (TabRow α σ χ) σ Unit) (row, h) fun r q =>
      match r with
      | .ok () => q.1.style = row.style ∧ Clamped q.1
      | .error _ => Refit row q.1 := by
  rw [TabRow.layout]
  refine .of_check (fun _ _ => ?_) fun _ _ => ⟨rfl, .inl rfl⟩
  rw [ends_bind, Step.ends_self]
  refine .of_check (fun measurer hm => ?_) fun _ _ => ⟨rfl, .inl rfl⟩
  refine (ends_measured_layout bounds hm).bind ?_ fun _ _ hq => hq.1 ▸ ⟨rfl, .inl rfl⟩
  rintro l ⟨row', h₁⟩ ⟨hrow, hl⟩
  obtain rfl : row' = row := hrow
  refine .of_check (fun scroll hs => ?_) fun _ _ => ⟨rfl, .inl rfl⟩
  have hsync : Ends (tryCatch (syncIndicator l false) fun e => do
      if row'.bounds.isDegenerate then pure () else Step.attempt resnap
      throw e : Step (TabRow α σ χ) σ Unit) (row', h₁) fun r q =>
        match r with
        | .ok () => q.1.shown = row'.shown
        | .error _ => Refit row' q.1 := by
    have hkept := unmoved_syncIndicator l false (k := row'.shown) (row', h₁) ⟨rfl, trivial⟩
    refine hkept.tryCatch (fun ⟨⟩ _ hq => hq.1) ?_
    rintro e ⟨row₂, h₂⟩ ⟨hshown, -⟩
    have hrefit : Refit row' row₂ := ⟨congrArg Prod.fst hshown, .inl (congrArg Prod.snd hshown)⟩
    split
    · exact hrefit
    · rw [ends_bind, Step.ends_attempt]
      apply ends_resnap_refit.imp
      rintro _ q ⟨hview, hscroll⟩
      exact ⟨hview.trans hrefit.1, hscroll.imp_left (·.trans (congrArg Prod.snd hshown))⟩
  refine hsync.bind ?_ fun _ _ hq => hq
  rintro ⟨⟩ ⟨row₂, h₂⟩ hshown
  have hview : row₂.view = row'.view := congrArg Prod.fst hshown
  have hl : LayoutOf σ { row'.view with bounds } l := hl l rfl
  rw [← hview] at hl
  exact ⟨congrArg TabView.style hview, LayoutOf.clamped hl hs⟩

theorem ends_setItems_clamped (items : List String) :
    Ends (setItems items : Step (TabRow α σ χ) σ Unit) (row, h) fun r q =>
      q.1.style = row.style ∧ (q.1.scroll = row.scroll ∨ Clamped q.1) ∧
        (¬row.bounds.isDegenerate → r = .ok () → Clamped q.1) := by
  rw [ends_setItems_iff]
  split
  next hdegenerate => exact ⟨rfl, .inl rfl, fun hplaced => (hplaced hdegenerate).elim⟩
  · apply ends_resnap_clamped.imp
    rintro (e | ⟨⟩) q hq
    · have hstyle : q.1.style = row.style := congrArg (fun shown => shown.1.style) hq
      have hscroll : q.1.scroll = row.scroll := congrArg Prod.snd hq
      apply ends_resnap_refit.imp
      rintro _ q' ⟨hview, hq'⟩
      refine ⟨(congrArg TabView.style hview).trans hstyle, hq'.imp_left (·.trans hscroll), ?_⟩
      exact fun _ hr => (error_ne_ok hr).elim
    · exact ⟨congrArg TabView.style hq.1, .inr hq.2, fun _ _ => hq.2⟩

/-- Only a wheel event that is taken moves the row. -/
theorem ends_onScroll_clamped (dx : Int) :
    Ends (onScroll dx : Step (TabRow α σ χ) σ Bool) (row, h) fun r q =>
      q.1 = row ∨ r = .ok true ∧ q.1.view = row.view ∧ Clamped q.1 := by
  rw [onScroll, ends_bind, Step.ends_self]
  dsimp only
  split
  · exact .inl rfl
  · refine (ends_setScroll_clamped _).bind ?_ fun _ _ hq => .inl hq
    exact fun ⟨⟩ q hq => .inr ⟨rfl, hq⟩

theorem ends_destroy_scroll :
    Ends (destroy : Step (TabRow α σ χ) σ Unit) (row, h) fun _ q =>
      q.1.style = row.style ∧ q.1.scroll = 0 := by
  have hstyle : Keeps (At TabRow.style row.style fun _ => True)
      (onFont OwnedFont.release : Step (TabRow α σ χ) σ Unit) :=
    Step.keeps_at_zoom (fun _ _ => rfl) (.of_true _)
  rw [ends_destroy]
  exact (hstyle (row, h) ⟨rfl, trivial⟩).imp fun _ _ hq => ⟨hq.1, rfl⟩

/-- A new row is at its start, in a style that has been checked. -/
theorem ends_create_scroll (style : TabStyle α) (items : List String) (selected : Option Nat)
    (positionChannel widthChannel : χ) (h : σ) :
    Ends (create style items selected positionChannel widthChannel) h fun r _ =>
      ∀ row, r = .ok row → row.style.validate true = .ok () ∧ row.scroll = 0 := by
  apply (ends_create_ok style items selected positionChannel widthChannel h).imp
  intro r h' hmade row hr
  obtain ⟨hvalid, -, font, h₀, hsync⟩ := hmade row hr
  have hshown : row.shown = (⟨style, items, font, .zero⟩, 0) :=
    ((ends_of_run hsync).mp (unmoved_syncIndicator _ false _ ⟨rfl, trivial⟩)).1
  have hstyle : row.style = style := congrArg TabView.style (congrArg Prod.fst hshown)
  exact ⟨hstyle ▸ hvalid, congrArg Prod.snd hshown⟩

end Clamped

end TabRow

/-- Where they succeed, these fit the offset to the row. -/
def TabOp.Clamps (row : TabRow α τ χ) : TabOp α σ → Prop
  | setItems _ => ¬row.bounds.isDegenerate
  | setScroll _ | layout _ | paint => True
  | event (.pointerDown _) | event (.pointerUp _) => ¬row.flags.has WidgetFlags.disabled
  | _ => False

namespace TabRow

variable [TextHost α τ] [Channel α τ χ] {row : TabRow α τ χ} {h : τ}

theorem ends_handleEvent_clamped (e : InputEvent) :
    Ends (handleEvent e) (row, h) fun r q => Scrolls row q.1 ∧
      ((TabOp.event e : TabOp α σ).Clamps row → ∀ b, r = .ok b → Clamped q.1) := by
  by_cases hd : row.flags.has WidgetFlags.disabled
  · rw [ends_handleEvent_disabled hd]
    refine ⟨.of_shown rfl, fun hc => ?_⟩
    cases e with
    | pointerDown _ => exact (hc hd).elim
    | pointerUp _ => exact (hc hd).elim
    | _ => exact hc.elim
  rw [ends_handleEvent hd]
  cases e with
  | scroll point dx dy =>
    apply (ends_onScroll_clamped dx).imp
    rintro r ⟨row', h'⟩ (rfl | ⟨-, hview, hc⟩)
    · exact ⟨.of_shown rfl, False.elim⟩
    · exact ⟨⟨congrArg TabView.style hview, .inr (.inr hc)⟩, False.elim⟩
  | pointerDown point =>
    apply (ends_onPointerDown_clamped point).imp
    rintro r q hq
    refine ⟨hq.scrolls, fun _ b hr => ?_⟩
    subst hr
    exact hq.clamped
  | pointerUp point =>
    apply (ends_onPointerUp_clamped point).imp
    rintro r q hq
    refine ⟨hq.scrolls, fun _ b hr => ?_⟩
    subst hr
    exact hq.clamped
  | pointerMove _ => exact ⟨.of_shown rfl, False.elim⟩
  | keyDown _ => exact ⟨.of_shown rfl, False.elim⟩
  | keyUp _ => exact ⟨.of_shown rfl, False.elim⟩

theorem ends_run_clamped [PaintHost α τ] (hear : TabListener σ → TabListener τ) (op : TabOp α σ)
    (hop : ∀ style, op ≠ .setStyle style) :
    Ends (op.run hear) (row, h) fun r q =>
      Scrolls row q.1 ∧ (op.Clamps row → r = .ok () → Clamped q.1) := by
  have still {act : Step (TabRow α τ χ) τ Unit} (hno : ¬op.Clamps row)
      (ha : Keeps (At shown row.shown fun _ => True) act) :
      Ends act (row, h) fun r q => Scrolls row q.1 ∧ (op.Clamps row → r = .ok () → Clamped q.1) :=
    ha.ends ⟨rfl, trivial⟩ fun _ _ hq => ⟨.of_shown hq.1, fun hc => (hno hc).elim⟩
  cases op with
  | setItems items =>
    apply (ends_setItems_clamped items).imp
    rintro r q ⟨hstyle, hscroll, hc⟩
    exact ⟨⟨hstyle, hscroll.imp_right .inr⟩, hc⟩
  | setStyle style => exact (hop style rfl).elim
  | setSelected selected => exact still id (unmoved_setSelected selected)
  | setScroll offset =>
    apply (ends_setScroll_clamped offset).imp
    rintro (e | ⟨⟩) ⟨row', h'⟩ hq
    · obtain rfl : row' = row := hq
      exact ⟨.of_shown rfl, fun _ hr => (error_ne_ok hr).elim⟩
    · exact ⟨⟨congrArg TabView.style hq.1, .inr (.inr hq.2)⟩, fun _ _ => hq.2⟩
  | setOnSelect listener => exact still id (Step.keeps_at_update fun _ => rfl)
  | setFlags flags => exact still id (Step.keeps_at_update fun _ => rfl)
  | setDisabled on => exact still id (Step.keeps_at_update fun _ => rfl)
  | step dt => exact still id (keeps_ignore (unmoved_step dt))
  | measure width height => exact still id (keeps_ignore (unmoved_measure width height))
  | layout bounds =>
    apply (ends_layout_clamped bounds).imp
    rintro (e | ⟨⟩) q hq
    · exact ⟨hq.scrolls, fun _ hr => (error_ne_ok hr).elim⟩
    · exact ⟨⟨hq.1, .inr (.inr hq.2)⟩, fun _ _ => hq.2⟩
  | paint =>
    apply ends_paint_clamped.imp
    rintro r q hq
    refine ⟨hq.scrolls, fun _ hr => ?_⟩
    subst hr
    exact hq.clamped
  | event e =>
    refine ends_ignore.mpr ?_
    apply (ends_handleEvent_clamped (σ := σ) e).imp
    rintro r q ⟨hs, hc⟩
    refine ⟨hs, fun hclamps hr => ?_⟩
    cases r with
    | error e => exact (error_ne_ok hr).elim
    | ok b => exact hc hclamps b rfl
  | destroy =>
    apply ends_destroy_scroll.imp
    rintro r q ⟨hstyle, hzero⟩
    exact ⟨⟨hstyle, .inr (.inl hzero)⟩, False.elim⟩

theorem styled_run [PaintHost α τ] (hear : TabListener σ → TabListener τ) (op : TabOp α σ) :
    Keeps (fun p => p.1.style.validate true = .ok ())
      (op.run hear : Step (TabRow α τ χ) τ Unit) := by
  rintro ⟨row, h⟩ (hr : row.style.validate true = .ok ())
  by_cases hop : ∃ style, op = .setStyle style
  · obtain ⟨style, rfl⟩ := hop
    apply (ends_setStyle_scroll style).imp
    rintro (e | ⟨⟩) q ⟨-, hstyle⟩
    · rwa [hstyle]
    · rw [hstyle.1]
      exact hstyle.2
  · have hop (style : TabStyle α) : op ≠ .setStyle style := fun h => hop ⟨style, h⟩
    apply (ends_run_clamped hear op hop).imp
    rintro r q ⟨hscrolls, -⟩
    rwa [hscrolls.style]

/-- The style in force has been checked. -/
theorem Reachable.styled [PaintHost α τ] {hear : TabListener σ → TabListener τ}
    {p : TabRow α τ χ × τ} (hp : Reachable hear p) : p.1.style.validate true = .ok () := by
  refine hp.invariant (fun p => p.1.style.validate true = .ok ()) ?_ (styled_run hear)
  intro style items selected positionChannel widthChannel h
  apply (ends_create_scroll style items selected positionChannel widthChannel h).imp
  exact fun r h' hr row hrow => (hr row hrow).1

variable [HasOffsets α]

omit [Channel α τ χ] in
theorem Scrolls.admissible {row row' : TabRow α τ χ} (hs : Scrolls row row')
    (hr : Admissible row.scroll) : Admissible row'.scroll := by
  obtain h | h | h := hs.scroll
  · rwa [h]
  · rw [h]
    exact HasOffsets.zero
  · exact h.admissible

theorem admissible_run [PaintHost α τ] (hear : TabListener σ → TabListener τ) (op : TabOp α σ) :
    Keeps (fun p => Admissible p.1.scroll) (op.run hear : Step (TabRow α τ χ) τ Unit) := by
  rintro ⟨row, h⟩ (hr : Admissible row.scroll)
  by_cases hop : ∃ style, op = .setStyle style
  · obtain ⟨style, rfl⟩ := hop
    apply (ends_setStyle_scroll style).imp
    rintro r q ⟨hscroll, -⟩
    rwa [hscroll]
  · have hop (style : TabStyle α) : op ≠ .setStyle style := fun h => hop ⟨style, h⟩
    exact (ends_run_clamped hear op hop).imp fun r q hq => hq.1.admissible hr

theorem Reachable.admissible [PaintHost α τ] {hear : TabListener σ → TabListener τ}
    {p : TabRow α τ χ × τ} (hp : Reachable hear p) : Admissible p.1.scroll := by
  refine hp.invariant (fun p => Admissible p.1.scroll) ?_ (admissible_run hear)
  intro style items selected positionChannel widthChannel h
  apply (ends_create_scroll style items selected positionChannel widthChannel h).imp
  intro r h' hr row hrow
  rw [(hr row hrow).2]
  exact HasOffsets.zero

end TabRow

end Widgetry
