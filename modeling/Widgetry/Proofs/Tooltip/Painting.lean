import Widgetry.Proofs.Host.Canvas
import Widgetry.Proofs.Host.Scripted
import Widgetry.Proofs.Tooltip.Stacking

/-! A tooltip is painted as it was laid out. Until one of its parts is set, what it has measured and
where it was placed stay, so the lines that are drawn are those that the place was made for. -/
namespace Widgetry

/-- The operations that change what a tooltip shows or where it belongs. -/
def TooltipOp.Sets {α : Type} : TooltipOp α → Prop
  | setTitle _ | setBody _ | setAnchor _ _ | setStyle _ => True
  | content | setFlags _ | measure _ _ | layout _ | paint | event _ | destroy => False

namespace Tooltip

variable {α τ : Type} {first tip : Tooltip α}

/-- What was in store is still there, and nothing that is shown has changed. -/
structure Still (first tip : Tooltip α) : Prop where
  same : ∃ content? flags, tip = { first with content?, flags }
  stored : ∀ content, first.content? = some content → tip.content? = some content

theorem Still.bounds (h : first.Still tip) : tip.bounds = first.bounds := by
  obtain ⟨content?, flags, rfl⟩ := h.same
  rfl

theorem still_self : tip.Still tip := ⟨⟨_, _, rfl⟩, fun _ h => h⟩

variable [TextHost α τ]

/-- Only what is not in store is measured. -/
theorem keeps_content_still :
    Keeps (fun p => first.Still p.1) (content : Step (Tooltip α) τ (TooltipContent α)) := by
  rintro ⟨tip, h⟩ hstill
  rw [content, ends_bind, Step.ends_self]
  dsimp only
  split
  · exact hstill
  next hnone =>
    rw [ends_bind, Step.ends_host]
    apply (ends_run _ _).imp
    rintro (e | body) h₁ -
    · exact hstill
    dsimp only
    rw [ends_bind, Step.ends_host]
    apply (ends_run _ _).imp
    rintro (e | title) h₂ -
    · exact hstill
    obtain ⟨⟨content?, flags, rfl⟩, hstored⟩ := hstill
    refine ⟨⟨_, _, rfl⟩, fun content hcontent => ?_⟩
    exact (Option.some_ne_none _ ((hstored content hcontent).symm.trans hnone)).elim

variable [Scalar α]

theorem ends_layout_still (overlay : Rect α) {h : τ} :
    Ends (layout overlay : Step (Tooltip α) τ Unit) (tip, h) fun r p =>
      r ≠ .ok () → tip.Still p.1 := by
  refine .of_check (fun _ _ => ?_) fun _ _ _ => still_self
  refine (keeps_content_still (tip, h) still_self).bind ?_ fun _ _ hstill _ => hstill
  rintro content ⟨tip', h'⟩ hstill
  rw [ends_bind, Step.ends_self]
  refine .of_check (fun size _ => ?_) fun _ _ _ => hstill
  refine .of_check (fun place _ => ?_) fun _ _ _ => hstill
  exact fun hr => (hr rfl).elim

variable [PaintHost α τ]

/-- What is not set stays as it is, until the tooltip is placed anew or destroyed. -/
theorem ends_run_still {op : TooltipOp α} (hop : ¬op.Sets) {h : τ} :
    Ends (op.run : Step (Tooltip α) τ Unit) (tip, h) fun r p =>
      (∀ overlay, op = .layout overlay → r ≠ .ok ()) → tip.Still p.1 ∨ p.1.bounds = .zero := by
  have hcontent : Keeps (fun p => tip.Still p.1)
      (content : Step (Tooltip α) τ (TooltipContent α)) := keeps_content_still
  have keep {act : Step (Tooltip α) τ Unit} (hact : Keeps (fun p => tip.Still p.1) act) :
      Ends act (tip, h) fun r p =>
        (∀ overlay, op = .layout overlay → r ≠ .ok ()) → tip.Still p.1 ∨ p.1.bounds = .zero :=
    (hact (tip, h) still_self).imp fun _ _ hstill _ => .inl hstill
  cases op with
  | setTitle title => exact (hop trivial).elim
  | setBody body => exact (hop trivial).elim
  | setAnchor anchor placement => exact (hop trivial).elim
  | setStyle style => exact (hop trivial).elim
  | content => exact keep (keeps_ignore hcontent)
  | setFlags flags => exact fun _ => .inl ⟨⟨_, _, rfl⟩, fun _ h => h⟩
  | measure width height =>
    refine keep (keeps_ignore ((Step.keeps_check _).bind fun _ => (Step.keeps_check _).bind ?_))
    refine fun _ => hcontent.bind fun content => Step.keeps_self_bind fun tip _ _ => ?_
    exact (Step.keeps_check _).bind fun _ => .pure _
  | layout overlay =>
    exact (ends_layout_still overlay).imp fun _ _ hstill hr => .inl (hstill (hr overlay rfl))
  | paint =>
    refine keep (Step.keeps_self_bind fun tip _ _ => .ite (fun _ => .pure _) fun _ => ?_)
    refine hcontent.bind fun content => Step.keeps_self_bind fun tip _ _ => ?_
    refine (Step.keeps_thing _).bind fun _ => (Step.keeps_thing _).bind fun y => ?_
    cases content.body with
    | none => exact .pure _
    | some m => exact Step.keeps_thing _
  | event e => exact keep (keeps_ignore (.pure _))
  | destroy =>
    change Ends destroy (tip, h) _
    rw [destroy, ends_bind]
    apply ends_releaseFonts_ok.imp
    rintro _ p ⟨released, rfl⟩
    dsimp only
    rw [ends_bind, Step.ends_update, Step.ends_check]
    exact fun _ => .inr rfl

/-- A tooltip after a layout in this overlay. Nothing of it has been set since, and it has not been
placed again. -/
inductive LaidOut (τ : Type) [TextHost α τ] [PaintHost α τ] (overlay : Rect α) : Tooltip α → Prop
  | placed {tip : Tooltip α} {h : τ} {q : Tooltip α × τ} (made : tip.Made τ)
      (run : (layout overlay).run (tip, h) = (.ok (), q)) : LaidOut τ overlay q.1
  | operated {tip : Tooltip α} {op : TooltipOp α} {h : τ} {r : Except Error Unit}
      {q : Tooltip α × τ} (laid : LaidOut τ overlay tip) (hop : ¬op.Sets)
      (run : op.run.run (tip, h) = (r, q))
      (unplaced : ∀ overlay', op = .layout overlay' → r ≠ .ok ()) : LaidOut τ overlay q.1

/-- What is in store is what the bounds were made for. -/
structure Placed (overlay : Rect α) (tip : Tooltip α) (content : TooltipContent α) (size : Size α) :
    Prop where
  stored : tip.content? = some content
  backed : tip.Backed content
  measured : tip.style.contentSize content = .ok size
  bounds : tip.placement.computeBounds tip.style tip.anchor overlay size =
    .ok (tip.bounds, tip.direction)

omit [PaintHost α τ] in
/-- Before the first layout of it, a tooltip may have anything in store that it can draw. -/
theorem ends_layout_placed (hb : tip.Stores Backed) (overlay : Rect α) {h : τ} :
    Ends (layout overlay : Step (Tooltip α) τ Unit) (tip, h) fun r p =>
      r = .ok () → ∃ content size, p.1.Placed overlay content size := by
  refine .of_check (fun _ _ => ?_) fun _ _ hr => nomatch hr
  refine (ends_content_backed hb).bind ?_ fun _ _ _ hr => nomatch hr
  rintro content ⟨_, h'⟩ ⟨rfl, hbacked⟩
  rw [ends_bind, Step.ends_self]
  refine .of_check (fun size hsize => ?_) fun _ _ hr => nomatch hr
  refine .of_check (fun place hplace => ?_) fun _ _ hr => nomatch hr
  exact fun _ => ⟨content, size, rfl, ⟨hbacked.title, hbacked.body⟩, hsize, hplace⟩

theorem Placed.still {overlay : Rect α} {content : TooltipContent α} {size : Size α}
    (h : first.Placed overlay content size) (hstill : first.Still tip) :
    tip.Placed overlay content size := by
  have hstored := hstill.stored content h.stored
  obtain ⟨content?, flags, rfl⟩ := hstill.same
  exact ⟨hstored, ⟨h.backed.title, h.backed.body⟩, h.measured, h.bounds⟩

theorem LaidOut.placed_or_destroyed {overlay : Rect α} (h : tip.LaidOut τ overlay) :
    (∃ content size, tip.Placed overlay content size) ∨ tip.bounds = .zero := by
  induction h with
  | placed made run =>
    exact .inl ((ends_of_run run).mp (ends_layout_placed made.backed overlay) rfl)
  | operated laid hop run unplaced ih =>
    rcases (ends_of_run run).mp (ends_run_still hop) unplaced with hstill | hdestroyed
    · rcases ih with ⟨content, size, hplaced⟩ | hzero
      · exact .inl ⟨content, size, hplaced.still hstill⟩
      · exact .inr (hstill.bounds.trans hzero)
    · exact .inr hdestroyed

section Exact

variable {σ : Type} {tip : Tooltip Rat} {overlay : Rect Rat}

/-- Without the maxima of the style the content would have the same size, and the overlay has room
for it. -/
def Unshortened (tip : Tooltip Rat) (overlay : Rect Rat) : Prop :=
  ∀ content size, tip.content? = some content → tip.style.contentSize content = .ok size →
    { tip.style with maxWidth := 0, maxHeight := 0 }.contentSize content = .ok size ∧
      size.width ≤ overlay.width ∧ size.height ≤ overlay.height

/-- The bounds have room for the lines and the padding around them. -/
theorem Placed.stacked {content : TooltipContent Rat} {size : Size Rat}
    (h : tip.Placed overlay content size) (hroom : tip.Unshortened overlay) :
    tip.Stacked (tip.titleLine content) (tip.bodyLine content) := by
  obtain ⟨hfree, hwide, htall⟩ := hroom content size h.stored h.measured
  obtain ⟨hstyle, hcontent, -⟩ := TooltipStyle.contentSize_eq_ok.mp h.measured
  obtain ⟨-, -, hsize⟩ := TooltipStyle.contentSize_eq_ok.mp hfree
  obtain ⟨hwidth, hheight⟩ := TooltipPlacement.extent_of_computeBounds h.bounds
  rw [min_eq_left hwide, hsize] at hwidth
  rw [min_eq_left htall, hsize] at hheight
  refine stacked_lines h.stored h.backed hstyle hcontent ?_ ?_
  · rw [hwidth]
    exact TooltipStyle.le_limited _ _
  · rw [hheight]
    exact TooltipStyle.le_limited _ _

/-- The titles and bodies that are drawn, each once. -/
def runs (title? body? : Option DrawnLine) : List (TextRun Rat) :=
  (title?.toList ++ body?.toList).map DrawnLine.run

variable {content : TooltipContent Rat} {t : Canvas Rat σ}

theorem isSome_titleLine (hb : tip.Backed content) :
    (tip.titleLine content).isSome = content.title.isSome := by
  unfold titleLine
  cases hmetrics : content.title with
  | none => cases tip.title <;> rfl
  | some metrics =>
    obtain ⟨-, htitle, -⟩ := hb.title (Option.isSome_of_eq_some hmetrics)
    obtain ⟨title, htitle⟩ := Option.isSome_iff_exists.mp htitle
    rw [htitle]
    rfl

section Asked

variable [PaintHost Rat σ]

/-- A line in a font that is held is asked for, whether or not it is then drawn. -/
theorem ends_drawLine_asked {font : OwnedFont} (hfont : font.isLive) (text : String) (y : Rat)
    (color : Color Rat) :
    Ends (tip.drawLine font text y color : HostM (Canvas Rat σ) Unit) t fun _ t' =>
      t'.texts = t.texts ++ [⟨text, tip.bounds.x + tip.style.padding.left, y, color⟩] := by
  obtain ⟨handle, hhandle⟩ := Option.isSome_iff_exists.mp hfont
  rw [drawLine, OwnedFont.handle_eq_ok.mpr hhandle]
  exact Canvas.ends_drawText _ _ _ _ _

/-- The title comes first, and the body starts where it leaves off. -/
theorem ends_paintTitle_asked (hb : tip.Backed content) :
    Ends (tip.paintTitle content (tip.bounds.y + tip.style.padding.top) :
      HostM (Canvas Rat σ) Rat) t fun r t' =>
        t'.texts = t.texts ++ runs (tip.titleLine content) none ∧
          ∀ y, r = .ok y → y = tip.bodyStart content := by
  unfold paintTitle titleLine bodyStart
  cases hmetrics : content.title with
  | none =>
    cases tip.title
    all_goals
      refine ⟨(List.append_nil _).symm, ?_⟩
      rintro _ ⟨⟩
      rfl
  | some metrics =>
    obtain ⟨-, htitle, hlive⟩ := hb.title (Option.isSome_of_eq_some hmetrics)
    obtain ⟨title, htitle⟩ := Option.isSome_iff_exists.mp htitle
    rw [htitle]
    refine (ends_drawLine_asked hlive _ _ _).bind (fun _ t' ht' => ?_) fun _ _ ht' => ⟨ht', nofun⟩
    refine ⟨ht', ?_⟩
    rintro _ ⟨⟩
    rfl

end Asked

variable [TextHost Rat σ] [PaintHost Rat σ]

/-- The lines are asked for in order, and the body only when the title has been drawn. -/
theorem ends_paint_asked (hstored : tip.content? = some content) (hb : tip.Backed content)
    (hs : tip.Stacked (tip.titleLine content) (tip.bodyLine content))
    (hbounds : ¬tip.bounds.isDegenerate) :
    Ends (paint : Step (Tooltip Rat) (Canvas Rat σ) Unit) (tip, t) fun r p =>
      ∃ title? body?, p.2.texts = t.texts ++ runs title? body? ∧ tip.Stacked title? body? ∧
        (r = .ok () →
          title?.isSome = content.title.isSome ∧ body?.isSome = content.body.isSome) := by
  have hcontent : Ends (Tooltip.content : Step (Tooltip Rat) (Canvas Rat σ) _) (tip, t)
      fun r p => r = .ok content ∧ p = (tip, t) := by
    rw [Tooltip.content, ends_bind, Step.ends_self]
    dsimp only
    rw [hstored]
    exact ⟨rfl, rfl⟩
  rw [paint, ends_bind, Step.ends_self]
  dsimp only
  rw [if_neg hbounds]
  refine hcontent.bind ?_ fun _ _ hr => (error_ne_ok hr.1).elim
  rintro _ _ ⟨⟨⟩, rfl⟩
  rw [ends_bind, Step.ends_self]
  dsimp only
  rw [ends_bind, Step.ends_host]
  apply (Canvas.ends_drawRect _ _ _).imp
  rintro (e | ⟨⟩) t₁ ht₁
  · exact ⟨none, none, ht₁.trans (List.append_nil _).symm, stacked_none,
      fun hr => (error_ne_ok hr).elim⟩
  dsimp only
  rw [ends_bind, Step.ends_host]
  apply (ends_paintTitle_asked hb).imp
  rintro (e | y) t₂ ⟨ht₂, hy⟩
  · refine ⟨tip.titleLine content, none, ?_, hs.undrawn, fun hr => (error_ne_ok hr).elim⟩
    rw [ht₂, ht₁]
  obtain rfl := hy y rfl
  dsimp only
  cases hbody : content.body with
  | none =>
    have hline : tip.bodyLine content = none := by
      rw [bodyLine, hbody]
      rfl
    rw [hline] at hs
    refine ⟨tip.titleLine content, none, ?_, hs, fun _ => ⟨isSome_titleLine hb, rfl⟩⟩
    exact ht₂.trans (ht₁ ▸ rfl)
  | some metrics =>
    have hsome : (tip.bodyLine content).isSome := by
      rw [bodyLine, hbody]
      rfl
    rw [Step.ends_host]
    apply (ends_drawLine_asked (hb.body (Option.isSome_of_eq_some hbody)) _ _ _).imp
    refine fun r t₃ ht₃ => ⟨_, _, ?_, hs, fun _ => ⟨isSome_titleLine hb, hsome⟩⟩
    rw [ht₃, ht₂, ht₁, List.append_assoc, bodyLine, hbody]
    simp [runs]

/-- A tooltip that was laid out where nothing was taken off the size of its content, and of which
nothing has been set since, draws its lines where they were laid out: inside the padding, the title
at the top, and the body at its distance below the title. A line is only left out when the painter
has refused to draw what comes before it, or when the tooltip has no place. -/
theorem painted_lines_fit (laid : tip.LaidOut (Canvas Rat σ) overlay)
    (room : tip.Unshortened overlay) (t : Canvas Rat σ) :
    Ends (paint : Step (Tooltip Rat) (Canvas Rat σ) Unit) (tip, t) fun r p =>
      ∃ title? body?, p.2.texts = t.texts ++ runs title? body? ∧ tip.Stacked title? body? ∧
        (r = .ok () → ¬tip.bounds.isDegenerate → ∃ content, tip.content? = some content ∧
          title?.isSome = content.title.isSome ∧ body?.isSome = content.body.isSome) := by
  by_cases hbounds : tip.bounds.isDegenerate
  · rw [paint, ends_bind, Step.ends_self]
    dsimp only
    rw [if_pos hbounds]
    exact ⟨none, none, (List.append_nil _).symm, stacked_none, fun _ h => (h hbounds).elim⟩
  rcases laid.placed_or_destroyed with ⟨content, size, hplaced⟩ | hzero
  · apply (ends_paint_asked hplaced.stored hplaced.backed (hplaced.stacked room) hbounds).imp
    rintro r p ⟨title?, body?, htexts, hstacked, hall⟩
    exact ⟨title?, body?, htexts, hstacked, fun hr _ => ⟨content, hplaced.stored, hall hr⟩⟩
  · rw [hzero] at hbounds
    exact (hbounds (by decide +kernel)).elim

def richStyle : TooltipStyle Rat :=
  { TooltipStyle.rich with title := .withFamily "Sans", body := .withFamily "Sans" }

def richTip : HostM (Canvas Rat (Scripted Rat)) (Tooltip Rat) :=
  create richStyle (.point 200 150) .default "body"

/-- A tooltip of two lines, laid out with room to spare. -/
theorem painted_lines_fit_rich :
    ∃ tip : Tooltip Rat, tip.LaidOut (Canvas Rat (Scripted Rat)) ⟨0, 0, 400, 300⟩ ∧
      tip.Unshortened ⟨0, 0, 400, 300⟩ ∧ tip.bounds = ⟨168, 94, 64, 52⟩ ∧
      tip.content? = some ⟨some ⟨40, 16, 12⟩, some ⟨32, 16, 12⟩⟩ ∧
      ∀ t : Canvas Rat (Scripted Rat),
        Ends (paint : Step (Tooltip Rat) (Canvas Rat (Scripted Rat)) Unit) (tip, t) fun r p =>
          ∃ title? body?, p.2.texts = t.texts ++ runs title? body? ∧ tip.Stacked title? body? ∧
            (r = .ok () → ¬tip.bounds.isDegenerate → ∃ content, tip.content? = some content ∧
              title?.isSome = content.title.isSome ∧ body?.isSome = content.body.isSome) := by
  have hstate : (match richTip.run ⟨.start [], []⟩ with
      | (.ok tip, t) =>
        let out := (layout ⟨0, 0, 400, 300⟩).run ((setTitle (some "title")).run (tip, t)).2
        decide (out.1.toOption = some () ∧ out.2.1.style = richStyle ∧
          out.2.1.bounds = ⟨168, 94, 64, 52⟩ ∧
          out.2.1.content? = some ⟨some ⟨40, 16, 12⟩, some ⟨32, 16, 12⟩⟩)
      | (.error _, _) => false) = true := by decide +kernel
  rcases hmake : richTip.run ⟨.start [], []⟩ with ⟨e | new, t⟩
  all_goals rw [hmake] at hstate
  · exact nomatch hstate
  obtain ⟨hok, hstyle, hbounds, hcontent⟩ := of_decide_eq_true hstate
  have hmade : Made (Canvas Rat (Scripted Rat)) ((setTitle (some "title")).run (new, t)).2.1 :=
    .operated (.setTitle (some "title")) t (.created hmake)
  have hlaid : LaidOut (Canvas Rat (Scripted Rat)) ⟨0, 0, 400, 300⟩
      ((layout ⟨0, 0, 400, 300⟩).run ((setTitle (some "title")).run (new, t)).2).2.1 :=
    .placed hmade (run_of_toOption hok)
  generalize ((layout ⟨0, 0, 400, 300⟩).run ((setTitle (some "title")).run (new, t)).2).2.1 = tip
    at *
  have hroom : tip.Unshortened ⟨0, 0, 400, 300⟩ := by
    intro content size hstored hsize
    obtain rfl := Option.some.inj (hcontent.symm.trans hstored)
    rw [hstyle] at hsize ⊢
    have heval : richStyle.contentSize ⟨some ⟨40, 16, 12⟩, some ⟨32, 16, 12⟩⟩ = .ok ⟨64, 52⟩ := by
      decide +kernel
    obtain rfl := Except.ok.inj (heval.symm.trans hsize)
    exact ⟨heval, by decide +kernel, by decide +kernel⟩
  exact ⟨tip, hlaid, hroom, hbounds, hcontent, painted_lines_fit hlaid hroom⟩

end Exact

end Tooltip

end Widgetry
