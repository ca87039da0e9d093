import Widgetry.Proofs.Host.Agreeing
import Widgetry.Proofs.Operations

/-! Widgets whose fonts differ by their numbers only. Where the host answers alike about both fonts,
a widget cannot tell which one it holds. -/
namespace Widgetry

variable {α σ τ χ β γ : Type}

/-- What is asked about fonts that `F` relates, in states that `R` relates, is answered alike, and
so is all else that a widget asks for. -/
structure Concurs [TextHost α τ] [PaintHost α τ] (χ : Type) [Channel α τ χ]
    (hearTab : TabListener σ → TabListener τ) (hearSegment : SegmentListener σ → SegmentListener τ)
    (F : FontHandle → FontHandle → Prop) (R : τ → τ → Prop) : Prop where
  measureText : ∀ font font', F font font' → ∀ text,
    Agree R (TextHost.measureText font text : HostM τ _) (TextHost.measureText font' text)
  destroyFont : ∀ font font', F font font' →
    Agree R (TextHost.destroyFont (α := α) font : HostM τ _) (TextHost.destroyFont (α := α) font')
  drawRect : ∀ r color (corner : α),
    Agree R (PaintHost.drawRect r color corner : HostM τ _) (PaintHost.drawRect r color corner)
  drawText : ∀ font font', F font font' → ∀ text (x y : α) color,
    Agree R (PaintHost.drawText font text x y color : HostM τ _)
      (PaintHost.drawText font' text x y color)
  begin : ∀ (start target duration : α) easing,
    Agree (Both Eq R) (Channel.begin start target duration easing : Step χ τ _)
      (Channel.begin start target duration easing)
  step : ∀ dt : α, Agree (Both Eq R) (Channel.step dt : Step χ τ _) (Channel.step dt)
  value : Agree (Both Eq R) (Channel.value : Step χ τ α) Channel.value
  tabTapped : ∀ listener index, Agree R (hearTab listener index) (hearTab listener index)
  segmentTapped : ∀ listener index on,
    Agree R (hearSegment listener index on) (hearSegment listener index on)

namespace OwnedFont

variable {F : FontHandle → FontHandle → Prop} {font font' next next' : OwnedFont}

/-- Both hold a font, related ones, or neither does. -/
inductive Like (F : FontHandle → FontHandle → Prop) : OwnedFont → OwnedFont → Prop
  | empty : Like F empty empty
  | held {handle handle' : FontHandle} (h : F handle handle') :
      Like F (adopt handle) (adopt handle')

theorem Like.refl (font : OwnedFont) : Like Eq font font := by
  obtain ⟨_ | handle⟩ := font
  · exact .empty
  · exact .held rfl

theorem Like.mono {G : FontHandle → FontHandle → Prop} (h : Like F font font')
    (hF : ∀ handle handle', F handle handle' → G handle handle') : Like G font font' := by
  cases h with
  | empty => exact .empty
  | held h => exact .held (hF _ _ h)

theorem Like.isLive (h : Like F font font') : font'.isLive = font.isLive := by
  cases h <;> rfl

variable {S : σ → τ → Prop}

theorem Like.agree_handle (h : Like F font font') {f : FontHandle → HostM σ β}
    {g : FontHandle → HostM τ β}
    (hf : ∀ handle handle', F handle handle' → Agree S (f handle) (g handle')) :
    Agree S ((liftExcept font.handle : HostM σ _) >>= f) (liftExcept font'.handle >>= g) := by
  cases h with
  | empty => exact fun _ _ hS => .inl ⟨rfl, hS⟩
  | held h => exact hf _ _ h

variable [TextHost α τ] {R : τ → τ → Prop}

/-- Measurers of such fonts answer alike. -/
theorem Like.agree_measurer (h : Like F font font')
    (hm : ∀ handle handle', F handle handle' → ∀ text,
      Agree R (TextHost.measureText handle text : HostM τ _) (TextHost.measureText handle' text))
    {f g : Measurer α τ → HostM σ β} {S : σ → σ → Prop}
    (hf : ∀ measurer measurer' : Measurer α τ,
      (∀ text, Agree R (measurer text) (measurer' text)) → Agree S (f measurer) (g measurer')) :
    Agree S ((liftExcept font.measurer : HostM σ _) >>= f) (liftExcept font'.measurer >>= g) := by
  cases h with
  | empty => exact fun _ _ hS => .inl ⟨rfl, hS⟩
  | held h => exact hf _ _ (hm _ _ h)

variable (hd : ∀ handle handle', F handle handle' →
  Agree R (TextHost.destroyFont (α := α) handle : HostM τ _) (TextHost.destroyFont handle'))
include hd

theorem blind_release : Step.Blind (Like F) R (release : Step OwnedFont τ Unit) := by
  refine Step.agree_self_bind fun font font' hlike => ?_
  refine Accord.bind (Step.agree_update fun _ _ _ => .empty) fun _ => ?_
  cases hlike with
  | empty => exact .pure ()
  | held h => exact Step.agree_host (hd _ _ h)

theorem Like.agree_discard (h : Like F font font') :
    Agree R (font.discard : HostM τ Unit) font'.discard := by
  cases h with
  | empty => exact .pure ()
  | held h => exact (hd _ _ h).tryCatch fun _ => .pure ()

theorem Like.agree_replace (h : Like F next next') :
    Agree (Both (Like F) R) (replace next : Step OwnedFont τ Unit) (replace next') := by
  have hupdate : Agree (Both (Like F) R) (Step.update fun _ => next : Step OwnedFont τ Unit)
      (Step.update fun _ => next') := Step.agree_update fun _ _ _ => h
  refine Step.agree_self_bind fun font font' hlike => ?_
  cases hlike with
  | empty => exact hupdate
  | held hheld =>
    refine Accord.bind ((Step.agree_host (hd _ _ hheld)).tryCatch fun e => ?_) fun _ => hupdate
    exact (Step.agree_host (h.agree_discard hd)).bind fun _ => .throw e

end OwnedFont

variable {F : FontHandle → FontHandle → Prop} {R : τ → τ → Prop}

/-- Two things with a font each and nothing else to tell them apart. `P` holds of them. -/
inductive Twin {ω : Type} (part : ω → OwnedFont) (put : OwnedFont → ω → ω) (P : ω → Prop)
    (F : FontHandle → FontHandle → Prop) : ω → ω → Prop
  | twin {w : ω} {font : OwnedFont} (like : (part w).Like F font) (holds : P w) :
      Twin part put P F w (put font w)

section Twins

variable {ω : Type} {part : ω → OwnedFont} {put : OwnedFont → ω → ω} {P : ω → Prop}

theorem Twin.mono {G : FontHandle → FontHandle → Prop} {w w' : ω} (h : Twin part put P F w w')
    (hF : ∀ handle handle', F handle handle' → G handle handle') : Twin part put P G w w' := by
  obtain ⟨like, holds⟩ := h
  exact .twin (like.mono hF) holds

theorem Twin.map {f : ω → ω}
    (hf : ∀ w font, (part w).Like F font → P w → Twin part put P F (f w) (f (put font w)))
    {w w' : ω} (h : Twin part put P F w w') : Twin part put P F (f w) (f w') := by
  obtain ⟨like, holds⟩ := h
  exact hf w _ like holds

theorem blind_update {f : ω → ω}
    (hf : ∀ w font, (part w).Like F font → P w → Twin part put P F (f w) (f (put font w))) :
    Step.Blind (Twin part put P F) R (Step.update f : Step ω τ Unit) :=
  Step.agree_update fun _ _ => Twin.map hf

/-- A font that can be exchanged for another one, whatever else holds. -/
structure Exchanges (part : ω → OwnedFont) (put : OwnedFont → ω → ω) (P : ω → Prop) : Prop where
  part_put : ∀ font w, part (put font w) = font
  put_put : ∀ font font' w, put font (put font' w) = put font w
  holds_put : ∀ font w, P w → P (put font w)

variable (he : Exchanges part put P)
include he

theorem Exchanges.twin {font font' : OwnedFont} {w w' : ω} (hlike : font.Like F font')
    (hw : Twin part put P F w w') : Twin part put P F (put font w) (put font' w') := by
  obtain ⟨-, holds⟩ := hw
  rw [he.put_put, ← he.put_put font' font]
  exact .twin (by rwa [he.part_put]) (he.holds_put font w holds)

theorem Exchanges.agree_zoom {act act' : Step OwnedFont τ Unit}
    (h : Agree (Both (OwnedFont.Like F) R) act act') :
    Agree (Both (Twin part put P F) R) (Step.zoom part put act) (Step.zoom part put act') := by
  refine Step.agree_zoom ?_ (fun _ _ _ _ => he.twin) h
  rintro w _ ⟨like, -⟩
  rwa [he.part_put]

end Twins

variable [TextHost α τ] [PaintHost α τ] [Channel α τ χ]
  {hearTab : TabListener σ → TabListener τ} {hearSegment : SegmentListener σ → SegmentListener τ}

namespace Label

abbrev Twins : (FontHandle → FontHandle → Prop) → Label α → Label α → Prop :=
  Twin font (fun font l => { l with font }) fun _ => True

omit [TextHost α τ] [PaintHost α τ] [Channel α τ χ] in
theorem exchanges :
    Exchanges (font : Label α → OwnedFont) (fun font l => { l with font }) fun _ => True :=
  ⟨fun _ _ => rfl, fun _ _ _ => rfl, fun _ _ h => h⟩

variable (hc : Concurs χ hearTab hearSegment F R)
include hc

theorem blind_metrics :
    Step.Blind (Twins F) R (metrics : Step (Label α) τ (TextMetrics α)) := by
  refine Step.agree_self_bind ?_
  rintro l _ ⟨like, -⟩
  dsimp only
  cases l.metrics? with
  | some m => exact .pure m
  | none =>
    refine like.agree_handle fun font font' hF => ?_
    refine (Step.agree_host (hc.measureText _ _ hF l.text)).bind fun m => ?_
    exact Accord.bind (blind_update fun _ _ like holds => .twin like holds) fun _ => .pure m

theorem blind_measure [Scalar α] (width height : MeasureSpec α) :
    Step.Blind (Twins F) R (measure width height : Step (Label α) τ (Size α)) := by
  refine (Step.agree_check _).bind fun _ => (Step.agree_check _).bind fun _ => ?_
  exact (blind_metrics hc).bind fun m => .pure _

omit hc [TextHost α τ] [PaintHost α τ] [Channel α τ χ] in
theorem blind_layout [Scalar α] (bounds : Rect α) :
    Step.Blind (Twins F) R (layout bounds : Step (Label α) τ Unit) :=
  (Step.agree_check _).bind fun _ => blind_update fun _ _ like holds => .twin like holds

theorem blind_paint [Scalar α] : Step.Blind (Twins F) R (paint : Step (Label α) τ Unit) := by
  refine (blind_metrics hc).bind fun m => Step.agree_self_bind ?_
  rintro l _ ⟨like, -⟩
  exact like.agree_handle fun font font' hF => Step.agree_host (hc.drawText _ _ hF _ _ _ _)

theorem blind_destroy : Step.Blind (Twins F) R (destroy : Step (Label α) τ Unit) := by
  refine (Step.agree_outcome (exchanges.agree_zoom
    (OwnedFont.blind_release hc.destroyFont))).bind fun released => ?_
  exact Accord.bind (blind_update fun _ _ like holds => .twin like holds) fun _ =>
    Step.agree_check released

theorem blind_drop : Step.Blind (Twins F) R (drop : Step (Label α) τ Unit) :=
  Step.agree_attempt (exchanges.agree_zoom (OwnedFont.blind_release hc.destroyFont))

end Label

namespace Badge

abbrev Twins : (FontHandle → FontHandle → Prop) → Badge α → Badge α → Prop :=
  Twin font (fun font b => { b with font }) fun _ => True

omit [TextHost α τ] [PaintHost α τ] [Channel α τ χ] in
theorem exchanges :
    Exchanges (font : Badge α → OwnedFont) (fun font b => { b with font }) fun _ => True :=
  ⟨fun _ _ => rfl, fun _ _ _ => rfl, fun _ _ h => h⟩

variable (hc : Concurs χ hearTab hearSegment F R)
include hc

theorem agree_labelWidth [Scalar α] {b : Badge α} {font : OwnedFont} (like : b.font.Like F font) :
    Agree R (b.labelWidth : HostM τ α) ({ b with font } : Badge α).labelWidth := by
  obtain ⟨style, label, held, line, bounds, flags⟩ := b
  unfold labelWidth
  dsimp only at like ⊢
  cases label with
  | none => exact .pure 0
  | some label =>
    cases like with
    | empty => exact .pure 0
    | held hF => exact (hc.measureText _ _ hF label).bind fun m => .pure m.width

variable [Scalar α]

theorem blind_measure (width height : MeasureSpec α) :
    Step.Blind (Twins F) R (measure width height : Step (Badge α) τ (Size α)) := by
  refine (Step.agree_check _).bind fun _ => (Step.agree_check _).bind fun _ => ?_
  refine Step.agree_self_bind ?_
  rintro b _ ⟨like, -⟩
  dsimp only
  split
  · exact (Step.agree_host (agree_labelWidth hc like)).bind fun _ => .pure _
  · exact .pure _

omit hc [TextHost α τ] [PaintHost α τ] [Channel α τ χ] in
theorem blind_layout (bounds : Rect α) :
    Step.Blind (Twins F) R (layout bounds : Step (Badge α) τ Unit) :=
  (Step.agree_check _).bind fun _ => blind_update fun _ _ like holds => .twin like holds

theorem blind_place (anchor : Rect α) (placement : BadgePlacement α) :
    Step.Blind (Twins F) R (place anchor placement : Step (Badge α) τ (Rect α)) := by
  refine (blind_measure hc _ _).bind fun size => (Step.agree_check _).bind fun bounds => ?_
  exact (blind_layout bounds).bind fun _ => .pure _

theorem agree_paintLabel {b : Badge α} {font : OwnedFont} (like : b.font.Like F font)
    (label : String) :
    Agree R (b.paintLabel label : HostM τ Unit) (({ b with font } : Badge α).paintLabel label) := by
  unfold paintLabel
  dsimp only
  rw [like.isLive]
  refine .ite (fun _ => ?_) fun _ => .pure ()
  refine (agree_labelWidth hc like).bind fun width => ?_
  exact like.agree_handle fun _ _ hF => hc.drawText _ _ hF _ _ _ _

theorem blind_paint : Step.Blind (Twins F) R (paint : Step (Badge α) τ Unit) := by
  refine Step.agree_self_bind ?_
  rintro ⟨style, label, held, line, bounds, flags⟩ _ ⟨like, -⟩
  refine .ite (fun _ => ?_) fun _ => .pure ()
  refine (Step.agree_host (hc.drawRect _ _ _)).bind fun _ => ?_
  cases label with
  | none => exact .pure ()
  | some label => exact Step.agree_host (agree_paintLabel hc like label)

omit [Scalar α] in
theorem blind_destroy : Step.Blind (Twins F) R (destroy : Step (Badge α) τ Unit) :=
  exchanges.agree_zoom (OwnedFont.blind_release hc.destroyFont)

omit [Scalar α] in
theorem blind_drop : Step.Blind (Twins F) R (drop : Step (Badge α) τ Unit) :=
  Step.agree_attempt (blind_destroy hc)

end Badge

namespace Tooltip

/-- Two tooltips with fonts of their own and nothing else to tell them apart. -/
inductive Twins (F : FontHandle → FontHandle → Prop) : Tooltip α → Tooltip α → Prop
  | twins {tip : Tooltip α} {titleFont bodyFont : OwnedFont}
      (title : tip.titleFont.Like F titleFont) (body : tip.bodyFont.Like F bodyFont) :
      Twins F tip { tip with titleFont, bodyFont }

omit [TextHost α τ] [PaintHost α τ] [Channel α τ χ] in
theorem Twins.mono {G : FontHandle → FontHandle → Prop} {tip tip' : Tooltip α}
    (h : Twins F tip tip') (hF : ∀ handle handle', F handle handle' → G handle handle') :
    Twins G tip tip' := by
  obtain ⟨title, body⟩ := h
  exact .twins (title.mono hF) (body.mono hF)

omit [TextHost α τ] [PaintHost α τ] [Channel α τ χ] in
theorem blind_update {f : Tooltip α → Tooltip α}
    (hf : ∀ tip titleFont bodyFont, tip.titleFont.Like F titleFont → tip.bodyFont.Like F bodyFont →
      Twins F (f tip) (f { tip with titleFont, bodyFont })) :
    Step.Blind (Twins F) R (Step.update f : Step (Tooltip α) τ Unit) := by
  refine Step.agree_update ?_
  rintro tip _ ⟨title, body⟩
  exact hf tip _ _ title body

omit [TextHost α τ] [PaintHost α τ] [Channel α τ χ] in
theorem blind_onTitleFont {act : Step OwnedFont τ Unit} (h : Step.Blind (OwnedFont.Like F) R act) :
    Step.Blind (Twins F) R (onTitleFont act : Step (Tooltip α) τ Unit) := by
  refine Step.agree_zoom ?_ ?_ h
  · rintro tip _ ⟨title, body⟩
    exact title
  · rintro font font' tip _ hlike ⟨title, body⟩
    exact .twins hlike body

omit [TextHost α τ] [PaintHost α τ] [Channel α τ χ] in
theorem blind_onBodyFont {act : Step OwnedFont τ Unit} (h : Step.Blind (OwnedFont.Like F) R act) :
    Step.Blind (Twins F) R (onBodyFont act : Step (Tooltip α) τ Unit) := by
  refine Step.agree_zoom ?_ ?_ h
  · rintro tip _ ⟨title, body⟩
    exact body
  · rintro font font' tip _ hlike ⟨title, body⟩
    exact .twins title hlike

omit [PaintHost α τ] [Channel α τ χ] in
theorem blind_releaseFonts (hd : ∀ font font', F font font' →
    Agree R (TextHost.destroyFont (α := α) font : HostM τ _) (TextHost.destroyFont font')) :
    Step.Blind (Twins F) R (releaseFonts : Step (Tooltip α) τ (Except Error Unit)) := by
  have hrelease := OwnedFont.blind_release hd
  refine (Step.agree_outcome (blind_onTitleFont hrelease)).bind fun title => ?_
  exact (Step.agree_outcome (blind_onBodyFont hrelease)).bind fun body => .pure _

variable (hc : Concurs χ hearTab hearSegment F R)
include hc

theorem blind_destroy [Scalar α] :
    Step.Blind (Twins F) R (destroy : Step (Tooltip α) τ Unit) := by
  refine (blind_releaseFonts hc.destroyFont).bind fun released => ?_
  refine Accord.bind (blind_update fun _ _ _ title body => .twins title body) fun _ => ?_
  exact Step.agree_check released

theorem blind_drop : Step.Blind (Twins F) R (drop : Step (Tooltip α) τ Unit) :=
  (blind_releaseFonts hc.destroyFont).bind fun _ => .pure ()

section Content

variable {tip tip' : Tooltip α}

theorem agree_measureBody (hw : Twins F tip tip') :
    Agree R (tip.measureBody : HostM τ (Option (TextMetrics α))) tip'.measureBody := by
  obtain ⟨title, body⟩ := hw
  refine .ite (fun _ => .pure _) fun _ => body.agree_handle fun font font' hF => ?_
  exact (hc.measureText _ _ hF tip.body).bind fun m => .pure _

theorem agree_measureTitle (hw : Twins F tip tip') :
    Agree R (tip.measureTitle : HostM τ (Option (TextMetrics α))) tip'.measureTitle := by
  obtain ⟨title, body⟩ := hw
  unfold measureTitle
  dsimp only
  split
  · refine .ite (fun _ => .pure _) fun _ => title.agree_handle fun font font' hF => ?_
    exact (hc.measureText _ _ hF _).bind fun m => .pure _
  · exact .pure _

theorem blind_content :
    Step.Blind (Twins F) R (content : Step (Tooltip α) τ (TooltipContent α)) := by
  refine Step.agree_self_bind fun tip tip' hw => ?_
  have hsame : tip'.content? = tip.content? := by
    obtain ⟨-, -⟩ := hw
    rfl
  rw [hsame]
  cases tip.content? with
  | some content => exact .pure content
  | none =>
    refine (Step.agree_host (agree_measureBody hc hw)).bind fun body => ?_
    refine (Step.agree_host (agree_measureTitle hc hw)).bind fun title => ?_
    exact Accord.bind (blind_update fun _ _ _ title body => .twins title body) fun _ => .pure _

end Content

variable [Scalar α]

theorem blind_measure (width height : MeasureSpec α) :
    Step.Blind (Twins F) R (measure width height : Step (Tooltip α) τ (Size α)) := by
  refine (Step.agree_check _).bind fun _ => (Step.agree_check _).bind fun _ => ?_
  refine (blind_content hc).bind fun content => Step.agree_self_bind ?_
  rintro tip _ ⟨title, body⟩
  exact (Step.agree_check _).bind fun size => .pure _

theorem blind_layout (overlay : Rect α) :
    Step.Blind (Twins F) R (layout overlay : Step (Tooltip α) τ Unit) := by
  refine (Step.agree_check _).bind fun _ => (blind_content hc).bind fun content => ?_
  refine Step.agree_self_bind ?_
  rintro tip _ ⟨title, body⟩
  refine (Step.agree_check _).bind fun size => (Step.agree_check _).bind fun placed => ?_
  exact blind_update fun _ _ _ title body => .twins title body

section Paint

variable {tip tip' : Tooltip α}

theorem agree_drawLine (hw : Twins F tip tip') {font font' : OwnedFont} (like : font.Like F font')
    (text : String) (y : α) (color : Color α) :
    Agree R (tip.drawLine font text y color : HostM τ Unit) (tip'.drawLine font' text y color) := by
  obtain ⟨-, -⟩ := hw
  exact like.agree_handle fun _ _ hF => hc.drawText _ _ hF _ _ _ _

theorem agree_paintTitle (hw : Twins F tip tip') (content : TooltipContent α) (y : α) :
    Agree R (tip.paintTitle content y : HostM τ α) (tip'.paintTitle content y) := by
  obtain ⟨title, body⟩ := hw
  unfold paintTitle
  dsimp only
  split
  · exact (agree_drawLine hc (.twins title body) title _ _ _).bind fun _ => .pure _
  · exact .pure y

theorem blind_paint : Step.Blind (Twins F) R (paint : Step (Tooltip α) τ Unit) := by
  refine Step.agree_self_bind ?_
  rintro tip _ ⟨-, -⟩
  refine .ite (fun _ => .pure ()) fun _ => (blind_content hc).bind fun content => ?_
  refine Step.agree_self_bind ?_
  rintro tip _ ⟨title, body⟩
  refine (Step.agree_host (hc.drawRect _ _ _)).bind fun _ => ?_
  refine (Step.agree_host (agree_paintTitle hc (.twins title body) content _)).bind fun y => ?_
  cases content.body with
  | none => exact .pure ()
  | some m => exact Step.agree_host (agree_drawLine hc (.twins title body) body _ _ _)

end Paint

end Tooltip

end Widgetry
