import Widgetry.Proofs.Fonts.Ledger
import Widgetry.Proofs.Operations

/-! Labels, badges and tooltips account for their fonts through every operation. -/
namespace Widgetry

open Ledger
open OwnedFont (keeps_handle measures_held draws_held keeps_releaseIn keeps_replaceIn)
open Step (At)

variable {α σ ω : Type} {held others : List FontHandle}

namespace Label

def Owns (others : List FontHandle) : Label α × Traced σ → Prop :=
  Owning (fun label => label.font.toList) others

/-- Steps that leave the font alone account for it if they only use it. -/
theorem keeps_owns {act : Step (Label α) (Traced σ) ω}
    (h : ∀ font, Keeps (At Label.font font (Held (font.toList ++ others))) act) :
    Keeps (Owns others) act := Step.keeps_of_at h

variable [TextHost α σ]

theorem keeps_release :
    Keeps (Owns others) (onFont OwnedFont.release : Step (Label α) (Traced σ) Unit) :=
  keeps_releaseIn (fun _ => rfl) fun _ _ => rfl

theorem keeps_metrics :
    Keeps (Owns others) (metrics : Step (Label α) (Traced σ) (TextMetrics α)) := by
  refine keeps_owns fun font => Step.keeps_at_self fun label hl => ?_
  split
  · exact .pure _
  · subst hl
    refine keeps_handle fun handle hf => ?_
    have hm : label.font.Measures α (Held (label.font.toList ++ others) : Traced σ → Prop) :=
      measures_held fun _ => List.mem_append_left _
    refine (Step.keeps_at_host (hm handle hf _)).bind fun metrics => ?_
    exact Keeps.bind (Step.keeps_at_update fun _ => rfl) fun _ => .pure _

theorem keeps_destroy : Keeps (Owns others) (destroy : Step (Label α) (Traced σ) Unit) := by
  refine Keeps.bind ?_ fun released => ?_
  · exact (keeps_release.bind fun _ => .pure _).tryCatch fun _ => .pure _
  · exact Keeps.bind (Step.keeps_update fun _ _ h => h) fun _ => Step.keeps_check _

variable [Scalar α]

theorem keeps_setStyle (style : TextStyle α) :
    Keeps (Owns others) (setStyle style : Step (Label α) (Traced σ) Unit) := by
  refine (Step.keeps_check _).bind fun _ => ?_
  exact keeps_replaceIn (fun _ _ => rfl) (OwnedFont.brings_create style) fun _ =>
    Step.keeps_update fun _ _ h => h

theorem keeps_measure (width height : MeasureSpec α) :
    Keeps (Owns others) (measure width height : Step (Label α) (Traced σ) (Size α)) := by
  refine (Step.keeps_check _).bind fun _ => ?_
  refine (Step.keeps_check _).bind fun _ => ?_
  exact keeps_metrics.bind fun _ => .pure _

theorem keeps_paint [PaintHost α σ] :
    Keeps (Owns others) (paint : Step (Label α) (Traced σ) Unit) := by
  refine keeps_metrics.bind fun metrics => ?_
  refine keeps_owns fun font => Step.keeps_at_self fun label hl => ?_
  subst hl
  refine keeps_handle fun handle hf => Step.keeps_at_host ?_
  exact draws_held (fun _ => List.mem_append_left _) handle hf _ _ _ _

theorem keeps_run [PaintHost α σ] (op : LabelOp α) :
    Keeps (Owns others) (op.run : Step (Label α) (Traced σ) Unit) := by
  cases op with
  | setText text => exact Step.keeps_update fun _ _ h => h
  | setStyle style => exact keeps_setStyle style
  | metrics => exact keeps_ignore keeps_metrics
  | setFlags flags => exact Step.keeps_update fun _ _ h => h
  | measure width height => exact keeps_ignore (keeps_measure width height)
  | layout bounds => exact (Step.keeps_check _).bind fun _ => Step.keeps_update fun _ _ h => h
  | paint => exact keeps_paint
  | event e => exact keeps_ignore (.pure _)
  | destroy => exact keeps_destroy

theorem brings_create (style : TextStyle α) (text : String) :
    Brings (fun label => label.font.toList) (create style text : HostM (Traced σ) (Label α)) :=
  .of_check fun _ => (OwnedFont.brings_create style).map fun _ => rfl

end Label

namespace Badge

def Owns (others : List FontHandle) : Badge α × Traced σ → Prop :=
  Owning (fun badge => badge.font.toList) others

theorem keeps_owns {act : Step (Badge α) (Traced σ) ω}
    (h : ∀ font, Keeps (At Badge.font font (Held (font.toList ++ others))) act) :
    Keeps (Owns others) act := Step.keeps_of_at h

variable [TextHost α σ]

theorem keeps_release :
    Keeps (Owns others) (onFont OwnedFont.release : Step (Badge α) (Traced σ) Unit) :=
  keeps_releaseIn (fun _ => rfl) fun _ _ => rfl

theorem brings_loadFont (style : BadgeStyle α) :
    Brings (fun loaded => loaded.1.toList)
      (loadFont style : HostM (Traced σ) (OwnedFont × TextMetrics α)) := by
  intro held t h
  refine (brings_createFont style.text held t h).bind (fun handle t' ht => ?_) fun _ _ ht => ht
  have hline : Keeps (Held (handle :: held) : Traced σ → Prop) (TextHost.measureText handle "") :=
    keeps_measureText List.mem_cons_self ""
  rw [ends_tryCatch, ends_bind]
  apply (hline t' ht).imp
  rintro (e | line) t'' ht''
  · have hdiscard : Ends (OwnedFont.adopt handle).discard t'' fun _ t => Held held t :=
      OwnedFont.ends_discard ht''
    exact hdiscard.bind (fun _ _ ht => ht) fun _ _ ht => ht
  · exact ht''

/-- A font is loaded only where none was held, so taking it over loses none. -/
theorem ends_setLabel (label : Option String) {badge : Badge α} {t : Traced σ}
    (h : Owns others (badge, t)) :
    Ends (setLabel label) (badge, t) fun r p => Owns others p ∧ (r ≠ .ok () → p.1 = badge) := by
  rw [setLabel, ends_bind, Step.ends_self]
  dsimp only
  split
  next hload =>
    have hempty : badge.font.toList = [] := by
      simpa [OwnedFont.toList, OwnedFont.isLive] using hload.2
    have hheld : Held others t := by
      simpa [Owns, Owning, hempty] using h
    rw [ends_bind, Step.ends_self]
    dsimp only
    rw [ends_bind, Step.ends_host]
    apply (brings_loadFont badge.style others t hheld).imp
    rintro (e | ⟨font, line⟩) t' ht
    · refine ⟨?_, fun _ => rfl⟩
      simpa [Owns, Owning, hempty] using ht
    · exact ⟨ht, fun hr => (hr rfl).elim⟩
  next => exact ⟨h, fun hr => (hr rfl).elim⟩

variable [Scalar α]

theorem keeps_setStyle (style : BadgeStyle α) :
    Keeps (Owns others) (setStyle style : Step (Badge α) (Traced σ) Unit) := by
  refine (Step.keeps_check _).bind fun _ => Step.keeps_self_bind fun badge t h => ?_
  have hstyle : Keeps (Owns others) (Step.update fun badge => { badge with style } :
      Step (Badge α) (Traced σ) Unit) := Step.keeps_update fun _ _ h => h
  refine .ite (fun _ => ?_) fun _ => hstyle
  exact keeps_replaceIn (fun _ _ => rfl) (brings_loadFont style) fun loaded =>
    Keeps.bind (Step.keeps_update fun _ _ h => h) fun _ => hstyle

theorem keeps_labelWidth {badge : Badge α} :
    Keeps (Held (badge.font.toList ++ others) : Traced σ → Prop) badge.labelWidth := by
  unfold labelWidth
  split
  next label font _ hf =>
    have hm : font ∈ badge.font.toList ++ others := by simp [OwnedFont.toList, hf]
    exact (keeps_measureText hm label).bind fun _ => .pure _
  next => exact .pure _

theorem keeps_measure (width height : MeasureSpec α) :
    Keeps (Owns others) (measure width height : Step (Badge α) (Traced σ) (Size α)) := by
  refine (Step.keeps_check _).bind fun _ => ?_
  refine (Step.keeps_check _).bind fun _ => ?_
  refine keeps_owns fun font => Step.keeps_at_self fun badge hb => ?_
  subst hb
  refine .ite (fun _ => ?_) fun _ => .pure _
  exact (Step.keeps_at_host keeps_labelWidth).bind fun _ => .pure _

omit [TextHost α σ] in
theorem keeps_layout (bounds : Rect α) :
    Keeps (Owns others) (layout bounds : Step (Badge α) (Traced σ) Unit) :=
  (Step.keeps_check _).bind fun _ => Step.keeps_update fun _ _ h => h

theorem keeps_place (anchor : Rect α) (placement : BadgePlacement α) :
    Keeps (Owns others) (place anchor placement : Step (Badge α) (Traced σ) (Rect α)) := by
  refine (keeps_measure _ _).bind fun size => ?_
  refine (Step.keeps_check _).bind fun bounds => ?_
  exact (keeps_layout bounds).bind fun _ => .pure _

section Paint

variable [PaintHost α σ]

theorem keeps_paintLabel {badge : Badge α} (label : String) :
    Keeps (Held (badge.font.toList ++ others) : Traced σ → Prop) (badge.paintLabel label) := by
  refine .ite (fun _ => ?_) fun _ => .pure _
  refine keeps_labelWidth.bind fun width => ?_
  refine keeps_handle fun handle hf => ?_
  exact draws_held (fun _ => List.mem_append_left _) handle hf _ _ _ _

theorem keeps_paint : Keeps (Owns others) (paint : Step (Badge α) (Traced σ) Unit) := by
  refine keeps_owns fun font => Step.keeps_at_self fun badge hb => ?_
  subst hb
  refine .ite (fun _ => ?_) fun _ => .pure _
  refine (Step.keeps_at_host (keeps_drawRect _ _ _)).bind fun _ => ?_
  cases badge.label with
  | none => exact .pure _
  | some label => exact Step.keeps_at_host (keeps_paintLabel label)

end Paint

theorem keeps_run [PaintHost α σ] (op : BadgeOp α) :
    Keeps (Owns others) (op.run : Step (Badge α) (Traced σ) Unit) := by
  cases op with
  | setLabel label => exact fun p h => (ends_setLabel label h).imp fun _ _ hp => hp.1
  | setStyle style => exact keeps_setStyle style
  | place anchor placement => exact keeps_ignore (keeps_place anchor placement)
  | setFlags flags => exact Step.keeps_update fun _ _ h => h
  | measure width height => exact keeps_ignore (keeps_measure width height)
  | layout bounds => exact keeps_layout bounds
  | paint => exact keeps_paint
  | event e => exact keeps_ignore (.pure _)
  | destroy => exact keeps_release

theorem brings_create (style : BadgeStyle α) (label : Option String) :
    Brings (fun badge => badge.font.toList)
      (create style label : HostM (Traced σ) (Badge α)) := by
  refine .of_check fun _ held t h => ?_
  rw [Step.ends_construct]
  have hfirst : Owns held ((⟨style, none, .empty, .zero, .zero, .none⟩ : Badge α), t) := h
  apply (ends_setLabel label hfirst).imp
  rintro (e | ⟨⟩) p ⟨hp, hfail⟩
  · rw [Owns, Owning, hfail error_ne_ok] at hp
    exact hp
  · exact hp

end Badge

namespace Tooltip

def fonts (tip : Tooltip α) : List FontHandle := tip.titleFont.toList ++ tip.bodyFont.toList

def Owns (others : List FontHandle) : Tooltip α × Traced σ → Prop := Owning fonts others

theorem keeps_owns {act : Step (Tooltip α) (Traced σ) ω}
    (h : ∀ held, Keeps (At fonts held (Held (held ++ others))) act) :
    Keeps (Owns others) act := Step.keeps_of_at h

variable [TextHost α σ]

theorem brings_createFonts (style : TooltipStyle α) :
    Brings (fun made => made.1.toList ++ made.2.toList)
      (createFonts style : HostM (Traced σ) (OwnedFont × OwnedFont)) := by
  unfold createFonts
  split
  · exact (OwnedFont.brings_create style.text).map fun _ => rfl
  · intro held t h
    refine (OwnedFont.brings_create style.title held t h).bind (fun title t' ht => ?_)
      fun _ _ ht => ht
    rw [ends_tryCatch, ends_bind]
    apply (OwnedFont.brings_create style.body _ t' ht).imp
    rintro (e | body) t'' ht''
    · have hdiscard : Ends title.discard t'' fun _ t => Held held t :=
        OwnedFont.ends_discard ht''
      exact hdiscard.bind (fun _ _ ht => ht) fun _ _ ht => ht
    · have hp : (body.toList ++ (title.toList ++ held)).Perm
          (title.toList ++ body.toList ++ held) := by
        rw [List.append_assoc]
        exact List.perm_append_comm_assoc _ _ _
      exact Accounted.perm ht'' hp

/-- Both fonts go, whether or not the host destroys them. -/
theorem ends_releaseFonts {tip : Tooltip α} {t : Traced σ} (h : Owns others (tip, t)) :
    Ends releaseFonts (tip, t) fun r p =>
      (∃ released, r = .ok released) ∧
        p.1 = { tip with titleFont := .empty, bodyFont := .empty } ∧ Held others p.2 := by
  have htitle : Held (tip.titleFont.toList ++ (tip.bodyFont.toList ++ others)) t := by
    rw [← List.append_assoc]
    exact h
  rw [releaseFonts, ends_bind, ends_outcome, onTitleFont, Step.ends_zoom]
  apply (OwnedFont.ends_release htitle).imp
  rintro title ⟨_, t⟩ ⟨rfl, ht⟩
  dsimp only
  rw [ends_bind, ends_outcome, onBodyFont, Step.ends_zoom]
  apply (OwnedFont.ends_release ht).imp
  rintro body ⟨_, t⟩ ⟨rfl, ht⟩
  exact ⟨⟨_, rfl⟩, rfl, ht⟩

theorem keeps_releaseFonts :
    Keeps (Owns others) (releaseFonts : Step (Tooltip α) (Traced σ) (Except Error Unit)) := by
  rintro ⟨tip, t⟩ h
  apply (ends_releaseFonts h).imp
  rintro _ ⟨_, t⟩ ⟨-, rfl, ht⟩
  exact ht

theorem ends_drop {tip : Tooltip α} {t : Traced σ} (h : Owns others (tip, t)) :
    Ends drop (tip, t) fun _ p => Held others p.2 := by
  rw [drop, ends_bind]
  apply (ends_releaseFonts h).imp
  rintro _ p ⟨⟨released, rfl⟩, -, hp⟩
  exact hp

variable [Scalar α]

/-- The old fonts go and the new ones stay, also when the host refuses to destroy the old. -/
theorem keeps_setStyle (style : TooltipStyle α) :
    Keeps (Owns others) (setStyle style : Step (Tooltip α) (Traced σ) Unit) := by
  refine (Step.keeps_check _).bind fun _ => ?_
  rintro ⟨tip, t⟩ h
  rw [ends_bind, Step.ends_host]
  apply (brings_createFonts style _ t h).imp
  rintro (e | ⟨title, body⟩) t' ht
  · exact ht
  have hp : Owns (title.toList ++ body.toList ++ others) (tip, t') :=
    ht.perm (List.perm_append_comm_assoc _ _ _)
  dsimp only
  rw [ends_bind]
  apply (ends_releaseFonts hp).imp
  rintro _ ⟨_, t''⟩ ⟨⟨released, rfl⟩, rfl, ht''⟩
  dsimp only
  rw [ends_bind, Step.ends_update, Step.ends_check]
  exact ht''

omit [Scalar α] in
theorem keeps_measureBody {tip : Tooltip α} :
    Keeps (Held (fonts tip ++ others) : Traced σ → Prop) tip.measureBody := by
  refine .ite (fun _ => .pure _) fun _ => ?_
  refine keeps_handle fun handle hf => ?_
  have hm : handle ∈ fonts tip ++ others := by simp [fonts, OwnedFont.toList, hf]
  exact (keeps_measureText hm _).bind fun _ => .pure _

omit [Scalar α] in
theorem keeps_measureTitle {tip : Tooltip α} :
    Keeps (Held (fonts tip ++ others) : Traced σ → Prop) tip.measureTitle := by
  unfold measureTitle
  split
  · refine .ite (fun _ => .pure _) fun _ => ?_
    refine keeps_handle fun handle hf => ?_
    have hm : handle ∈ fonts tip ++ others := by simp [fonts, OwnedFont.toList, hf]
    exact (keeps_measureText hm _).bind fun _ => .pure _
  · exact .pure _

omit [Scalar α] in
theorem keeps_content :
    Keeps (Owns others) (content : Step (Tooltip α) (Traced σ) (TooltipContent α)) := by
  refine keeps_owns fun held => Step.keeps_at_self fun tip ht => ?_
  subst ht
  split
  · exact .pure _
  · refine (Step.keeps_at_host keeps_measureBody).bind fun body => ?_
    refine (Step.keeps_at_host keeps_measureTitle).bind fun title => ?_
    exact Keeps.bind (Step.keeps_at_update fun _ => rfl) fun _ => .pure _

theorem keeps_measure (width height : MeasureSpec α) :
    Keeps (Owns others) (measure width height : Step (Tooltip α) (Traced σ) (Size α)) := by
  refine (Step.keeps_check _).bind fun _ => ?_
  refine (Step.keeps_check _).bind fun _ => ?_
  refine keeps_content.bind fun content => Step.keeps_self_bind fun tip t _ => ?_
  exact (Step.keeps_check _).bind fun _ => .pure _

theorem keeps_layout (overlay : Rect α) :
    Keeps (Owns others) (layout overlay : Step (Tooltip α) (Traced σ) Unit) := by
  refine (Step.keeps_check _).bind fun _ => ?_
  refine keeps_content.bind fun content => Step.keeps_self_bind fun tip t _ => ?_
  refine (Step.keeps_check _).bind fun size => ?_
  exact (Step.keeps_check _).bind fun _ => Step.keeps_update fun _ _ h => h

section Paint

variable [PaintHost α σ]

omit [TextHost α σ] in
theorem keeps_drawLine {tip : Tooltip α} {font : OwnedFont}
    (hm : ∀ handle ∈ font.toList, handle ∈ held) (text : String) (y : α) (color : Color α) :
    Keeps (Held held : Traced σ → Prop) (tip.drawLine font text y color) :=
  keeps_handle fun handle hf => draws_held hm handle hf _ _ _ _

omit [TextHost α σ] in
theorem keeps_paintTitle {tip : Tooltip α} (content : TooltipContent α) (y : α) :
    Keeps (Held (fonts tip ++ others) : Traced σ → Prop) (tip.paintTitle content y) := by
  have hm : ∀ handle ∈ tip.titleFont.toList, handle ∈ fonts tip ++ others := fun handle hf =>
    List.mem_append_left _ (List.mem_append_left _ hf)
  unfold paintTitle
  split
  · exact (keeps_drawLine hm _ _ _).bind fun _ => .pure _
  · exact .pure _

theorem keeps_paint : Keeps (Owns others) (paint : Step (Tooltip α) (Traced σ) Unit) := by
  refine Step.keeps_self_bind fun _ _ _ => .ite (fun _ => .pure _) fun _ => ?_
  refine keeps_content.bind fun content => ?_
  refine keeps_owns fun held => Step.keeps_at_self fun tip ht => ?_
  subst ht
  have hm : ∀ handle ∈ tip.bodyFont.toList, handle ∈ fonts tip ++ others := fun handle hf =>
    List.mem_append_left _ (List.mem_append_right _ hf)
  refine (Step.keeps_at_host (keeps_drawRect _ _ _)).bind fun _ => ?_
  refine (Step.keeps_at_host (keeps_paintTitle _ _)).bind fun y => ?_
  cases content.body with
  | none => exact .pure _
  | some metrics => exact Step.keeps_at_host (keeps_drawLine hm _ _ _)

end Paint

theorem keeps_run [PaintHost α σ] (op : TooltipOp α) :
    Keeps (Owns others) (op.run : Step (Tooltip α) (Traced σ) Unit) := by
  cases op with
  | setTitle title => exact Step.keeps_update fun _ _ h => h
  | setBody body => exact Step.keeps_update fun _ _ h => h
  | setAnchor anchor placement =>
    exact (Step.keeps_check _).bind fun _ => Step.keeps_update fun _ _ h => h
  | setStyle style => exact keeps_setStyle style
  | content => exact keeps_ignore keeps_content
  | setFlags flags => exact Step.keeps_update fun _ _ h => h
  | measure width height => exact keeps_ignore (keeps_measure width height)
  | layout overlay => exact keeps_layout overlay
  | paint => exact keeps_paint
  | event e => exact keeps_ignore (.pure _)
  | destroy =>
    refine keeps_releaseFonts.bind fun released => ?_
    exact Keeps.bind (Step.keeps_update fun _ _ h => h) fun _ => Step.keeps_check _

theorem brings_create (style : TooltipStyle α) (anchor : TooltipAnchor α)
    (placement : TooltipPlacement) (body : String) :
    Brings fonts (create style anchor placement body : HostM (Traced σ) (Tooltip α)) := by
  refine .of_check fun _ => .of_check fun _ => ?_
  exact (brings_createFonts style).map fun _ => rfl

end Tooltip

end Widgetry
