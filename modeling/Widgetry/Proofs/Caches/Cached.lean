import Widgetry.Proofs.Host.Echoes
import Widgetry.Proofs.Operations

/-! What labels and badges remember of measured text: a label the metrics of its text, a badge
those of a blank line. Whatever is done with them and whatever the host refuses, what they remember
is what a pure host measures in the font that they hold. -/
namespace Widgetry

variable {α τ ω β : Type} {metrics : FontHandle → String → TextMetrics α}

/-- What is asked of the host leaves the thing as it is. -/
theorem Step.keeps_thing {inv : ω → Prop} (act : HostM τ β) :
    Keeps (fun p => inv p.1) (Step.host act : Step ω τ β) := fun _ h => h

variable [TextHost α τ]

/-- A font that cannot be replaced stays. -/
theorem OwnedFont.ends_replace_or_stay (next font : OwnedFont) {h : τ} :
    Ends (replace next : Step OwnedFont τ Unit) (font, h) fun r p =>
      match r with
      | .ok () => p.1 = next
      | .error _ => p.1 = font := by
  rw [replace, ends_bind, Step.ends_self]
  obtain ⟨_ | current⟩ := font
  · exact rfl
  · dsimp only
    rw [ends_bind, ends_tryCatch, Step.ends_host]
    apply (ends_run _ _).imp
    rintro (e | ⟨⟩) h' -
    · dsimp only
      rw [ends_bind, Step.ends_host]
      apply (ends_run _ _).imp
      rintro (e' | ⟨⟩) h'' -
      · exact rfl
      · exact rfl
    · exact rfl

theorem OwnedFont.ends_release_empty (font : OwnedFont) {h : τ} :
    Ends (release : Step OwnedFont τ Unit) (font, h) fun _ p => p.1 = empty := by
  rw [release, ends_bind, Step.ends_self]
  dsimp only
  rw [ends_bind, Step.ends_update]
  obtain ⟨_ | handle⟩ := font
  · exact rfl
  · exact (ends_run (TextHost.destroyFont handle) h).imp fun _ _ _ => rfl

section Swap

variable {part : ω → OwnedFont} {put : OwnedFont → ω → ω} {inv : ω → Prop}

/-- What is loaded with a font and put in place with it fits it, and until the font is in place
nothing changes. -/
theorem keeps_swapIn (hput : ∀ w, put (part w) w = w) {brought : β → OwnedFont} {fits : β → Prop}
    {load : HostM τ β} (hload : ∀ h, Ends load h fun r _ => ∀ b, r = .ok b → fits b)
    {f : β → Step ω τ Unit} (finish : β → ω → ω)
    (hf : ∀ b p, Ends (f b) p fun r q => r = .ok () ∧ q = (finish b p.1, p.2))
    (hinv : ∀ b w, fits b → inv w → inv (finish b (put (brought b) w))) :
    Keeps (fun p => inv p.1) (do
      let b ← Step.host load
      Step.zoom part put (OwnedFont.replace (brought b))
      f b) := by
  rintro ⟨w, h⟩ hw
  rw [ends_bind, Step.ends_host]
  apply (hload h).imp
  rintro (e | b) h' hb
  · exact hw
  dsimp only
  rw [ends_bind, Step.ends_zoom]
  apply (OwnedFont.ends_replace_or_stay (brought b) (part w)).imp
  rintro (e | ⟨⟩) ⟨font, h''⟩ hfont
  · obtain rfl : font = part w := hfont
    dsimp only
    rw [hput]
    exact hw
  · obtain rfl : font = brought b := hfont
    apply (hf b _).imp
    rintro _ _ ⟨-, rfl⟩
    exact hinv b w (hb b rfl) hw

end Swap

variable (hm : ∀ font, Answers (TextHost.measureText font : Measurer α τ) (metrics font))

namespace Label

/-- The metrics in store are those of the text in the held font. -/
def Cached (metrics : FontHandle → String → TextMetrics α) (label : Label α) : Prop :=
  ∀ m, label.metrics? = some m →
    ∃ font, label.font.handle? = some font ∧ m = metrics font label.text

theorem cached_of_none {label : Label α} (h : label.metrics? = none) : label.Cached metrics := by
  intro m hm
  exact nomatch h.symm.trans hm

include hm

/-- What is in store is answered, and what is not is measured. -/
theorem ends_metrics_cached {label : Label α} (hl : label.Cached metrics) {h : τ} :
    Ends Label.metrics (label, h) fun r p => p.1.Cached metrics ∧
      ∀ font, label.font.handle? = some font → r = .ok (metrics font label.text) ∨
        ∃ e, r = .error e ∧
          Ends (TextHost.measureText font label.text) h fun r' _ => r' = .error e := by
  rw [Label.metrics, ends_bind, Step.ends_self]
  dsimp only
  split
  next m hstored =>
    refine ⟨hl, fun font hfont => .inl ?_⟩
    obtain ⟨held, hheld, rfl⟩ := hl m hstored
    obtain rfl := Option.some.inj (hheld.symm.trans hfont)
    rfl
  next hnone =>
    refine .of_check (fun font hfont => ?_) fun e he => ⟨cached_of_none hnone, fun font hfont => ?_⟩
    · have hheld := OwnedFont.handle_eq_ok.mp hfont
      rw [ends_bind, Step.ends_host]
      apply ((ends_run _ h).and ((hm font).ends label.text)).imp
      rintro (e | m) h' ⟨hrun, hanswer⟩
      · refine ⟨cached_of_none hnone, fun font' hfont' => .inr ⟨e, rfl, ?_⟩⟩
        obtain rfl := Option.some.inj (hheld.symm.trans hfont')
        rw [ends_of_run hrun]
      · obtain rfl := hanswer m rfl
        refine ⟨fun m hstored => ⟨font, hheld, (Option.some.inj hstored).symm⟩,
          fun font' hfont' => .inl ?_⟩
        obtain rfl := Option.some.inj (hheld.symm.trans hfont')
        rfl
    · exact (error_ne_ok (he.symm.trans (OwnedFont.handle_eq_ok.mpr hfont))).elim

theorem keeps_metrics_cached :
    Keeps (fun p => p.1.Cached metrics) (Label.metrics : Step (Label α) τ (TextMetrics α)) :=
  fun _ hl => (ends_metrics_cached hm hl).imp fun _ _ h => h.1

variable [Scalar α]

omit hm in
theorem keeps_setStyle_cached (style : TextStyle α) :
    Keeps (fun p => p.1.Cached metrics) (setStyle style : Step (Label α) τ Unit) := by
  refine (Step.keeps_check _).bind fun _ => ?_
  exact keeps_swapIn (fun _ => rfl) (fun h => (ends_run _ h).imp fun _ _ _ _ _ => trivial)
    (fun _ label => { label with style, metrics? := none }) (fun _ _ => ⟨rfl, rfl⟩)
    fun _ _ _ _ => cached_of_none rfl

omit [Scalar α] hm in
theorem keeps_destroy_cached :
    Keeps (fun p => p.1.Cached metrics) (destroy : Step (Label α) τ Unit) := by
  rintro ⟨label, h⟩ -
  rw [destroy, ends_bind, ends_outcome, onFont, Step.ends_zoom]
  apply (ends_run _ _).imp
  rintro r q -
  dsimp only
  rw [ends_bind, Step.ends_update, Step.ends_check]
  exact cached_of_none rfl

theorem keeps_run_cached [PaintHost α τ] (op : LabelOp α) :
    Keeps (fun p => p.1.Cached metrics) (op.run : Step (Label α) τ Unit) := by
  cases op with
  | setText text => exact Step.keeps_update fun _ _ _ => cached_of_none rfl
  | setStyle style => exact keeps_setStyle_cached style
  | metrics => exact keeps_ignore (keeps_metrics_cached hm)
  | setFlags flags => exact Step.keeps_update fun _ _ h => h
  | measure width height =>
    refine keeps_ignore ((Step.keeps_check _).bind fun _ => (Step.keeps_check _).bind fun _ => ?_)
    exact (keeps_metrics_cached hm).bind fun _ => .pure _
  | layout bounds => exact (Step.keeps_check _).bind fun _ => Step.keeps_update fun _ _ h => h
  | paint =>
    refine (keeps_metrics_cached hm).bind fun m => Step.keeps_self_bind fun label _ _ => ?_
    exact (Step.keeps_check _).bind fun font => Step.keeps_thing _
  | event e => exact keeps_ignore (.pure _)
  | destroy => exact keeps_destroy_cached

omit hm in
theorem ends_create_cached (style : TextStyle α) (text : String) {h : τ} :
    Ends (create style text : HostM τ (Label α)) h fun r _ => ∀ label, r = .ok label →
      label.Cached metrics := by
  refine .of_check (fun _ _ => ?_) fun _ _ _ hr => nomatch hr
  refine (ends_run _ h).bind ?_ fun _ _ _ _ hr => nomatch hr
  rintro font h' - _ ⟨⟩
  exact cached_of_none rfl

end Label

namespace Badge

/-- The line of a held font is that of a text without letters. -/
def Cached (metrics : FontHandle → String → TextMetrics α) (badge : Badge α) : Prop :=
  ∀ font, badge.font.handle? = some font → badge.line = metrics font ""

theorem cached_adopt {badge : Badge α} {font : FontHandle} (hfont : badge.font = .adopt font)
    (hline : badge.line = metrics font "") : badge.Cached metrics := by
  intro held hheld
  rw [hfont] at hheld
  obtain rfl := Option.some.inj hheld
  exact hline

theorem cached_of_empty {badge : Badge α} (h : badge.font = .empty) : badge.Cached metrics := by
  intro font hfont
  rw [h] at hfont
  exact nomatch hfont

/-- A font and its line. -/
def Lined (metrics : FontHandle → String → TextMetrics α) (loaded : OwnedFont × TextMetrics α) :
    Prop := ∃ font, loaded = (.adopt font, metrics font "")

include hm in
theorem ends_loadFont_lined (style : BadgeStyle α) {h : τ} :
    Ends (loadFont style : HostM τ (OwnedFont × TextMetrics α)) h fun r _ => ∀ loaded,
      r = .ok loaded → Lined metrics loaded := by
  refine (ends_run _ h).bind (fun font h' _ => ?_) fun _ _ _ _ hr => nomatch hr
  rw [ends_tryCatch, ends_bind]
  apply ((hm font).ends "").imp
  rintro (e | line) h'' hline
  · refine (ends_run _ h'').bind (fun _ _ _ => ?_) fun _ _ _ _ hr => nomatch hr
    exact fun _ hr => nomatch hr
  · rintro _ ⟨⟩
    rw [hline line rfl]
    exact ⟨font, rfl⟩

include hm in
/-- A badge without a font loads one together with its line. -/
theorem keeps_setLabel_cached (label : Option String) :
    Keeps (fun p => p.1.Cached metrics) (setLabel label : Step (Badge α) τ Unit) := by
  have hlabel : Keeps (fun p => p.1.Cached metrics)
      (Step.update fun badge => { badge with label } : Step (Badge α) τ Unit) :=
    Step.keeps_update fun _ _ h => h
  refine Step.keeps_self_bind fun badge _ _ => .ite (fun _ => ?_) fun _ => hlabel
  refine Step.keeps_self_bind fun badge _ _ => ?_
  rintro ⟨badge', h⟩ hb
  rw [ends_bind, Step.ends_host]
  apply (ends_loadFont_lined hm badge.style).imp
  rintro (e | loaded) h' hloaded
  · exact hb
  · obtain ⟨font, rfl⟩ := hloaded _ rfl
    exact cached_adopt rfl rfl

theorem keeps_destroy_cached :
    Keeps (fun p => p.1.Cached metrics) (destroy : Step (Badge α) τ Unit) := by
  rintro ⟨badge, h⟩ -
  rw [destroy, onFont, Step.ends_zoom]
  apply (OwnedFont.ends_release_empty badge.font).imp
  rintro r ⟨font, h'⟩ hfont
  exact cached_of_empty hfont

variable [Scalar α]

include hm in
theorem keeps_setStyle_cached (style : BadgeStyle α) :
    Keeps (fun p => p.1.Cached metrics) (setStyle style : Step (Badge α) τ Unit) := by
  refine (Step.keeps_check _).bind fun _ => Step.keeps_self_bind fun badge _ _ => ?_
  refine .ite (fun _ => ?_) fun _ => Step.keeps_update fun _ _ h => h
  refine keeps_swapIn (fun _ => rfl) (fun h => ends_loadFont_lined hm style)
    (fun loaded badge => { badge with style, line := loaded.2 }) (fun _ _ => ⟨rfl, rfl⟩) ?_
  rintro _ badge ⟨font, rfl⟩ -
  exact cached_adopt rfl rfl

section Still

variable {inv : Badge α → Prop}

theorem keeps_measure_still (width height : MeasureSpec α) :
    Keeps (fun p => inv p.1) (measure width height : Step (Badge α) τ (Size α)) := by
  refine (Step.keeps_check _).bind fun _ => (Step.keeps_check _).bind fun _ => ?_
  refine Step.keeps_self_bind fun badge _ _ => .ite (fun _ => ?_) fun _ => .pure _
  exact (Step.keeps_thing _).bind fun _ => .pure _

theorem keeps_paint_still [PaintHost α τ] :
    Keeps (fun p => inv p.1) (paint : Step (Badge α) τ Unit) := by
  refine Step.keeps_self_bind fun badge _ _ => .ite (fun _ => ?_) fun _ => .pure _
  refine (Step.keeps_thing _).bind fun _ => ?_
  cases badge.label with
  | none => exact .pure _
  | some label => exact Step.keeps_thing _

variable (hbounds : ∀ badge bounds, inv badge → inv { badge with bounds })
include hbounds

omit [TextHost α τ] in
theorem keeps_layout_still (bounds : Rect α) :
    Keeps (fun p => inv p.1) (layout bounds : Step (Badge α) τ Unit) :=
  (Step.keeps_check _).bind fun _ => Step.keeps_update fun badge _ => hbounds badge bounds

theorem keeps_place_still (anchor : Rect α) (placement : BadgePlacement α) :
    Keeps (fun p => inv p.1) (place anchor placement : Step (Badge α) τ (Rect α)) := by
  refine (keeps_measure_still _ _).bind fun size => ?_
  refine (Step.keeps_check _).bind fun bounds => ?_
  exact (keeps_layout_still hbounds bounds).bind fun _ => .pure _

end Still

include hm in
theorem keeps_run_cached [PaintHost α τ] (op : BadgeOp α) :
    Keeps (fun p => p.1.Cached metrics) (op.run : Step (Badge α) τ Unit) := by
  cases op with
  | setLabel label => exact keeps_setLabel_cached hm label
  | setStyle style => exact keeps_setStyle_cached hm style
  | place anchor placement =>
    exact keeps_ignore (keeps_place_still (fun _ _ h => h) anchor placement)
  | setFlags flags => exact Step.keeps_update fun _ _ h => h
  | measure width height => exact keeps_ignore (keeps_measure_still width height)
  | layout bounds => exact keeps_layout_still (fun _ _ h => h) bounds
  | paint => exact keeps_paint_still
  | event e => exact keeps_ignore (.pure _)
  | destroy => exact keeps_destroy_cached

include hm in
theorem ends_create_cached (style : BadgeStyle α) (label : Option String) {h : τ} :
    Ends (create style label : HostM τ (Badge α)) h fun r _ => ∀ badge, r = .ok badge →
      badge.Cached metrics := by
  refine .of_check (fun _ _ => ?_) fun _ _ _ hr => nomatch hr
  rw [Step.ends_construct]
  have hfirst : (⟨style, none, .empty, .zero, .zero, .none⟩ : Badge α).Cached metrics :=
    cached_of_empty rfl
  apply (keeps_setLabel_cached hm label (_, h) hfirst).imp
  rintro (e | ⟨⟩) p hp _ ⟨⟩
  exact hp

end Badge

end Widgetry
