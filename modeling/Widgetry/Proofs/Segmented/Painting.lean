import Widgetry.Proofs.Host.Paints
import Widgetry.Proofs.Segmented.Frame
import Widgetry.Proofs.Tabs.NonNeg

/-! How a group of segments is painted. Its segments are alike in extent, so there is room inside
the outline in all of them or in none: on a willing host the group is drawn to the end, or the
outline of its first segment is all that is drawn. -/
namespace Widgetry

/-- Whether there is room does not depend on the place. -/
theorem Rect.shrink_eq_error {α : Type} [Scalar α] {r r' : Rect α} {amount : α} {e : Error}
    (hwidth : r.width = r'.width) (hheight : r.height = r'.height)
    (h : r.shrink amount = .error e) : r'.shrink amount = .error e := by
  unfold shrink inset at h ⊢
  rw [← hwidth, ← hheight]
  dsimp only at h ⊢
  split at h
  next hroom =>
    rw [if_pos hroom]
    exact h
  · exact nomatch h

/-- A segment has no negative extent. -/
theorem SegmentStyle.ends_computeLayout_nonneg {σ : Type} (s : SegmentStyle Binary32)
    {measurer : Measurer Binary32 σ} (items : List String) (bounds : Rect Binary32) {h : σ} :
    Ends (s.computeLayout measurer items bounds) h fun r _ => ∀ l, r = .ok l →
      ¬(l.segmentWidth < 0 ∨ l.segmentHeight < 0) := by
  refine .of_check (fun _ _ => ?_) fun _ _ _ hr => nomatch hr
  refine .of_check (fun _ _ => ?_) fun _ _ _ hr => nomatch hr
  refine .of_check (fun available _ => ?_) fun _ _ _ hr => nomatch hr
  refine (ends_run _ _).bind (fun extents _ _ => ?_) fun _ _ _ _ hr => nomatch hr
  refine .of_check (fun band hband => ?_) fun _ _ _ hr => nomatch hr
  refine .of_check (fun width hwidth => ?_) fun _ _ _ hr => nomatch hr
  rintro _ ⟨⟩
  exact not_or.mpr ⟨not_lt_zero_iff.mpr (Row.nonNeg_evenWidth hwidth), Row.fitBand_height hband⟩

namespace SegmentLayout

variable {α : Type} [Scalar α]

def place (l : SegmentLayout α) (index : Nat) : Rect α where
  x := l.startX + (l.segmentWidth + l.spacing) * Scalar.ofNat index
  y := l.startY
  width := l.segmentWidth
  height := l.segmentHeight

theorem segmentRect_eq_place {l : SegmentLayout α}
    (h : ¬(l.segmentWidth < 0 ∨ l.segmentHeight < 0)) (index : Nat) :
    l.segmentRect index = .ok (l.place index) := if_neg h

end SegmentLayout

namespace SegmentGroup

variable {α σ τ : Type} [Scalar α]

section Commands

variable (group : SegmentGroup α τ)

def colorsOf (index : Nat) : SegmentColors α :=
  group.style.segmentColors (group.selection.isSelected index)
    (group.flags.has WidgetFlags.disabled)

/-- What the outline leaves of a segment, and of its corners. -/
def inside (segment : Rect α) (corner : α) : Except Error (Rect α × α) :=
  if 0 < group.style.outlineWidth then
    (segment.shrink group.style.outlineWidth).map fun inner =>
      (inner, max (corner - group.style.outlineWidth) 0)
  else .ok (segment, corner)

def outlineCommands (segment : Rect α) (corner : α) (colors : SegmentColors α) :
    List (PaintCommand α) :=
  if 0 < group.style.outlineWidth then [.rect segment colors.outline corner] else []

def fillCommands (inner : Rect α) (corner : α) (colors : SegmentColors α) :
    List (PaintCommand α) :=
  if colors.background.isVisible then [.rect inner colors.background corner] else []

def labelCommands (font : FontHandle) (segment : Rect α) (item : String)
    (colors : SegmentColors α) (text : TextMetrics α) : List (PaintCommand α) :=
  if item.isEmpty then []
  else
    let (x, y) := Row.centeredText segment text
    [.text font item x y colors.text]

def segmentCommands (font : FontHandle) (index : Nat) (last : Bool) (item : String)
    (segment inner : Rect α) (corner : α) (text : TextMetrics α) : List (PaintCommand α) :=
  let colors := group.colorsOf index
  group.outlineCommands segment (group.cornerOf index last) colors ++
    fillCommands inner corner colors ++ labelCommands font segment item colors text

/-- A label has measured so, unless it is blank. -/
def Measured (τ : Type) [TextHost α τ] (font : FontHandle) (item : String)
    (text : TextMetrics α) : Prop :=
  item.isEmpty ∨ ∃ h h' : τ, (TextHost.measureText font item).run h = (.ok text, h')

/-- These draw the segments from an index on: all of each, outline, background and label. -/
inductive Drawn [TextHost α τ] (font : FontHandle) (layout : SegmentLayout α) :
    Nat → List String → List (PaintCommand α) → Prop
  | nil {index : Nat} : Drawn font layout index [] []
  | cons {index : Nat} {item : String} {rest : List String} {segment inner : Rect α} {corner : α}
      {text : TextMetrics α} {more : List (PaintCommand α)}
      (place : layout.segmentRect index = .ok segment)
      (room : group.inside segment (group.cornerOf index rest.isEmpty) = .ok (inner, corner))
      (measured : Measured τ font item text) (after : Drawn font layout (index + 1) rest more) :
      Drawn font layout index (item :: rest)
        (group.segmentCommands font index rest.isEmpty item segment inner corner text ++ more)

/-- A layout that the group has had. -/
def LaysOut [TextHost α τ] (font : FontHandle) (layout : SegmentLayout α) : Prop :=
  group.font.handle? = some font ∧ ∃ h h' : τ,
    (group.style.computeLayout (TextHost.measureText font) group.items group.bounds).run h =
      (.ok layout, h')

/-- All segments of the group are drawn. -/
def Whole [TextHost α τ] (before after : List (PaintCommand α)) : Prop :=
  ∃ font layout commands, group.LaysOut font layout ∧
    group.Drawn font layout 0 group.items commands ∧ after = before ++ commands

/-- The outline of the first segment is drawn, in which there is no room for the rest of it. -/
def OutlineOnly [TextHost α τ] (e : Error) (before after : List (PaintCommand α)) : Prop :=
  ∃ font layout segment, group.LaysOut font layout ∧ layout.segmentRect 0 = .ok segment ∧
    0 < group.style.outlineWidth ∧ segment.shrink group.style.outlineWidth = .error e ∧
    after = before ++ [.rect segment (group.colorsOf 0).outline group.style.cornerRadius]

end Commands

/-- Without room in one segment there is none in any. -/
theorem cramped_of_not_room {group : SegmentGroup α τ} {layout : SegmentLayout α}
    (h : ¬∀ index corner, ∃ inside, group.inside (layout.place index) corner = .ok inside) :
    0 < group.style.outlineWidth ∧ ∃ e, ∀ index,
      (layout.place index).shrink group.style.outlineWidth = .error e := by
  obtain ⟨index, h⟩ := not_forall.mp h
  obtain ⟨corner, h⟩ := not_forall.mp h
  have hnone := not_exists.mp h
  unfold inside at hnone
  split at hnone
  next hwidth =>
    cases hshrink : (layout.place index).shrink group.style.outlineWidth with
    | error e =>
      exact ⟨hwidth, e, fun _ => Rect.shrink_eq_error (r := layout.place index) rfl rfl hshrink⟩
    | ok inner =>
      rw [hshrink] at hnone
      exact (hnone _ rfl).elim
  next => exact (hnone _ rfl).elim

section Willing

variable [TextHost α σ] [PaintHost α σ] {inv : σ → Prop} {held : FontHandle → Prop}
  (hw : Willing inv held) {t : Canvas α σ} (ht : inv t.host)
  {group : SegmentGroup α (Canvas α σ)} {layout : SegmentLayout α} {font : FontHandle}
  {segment inner : Rect α} {corner corner' : α} {index : Nat} {last : Bool} {item : String}
include hw ht

theorem attains_paintOutline (colors : SegmentColors α)
    (hroom : group.inside segment corner = .ok (inner, corner')) :
    Attains (group.paintOutline segment corner colors : HostM (Canvas α σ) _) t fun b t' =>
      b = (inner, corner') ∧ t.Adds inv (group.outlineCommands segment corner colors) t' := by
  unfold inside at hroom
  unfold paintOutline outlineCommands
  dsimp only
  split at hroom
  next hwidth =>
    rw [if_pos hwidth, if_pos hwidth]
    cases hshrink : segment.shrink group.style.outlineWidth with
    | error e =>
      rw [hshrink] at hroom
      exact nomatch hroom
    | ok room =>
      rw [hshrink] at hroom
      obtain ⟨rfl, rfl⟩ := Prod.mk.inj (Except.ok.inj hroom)
      refine (hw.attains_drawRect ht _ _ _).bind fun _ t' hadds => ?_
      exact (attains_pure _).mpr ⟨rfl, hadds⟩
  next hwidth =>
    rw [if_neg hwidth, if_neg hwidth]
    obtain ⟨rfl, rfl⟩ := Prod.mk.inj (Except.ok.inj hroom)
    exact (attains_pure _).mpr ⟨rfl, Canvas.adds_nil ht⟩

theorem attains_paintFill (colors : SegmentColors α) :
    Attains (paintFill inner corner colors : HostM (Canvas α σ) Unit) t fun _ t' =>
      t.Adds inv (fillCommands inner corner colors) t' := by
  unfold paintFill fillCommands
  split
  · exact hw.attains_drawRect ht _ _ _
  · exact (attains_pure _).mpr (Canvas.adds_nil ht)

theorem attains_paintLabel (hf : held font) (item : String) (colors : SegmentColors α) :
    Attains (paintLabel font segment item colors : HostM (Canvas α σ) Unit) t fun _ t' =>
      ∃ text, Measured (Canvas α σ) font item text ∧
        t.Adds inv (labelCommands font segment item colors text) t' := by
  unfold paintLabel labelCommands
  split
  next hblank => exact (attains_pure _).mpr ⟨.zero, .inl hblank, Canvas.adds_nil ht⟩
  next =>
    refine (hw.attains_measureText ht hf item).run.bind fun text t₁ ⟨hrun, hmeasured⟩ => ?_
    refine (hw.attains_drawText hmeasured.kept hf _ _ _ _).imp fun _ t₂ hdrawn => ?_
    exact ⟨text, .inr ⟨t, t₁, hrun⟩, hmeasured.trans hdrawn⟩

theorem attains_paintSegment (hf : held font) (hplace : layout.segmentRect index = .ok segment)
    (hroom : group.inside segment (group.cornerOf index last) = .ok (inner, corner)) :
    Attains (group.paintSegment font layout index last item : HostM (Canvas α σ) Unit) t
      fun _ t' => ∃ text, Measured (Canvas α σ) font item text ∧
        t.Adds inv (group.segmentCommands font index last item segment inner corner text) t' := by
  rw [paintSegment, hplace]
  refine (attains_paintOutline hw ht (group.colorsOf index) hroom).bind ?_
  rintro _ t₁ ⟨rfl, houtline⟩
  refine (attains_paintFill hw houtline.kept (group.colorsOf index)).bind fun _ t₂ hfill => ?_
  refine (attains_paintLabel hw hfill.kept hf item _).imp fun _ t₃ ⟨text, hmeasured, hlabel⟩ => ?_
  exact ⟨text, hmeasured, (houtline.trans hfill).trans hlabel⟩

/-- With room in each segment, all of them are drawn. -/
theorem attains_paintSegments (hf : held font)
    (hlayout : ¬(layout.segmentWidth < 0 ∨ layout.segmentHeight < 0)) {items : List String}
    (hroom : ∀ index corner, ∃ inside, group.inside (layout.place index) corner = .ok inside) :
    Attains (group.paintSegments font layout index items : HostM (Canvas α σ) Unit) t fun _ t' =>
      ∃ commands, t.Adds inv commands t' ∧ group.Drawn font layout index items commands := by
  induction items generalizing t index with
  | nil => exact (attains_pure _).mpr ⟨[], Canvas.adds_nil ht, .nil⟩
  | cons item rest ih =>
    have hplace := SegmentLayout.segmentRect_eq_place hlayout index
    obtain ⟨⟨inner, corner⟩, hinside⟩ := hroom index (group.cornerOf index rest.isEmpty)
    rw [paintSegments]
    refine (attains_paintSegment hw ht hf hplace hinside).bind ?_
    rintro _ t₁ ⟨text, hmeasured, hsegment⟩
    refine (ih hsegment.kept).imp fun _ t₂ ⟨more, hmore, hdrawn⟩ => ?_
    exact ⟨_, hsegment.trans hmore, .cons hplace hinside hmeasured hdrawn⟩

/-- Without room in it, the outline of a segment is drawn before the segment is given up. -/
theorem ends_paintSegment_cramped (hplace : layout.segmentRect index = .ok segment)
    (hwidth : 0 < group.style.outlineWidth) {e : Error}
    (hcramped : segment.shrink group.style.outlineWidth = .error e) :
    Ends (group.paintSegment font layout index last item : HostM (Canvas α σ) Unit) t
      fun r t' => r = .error e ∧ t'.commands = t.commands ++
        [.rect segment (group.colorsOf index).outline (group.cornerOf index last)] := by
  rw [paintSegment, hplace]
  change Ends (group.paintOutline segment _ _ >>= _) t _
  rw [paintOutline]
  dsimp only
  rw [if_pos hwidth, hcramped, bind_assoc]
  exact Ends.bind_ok (hw.attains_drawRect ht _ _ _) fun _ t' hadds => ⟨rfl, hadds.added⟩

end Willing

section Paint

variable [TextHost Binary32 σ] [PaintHost Binary32 σ] {inv : σ → Prop}
  {group : SegmentGroup Binary32 (Canvas Binary32 σ)}
  (hw : Willing inv fun font => group.font.handle? = some font) {t : Canvas Binary32 σ}
  (ht : inv t.host)
include hw ht

/-- Nothing is drawn before there is a layout. -/
theorem ends_currentLayout_unseen :
    Ends (currentLayout : Step (SegmentGroup Binary32 (Canvas Binary32 σ)) _ _) (group, t)
      fun r p => p.1 = group ∧ inv p.2.host ∧ p.2.commands = t.commands ∧ ∀ l, r = .ok l →
        ¬(l.segmentWidth < 0 ∨ l.segmentHeight < 0) ∧ ∃ font, group.LaysOut font l := by
  rw [currentLayout, ends_bind, Step.ends_self]
  refine .of_check (fun measurer hm => ?_) fun _ _ => ⟨rfl, ht, rfl, fun _ hr => nomatch hr⟩
  obtain ⟨font, hfont, rfl⟩ := OwnedFont.measurer_eq_ok.mp hm
  have hkeeps (text : String) : Keeps (fun t' : Canvas Binary32 σ => inv t'.host ∧
      t'.commands = t.commands) (TextHost.measureText font text) :=
    (hw.measureText_unseen t.commands hfont text).keeps
  have hkept := group.style.keeps_computeLayout hkeeps group.items group.bounds t ⟨ht, rfl⟩
  have hnonneg : Ends (group.style.computeLayout (TextHost.measureText font) group.items
      group.bounds) t _ := group.style.ends_computeLayout_nonneg group.items group.bounds
  rw [Step.ends_host]
  apply ((ends_run _ t).and (hkept.and hnonneg)).imp
  rintro r t' ⟨hrun, ⟨hkept, hcommands⟩, hnonneg⟩
  refine ⟨rfl, hkept, hcommands, ?_⟩
  rintro l rfl
  exact ⟨hnonneg l rfl, font, hfont, t, t', hrun⟩

/-- The group is drawn to the end unless its outline is too wide for its segments. -/
theorem ends_paint_whole :
    Ends (paint : Step (SegmentGroup Binary32 (Canvas Binary32 σ)) _ Unit) (group, t) fun r p =>
      match r with
      | .ok () => group.Whole t.commands p.2.commands
      | .error e => p.2.commands = t.commands ∨ group.OutlineOnly e t.commands p.2.commands := by
  refine (ends_currentLayout_unseen hw ht).bind ?_ fun _ _ hr => .inl hr.2.2.1
  rintro layout ⟨group', t₁⟩ ⟨hgroup, ht₁, hcommands, hlayout⟩
  obtain rfl : group' = group := hgroup
  obtain ⟨hnonneg, font, hlays⟩ := hlayout layout rfl
  rw [ends_bind, Step.ends_self]
  dsimp only
  rw [OwnedFont.handle_eq_ok.mpr hlays.1]
  change Ends (Step.host (group'.paintSegments font layout 0 group'.items)) (group', t₁) _
  rw [Step.ends_host]
  by_cases hroom : ∀ index corner, ∃ inside, group'.inside (layout.place index) corner = .ok inside
  · refine Ends.imp (attains_paintSegments hw ht₁ hlays.1 hnonneg hroom) ?_
    rintro _ t₂ ⟨⟨⟩, rfl, commands, hadds, hdrawn⟩
    exact ⟨font, layout, commands, hlays, hdrawn, hcommands ▸ hadds.added⟩
  · obtain ⟨hwidth, e, hcramped⟩ := cramped_of_not_room hroom
    cases hitems : group'.items with
    | nil =>
      refine ⟨font, layout, [], hlays, ?_, hcommands.trans (List.append_nil _).symm⟩
      rw [hitems]
      exact .nil
    | cons item rest =>
      have hplace := SegmentLayout.segmentRect_eq_place hnonneg 0
      refine (ends_paintSegment_cramped hw ht₁ hplace hwidth (hcramped 0)).bind ?_ ?_
      · exact fun _ _ hr => nomatch hr.1
      · rintro _ t₂ ⟨⟨⟩, hadded⟩
        refine .inr ⟨font, layout, _, hlays, hplace, hwidth, hcramped 0, ?_⟩
        exact hcommands ▸ hadded

end Paint

end SegmentGroup

end Widgetry
