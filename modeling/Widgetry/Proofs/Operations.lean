import Widgetry.Proofs.Host.Trace
import Widgetry.Widget

/-! What a program may do with each kind of widget between making it and dropping it. -/
namespace Widgetry

inductive TabOp (α σ : Type) where
  | setItems (items : List String)
  | setStyle (style : TabStyle α)
  | setSelected (selected : Option Nat)
  | setScroll (offset : α)
  | setOnSelect (listener : Option (TabListener σ))
  | setFlags (flags : WidgetFlags)
  | setDisabled (on : Bool)
  | step (dt : α)
  | measure (width height : MeasureSpec α)
  | layout (bounds : Rect α)
  | paint
  | event (event : InputEvent)
  | destroy

inductive SegmentOp (α σ : Type) where
  | setItems (items : List String)
  | setItemsWithStates (items : List String) (flags : List Bool)
  | setStyle (style : SegmentStyle α)
  | setSelectedIndex (selected : Option Nat)
  | setSelectedState (index : Nat) (on : Bool)
  | setOnSelect (listener : Option (SegmentListener σ))
  | setFlags (flags : WidgetFlags)
  | setDisabled (on : Bool)
  | measure (width height : MeasureSpec α)
  | layout (bounds : Rect α)
  | paint
  | event (event : InputEvent)
  | destroy

inductive LabelOp (α : Type) where
  | setText (text : String)
  | setStyle (style : TextStyle α)
  | metrics
  | setFlags (flags : WidgetFlags)
  | measure (width height : MeasureSpec α)
  | layout (bounds : Rect α)
  | paint
  | event (event : InputEvent)
  | destroy

inductive BadgeOp (α : Type) where
  | setLabel (label : Option String)
  | setStyle (style : BadgeStyle α)
  | place (anchor : Rect α) (placement : BadgePlacement α)
  | setFlags (flags : WidgetFlags)
  | measure (width height : MeasureSpec α)
  | layout (bounds : Rect α)
  | paint
  | event (event : InputEvent)
  | destroy

inductive TooltipOp (α : Type) where
  | setTitle (title : Option String)
  | setBody (body : String)
  | setAnchor (anchor : TooltipAnchor α) (placement : TooltipPlacement)
  | setStyle (style : TooltipStyle α)
  | content
  | setFlags (flags : WidgetFlags)
  | measure (width height : MeasureSpec α)
  | layout (overlay : Rect α)
  | paint
  | event (event : InputEvent)
  | destroy

inductive WidgetOp (α σ : Type) where
  | tabs (op : TabOp α σ)
  | segmented (op : SegmentOp α σ)
  | label (op : LabelOp α)
  | badge (op : BadgeOp α)
  | tooltip (op : TooltipOp α)

inductive Creation (α χ : Type) where
  | tabs (style : TabStyle α) (items : List String) (selected : Option Nat)
      (positionChannel widthChannel : χ)
  | segmented (style : SegmentStyle α) (items : List String) (selection : Selection)
  | label (style : TextStyle α) (text : String)
  | badge (style : BadgeStyle α) (text? : Option String)
  | tooltip (style : TooltipStyle α) (anchor : TooltipAnchor α) (placement : TooltipPlacement)
      (body : String)

namespace Widget

variable {α τ χ β : Type} {t : τ} {post : Except Error β → Widget α τ χ × τ → Prop}
  {onTabs : Step (TabRow α τ χ) τ β} {onSegmented : Step (SegmentGroup α τ) τ β}
  {onLabel : Step (Label α) τ β} {onBadge : Step (Badge α) τ β} {onTooltip : Step (Tooltip α) τ β}

theorem ends_dispatch_tabs {row : TabRow α τ χ} :
    Ends (dispatch onTabs onSegmented onLabel onBadge onTooltip) (tabs row, t) post ↔
      Ends onTabs (row, t) fun r p => post r (tabs p.1, p.2) := Iff.rfl

theorem ends_dispatch_segmented {group : SegmentGroup α τ} :
    Ends (dispatch onTabs onSegmented onLabel onBadge onTooltip) (segmented group, t) post ↔
      Ends onSegmented (group, t) fun r p => post r (segmented p.1, p.2) := Iff.rfl

theorem ends_dispatch_label {l : Label α} :
    Ends (dispatch onTabs onSegmented onLabel onBadge onTooltip) (label l, t) post ↔
      Ends onLabel (l, t) fun r p => post r (label p.1, p.2) := Iff.rfl

theorem ends_dispatch_badge {b : Badge α} :
    Ends (dispatch onTabs onSegmented onLabel onBadge onTooltip) (badge b, t) post ↔
      Ends onBadge (b, t) fun r p => post r (badge p.1, p.2) := Iff.rfl

theorem ends_dispatch_tooltip {tip : Tooltip α} :
    Ends (dispatch onTabs onSegmented onLabel onBadge onTooltip) (tooltip tip, t) post ↔
      Ends onTooltip (tip, t) fun r p => post r (tooltip p.1, p.2) := Iff.rfl

end Widget

variable {α σ τ χ : Type} [Scalar α] [TextHost α τ] [PaintHost α τ]

/-- Runs a step and leaves its answer. -/
def ignore {ω β : Type} (act : Step ω τ β) : Step ω τ Unit := do
  let _ ← act

theorem ends_ignore {ω β : Type} {act : Step ω τ β} {p : ω × τ}
    {post : Except Error Unit → ω × τ → Prop} :
    Ends (ignore act) p post ↔ Ends act p fun r q => post (r.map fun _ => ()) q := by
  rw [ignore, ends_bind]
  constructor <;> intro h <;> apply h.imp <;> rintro (e | b) q hq <;> exact hq

theorem keeps_ignore {ω β : Type} {act : Step ω τ β} {inv : ω × τ → Prop} (h : Keeps inv act) :
    Keeps inv (ignore act) := h.bind fun _ => .pure ()

/-- On a host that keeps a record, `hear` has the listener's calls recorded. -/
def TabOp.run [Channel α τ χ] (hear : TabListener σ → TabListener τ) :
    TabOp α σ → Step (TabRow α τ χ) τ Unit
  | setItems items => TabRow.setItems items
  | setStyle style => TabRow.setStyle style
  | setSelected selected => TabRow.setSelected selected
  | setScroll offset => TabRow.setScroll offset
  | setOnSelect listener => TabRow.setOnSelect (listener.map hear)
  | setFlags flags => TabRow.setFlags flags
  | setDisabled on => TabRow.setDisabled on
  | step dt => ignore (TabRow.step dt)
  | measure width height => ignore (TabRow.measure width height)
  | layout bounds => TabRow.layout bounds
  | paint => TabRow.paint
  | event e => ignore (TabRow.handleEvent e)
  | destroy => TabRow.destroy

/-- On a host that keeps a record, `hear` has the listener's calls recorded. -/
def SegmentOp.run (hear : SegmentListener σ → SegmentListener τ) :
    SegmentOp α σ → Step (SegmentGroup α τ) τ Unit
  | setItems items => SegmentGroup.setItems items
  | setItemsWithStates items flags => SegmentGroup.setItemsWithStates items flags
  | setStyle style => SegmentGroup.setStyle style
  | setSelectedIndex selected => SegmentGroup.setSelectedIndex selected
  | setSelectedState index on => SegmentGroup.setSelectedState index on
  | setOnSelect listener => SegmentGroup.setOnSelect (listener.map hear)
  | setFlags flags => SegmentGroup.setFlags flags
  | setDisabled on => SegmentGroup.setDisabled on
  | measure width height => ignore (SegmentGroup.measure width height)
  | layout bounds => SegmentGroup.layout bounds
  | paint => SegmentGroup.paint
  | event e => ignore (SegmentGroup.handleEvent e)
  | destroy => SegmentGroup.destroy

def LabelOp.run : LabelOp α → Step (Label α) τ Unit
  | setText text => Label.setText text
  | setStyle style => Label.setStyle style
  | metrics => ignore Label.metrics
  | setFlags flags => Label.setFlags flags
  | measure width height => ignore (Label.measure width height)
  | layout bounds => Label.layout bounds
  | paint => Label.paint
  | event e => ignore (Label.handleEvent e)
  | destroy => Label.destroy

def BadgeOp.run : BadgeOp α → Step (Badge α) τ Unit
  | setLabel label => Badge.setLabel label
  | setStyle style => Badge.setStyle style
  | place anchor placement => ignore (Badge.place anchor placement)
  | setFlags flags => Badge.setFlags flags
  | measure width height => ignore (Badge.measure width height)
  | layout bounds => Badge.layout bounds
  | paint => Badge.paint
  | event e => ignore (Badge.handleEvent e)
  | destroy => Badge.destroy

def TooltipOp.run : TooltipOp α → Step (Tooltip α) τ Unit
  | setTitle title => Tooltip.setTitle title
  | setBody body => Tooltip.setBody body
  | setAnchor anchor placement => Tooltip.setAnchor anchor placement
  | setStyle style => Tooltip.setStyle style
  | content => ignore Tooltip.content
  | setFlags flags => Tooltip.setFlags flags
  | measure width height => ignore (Tooltip.measure width height)
  | layout overlay => Tooltip.layout overlay
  | paint => Tooltip.paint
  | event e => ignore (Tooltip.handleEvent e)
  | destroy => Tooltip.destroy

section Any

variable [Channel α τ χ]

/-- An operation of another kind of widget does nothing. -/
def WidgetOp.run (hearTab : TabListener σ → TabListener τ)
    (hearSegment : SegmentListener σ → SegmentListener τ) :
    WidgetOp α σ → Step (Widget α τ χ) τ Unit
  | tabs op => Widget.dispatch (op.run hearTab) (pure ()) (pure ()) (pure ()) (pure ())
  | segmented op => Widget.dispatch (pure ()) (op.run hearSegment) (pure ()) (pure ()) (pure ())
  | label op => Widget.dispatch (pure ()) (pure ()) op.run (pure ()) (pure ())
  | badge op => Widget.dispatch (pure ()) (pure ()) (pure ()) op.run (pure ())
  | tooltip op => Widget.dispatch (pure ()) (pure ()) (pure ()) (pure ()) op.run

omit [PaintHost α τ] in
def Creation.run : Creation α χ → HostM τ (Widget α τ χ)
  | tabs style items selected positionChannel widthChannel => do
    return .tabs (← TabRow.create style items selected positionChannel widthChannel)
  | segmented style items selection => do
    return .segmented (← SegmentGroup.create style items selection)
  | label style text => do return .label (← Label.create style text)
  | badge style text? => do return .badge (← Badge.create style text?)
  | tooltip style anchor placement body => do
    return .tooltip (← Tooltip.create style anchor placement body)

end Any

end Widgetry
