import Widgetry.Flags
import Widgetry.Input
import Widgetry.Segmented.Layout
/-!
Segmented buttons: a tap selects one segment, or turns one flag over. The listener may reject the
tap, and the selection is then what it was before.
-/
namespace Widgetry

/-- Told about a tapped segment and its new state before the tap counts. -/
abbrev SegmentListener (σ : Type) := Nat → Bool → HostM σ Unit

inductive Selection where
  | single (index : Option Nat)
  /-- One flag per segment. -/
  | multi (flags : List Bool)
  deriving DecidableEq, Repr

namespace Selection

def mode : Selection → SelectionMode
  | single _ => .single
  | multi _ => .multi

def validate (s : Selection) (count : Nat) : Except Error Unit :=
  match s with
  | single index => Validate.selection index count
  | multi flags => Validate.states flags count

def isSelected (s : Selection) (index : Nat) : Bool :=
  match s with
  | single selected => selected == some index
  | multi flags => flags.getD index false

/-- The selection after a tap, and the state the tapped segment then has. -/
def tapped (s : Selection) (index : Nat) : Except Error (Selection × Bool) :=
  match s with
  | single _ => .ok (single (some index), true)
  | multi flags =>
    match flags[index]? with
    | some flag => .ok (multi (flags.set index !flag), !flag)
    | none => .error (.range .segmentIndex)

/-- Takes a tap back, by what it changed: the one index, or the one flag that it turned over. -/
def untapped (before after : Selection) (index : Nat) (on : Bool) : Selection :=
  match before, after with
  | single previous, single _ => single previous
  | multi _, multi flags => multi (flags.set index !on)
  | _, _ => after

theorem exists_flag_of_tapped {flags : List Bool} {after : Selection} {index : Nat} {on : Bool}
    (h : (multi flags).tapped index = .ok (after, on)) :
    ∃ flag, flags[index]? = some flag ∧ after = multi (flags.set index !flag) ∧ on = !flag := by
  rw [tapped] at h
  cases hflag : flags[index]? with
  | none =>
    rw [hflag] at h
    exact nomatch h
  | some flag =>
    rw [hflag] at h
    obtain ⟨rfl, rfl⟩ := Prod.mk.inj (Except.ok.inj h)
    exact ⟨flag, rfl, rfl, rfl⟩

theorem untapped_eq {before after : Selection} {index : Nat} {on : Bool}
    (h : before.tapped index = .ok (after, on)) : before.untapped after index on = before := by
  cases before with
  | single previous =>
    obtain ⟨rfl, -⟩ := Prod.mk.inj (Except.ok.inj h)
    rfl
  | multi flags =>
    obtain ⟨flag, hflag, rfl, rfl⟩ := exists_flag_of_tapped h
    obtain ⟨hlt, hget⟩ := List.getElem?_eq_some_iff.mp hflag
    rw [untapped, List.set_set, Bool.not_not, ← hget, List.set_getElem_self]

def cleared : Selection → Selection
  | single _ => single none
  | multi _ => multi []

end Selection

structure SegmentGroup (α σ : Type) where
  style : SegmentStyle α
  items : List String
  selection : Selection
  font : OwnedFont
  flags : WidgetFlags
  /-- The segment of a press that has not been released. -/
  pressed : Option Nat
  bounds : Rect α
  onSelect : Option (SegmentListener σ)

namespace SegmentGroup

variable {α σ : Type} [Scalar α]

def onFont (act : Step OwnedFont σ Unit) : Step (SegmentGroup α σ) σ Unit :=
  Step.zoom font (fun font group => { group with font }) act

def setItems (items : List String) : Step (SegmentGroup α σ) σ Unit := do
  let selection ←
    match (← Step.self).selection with
    | .multi flags =>
      Step.check (Validate.states flags items.length)
      pure (.multi flags)
    | .single selected => pure (.single (Validate.inRange items.length selected))
  Step.update fun group =>
    { group with items, selection, pressed := Validate.inRange items.length group.pressed }

def setItemsWithStates (items : List String) (flags : List Bool) :
    Step (SegmentGroup α σ) σ Unit := do
  match (← Step.self).selection with
  | .single _ => throw (.state .needsMultiMode)
  | .multi _ =>
    Step.check (Validate.states flags items.length)
    Step.update fun group =>
      { group with
        items
        selection := .multi flags
        pressed := Validate.inRange items.length group.pressed }

def setSelectedIndex (selected : Option Nat) : Step (SegmentGroup α σ) σ Unit := do
  let group ← Step.self
  match group.selection with
  | .single _ =>
    Step.check (Validate.selection selected group.items.length)
    Step.update fun group => { group with selection := .single selected }
  | .multi _ => throw (.state .needsSingleMode)

def selectedIndex (group : SegmentGroup α σ) : Except Error (Option Nat) :=
  match group.selection with
  | .single selected => .ok selected
  | .multi _ => .error (.state .needsSingleMode)

def setSelectedState (index : Nat) (on : Bool) : Step (SegmentGroup α σ) σ Unit := do
  let group ← Step.self
  match group.selection with
  | .multi flags =>
    if group.items.length ≤ index then throw (.range .segmentIndex)
    else
      Step.check (Validate.states flags group.items.length)
      Step.update fun group => { group with selection := .multi (flags.set index on) }
  | .single _ => throw (.state .needsMultiMode)

def selectedState (group : SegmentGroup α σ) (index : Nat) : Except Error Bool :=
  match group.selection with
  | .multi flags =>
    if group.items.length ≤ index then .error (.range .segmentIndex)
    else
      match Validate.states flags group.items.length with
      | .ok () => .ok (flags.getD index false)
      | .error e => .error e
  | .single _ => .error (.state .needsMultiMode)

def setOnSelect (onSelect : Option (SegmentListener σ)) : Step (SegmentGroup α σ) σ Unit :=
  Step.update fun group => { group with onSelect }

def setFlags (flags : WidgetFlags) : Step (SegmentGroup α σ) σ Unit :=
  Step.update fun group => { group with flags }

def setDisabled (on : Bool) : Step (SegmentGroup α σ) σ Unit :=
  Step.update fun group =>
    { group with flags := group.flags.assign WidgetFlags.disabled on }

def layout (bounds : Rect α) : Step (SegmentGroup α σ) σ Unit := do
  Step.check bounds.validate
  Step.update fun group => { group with bounds }

/-- Turns the selection over and asks the listener, who may have it turned back. -/
def commit (index : Nat) : Step (SegmentGroup α σ) σ Unit := do
  let group ← Step.self
  let (selection, on) ← Step.check (group.selection.tapped index)
  Step.update fun group => { group with selection }
  match group.onSelect with
  | none => pure ()
  | some listener =>
    tryCatch (Step.host (listener index on)) fun e => do
      Step.update fun g => { g with selection := group.selection.untapped selection index on }
      throw e

def release : Step (SegmentGroup α σ) σ Unit :=
  Step.update fun group => { group with pressed := none }

section Hosted

variable [TextHost α σ]

def setStyle (style : SegmentStyle α) : Step (SegmentGroup α σ) σ Unit := do
  Step.check (style.validate true)
  let font ← Step.host (OwnedFont.create style.text)
  onFont (OwnedFont.replace font)
  Step.update fun group => { group with style }

def currentLayout : Step (SegmentGroup α σ) σ (SegmentLayout α) := do
  let group ← Step.self
  let measurer ← Step.check group.font.measurer
  Step.host (group.style.computeLayout measurer group.items group.bounds)

def measure (width height : MeasureSpec α) : Step (SegmentGroup α σ) σ (Size α) := do
  Step.check width.validate
  Step.check height.validate
  let group ← Step.self
  let measurer ← Step.check group.font.measurer
  let content ← Step.host (group.style.measureContent measurer group.items)
  return ⟨width.resolve content.width, height.resolve content.height⟩

section Paint

variable [PaintHost α σ]

/-- Draws the outline, if it has a width, and gives what is left inside it. -/
def paintOutline (group : SegmentGroup α σ) (segment : Rect α) (corner : α)
    (colors : SegmentColors α) : HostM σ (Rect α × α) :=
  let width := group.style.outlineWidth
  if 0 < width then do
    PaintHost.drawRect segment colors.outline corner
    let inner ← liftExcept (segment.shrink width)
    return (inner, max (corner - width) 0)
  else return (segment, corner)

def paintFill (inner : Rect α) (corner : α) (colors : SegmentColors α) : HostM σ Unit :=
  if colors.background.isVisible then PaintHost.drawRect inner colors.background corner
  else pure ()

def paintLabel (font : FontHandle) (segment : Rect α) (item : String) (colors : SegmentColors α) :
    HostM σ Unit :=
  if item.isEmpty then pure ()
  else do
    let text ← TextHost.measureText font item
    let (x, y) := Row.centeredText segment text
    PaintHost.drawText font item x y colors.text

/-- Only the outer segments have round corners. -/
def cornerOf (group : SegmentGroup α σ) (index : Nat) (last : Bool) : α :=
  if index = 0 ∨ last then group.style.cornerRadius else 0

/-- Outline, background and label of a segment. -/
def paintSegment (group : SegmentGroup α σ) (font : FontHandle) (layout : SegmentLayout α)
    (index : Nat) (last : Bool) (item : String) : HostM σ Unit := do
  let segment ← liftExcept (layout.segmentRect index)
  let colors := group.style.segmentColors (group.selection.isSelected index)
    (group.flags.has WidgetFlags.disabled)
  let (inner, corner) ← group.paintOutline segment (group.cornerOf index last) colors
  paintFill inner corner colors
  paintLabel font segment item colors

def paintSegments (group : SegmentGroup α σ) (font : FontHandle) (layout : SegmentLayout α)
    (index : Nat) : List String → HostM σ Unit
  | [] => pure ()
  | item :: rest => do
    group.paintSegment font layout index rest.isEmpty item
    group.paintSegments font layout (index + 1) rest

def paint : Step (SegmentGroup α σ) σ Unit := do
  let layout ← currentLayout
  let group ← Step.self
  let font ← Step.check group.font.handle
  Step.host (group.paintSegments font layout 0 group.items)

end Paint

/-- The segment under a pointer. -/
def hit (point : Point) : Step (SegmentGroup α σ) σ (Option Nat) := do
  let layout ← currentLayout
  let group ← Step.self
  Step.check (layout.hitTest group.items.length (Scalar.ofInt point.x) (Scalar.ofInt point.y))

def onPointerDown (point : Point) : Step (SegmentGroup α σ) σ Bool := do
  let index ← hit point
  if (← Step.self).pressed.isSome then throw (.state .pressedTwice)
  else
    match index with
    | none => return false
    | some index =>
      Step.update fun group => { group with pressed := some index }
      return true

def onPointerUp (point : Point) : Step (SegmentGroup α σ) σ Bool := do
  let index ← hit point
  match (← Step.self).pressed with
  | none => return false
  | some pressed =>
    tryCatch (if index = some pressed then commit pressed else pure ()) fun e => do
      release
      throw e
    release
    return true

/-- The selection is checked against the items before a pointer event is taken. -/
def checkSelection : Step (SegmentGroup α σ) σ Unit := do
  let group ← Step.self
  Step.check (group.selection.validate group.items.length)

def handleEvent (event : InputEvent) : Step (SegmentGroup α σ) σ Bool := do
  if (← Step.self).flags.has WidgetFlags.disabled then return false
  else
    match event with
    | .pointerDown point =>
      checkSelection
      onPointerDown point
    | .pointerUp point =>
      checkSelection
      onPointerUp point
    | _ => return false

/-- Gives everything back; the group can be used again after a new style. -/
def destroy : Step (SegmentGroup α σ) σ Unit := do
  let released ← try onFont OwnedFont.release; pure (.ok ()) catch e => pure (.error e)
  Step.update fun group =>
    { group with
      items := []
      selection := group.selection.cleared
      pressed := none
      bounds := .zero
      onSelect := none }
  Step.check released

def drop : Step (SegmentGroup α σ) σ Unit := Step.attempt (onFont OwnedFont.release)

def create (style : SegmentStyle α) (items : List String) (selection : Selection) :
    HostM σ (SegmentGroup α σ) := do
  liftExcept (style.validate true)
  liftExcept (selection.validate items.length)
  let font ← OwnedFont.create style.text
  return {
    style, items, selection, font
    flags := ⟨WidgetFlags.focusable⟩
    pressed := none
    bounds := .zero
    onSelect := none }

end Hosted

def semantics (group : SegmentGroup α σ) : Semantics :=
  ⟨.none, .ofWidget group.flags, none, none, none⟩

end SegmentGroup

end Widgetry
