import Widgetry.Animation.Channel
import Widgetry.Flags
import Widgetry.Input
import Widgetry.Tabs.Layout
/-!
The tab row: tabs, one of which may be selected, and an indicator that moves between them. A tap
selects a tab; the listener may reject it, and the row then returns to the previous selection.
-/
namespace Widgetry

/-- Told about a tapped tab before the tap counts. -/
abbrev TabListener (σ : Type) := Nat → HostM σ Unit

structure TabRow (α σ χ : Type) where
  style : TabStyle α
  items : List String
  font : OwnedFont
  flags : WidgetFlags
  selected : Option Nat
  /-- The tab of a press that has not been released. -/
  pressed : Option Nat
  bounds : Rect α
  scroll : α
  contentWidth : α
  positionChannel : χ
  widthChannel : χ
  /-- Start and width of the indicator within the row. -/
  indicatorStart : α
  indicatorWidth : α
  onSelect : Option (TabListener σ)

namespace TabRow

variable {α σ χ : Type} [Scalar α]

def onFont (act : Step OwnedFont σ Unit) : Step (TabRow α σ χ) σ Unit :=
  Step.zoom font (fun font row => { row with font }) act

section Channels

variable {β : Type}

def onPosition (act : Step χ σ β) : Step (TabRow α σ χ) σ β :=
  Step.zoom positionChannel (fun positionChannel row => { row with positionChannel }) act

def onWidth (act : Step χ σ β) : Step (TabRow α σ χ) σ β :=
  Step.zoom widthChannel (fun widthChannel row => { row with widthChannel }) act

end Channels

def indicator (row : TabRow α σ χ) : α × α := (row.indicatorStart, row.indicatorWidth)

section Synced

variable [TextHost α σ] [Channel α σ χ]

def currentLayout : Step (TabRow α σ χ) σ (TabLayout α) := do
  let row ← Step.self
  let measurer ← Step.check row.font.measurer
  Step.host (row.style.computeLayout measurer row.items row.bounds)

/-- Sends the indicator to the selected tab, in a transition or at once. -/
def syncIndicator (layout : TabLayout α) (animate : Bool) : Step (TabRow α σ χ) σ Unit := do
  let row ← Step.self
  let measurer ← Step.check row.font.measurer
  let (start, width) ← Step.host
    (row.style.indicatorTarget measurer row.items layout row.selected)
  if animate then
    let duration := row.style.indicatorDuration
    let easing := row.style.indicatorEasing
    onPosition (Channel.begin row.indicatorStart start duration easing)
    onWidth (Channel.begin row.indicatorWidth width duration easing)
  else
    onPosition (Channel.begin start start 0 .linear)
    onWidth (Channel.begin width width 0 .linear)
  let indicatorStart ← onPosition Channel.value
  let indicatorWidth ← onWidth Channel.value
  Step.update fun row => { row with indicatorStart, indicatorWidth }

/-- Fits scroll offset and indicator to the current style, items and bounds. -/
def resnap : Step (TabRow α σ χ) σ Unit := do
  let layout ← currentLayout
  let scroll ← Step.check (layout.clampScroll (← Step.self).scroll)
  syncIndicator layout false
  Step.update fun row => { row with scroll, contentWidth := layout.contentWidth }

/-- Returns to a selection; if the indicator cannot follow, both channels are put to rest. -/
def rollBack (previous : Option Nat) (layout : TabLayout α) : Step (TabRow α σ χ) σ Unit := do
  Step.update fun row => { row with selected := previous }
  tryCatch (syncIndicator layout false) fun _ =>
    Step.update fun row =>
      { row with
        positionChannel := Channel.reset σ row.positionChannel
        widthChannel := Channel.reset σ row.widthChannel }

/-- Selects a tab, or undoes that and fails. -/
def selectOrRollBack (selected : Option Nat) (layout : TabLayout α)
    (accept : Step (TabRow α σ χ) σ Unit) : Step (TabRow α σ χ) σ Unit := do
  let previous := (← Step.self).selected
  Step.update fun row => { row with selected }
  tryCatch (do syncIndicator layout true; accept) fun e => do
    rollBack previous layout
    throw e

def setItems (items : List String) : Step (TabRow α σ χ) σ Unit := do
  let before ← Step.self
  Step.update fun row =>
    { row with
      items
      selected := Validate.inRange items.length row.selected
      pressed := Validate.inRange items.length row.pressed }
  if before.bounds.isDegenerate then pure ()
  else
    tryCatch resnap fun e => do
      Step.update fun row =>
        { row with items := before.items, selected := before.selected, pressed := before.pressed }
      Step.attempt resnap
      throw e

def setStyle (style : TabStyle α) : Step (TabRow α σ χ) σ Unit := do
  Step.check (style.validate true)
  let font ← Step.host (OwnedFont.create style.text)
  onFont (OwnedFont.replace font)
  Step.update fun row => { row with style }

def setSelected (selected : Option Nat) : Step (TabRow α σ χ) σ Unit := do
  let row ← Step.self
  Step.check (Validate.selection selected row.items.length)
  if row.bounds.isDegenerate then Step.update fun row => { row with selected }
  else
    let layout ← currentLayout
    selectOrRollBack selected layout (pure ())

def setScroll (offset : α) : Step (TabRow α σ χ) σ Unit := do
  if Scalar.isNaN offset = true ∨ offset < 0 then throw (.range .scrollOffset)
  else
    match (← Step.self).style.mode with
    | .fixed => Step.update fun row => { row with scroll := 0 }
    | .scrollable =>
      let layout ← currentLayout
      let scroll ← Step.check (layout.clampScroll offset)
      Step.update fun row => { row with scroll, contentWidth := layout.contentWidth }

def setOnSelect (onSelect : Option (TabListener σ)) : Step (TabRow α σ χ) σ Unit :=
  Step.update fun row => { row with onSelect }

def setFlags (flags : WidgetFlags) : Step (TabRow α σ χ) σ Unit :=
  Step.update fun row => { row with flags }

def setDisabled (on : Bool) : Step (TabRow α σ χ) σ Unit :=
  Step.update fun row => { row with flags := row.flags.assign WidgetFlags.disabled on }

/-- Advances the position channel; tells whether the indicator moved. -/
def stepPosition (dt : α) : Step (TabRow α σ χ) σ Bool := do
  let row ← Step.self
  if Channel.isIdle σ row.positionChannel then return false
  else
    let reading ← onPosition (Channel.step dt)
    if reading.value == row.indicatorStart then return false
    else
      Step.update fun row => { row with indicatorStart := reading.value }
      return true

/-- Advances the width channel; tells whether the indicator changed its width. -/
def stepWidth (dt : α) : Step (TabRow α σ χ) σ Bool := do
  let row ← Step.self
  if Channel.isIdle σ row.widthChannel then return false
  else
    let reading ← onWidth (Channel.step dt)
    if reading.value == row.indicatorWidth then return false
    else
      Step.update fun row => { row with indicatorWidth := reading.value }
      return true

/-- Advances both channels; tells whether the indicator changed. -/
def step (dt : α) : Step (TabRow α σ χ) σ Bool := do
  if Scalar.isNaN dt = true ∨ dt < 0 then throw (.range .timeStep)
  else
    let moved ← stepPosition dt
    let resized ← stepWidth dt
    return moved || resized

def measure (width height : MeasureSpec α) : Step (TabRow α σ χ) σ (Size α) := do
  Step.check width.validate
  Step.check height.validate
  let row ← Step.self
  let measurer ← Step.check row.font.measurer
  let content ← Step.host (row.style.measureContent measurer row.items)
  return ⟨width.resolve content.width, height.resolve content.height⟩

def layout (bounds : Rect α) : Step (TabRow α σ χ) σ Unit := do
  Step.check bounds.validate
  let row ← Step.self
  let measurer ← Step.check row.font.measurer
  let layout ← Step.host (row.style.computeLayout measurer row.items bounds)
  let scroll ← Step.check (layout.clampScroll row.scroll)
  tryCatch (syncIndicator layout false) fun e => do
    if row.bounds.isDegenerate then pure () else Step.attempt resnap
    throw e
  Step.update fun row => { row with bounds, scroll, contentWidth := layout.contentWidth }

section Paint

variable [PaintHost α σ]

/-- The bar under the selected tab. -/
def indicatorBar (row : TabRow α σ χ) (layout : TabLayout α) : Rect α where
  x := layout.startX + row.indicatorStart - row.scroll
  y := layout.startY + layout.tabHeight - row.style.indicatorThickness
  width := row.indicatorWidth
  height := row.style.indicatorThickness

def paintBackground (row : TabRow α σ χ) : HostM σ Unit :=
  if row.style.background.isVisible then
    PaintHost.drawRect row.bounds row.style.background 0
  else pure ()

def indicatorColor (row : TabRow α σ χ) : Color α :=
  if row.flags.has WidgetFlags.disabled then row.style.disabledIndicator
  else row.style.indicator

def paintIndicator (row : TabRow α σ χ) (layout : TabLayout α) : HostM σ Unit :=
  if row.selected.isSome ∧ 0 < row.style.indicatorThickness then
    PaintHost.drawRect (row.indicatorBar layout) row.indicatorColor row.style.indicatorCorner
  else pure ()

def textColor (row : TabRow α σ χ) (index : Nat) : Color α :=
  if row.flags.has WidgetFlags.disabled then row.style.disabledText
  else if row.selected = some index then row.style.selectedText
  else row.style.text.color

def paintLabels (row : TabRow α σ χ) (font : FontHandle) (layout : TabLayout α) (index : Nat) :
    List String → HostM σ Unit
  | [] => pure ()
  | item :: rest => do
    let measurer : Measurer α σ := TextHost.measureText font
    let rect ← row.style.itemRect measurer row.items layout index row.scroll
    if item.isEmpty then pure ()
    else
      let text ← measurer item
      let (x, y) := Row.centeredText rect text
      PaintHost.drawText font item x y (row.textColor index)
    row.paintLabels font layout (index + 1) rest

def paint : Step (TabRow α σ χ) σ Unit := do
  let layout ← currentLayout
  let scroll ← Step.check (layout.clampScroll (← Step.self).scroll)
  Step.update fun row => { row with scroll, contentWidth := layout.contentWidth }
  let row ← Step.self
  Step.host row.paintBackground
  Step.host (row.paintIndicator layout)
  let font ← Step.check row.font.handle
  Step.host (row.paintLabels font layout 0 row.items)

end Paint

/-- The tab under a pointer. -/
def hit (point : Point) : Step (TabRow α σ χ) σ (TabLayout α × Option Nat) := do
  let layout ← currentLayout
  let scroll ← Step.check (layout.clampScroll (← Step.self).scroll)
  Step.update fun row => { row with scroll }
  let row ← Step.self
  let measurer ← Step.check row.font.measurer
  let index ← Step.host (row.style.hitTest measurer row.items layout
    (Scalar.ofInt point.x) (Scalar.ofInt point.y) row.scroll)
  return (layout, index)

def onScroll (dx : Int) : Step (TabRow α σ χ) σ Bool := do
  let row ← Step.self
  if row.style.mode = .fixed ∨ dx = 0 then return false
  else
    setScroll (row.scroll + Scalar.ofInt dx)
    return true

def onPointerDown (point : Point) : Step (TabRow α σ χ) σ Bool := do
  let (_, index) ← hit point
  if (← Step.self).pressed.isSome then throw (.state .pressedTwice)
  else
    match index with
    | none => return false
    | some index =>
      Step.update fun row => { row with pressed := some index }
      return true

/-- Selects a tapped tab and asks the listener. -/
def commit (index : Nat) (layout : TabLayout α) : Step (TabRow α σ χ) σ Unit := do
  let listener := (← Step.self).onSelect
  selectOrRollBack (some index) layout do
    match listener with
    | some listener => Step.host (listener index)
    | none => pure ()

def release : Step (TabRow α σ χ) σ Unit :=
  Step.update fun row => { row with pressed := none }

def onPointerUp (point : Point) : Step (TabRow α σ χ) σ Bool := do
  let (layout, index) ← hit point
  match (← Step.self).pressed with
  | none => return false
  | some pressed =>
    tryCatch (if index = some pressed then commit pressed layout else pure ()) fun e => do
      release
      throw e
    release
    return true

def handleEvent (event : InputEvent) : Step (TabRow α σ χ) σ Bool := do
  if (← Step.self).flags.has WidgetFlags.disabled then return false
  else
    match event with
    | .scroll _ dx _ => onScroll dx
    | .pointerDown point => onPointerDown point
    | .pointerUp point => onPointerUp point
    | _ => return false

/-- Gives everything back; the row can be used again after a new style. -/
def destroy : Step (TabRow α σ χ) σ Unit := do
  let released ← try onFont OwnedFont.release; pure (.ok ()) catch e => pure (.error e)
  Step.update fun row =>
    { row with
      items := []
      selected := none
      pressed := none
      bounds := .zero
      scroll := 0
      contentWidth := 0
      indicatorStart := 0
      indicatorWidth := 0
      positionChannel := Channel.reset σ row.positionChannel
      widthChannel := Channel.reset σ row.widthChannel
      onSelect := none }
  Step.check released

def drop : Step (TabRow α σ χ) σ Unit := Step.attempt (onFont OwnedFont.release)

end Synced

def semantics (row : TabRow α σ χ) : Semantics :=
  ⟨.none, .ofWidget row.flags, none, none, none⟩

/-- A new row. When its indicator cannot be placed, its font is given back. -/
def create [TextHost α σ] [Channel α σ χ] (style : TabStyle α) (items : List String)
    (selected : Option Nat) (positionChannel widthChannel : χ) : HostM σ (TabRow α σ χ) := do
  liftExcept (style.validate true)
  liftExcept (Validate.selection selected items.length)
  let font ← OwnedFont.create style.text
  let row : TabRow α σ χ := {
    style, items, font, selected, positionChannel, widthChannel
    flags := ⟨WidgetFlags.focusable⟩
    pressed := none
    bounds := .zero
    scroll := 0
    contentWidth := 0
    indicatorStart := 0
    indicatorWidth := 0
    onSelect := none }
  Step.construct row do
    tryCatch (syncIndicator (.unplaced style) false) fun e => do
      drop
      throw e

end TabRow

end Widgetry
