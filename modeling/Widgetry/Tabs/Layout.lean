import Widgetry.RowGeometry
import Widgetry.Tabs.Style
/-!
Geometry of a tab row: the size it asks for, where its tabs lie in given bounds, the indicator
under the selected tab, and the tab under a point. Positions inside the row are measured from its
start; scrolling moves the row to the left.
-/
namespace Widgetry

structure TabLayout (α : Type) where
  mode : TabMode
  startX : α
  startY : α
  /-- The common width of fixed tabs. -/
  tabWidth : α
  tabHeight : α
  spacing : α
  contentWidth : α
  contentHeight : α
  availableWidth : α
  availableHeight : α
  deriving DecidableEq

variable {α σ : Type} [Scalar α]

namespace TabLayout

def zero : TabLayout α := ⟨.fixed, 0, 0, 0, 0, 0, 0, 0, 0, 0⟩

/-- Before the first layout there are no bounds to place tabs in. -/
def unplaced (style : TabStyle α) : TabLayout α :=
  { zero with
    mode := style.mode
    tabHeight := style.minHeight
    contentHeight := style.minHeight
    spacing := style.spacing }

def maxScroll (l : TabLayout α) : α := max (l.contentWidth - l.availableWidth) 0

/-- An offset that shows content only; fixed tabs do not scroll. -/
def clampScroll (l : TabLayout α) (offset : α) : Except Error α :=
  if Scalar.isNaN offset = true ∨ offset < 0 then .error (.range .scrollOffset)
  else
    match l.mode with
    | .fixed => .ok 0
    | .scrollable => .ok (min offset l.maxScroll)

/-- Start of a fixed tab within the row. -/
def fixedOffset (l : TabLayout α) (index : Nat) : α :=
  (l.tabWidth + l.spacing) * Scalar.ofNat index

end TabLayout

namespace TabStyle

/-- The width a scrollable tab takes for its label. -/
def itemWidth (s : TabStyle α) (measurer : Measurer α σ) (item : String) : HostM σ α := do
  let label ← Row.labelMetrics measurer item
  return Row.padded label.width s.paddingX s.minWidth

/-- Length of a row of scrollable tabs; `total` is what lies before them. -/
def scrollableRun (s : TabStyle α) (measurer : Measurer α σ) (total : α) :
    List String → HostM σ α
  | [] => pure total
  | [item] => return total + (← s.itemWidth measurer item)
  | item :: rest => do
    s.scrollableRun measurer (total + (← s.itemWidth measurer item) + s.spacing) rest

/-- Start of the tab that follows `items`. -/
def scrollableOffset (s : TabStyle α) (measurer : Measurer α σ) (offset : α) :
    List String → HostM σ α
  | [] => pure offset
  | item :: rest => do
    s.scrollableOffset measurer (offset + ((← s.itemWidth measurer item) + s.spacing)) rest

def bandHeight (s : TabStyle α) (extents : LabelExtents α) : α :=
  Row.padded extents.height s.paddingY s.minHeight

def measureContent (s : TabStyle α) (measurer : Measurer α σ) (items : List String) :
    HostM σ (Size α) := do
  liftExcept (s.validate false)
  let extents ← LabelExtents.measure measurer items
  let content ←
    match s.mode with
    | .fixed =>
      pure (Row.runLength (Row.padded extents.width s.paddingX s.minWidth) s.spacing items.length)
    | .scrollable => s.scrollableRun measurer 0 items
  return ⟨content + s.padding.horizontal, s.bandHeight extents + s.padding.vertical⟩

/-- Tab width and content width of a row in `available` width. -/
def widths (s : TabStyle α) (measurer : Measurer α σ) (items : List String) (available : α) :
    HostM σ (α × α) :=
  match s.mode with
  | .fixed => do
    let width ← liftExcept (Row.evenWidth available s.spacing items.length)
    return (width, Row.runLength width s.spacing items.length)
  | .scrollable => return (0, ← s.scrollableRun measurer 0 items)

def computeLayout (s : TabStyle α) (measurer : Measurer α σ) (items : List String)
    (bounds : Rect α) : HostM σ (TabLayout α) := do
  liftExcept (s.validate false)
  liftExcept bounds.validate
  let available ← liftExcept (bounds.inset s.padding)
  let extents ← LabelExtents.measure measurer items
  let band ← liftExcept
    (Row.fitBand (s.bandHeight extents) available.y available.height items.length)
  let (tabWidth, contentWidth) ← s.widths measurer items available.width
  if contentWidth < 0 then throw (.range .tabContentWidth)
  else
    return {
      mode := s.mode
      startX := available.x
      startY := band.startY
      tabWidth
      tabHeight := band.height
      spacing := s.spacing
      contentWidth
      contentHeight := band.height
      availableWidth := available.width
      availableHeight := available.height }

/-- Start and width, within the row, of the tab at an index that is in range. -/
def itemSpan (s : TabStyle α) (measurer : Measurer α σ) (items : List String) (l : TabLayout α)
    (index : Nat) (item : String) : HostM σ (α × α) :=
  match l.mode with
  | .fixed => pure (l.fixedOffset index, l.tabWidth)
  | .scrollable => do
    let start ← s.scrollableOffset measurer 0 (items.take index)
    return (start, ← s.itemWidth measurer item)

/-- Start and width of the bar under the selected tab. -/
def indicatorTarget (s : TabStyle α) (measurer : Measurer α σ) (items : List String)
    (l : TabLayout α) (selected : Option Nat) : HostM σ (α × α) :=
  match selected with
  | none => pure (0, 0)
  | some index =>
    match items[index]? with
    | none => throw (.range .selectedIndex)
    | some item => do
      let (start, width) ← s.itemSpan measurer items l index item
      if start < 0 ∨ width < 0 then throw (.range .indicatorGeometry) else return (start, width)

def itemRect (s : TabStyle α) (measurer : Measurer α σ) (items : List String) (l : TabLayout α)
    (index : Nat) (scroll : α) : HostM σ (Rect α) :=
  match items[index]? with
  | none => throw (.range .tabIndex)
  | some item => do
    let (start, width) ← s.itemSpan measurer items l index item
    let x := l.startX + start
    if width < 0 ∨ l.tabHeight < 0 then throw (.range .tabRectangle)
    else
      return {
        x := match l.mode with
          | .fixed => x
          | .scrollable => x - scroll
        y := l.startY
        width
        height := l.tabHeight }

/-- Walks scrollable tabs from a position measured from the start of the first one. -/
def walk (s : TabStyle α) (measurer : Measurer α σ) (l : TabLayout α) (index : Nat) (pos : α) :
    List String → HostM σ (Option Nat)
  | [] => pure none
  | item :: rest => do
    let width ← s.itemWidth measurer item
    if pos ≤ width then return some index
    else if rest.isEmpty then return none
    else if pos - width ≤ l.spacing then return none
    else s.walk measurer l (index + 1) (pos - width - l.spacing) rest

/-- The tab at a point. -/
def hitTest (s : TabStyle α) (measurer : Measurer α σ) (items : List String) (l : TabLayout α)
    (x y scroll : α) : HostM σ (Option Nat) :=
  if items.isEmpty then pure none
  else if y < l.startY ∨ l.startY + l.tabHeight < y then pure none
  else
    match l.mode with
    | .fixed =>
      if x < l.startX ∨ l.startX + l.contentWidth < x then pure none
      else liftExcept (Row.uniformHit (x - l.startX) l.tabWidth l.spacing items.length)
    | .scrollable =>
      let pos := x - l.startX + scroll
      if pos < 0 ∨ l.contentWidth < pos then pure none
      else s.walk measurer l 0 pos items

end TabStyle

end Widgetry
