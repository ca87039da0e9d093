import Widgetry.Decimal.Text
import Widgetry.Monospace
import Widgetry.Recorder
import Widgetry.Sheet.Document
import Widgetry.Sheet.Library
import Widgetry.Widget
/-!
A walk through the toolkit without a window: a style sheet is loaded, every widget is laid out,
used and painted, and what happens is written down.
-/
namespace Widgetry.Demo

abbrev Num := Binary32

structure Host where
  fonts : Monospace Num
  recorder : Recorder Num
  output : String
  selections : List Nat

abbrev DemoM := HostM Host

namespace Host

def empty : Host := ⟨.empty, .empty, "", []⟩

def onFonts {β : Type} (act : HostM (Monospace Num) β) : DemoM β :=
  HostM.zoom fonts (fun fonts h => { h with fonts }) act

def onRecorder {β : Type} (act : HostM (Recorder Num) β) : DemoM β :=
  HostM.zoom recorder (fun recorder h => { h with recorder }) act

instance : TextHost Num Host where
  createFont style := onFonts (TextHost.createFont style)
  destroyFont font := onFonts (TextHost.destroyFont font)
  measureText font text := onFonts (TextHost.measureText font text)

instance : PaintHost Num Host where
  drawRect bounds color cornerRadius := onRecorder (PaintHost.drawRect bounds color cornerRadius)
  drawText font text x y color := onRecorder (PaintHost.drawText font text x y color)

end Host

section Text

/-- Numbers as they are reported: fewest digits, with an exponent when very small or large. -/
def spelling : Decimal.Spelling := ⟨"NaN", some (-4), some 15⟩

def number (x : Num) : String := spelling.write x

def pair (p : Num × Num) : String := "(" ++ number p.1 ++ ", " ++ number p.2 ++ ")"

def rect (r : Rect Num) : String :=
  "Rect \x7b x: " ++ number r.x ++ ", y: " ++ number r.y ++ ", width: " ++ number r.width ++
    ", height: " ++ number r.height ++ " \x7d"

def list {β : Type} (item : β → String) (items : List β) : String :=
  "[" ++ ", ".intercalate (items.map item) ++ "]"

def option {β : Type} (item : β → String) : Option β → String
  | some b => "Some(" ++ item b ++ ")"
  | none => "None"

def direction : TooltipDirection → String
  | .up => "Up"
  | .down => "Down"
  | .left => "Left"
  | .right => "Right"

/-- A number with fixed places in a column. -/
def column (width places : Nat) (x : Num) : String :=
  Decimal.rightAligned width (Decimal.fixed places x)

def command : PaintCommand Num → String
  | .rect b c r =>
    "   rect  x=" ++ column 7 2 b.x ++ " y=" ++ column 6 2 b.y ++ " w=" ++ column 7 2 b.width ++
      " h=" ++ column 6 2 b.height ++ " r=" ++ Decimal.fixed 1 r ++ " rgba=(" ++
      ", ".intercalate ([c.r, c.g, c.b, c.a].map (Decimal.fixed 2)) ++ ")"
  | .text _ text x y _ =>
    "   text  x=" ++ column 7 2 x ++ " y=" ++ column 6 2 y ++ " \"" ++ text ++ "\""

end Text

def say (line : String) : DemoM Unit :=
  modify fun h => { h with output := h.output ++ line ++ "\n" }

/-- Runs a step of a widget. -/
def act {ω β : Type} (w : ω) (step : Step ω Host β) : DemoM (β × ω) :=
  ExceptT.mk fun h =>
    let (r, w, h) := step.run (w, h)
    (r.map (·, w), h)

def printFrame (title : String) : DemoM Unit := do
  let commands := (← get).recorder.commands
  say ("── " ++ title ++ " (" ++ toString commands.length ++ " commands)")
  commands.forM fun c => say (command c)

def beginFrame : DemoM Unit := modify fun h => { h with recorder := .empty }

/-- The style sheet named on the command line. -/
def stylePath (path : Option String) : List String → Except Error (Option String)
  | [] => .ok path
  | "--style" :: value :: rest => stylePath (some value) rest
  | ["--style"] => .error (.invalidArgument .pathMissing)
  | _ => .error (.invalidArgument .usage)

/-- Every style gets a family, and the tabs scroll. -/
def prepared (sheet : StyleSheet Num) : StyleSheet Num :=
  let sheet := sheet.withFamily (some (sheet.fontFamily.getD "Mono"))
  { sheet with tabs := { sheet.tabs with mode := .scrollable } }

def loadSheet (args : List String) (contents : String → Option ByteArray) :
    DemoM (StyleSheet Num) := do
  let sheet ← match ← liftExcept (stylePath none args) with
    | some path =>
      say ("Loading style sheet: " ++ path)
      liftExcept (StyleSheet.load .own path (contents path))
    | none => pure .default
  let sheet := prepared sheet
  liftExcept sheet.validate
  return sheet

def tabLabels : List String := ["Home", "Search", "Library", "Downloads", "Settings", "About"]

def formatLabels : List String := ["Bold", "Italic", "Under"]

abbrev DemoTabs := TabRow Num Host (Timing Num)

abbrev DemoGroup := SegmentGroup Num Host

def tap {ω : Type} (handle : InputEvent → Step ω Host Bool) (x y : Int) : Step ω Host Unit := do
  let _ ← handle (.pointerDown ⟨x, y⟩)
  let _ ← handle (.pointerUp ⟨x, y⟩)

/-- The length of a frame. -/
def frameTime : Num := 1 / 60

/-- Steps a row until its indicator rests; gives the number of frames. -/
def runToRest (frames : Nat) : Nat → Step DemoTabs Host Nat
  | 0 => return frames
  | fuel + 1 => do
    if ← TabRow.step frameTime then runToRest (frames + 1) fuel else return frames

/-- More frames than a transition has times that differ. -/
def frameLimit : Nat := 0x10000000000

def showTabs (sheet : StyleSheet Num) : DemoM DemoTabs := do
  let row : DemoTabs ← TabRow.create sheet.tabs tabLabels (some 0) .idle .idle
  let listener : TabListener Host := fun index =>
    modify fun h => { h with selections := h.selections ++ [index] }
  let (_, row) ← act row (TabRow.setOnSelect (some listener))
  let (_, row) ← act row (TabRow.layout ⟨0, 0, 360, 48⟩)
  say ("Tab row: content " ++ Decimal.fixed 1 row.contentWidth ++ "px in 360px, indicator " ++
    pair row.indicator)
  let (_, row) ← act row TabRow.paint
  printFrame "tabs: initial"
  let (_, row) ← act row (tap TabRow.handleEvent 150 24)
  let (frames, row) ← act row (runToRest 0 frameLimit)
  say ("Selected " ++ option toString row.selected ++ " after " ++ toString frames ++
    " frames, indicator " ++ pair row.indicator)
  let (_, row) ← act row (TabRow.handleEvent (.scroll ⟨180, 24⟩ 200 0))
  say ("Scrolled to " ++ Decimal.fixed 1 row.scroll)
  beginFrame
  let (_, row) ← act row TabRow.paint
  printFrame "tabs: scrolled"
  say ("Tab callbacks: " ++ list toString (← get).selections)
  say ""
  return row

def showSegments (sheet : StyleSheet Num) : DemoM Unit := do
  let group : DemoGroup ←
    SegmentGroup.create sheet.segmented formatLabels (.multi [false, true, false])
  let listener : SegmentListener Host := fun index on =>
    say ("Segment " ++ toString index ++ " -> " ++ toString on)
  let (_, group) ← act group (SegmentGroup.setOnSelect (some listener))
  let (_, group) ← act group (SegmentGroup.layout ⟨0, 60, 300, 40⟩)
  let (_, group) ← act group (tap SegmentGroup.handleEvent 50 80)
  let (_, group) ← act group (tap SegmentGroup.handleEvent 150 80)
  beginFrame
  let (_, group) ← act group SegmentGroup.paint
  printFrame "segmented"
  let (_, group) ← act group SegmentGroup.drop
  let flags := (List.range formatLabels.length).map group.selection.isSelected
  say ("Format flags: " ++ list toString flags)
  say ""

def inbox : Rect Num := ⟨0, 110, 40, 20⟩

def showBadge (sheet : StyleSheet Num) : DemoM (Label Num × Badge Num) := do
  let title ← Label.create sheet.text "Inbox"
  let (_, title) ← act title (Label.layout inbox)
  let badge ← Badge.create sheet.badge (some "12")
  let (placed, badge) ← act badge (Badge.place inbox .navigation)
  say ("Badge placed at " ++ rect placed)
  beginFrame
  let (_, title) ← act title Label.paint
  let (_, badge) ← act badge Badge.paint
  printFrame "text + badge"
  say ""
  return (title, badge)

def showTooltip (sheet : StyleSheet Num) : DemoM (Tooltip Num) := do
  let tip ← Tooltip.create sheet.tooltip (.rect inbox) ⟨.up, .start⟩ "3 unread messages"
  let (_, tip) ← act tip (Tooltip.setTitle (some "Inbox"))
  let (_, tip) ← act tip (Tooltip.layout ⟨0, 0, 360, 240⟩)
  say ("Tooltip opened " ++ direction tip.direction ++ " at " ++ rect tip.bounds)
  beginFrame
  let (_, tip) ← act tip Tooltip.paint
  printFrame "tooltip"
  return tip

def walk (args : List String) (contents : String → Option ByteArray) : DemoM Unit := do
  let sheet ← loadSheet args contents
  let tabs ← showTabs sheet
  showSegments sheet
  let (title, badge) ← showBadge sheet
  let tip ← showTooltip sheet
  let _ ← act tabs TabRow.destroy
  let _ ← act title Label.destroy
  let _ ← act badge Badge.destroy
  let _ ← act tip Tooltip.destroy
  say ("Live fonts after teardown: " ++ toString (← get).fonts.liveFonts)

def banner : DemoM Unit := do
  say "╔══════════════════════════════════════════════════════════════════╗"
  say "║           M3 WIDGETS - HEADLESS DEMO                             ║"
  say "║           Tabs → Segments → Text → Badge → Tooltip               ║"
  say "╚══════════════════════════════════════════════════════════════════╝"
  say ""

/-- What a run writes and the code it ends with. -/
structure Outcome where
  stdout : String
  stderr : String
  code : UInt32

def run (args : List String) (contents : String → Option ByteArray) : Outcome :=
  match (do banner; walk args contents : DemoM Unit).run .empty with
  | (.ok (), h) => ⟨h.output, "", 0⟩
  | (.error e, h) => ⟨h.output, "demo failed: " ++ e.message ++ "\n", 1⟩

end Widgetry.Demo
