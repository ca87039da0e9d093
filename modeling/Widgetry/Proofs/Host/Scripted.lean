import Widgetry.Tabs.Row

/-! A small host that refuses the calls its script refuses. A run on it shows that what is proved of
all hosts is about something. -/
namespace Widgetry

structure Scripted (α : Type) where
  issued : UInt32
  /-- For each call to come, whether it is refused; none is after the end. -/
  refusals : List Bool
  deriving DecidableEq

namespace Scripted

variable {α : Type}

def start (refusals : List Bool) : Scripted α := ⟨0, refusals⟩

def answer : HostM (Scripted α) Unit := do
  let refusals := (← get).refusals
  modify fun s => { s with refusals := refusals.tail }
  if refusals.headD false then throw (.state (.host "refused")) else pure ()

instance [Scalar α] : TextHost α (Scripted α) where
  createFont _ := do
    answer
    let id := (← get).issued + 1
    modify fun s => { s with issued := id }
    return ⟨id, 1⟩
  destroyFont _ := answer
  measureText _ text := do
    answer
    return ⟨Scalar.ofNat (text.length * 8), 16, 12⟩

instance : PaintHost α (Scripted α) where
  drawRect _ _ _ := answer
  drawText _ _ _ _ _ := answer

instance : Gate (Scripted α) where
  begin _ := answer
  step _ := answer
  value _ := answer

/-- What a scripted host measures when it answers. -/
def metrics (text : String) : TextMetrics Binary32 := ⟨Scalar.ofNat (text.length * 8), 16, 12⟩

/-- A new row in the first font of its host, with its first tab selected. -/
def row {σ χ : Type} [Scalar α] (style : TabStyle α) (items : List String)
    (positionChannel widthChannel : χ) : TabRow α σ χ where
  style := { style with text := .withFamily "Sans" }
  items := items
  font := .adopt ⟨1, 1⟩
  flags := ⟨WidgetFlags.focusable⟩
  selected := some 0
  pressed := none
  bounds := .zero
  scroll := 0
  contentWidth := 0
  positionChannel := positionChannel
  widthChannel := widthChannel
  indicatorStart := 0
  indicatorWidth := 0
  onSelect := none

end Scripted

end Widgetry
