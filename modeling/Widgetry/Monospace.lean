import Widgetry.Host
/-!
A text host without a rasterizer: every glyph advances half the font size, a line is 1.2 sizes
tall and its baseline lies one size below its top.
-/
namespace Widgetry

/-- Live fonts by identifier. Identifiers count up and wrap. -/
structure Monospace (α : Type) where
  lastId : UInt32
  live : List (UInt32 × α)

namespace Monospace

variable {α : Type} [Scalar α]

def empty : Monospace α := ⟨0, []⟩

def liveFonts (m : Monospace α) : Nat := m.live.length

def size? (m : Monospace α) (id : UInt32) : Option α := m.live.lookup id

def insert (m : Monospace α) (id : UInt32) (size : α) : Monospace α :=
  { m with live := (id, size) :: m.live.filter (·.1 != id) }

def erase (m : Monospace α) (id : UInt32) : Monospace α :=
  { m with live := m.live.filter (·.1 != id) }

def metrics (size : α) (text : String) : TextMetrics α :=
  ⟨Scalar.ofNat text.length * size * 0.5, size * 1.2, size⟩

def createFont (style : TextStyle α) : HostM (Monospace α) FontHandle := do
  liftExcept (style.validate false)
  let m ← get
  let id := m.lastId + 1
  set ({ m with lastId := id }.insert id (Scalar.ofInt style.sizePx))
  return ⟨id, 1⟩

def destroyFont (font : FontHandle) : HostM (Monospace α) Unit := do
  let m ← get
  match m.size? font.id with
  | some _ => set (m.erase font.id)
  | none => throw (.state .unknownFont)

def measureText (font : FontHandle) (text : String) : HostM (Monospace α) (TextMetrics α) := do
  match (← get).size? font.id with
  | some size => return metrics size text
  | none => throw (.state .unknownFont)

instance : TextHost α (Monospace α) where
  createFont := createFont
  destroyFont := destroyFont
  measureText := measureText

end Monospace

end Widgetry
