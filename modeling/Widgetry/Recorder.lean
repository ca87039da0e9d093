import Widgetry.Host
import Widgetry.Binary.Bits
/-!
A surface that records what is drawn, and the triangles its rectangles become.
-/
namespace Widgetry

inductive PaintCommand (α : Type) where
  | rect (bounds : Rect α) (color : Color α) (cornerRadius : α)
  | text (font : FontHandle) (text : String) (x y : α) (color : Color α)
  deriving DecidableEq

/-- The draw calls of a frame, in order. -/
structure Recorder (α : Type) where
  commands : List (PaintCommand α)

structure RectRun (α : Type) where
  bounds : Rect α
  color : Color α
  cornerRadius : α

structure TextRun (α : Type) where
  text : String
  x : α
  y : α
  color : Color α

namespace PaintCommand

variable {α : Type}

def rect? : PaintCommand α → Option (RectRun α)
  | rect bounds color cornerRadius => some ⟨bounds, color, cornerRadius⟩
  | text .. => none

def text? : PaintCommand α → Option (TextRun α)
  | rect .. => none
  | text _ run x y color => some ⟨run, x, y, color⟩

end PaintCommand

/-- A corner of a triangle. -/
structure Vertex (α : Type) where
  x : α
  y : α
  color : Color α
  deriving DecidableEq

namespace Recorder

variable {α : Type}

def empty : Recorder α := ⟨[]⟩

/-- Begins a frame; what was recorded before is dropped. -/
def beginFrame (_ : Recorder α) : Recorder α := empty

/-- Ends a frame and hands over its commands. -/
def endFrame (r : Recorder α) : List (PaintCommand α) × Recorder α := (r.commands, empty)

def record (r : Recorder α) (command : PaintCommand α) : Recorder α :=
  ⟨r.commands ++ [command]⟩

def rects (r : Recorder α) : List (RectRun α) := r.commands.filterMap PaintCommand.rect?

def texts (r : Recorder α) : List (TextRun α) := r.commands.filterMap PaintCommand.text?

/-- Two triangles that share the diagonal from the top right to the bottom left. -/
def corners [Scalar α] (run : RectRun α) : List (Vertex α) :=
  let b := run.bounds
  let vertex (x y : α) : Vertex α := ⟨x, y, run.color⟩
  [vertex b.x b.y, vertex b.right b.y, vertex b.x b.bottom,
    vertex b.right b.y, vertex b.right b.bottom, vertex b.x b.bottom]

/-- Rounded corners are left to the shader. -/
def vertices [Scalar α] (r : Recorder α) : List (Vertex α) := r.rects.flatMap corners

instance : PaintHost α (Recorder α) where
  drawRect bounds color cornerRadius := modify (·.record (.rect bounds color cornerRadius))
  drawText font text x y color := modify (·.record (.text font text x y color))

end Recorder

/-- The four bytes of a number, lowest first. As numbers have but one NaN, so have bytes: which of
the many codes a NaN came with is not told apart here. -/
def Binary.bytes (x : Binary32) : List UInt8 :=
  (List.range 4).map fun i => UInt8.ofNat (x.toBits >>> (8 * i))

namespace Vertex

def numbers {α : Type} (v : Vertex α) : List α :=
  [v.x, v.y, v.color.r, v.color.g, v.color.b, v.color.a]

/-- Position, then colour. -/
def bytes (v : Vertex Binary32) : List UInt8 := v.numbers.flatMap Binary.bytes

/-- The upload buffer of a list of vertices. -/
def buffer (vertices : List (Vertex Binary32)) : List UInt8 := vertices.flatMap bytes

end Vertex

end Widgetry
