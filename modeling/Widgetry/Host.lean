import Widgetry.Geometry
import Widgetry.Text
/-!
What a widget needs from its host: fonts, measured text and a surface to draw on. A host call
may fail at any time and keeps the host state it has reached.
-/
namespace Widgetry

/-- A computation on the host state `σ`. -/
abbrev HostM (σ : Type) := ExceptT Error (StateM σ)

/-- Runs a computation on a part of the host. -/
def HostM.zoom {σ σ' β : Type} (part : σ → σ') (put : σ' → σ → σ) (act : HostM σ' β) : HostM σ β :=
  ExceptT.mk fun s =>
    let (r, p) := act.run (part s)
    (r, put p s)

/-- A host leaves out what it does not support. -/
class TextHost (α : outParam Type) (σ : Type) where
  createFont : TextStyle α → HostM σ FontHandle :=
    fun _ => throw (.unsupported .createFonts)
  destroyFont : FontHandle → HostM σ Unit :=
    fun _ => throw (.unsupported .destroyFonts)
  /-- The empty string measures the line itself. -/
  measureText : FontHandle → String → HostM σ (TextMetrics α) :=
    fun _ _ => throw (.unsupported .measureText)

class PaintHost (α : outParam Type) (σ : Type) where
  drawRect : Rect α → Color α → (cornerRadius : α) → HostM σ Unit :=
    fun _ _ _ => throw (.unsupported .drawRects)
  /-- The position is that of the baseline. -/
  drawText : FontHandle → String → (x y : α) → Color α → HostM σ Unit :=
    fun _ _ _ _ _ => throw (.unsupported .drawText)

/-- A step of a thing `ω` that may call its host. A failed step keeps what it has changed. -/
abbrev Step (ω σ : Type) := ExceptT Error (StateM (ω × σ))

namespace Step

variable {ω ω' σ β : Type}

def self : Step ω σ ω := do return (← get).1

def update (f : ω → ω) : Step ω σ Unit := modify fun s => (f s.1, s.2)

def host (act : HostM σ β) : Step ω σ β :=
  ExceptT.mk fun s =>
    let (r, h) := act.run s.2
    (r, s.1, h)

/-- Runs a step of a part. -/
def zoom (part : ω → ω') (put : ω' → ω → ω) (act : Step ω' σ β) : Step ω σ β :=
  ExceptT.mk fun s =>
    let (r, p, h) := act.run (part s.1, s.2)
    (r, put p s.1, h)

/-- Runs a step for its effects only. -/
def attempt (act : Step ω σ Unit) : Step ω σ Unit := tryCatch act fun _ => pure ()

/-- The state a thing is in after its first step. -/
def construct (first : ω) (act : Step ω σ Unit) : HostM σ ω :=
  ExceptT.mk fun h =>
    let (r, w, h) := act.run (first, h)
    (r.map fun _ => w, h)

def check (e : Except Error β) : Step ω σ β := liftExcept e

end Step

end Widgetry
