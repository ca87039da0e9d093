import Widgetry.Host
/-!
Fonts that are held and given back. A held font is destroyed at most once, and replacing it
either takes over the new font or keeps the old one.
-/
namespace Widgetry

structure OwnedFont where
  handle? : Option FontHandle
  deriving DecidableEq

namespace OwnedFont

variable {α σ : Type} [TextHost α σ]

def empty : OwnedFont := ⟨none⟩

def adopt (handle : FontHandle) : OwnedFont := ⟨some handle⟩

def isLive (font : OwnedFont) : Bool := font.handle?.isSome

def handle (font : OwnedFont) : Except Error FontHandle :=
  match font.handle? with
  | some handle => .ok handle
  | none => .error (.state .fontReleased)

omit [TextHost α σ] in
theorem handle_eq_ok {font : OwnedFont} {handle : FontHandle} :
    font.handle = .ok handle ↔ font.handle? = some handle := by
  unfold OwnedFont.handle
  cases font.handle? <;> simp

def create (style : TextStyle α) : HostM σ OwnedFont := do
  return adopt (← TextHost.createFont style)

/-- The handle is forgotten whether or not the host destroys the font. -/
def release : Step OwnedFont σ Unit := do
  let font ← Step.self
  Step.update fun _ => empty
  match font.handle? with
  | some handle => Step.host (TextHost.destroyFont handle)
  | none => pure ()

/-- Gives a font up; that the host fails to destroy it is no failure here. -/
def discard (font : OwnedFont) : HostM σ Unit :=
  match font.handle? with
  | some handle => tryCatch (TextHost.destroyFont handle) fun _ => pure ()
  | none => pure ()

/-- Destroys the held font and holds `next`. If the held font cannot be destroyed, `next` is given
up and the held font stays. -/
def replace (next : OwnedFont) : Step OwnedFont σ Unit := do
  let font ← Step.self
  match font.handle? with
  | some current =>
    tryCatch (Step.host (TextHost.destroyFont current)) fun e => do
      Step.host next.discard
      throw e
  | none => pure ()
  Step.update fun _ => next

end OwnedFont

/-- Measures a label in a font fixed before. -/
abbrev Measurer (α σ : Type) := String → HostM σ (TextMetrics α)

/-- The measurer of a held font. -/
def OwnedFont.measurer {α σ : Type} [TextHost α σ] (font : OwnedFont) :
    Except Error (Measurer α σ) :=
  match font.handle with
  | .ok handle => .ok (TextHost.measureText handle)
  | .error e => .error e

theorem OwnedFont.measurer_eq_ok {α σ : Type} [TextHost α σ] {font : OwnedFont}
    {measurer : Measurer α σ} : font.measurer = .ok measurer ↔
      ∃ handle, font.handle? = some handle ∧ TextHost.measureText handle = measurer := by
  unfold OwnedFont.measurer
  rcases font with ⟨_ | handle⟩ <;> simp [OwnedFont.handle]

end Widgetry
