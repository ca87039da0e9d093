import Widgetry.Font
/-!
Geometry of items laid out in one horizontal band, as tabs and segments are.
-/
namespace Widgetry

/-- The largest extents over a list of labels. -/
structure LabelExtents (α : Type) where
  width : α
  height : α
  baseline : α
  deriving DecidableEq

/-- Vertical place of the items. -/
structure Band (α : Type) where
  startY : α
  height : α
  deriving DecidableEq

variable {α σ : Type} [Scalar α]

namespace LabelExtents

def zero : LabelExtents α := ⟨0, 0, 0⟩

def join (e : LabelExtents α) (m : TextMetrics α) : LabelExtents α :=
  ⟨max e.width m.width, max e.height m.height, max e.baseline m.baseline⟩

/-- Measures every label that is not blank, in order. -/
def measure (measurer : Measurer α σ) (items : List String) : HostM σ (LabelExtents α) :=
  go zero items
where
  go (e : LabelExtents α) : List String → HostM σ (LabelExtents α)
    | [] => pure e
    | item :: rest =>
      if item.isEmpty then go e rest
      else do go (e.join (← measurer item)) rest

end LabelExtents

namespace Row

/-- A blank label measures zero. -/
def labelMetrics (measurer : Measurer α σ) (item : String) : HostM σ (TextMetrics α) :=
  if item.isEmpty then pure .zero else measurer item

/-- An extent with padding on both sides, at least `minimum`. -/
def padded (content padding minimum : α) : α := max (content + padding * 2) minimum

/-- Length of `count` items of one width with spacing between them. -/
def runLength (width spacing : α) (count : Nat) : α :=
  if count = 0 then 0
  else
    let n : α := Scalar.ofNat count
    width * n + spacing * (n - 1)

/-- The common width of `count` items that fill `available`. -/
def evenWidth (available spacing : α) (count : Nat) : Except Error α :=
  if count = 0 then .ok 0
  else
    let n : α := Scalar.ofNat count
    let gaps := spacing * (n - 1)
    if available < gaps then .error (.range .narrowForSpacing)
    else
      let width := (available - gaps) / n
      if width < 0 then .error (.range .itemWidth) else .ok width

/-- A band taller than the space is clipped, a shorter one is centred. -/
def fitBand (natural top available : α) (count : Nat) : Except Error (Band α) :=
  if natural ≤ 0 then .error (.range .itemHeight)
  else if 0 < count ∧ available ≤ 0 then .error (.range .noVerticalRoom)
  else
    let height := if available < natural ∧ 0 < available then available else natural
    let slack := if height < available then (available - height) * 0.5 else 0
    .ok ⟨top + slack, height⟩

/-- The item at a position measured from the start of the row. The trailing edge of an item
belongs to it; a gap belongs to none. -/
def uniformHit (pos width spacing : α) (count : Nat) : Except Error (Option Nat) :=
  let stride := width + spacing
  if stride ≤ 0 then .error (.range .hitStride)
  else if pos < 0 then .ok none
  else
    let index := Scalar.toIndex (pos / stride)
    if count ≤ index then .ok none
    else if Scalar.ofNat index * stride + width < pos then .ok none
    else .ok (some index)

/-- Baseline position of a text centred in a rectangle. -/
def centeredText (r : Rect α) (m : TextMetrics α) : α × α :=
  (r.x + (r.width - m.width) * 0.5, r.y + (r.height - m.height) * 0.5 + m.baseline)

end Row

end Widgetry
