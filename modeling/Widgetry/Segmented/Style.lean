import Widgetry.Geometry
import Widgetry.Text
import Widgetry.Validate
/-!
Styles of a group of segmented buttons.
-/
namespace Widgetry

inductive SelectionMode where
  | single
  | multi
  deriving DecidableEq, Repr

def SelectionMode.ofCode (code : UInt32) : Except Error SelectionMode :=
  match code with
  | 1 => .ok single
  | 2 => .ok multi
  | _ => .error (.range .selectionModeCode)

structure SegmentStyle (α : Type) where
  /-- Insets around the whole group. -/
  padding : Edges α
  spacing : α
  minWidth : α
  minHeight : α
  /-- Insets around a label. -/
  paddingX : α
  paddingY : α
  outlineWidth : α
  cornerRadius : α
  text : TextStyle α
  background : Color α
  outline : Color α
  selectedBackground : Color α
  selectedText : Color α
  disabledBackground : Color α
  disabledOutline : Color α
  disabledText : Color α
  disabledSelectedBackground : Color α
  disabledSelectedText : Color α
  deriving BEq, DecidableEq

structure SegmentColors (α : Type) where
  background : Color α
  outline : Color α
  text : Color α
  deriving DecidableEq

namespace SegmentStyle

variable {α : Type} [Scalar α]

def disabledFillAlpha : α := 0.12

def disabledTextAlpha : α := 0.38

def default : SegmentStyle α :=
  let outline : Color α := .rgb 0.44 0.44 0.44
  let selectedBackground : Color α := .rgb 0.26 0.52 0.96
  {
    padding := .zero
    spacing := 0
    minWidth := 64
    minHeight := 32
    paddingX := 12
    paddingY := 8
    outlineWidth := 1
    cornerRadius := 4
    text := .default
    background := .transparent
    outline
    selectedBackground
    selectedText := .white
    disabledBackground := (Color.transparent : Color α).scaleAlpha disabledFillAlpha
    disabledOutline := outline.scaleAlpha disabledFillAlpha
    disabledText := (TextStyle.default : TextStyle α).color.scaleAlpha disabledTextAlpha
    disabledSelectedBackground := selectedBackground.scaleAlpha disabledFillAlpha
    disabledSelectedText := (Color.white : Color α).scaleAlpha disabledTextAlpha }

def lengths (s : SegmentStyle α) : List (α × String) :=
  [(s.spacing, "segment spacing is negative"),
    (s.minWidth, "segment min width is negative"),
    (s.minHeight, "segment min height is negative"),
    (s.paddingX, "segment horizontal padding is negative"),
    (s.paddingY, "segment vertical padding is negative"),
    (s.outlineWidth, "outline width is negative"),
    (s.cornerRadius, "corner radius is negative")]

def colors (s : SegmentStyle α) : List (Color α) :=
  [s.background, s.outline, s.selectedBackground, s.selectedText, s.disabledBackground,
    s.disabledOutline, s.disabledText, s.disabledSelectedBackground, s.disabledSelectedText]

def validate (s : SegmentStyle α) (requireFamily : Bool) : Except Error Unit := do
  Validate.nonNegative s.lengths
  s.padding.validate
  s.text.validate requireFamily
  Validate.colors s.colors

def segmentColors (s : SegmentStyle α) (selected disabled : Bool) : SegmentColors α :=
  match disabled, selected with
  | false, false => ⟨s.background, s.outline, s.text.color⟩
  | false, true => ⟨s.selectedBackground, s.outline, s.selectedText⟩
  | true, false => ⟨s.disabledBackground, s.disabledOutline, s.disabledText⟩
  | true, true => ⟨s.disabledSelectedBackground, s.disabledOutline, s.disabledSelectedText⟩

end SegmentStyle

end Widgetry
