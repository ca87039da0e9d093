import Widgetry.Sheet.Basic
import Widgetry.Sheet.Codec
/-!
Style sheets as documents, whatever library reads and prints them: each style is a table of its
fields. A table that is written for a style inside another one starts from that style's own
defaults.
-/
namespace Widgetry.StyleSheet

section Names

def tabModeName : TabMode → String
  | .fixed => "fixed"
  | .scrollable => "scrollable"

def tabMode? : String → Option TabMode
  | "fixed" => some .fixed
  | "scrollable" => some .scrollable
  | _ => none

def easingName : Easing → String
  | .linear => "linear"
  | .easeIn => "in"
  | .easeOut => "out"
  | .easeInOut => "in_out"

def easing? : String → Option Easing
  | "linear" => some .linear
  | "in" => some .easeIn
  | "out" => some .easeOut
  | "in_out" => some .easeInOut
  | _ => none

def variantName : TooltipVariant → String
  | .plain => "plain"
  | .rich => "rich"

def variant? : String → Option TooltipVariant
  | "plain" => some .plain
  | "rich" => some .rich
  | _ => none

end Names

section Fields

open RecordField

abbrev Num := Binary32

variable (codecs : Codecs)

def colorFields : List (RecordField (Color Num)) :=
  [mandatory "r" codecs.number Color.r fun v c => { c with r := v },
    mandatory "g" codecs.number Color.g fun v c => { c with g := v },
    mandatory "b" codecs.number Color.b fun v c => { c with b := v },
    plain "a" codecs.number Color.a fun v c => { c with a := v }]

/-- A colour is opaque unless it says otherwise. -/
def color : Codec (Color Num) := codecs.record (colorFields codecs) .black

def edgesFields : List (RecordField (Edges Num)) :=
  [plain "left" codecs.number Edges.left fun v e => { e with left := v },
    plain "top" codecs.number Edges.top fun v e => { e with top := v },
    plain "right" codecs.number Edges.right fun v e => { e with right := v },
    plain "bottom" codecs.number Edges.bottom fun v e => { e with bottom := v }]

def edges : Codec (Edges Num) := codecs.record (edgesFields codecs) .zero

def textFields : List (RecordField (TextStyle Num)) :=
  [optional "family" codecs.string TextStyle.family fun v s => { s with family := v },
    plain "size_px" codecs.integer32 TextStyle.sizePx fun v s => { s with sizePx := v },
    plain "weight" codecs.integer32 TextStyle.weight fun v s => { s with weight := v },
    plain "italic" codecs.boolean TextStyle.italic fun v s => { s with italic := v },
    plain "color" (color codecs) TextStyle.color fun v s => { s with color := v }]

def textStyle : Codec (TextStyle Num) := codecs.record (textFields codecs) .default

def tabFields : List (RecordField (TabStyle Num)) :=
  [plain "mode" (codecs.variant tabMode? tabModeName) TabStyle.mode fun v s => { s with mode := v },
    plain "padding" (edges codecs) TabStyle.padding fun v s => { s with padding := v },
    plain "spacing" codecs.number TabStyle.spacing fun v s => { s with spacing := v },
    plain "min_width" codecs.number TabStyle.minWidth fun v s => { s with minWidth := v },
    plain "min_height" codecs.number TabStyle.minHeight fun v s => { s with minHeight := v },
    plain "padding_x" codecs.number TabStyle.paddingX fun v s => { s with paddingX := v },
    plain "padding_y" codecs.number TabStyle.paddingY fun v s => { s with paddingY := v },
    plain "indicator_thickness" codecs.number TabStyle.indicatorThickness fun v s =>
      { s with indicatorThickness := v },
    plain "indicator_corner" codecs.number TabStyle.indicatorCorner fun v s =>
      { s with indicatorCorner := v },
    plain "indicator_anim_duration" codecs.number TabStyle.indicatorDuration fun v s =>
      { s with indicatorDuration := v },
    plain "indicator_anim_easing" (codecs.variant easing? easingName) TabStyle.indicatorEasing
      fun v s => { s with indicatorEasing := v },
    plain "text_style" (textStyle codecs) TabStyle.text fun v s => { s with text := v },
    plain "selected_text_color" (color codecs) TabStyle.selectedText fun v s =>
      { s with selectedText := v },
    plain "indicator_color" (color codecs) TabStyle.indicator fun v s => { s with indicator := v },
    plain "background_color" (color codecs) TabStyle.background fun v s =>
      { s with background := v },
    plain "disabled_text_color" (color codecs) TabStyle.disabledText fun v s =>
      { s with disabledText := v },
    plain "disabled_indicator_color" (color codecs) TabStyle.disabledIndicator fun v s =>
      { s with disabledIndicator := v }]

def segmentFields : List (RecordField (SegmentStyle Num)) :=
  [plain "padding" (edges codecs) SegmentStyle.padding fun v s => { s with padding := v },
    plain "spacing" codecs.number SegmentStyle.spacing fun v s => { s with spacing := v },
    plain "min_width" codecs.number SegmentStyle.minWidth fun v s => { s with minWidth := v },
    plain "min_height" codecs.number SegmentStyle.minHeight fun v s => { s with minHeight := v },
    plain "padding_x" codecs.number SegmentStyle.paddingX fun v s => { s with paddingX := v },
    plain "padding_y" codecs.number SegmentStyle.paddingY fun v s => { s with paddingY := v },
    plain "outline_width" codecs.number SegmentStyle.outlineWidth fun v s =>
      { s with outlineWidth := v },
    plain "corner_radius" codecs.number SegmentStyle.cornerRadius fun v s =>
      { s with cornerRadius := v },
    plain "text_style" (textStyle codecs) SegmentStyle.text fun v s => { s with text := v },
    plain "background_color" (color codecs) SegmentStyle.background fun v s =>
      { s with background := v },
    plain "outline_color" (color codecs) SegmentStyle.outline fun v s => { s with outline := v },
    plain "selected_background_color" (color codecs) SegmentStyle.selectedBackground fun v s =>
      { s with selectedBackground := v },
    plain "selected_text_color" (color codecs) SegmentStyle.selectedText fun v s =>
      { s with selectedText := v },
    plain "disabled_background_color" (color codecs) SegmentStyle.disabledBackground fun v s =>
      { s with disabledBackground := v },
    plain "disabled_outline_color" (color codecs) SegmentStyle.disabledOutline fun v s =>
      { s with disabledOutline := v },
    plain "disabled_text_color" (color codecs) SegmentStyle.disabledText fun v s =>
      { s with disabledText := v },
    plain "disabled_selected_background_color" (color codecs)
      SegmentStyle.disabledSelectedBackground fun v s => { s with disabledSelectedBackground := v },
    plain "disabled_selected_text_color" (color codecs) SegmentStyle.disabledSelectedText fun v s =>
      { s with disabledSelectedText := v }]

def badgeFields : List (RecordField (BadgeStyle Num)) :=
  [plain "background_color" (color codecs) BadgeStyle.background fun v s =>
      { s with background := v },
    plain "text_color" (color codecs) BadgeStyle.textColor fun v s => { s with textColor := v },
    plain "text_style" (textStyle codecs) BadgeStyle.text fun v s => { s with text := v },
    plain "dot_diameter" codecs.number BadgeStyle.dotDiameter fun v s =>
      { s with dotDiameter := v },
    plain "min_width" codecs.number BadgeStyle.minWidth fun v s => { s with minWidth := v },
    plain "height" codecs.number BadgeStyle.height fun v s => { s with height := v },
    plain "padding_x" codecs.number BadgeStyle.paddingX fun v s => { s with paddingX := v }]

def tooltipFields : List (RecordField (TooltipStyle Num)) :=
  [plain "variant" (codecs.variant variant? variantName) TooltipStyle.variant fun v s =>
      { s with variant := v },
    plain "padding" (edges codecs) TooltipStyle.padding fun v s => { s with padding := v },
    plain "min_width" codecs.number TooltipStyle.minWidth fun v s => { s with minWidth := v },
    plain "min_height" codecs.number TooltipStyle.minHeight fun v s => { s with minHeight := v },
    plain "max_width" codecs.number TooltipStyle.maxWidth fun v s => { s with maxWidth := v },
    plain "max_height" codecs.number TooltipStyle.maxHeight fun v s => { s with maxHeight := v },
    plain "corner_radius" codecs.number TooltipStyle.cornerRadius fun v s =>
      { s with cornerRadius := v },
    plain "anchor_gap" codecs.number TooltipStyle.anchorGap fun v s => { s with anchorGap := v },
    plain "title_body_spacing" codecs.number TooltipStyle.titleBodySpacing fun v s =>
      { s with titleBodySpacing := v },
    plain "text_style" (textStyle codecs) TooltipStyle.text fun v s => { s with text := v },
    plain "title_style" (textStyle codecs) TooltipStyle.title fun v s => { s with title := v },
    plain "body_style" (textStyle codecs) TooltipStyle.body fun v s => { s with body := v },
    plain "background_color" (color codecs) TooltipStyle.background fun v s =>
      { s with background := v }]

def sheetFields : List (RecordField (StyleSheet Num)) :=
  [optional "font_family" codecs.string StyleSheet.fontFamily fun v s => { s with fontFamily := v },
    plain "tabs" (codecs.record (tabFields codecs) .default) StyleSheet.tabs fun v s =>
      { s with tabs := v },
    plain "segmented" (codecs.record (segmentFields codecs) .default) StyleSheet.segmented
      fun v s => { s with segmented := v },
    plain "badge" (codecs.record (badgeFields codecs) .default) StyleSheet.badge fun v s =>
      { s with badge := v },
    plain "tooltip" (codecs.record (tooltipFields codecs) .default) StyleSheet.tooltip fun v s =>
      { s with tooltip := v },
    plain "text" (textStyle codecs) StyleSheet.text fun v s => { s with text := v }]

/-- A sheet as it is written, before families are filled in. -/
def codec : Codec (StyleSheet Num) := codecs.record (sheetFields codecs) default

end Fields

variable (lib : Toml.Library)

/-- The sheet of a document: missing fields have defaults, missing families come from the sheet's
own, and the result is valid. -/
def ofDocument (document : Toml.Value) : Except Error (StyleSheet Binary32) :=
  match (codec lib.codecs).read document with
  | .error message => .error (.invalidConfig message)
  | .ok sheet =>
    match sheet.filled.validate with
    | .ok () => .ok sheet.filled
    | .error e => .error e

def parse (source : String) : Except Error (StyleSheet Binary32) :=
  match lib.read source with
  | .error message => .error (.invalidConfig message)
  | .ok entries => ofDocument lib (.table entries)

/-- The text of a sheet, unless the library cannot write it. -/
def print (sheet : StyleSheet Binary32) : Except Error String :=
  match lib.print ((codec lib.codecs).write sheet) with
  | .error message => .error (.invalidConfig message)
  | .ok text => .ok text

/-- The sheet in the contents of a file; `none` stands for a file that cannot be read. -/
def load (path : String) (contents : Option ByteArray) : Except Error (StyleSheet Binary32) :=
  match contents with
  | none => .error (.io (path ++ ": not readable"))
  | some bytes =>
    match String.fromUTF8? bytes with
    | none => .error (.io (path ++ ": not valid UTF-8"))
    | some source => parse lib source

end Widgetry.StyleSheet
