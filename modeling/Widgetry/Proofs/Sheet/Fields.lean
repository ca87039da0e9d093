import Widgetry.Proofs.Sheet.Record
import Widgetry.Sheet.Document

/-! The records of a sheet, whatever library reads them: in each of them the fields have names of
their own, and none touches what another one shows. The styles of a sheet are tables of one kind,
which say where the text styles in them stand. -/
namespace Widgetry.StyleSheet

open RecordField

/-- A kind of record. -/
structure RecordKind where
  Carrier : Type
  fields : Codecs → List (RecordField Carrier)
  start : Carrier

def RecordKind.codec (kind : RecordKind) (codecs : Codecs) : Codec kind.Carrier :=
  codecs.record (kind.fields codecs) kind.start

def RecordKind.keys (kind : RecordKind) : List String := (kind.fields .own).map RecordField.name

/-- A record as a table of all its fields. -/
def RecordKind.tree (kind : RecordKind) (r : kind.Carrier) : Toml.Value :=
  .table (Record.entries (kind.fields .own) r)

/-- A table of a sheet: the style that it stands for, and the paths of that style's text styles. -/
structure StyleTable extends RecordKind where
  key : String
  get : StyleSheet Num → Carrier
  set : Carrier → StyleSheet Num → StyleSheet Num
  texts : Carrier → List (List String × TextStyle Num)
  /-- Changes every text style. -/
  mapTexts : (TextStyle Num → TextStyle Num) → Carrier → Carrier

def tabTable : StyleTable where
  Carrier := TabStyle Num
  fields := tabFields
  start := .default
  key := "tabs"
  get := StyleSheet.tabs
  set v s := { s with tabs := v }
  texts s := [(["text_style"], s.text)]
  mapTexts change s := { s with text := change s.text }

def segmentTable : StyleTable where
  Carrier := SegmentStyle Num
  fields := segmentFields
  start := .default
  key := "segmented"
  get := StyleSheet.segmented
  set v s := { s with segmented := v }
  texts s := [(["text_style"], s.text)]
  mapTexts change s := { s with text := change s.text }

def badgeTable : StyleTable where
  Carrier := BadgeStyle Num
  fields := badgeFields
  start := .default
  key := "badge"
  get := StyleSheet.badge
  set v s := { s with badge := v }
  texts s := [(["text_style"], s.text)]
  mapTexts change s := { s with text := change s.text }

def tooltipTable : StyleTable where
  Carrier := TooltipStyle Num
  fields := tooltipFields
  start := .default
  key := "tooltip"
  get := StyleSheet.tooltip
  set v s := { s with tooltip := v }
  texts s := [(["text_style"], s.text), (["title_style"], s.title), (["body_style"], s.body)]
  mapTexts change s :=
    { s with text := change s.text, title := change s.title, body := change s.body }

def textTable : StyleTable where
  Carrier := TextStyle Num
  fields := textFields
  start := .default
  key := "text"
  get := StyleSheet.text
  set v s := { s with text := v }
  texts s := [([], s)]
  mapTexts change := change

/-- The styles that have text styles of their own among their fields. -/
def widgetTables : List StyleTable := [tabTable, segmentTable, badgeTable, tooltipTable]

def tables : List StyleTable := widgetTables ++ [textTable]

theorem forall_widgetTables {P : StyleTable → Prop} (htabs : P tabTable)
    (hsegments : P segmentTable) (hbadge : P badgeTable) (htooltip : P tooltipTable) :
    ∀ t ∈ widgetTables, P t := by
  simp only [widgetTables, List.forall_mem_cons]
  exact ⟨htabs, hsegments, hbadge, htooltip, List.forall_mem_nil _⟩

theorem forall_tables {P : StyleTable → Prop} (hwidgets : ∀ t ∈ widgetTables, P t)
    (htext : P textTable) : ∀ t ∈ tables, P t :=
  List.forall_mem_append.mpr ⟨hwidgets, List.forall_mem_singleton.mpr htext⟩

def colorKind : RecordKind := ⟨Color Num, colorFields, .black⟩

def edgesKind : RecordKind := ⟨Edges Num, edgesFields, .zero⟩

def sheetKind : RecordKind := ⟨StyleSheet Num, sheetFields, default⟩

def kinds : List RecordKind :=
  colorKind :: edgesKind :: sheetKind :: tables.map StyleTable.toRecordKind

theorem forall_kinds {P : RecordKind → Prop} (hcolor : P colorKind) (hedges : P edgesKind)
    (hsheet : P sheetKind) (htables : ∀ t ∈ tables, P t.toRecordKind) : ∀ kind ∈ kinds, P kind :=
  List.forall_mem_cons.mpr ⟨hcolor, List.forall_mem_cons.mpr ⟨hedges,
    List.forall_mem_cons.mpr ⟨hsheet, List.forall_mem_map.mpr htables⟩⟩⟩

theorem edgesKind_mem : edgesKind ∈ kinds := .tail _ (.head _)

theorem sheetKind_mem : sheetKind ∈ kinds := .tail _ (.tail _ (.head _))

theorem mem_kinds {t : StyleTable} (h : t ∈ tables) : t.toRecordKind ∈ kinds :=
  .tail _ (.tail _ (.tail _ (List.mem_map_of_mem h)))

theorem textTable_mem : textTable ∈ tables := List.mem_of_getElem? (i := 4) rfl

theorem widget_mem {t : StyleTable} (h : t ∈ widgetTables) : t ∈ tables := List.mem_append_left _ h

def StyleTable.field (t : StyleTable) (codecs : Codecs) : RecordField (StyleSheet Num) :=
  plain t.key (t.codec codecs) t.get t.set

variable (codecs : Codecs)

theorem sheetFields_eq : sheetFields codecs =
    optional "font_family" codecs.string StyleSheet.fontFamily
        (fun v s => { s with fontFamily := v }) ::
      tables.map (·.field codecs) := rfl

theorem field_mem {t : StyleTable} (h : t ∈ tables) : t.field codecs ∈ sheetFields codecs := by
  rw [sheetFields_eq]
  exact List.mem_cons_of_mem _ (List.mem_map.mpr ⟨t, h, rfl⟩)

theorem keys_nodup : ∀ kind ∈ kinds, kind.keys.Nodup := by decide

theorem names_eq : ∀ kind ∈ kinds, (kind.fields codecs).map RecordField.name = kind.keys :=
  forall_kinds rfl rfl rfl (forall_tables (forall_widgetTables rfl rfl rfl rfl) rfl)

variable (codecs' : Codecs)

/-- The cases are the pairs of fields: one and the same, or two of which neither is part of what
the other one sets. -/
theorem spares : ∀ kind ∈ kinds, ∀ f ∈ kind.fields codecs, ∀ g ∈ kind.fields codecs',
    f.name ≠ g.name → f.Spares g := by
  refine forall_kinds (?_ : ∀ f ∈ colorFields codecs, ∀ g ∈ colorFields codecs', _)
    (?_ : ∀ f ∈ edgesFields codecs, ∀ g ∈ edgesFields codecs', _)
    (?_ : ∀ f ∈ sheetFields codecs, ∀ g ∈ sheetFields codecs', _)
    (forall_tables (forall_widgetTables (?_ : ∀ f ∈ tabFields codecs, ∀ g ∈ tabFields codecs', _)
      (?_ : ∀ f ∈ segmentFields codecs, ∀ g ∈ segmentFields codecs', _)
      (?_ : ∀ f ∈ badgeFields codecs, ∀ g ∈ badgeFields codecs', _)
      (?_ : ∀ f ∈ tooltipFields codecs, ∀ g ∈ tooltipFields codecs', _))
      (?_ : ∀ f ∈ textFields codecs, ∀ g ∈ textFields codecs', _))
  all_goals
    simp only [colorFields, edgesFields, textFields, tabFields, segmentFields, badgeFields,
      tooltipFields, sheetFields, List.forall_mem_cons, List.not_mem_nil, IsEmpty.forall_iff,
      implies_true, and_true]
    repeat' apply And.intro
  all_goals first
    | exact fun _ => spares_plain fun _ _ => rfl
    | exact fun _ => spares_mandatory fun _ _ => rfl
    | exact fun _ => spares_optional fun _ _ => rfl
    | exact fun h => (h rfl).elim

variable {kind : RecordKind}

theorem names_nodup (h : kind ∈ kinds) : ((kind.fields codecs).map RecordField.name).Nodup :=
  (names_eq codecs kind h).symm ▸ keys_nodup kind h

theorem shows (h : kind ∈ kinds) : Record.Shows (kind.fields codecs) (kind.fields codecs') where
  names := (names_eq codecs kind h).trans (names_eq codecs' kind h).symm
  nodup := names_nodup codecs' h
  apart := spares codecs codecs' kind h

theorem independent (h : kind ∈ kinds) : Record.Independent (kind.fields codecs) :=
  shows codecs codecs h

end Widgetry.StyleSheet
