import Widgetry.Proofs.Sheet.Families
import Widgetry.Proofs.Sheet.Gate

/-! Fields that a document leaves out. A field has the value of the default sheet, unless the
document has a table for the part of a style that it is in: then it has the value that the part has
on its own. -/
namespace Widgetry

open Toml (Value)

namespace StyleSheet

/-- The fields of the style of a widget, in order. -/
def styleKeys : String → List String
  | "tabs" => tabTable.keys
  | "segmented" => segmentTable.keys
  | "badge" => badgeTable.keys
  | "tooltip" => tooltipTable.keys
  | _ => textTable.keys

/-- What a part of a style is: insets, or else a text style. -/
def partKind (part : String) : RecordKind :=
  if part = "padding" then edgesKind else textTable.toRecordKind

/-- The fields of the record at a path. -/
def keysAt : List String → List String
  | [] => sheetKind.keys
  | [widget] => styleKeys widget
  | [_, part] => (partKind part).keys
  | _ => []

/-- What a document has at a path, from the record at `place` on. -/
def givenBelow (place : List String) : List String → Value → Option Value
  | [], v => some v
  | key :: path, v => (Record.found (keysAt place) v key).bind (givenBelow (place ++ [key]) path)

def given? (path : List String) (document : Value) : Option Value := givenBelow [] path document

mutual

def leaves : Value → List (List String)
  | .table entries => leavesOf entries
  | _ => [[]]

def leavesOf : List (String × Value) → List (List String)
  | [] => []
  | (key, value) :: rest => (leaves value).map (key :: ·) ++ leavesOf rest

end

/-- The paths of all fields that are no records, channels of colours apart. -/
def scalarPaths : List (List String) :=
  let full : StyleSheet Binary32 := { default with fontFamily := some "" }
  (leaves full.filled.tree).filter fun path => path.getLast?.all (· ∉ colorKind.keys)

def parts : List String := ["padding", "text_style", "title_style", "body_style"]

/-- What a field starts from, in the part that a document has a table for, or else in the whole
sheet. -/
def ownDefault (document : Value) (path : List String) : Option Value :=
  match path with
  | [widget, part, key] =>
    if (given? [widget, part] document).isSome then
      ((partKind part).tree (partKind part).start).leaf? [key]
    else (tree default).leaf? path
  | _ => (tree default).leaf? path

/-- What a field has that a document leaves out: a family comes from the sheet. -/
def fallback (sheet : StyleSheet Binary32) (document : Value) (path : List String) : Option Value :=
  if path.getLast? = some "family" then sheet.fontFamily.map .string
  else ownDefault document path

section Records

variable {codecs : Codecs} {kind : RecordKind} {r : kind.Carrier} {v u : Value}

/-- What is not found keeps what the record started from. -/
theorem RecordKind.leaf?_of_not_found {key : String} (hc : codecs.FillsRecords)
    (hkind : kind ∈ kinds) (hread : (kind.codec codecs).read v = .ok r)
    (hnone : Record.found kind.keys v key = none) (path : List String) :
    (kind.tree r).leaf? (key :: path) = (kind.tree kind.start).leaf? (key :: path) :=
  Record.leaf?_of_not_found hc (independent codecs hkind) (shows codecs .own hkind) hread hnone path

/-- A field of a record that is a record of another kind. -/
structure Nests (codecs : Codecs) {ρ : Type} (f g : RecordField ρ) (sub : RecordKind) : Prop where
  mem : sub ∈ kinds
  carries : f.Carries g (sub.codec codecs) (sub.codec .own)

theorem Nests.exists_read {f g : RecordField kind.Carrier} {sub : RecordKind}
    (h : Nests codecs f g sub) (hkind : kind ∈ kinds) (hc : codecs.FillsRecords)
    (hread : (kind.codec codecs).read v = .ok r) (hf : f ∈ kind.fields codecs)
    (hg : g ∈ kind.fields .own) (hname : f.name = g.name)
    (hfound : Record.found kind.keys v g.name = some u) :
    ∃ b, (sub.codec codecs).read u = .ok b ∧
      ∀ path, (kind.tree r).leaf? (g.name :: path) = (sub.tree b).leaf? path :=
  Record.leaf?_of_found hc (independent codecs hkind) (shows codecs .own hkind) hread hf hg hname
    h.carries hfound

theorem nests_table (codecs : Codecs) : ∀ t ∈ tables,
    Nests codecs (t.field codecs) (t.field .own) t.toRecordKind := by
  have hset : ∀ t ∈ tables, ∀ b s, t.get (t.set b s) = b :=
    forall_tables (forall_widgetTables (fun _ _ => rfl) (fun _ _ => rfl) (fun _ _ => rfl)
      fun _ _ => rfl) fun _ _ => rfl
  exact fun t ht => ⟨mem_kinds ht, RecordField.carries_plain (hset t ht)⟩

theorem partKind_mem (part : String) : partKind part ∈ kinds := by
  rw [partKind]
  split
  · exact edgesKind_mem
  · exact mem_kinds textTable_mem

theorem nests_edges {ρ : Type} {f g : RecordField ρ} (hname : g.name = "padding")
    (h : f.Carries g (edges codecs) (edges .own)) : Nests codecs f g (partKind g.name) := by
  rw [partKind, if_pos hname]
  exact ⟨edgesKind_mem, h⟩

theorem nests_text {ρ : Type} {f g : RecordField ρ} (hname : g.name ≠ "padding")
    (h : f.Carries g (textStyle codecs) (textStyle .own)) : Nests codecs f g (partKind g.name) := by
  rw [partKind, if_neg hname]
  exact ⟨mem_kinds textTable_mem, h⟩

/-- The parts of a style are read and shown as such. -/
theorem nests_part (codecs : Codecs) : ∀ t ∈ tables, ∀ g ∈ t.fields .own, g.name ∈ parts →
    ∀ f ∈ t.fields codecs, f.name = g.name → Nests codecs f g (partKind g.name) := by
  refine forall_tables (forall_widgetTables
    (?_ : ∀ g ∈ tabFields .own, g.name ∈ parts → ∀ f ∈ tabFields codecs, _)
    (?_ : ∀ g ∈ segmentFields .own, g.name ∈ parts → ∀ f ∈ segmentFields codecs, _)
    (?_ : ∀ g ∈ badgeFields .own, g.name ∈ parts → ∀ f ∈ badgeFields codecs, _)
    (?_ : ∀ g ∈ tooltipFields .own, g.name ∈ parts → ∀ f ∈ tooltipFields codecs, _))
    (?_ : ∀ g ∈ textFields .own, g.name ∈ parts → ∀ f ∈ textFields codecs, _)
  all_goals
    simp only [tabFields, segmentFields, badgeFields, tooltipFields, textFields,
      List.forall_mem_cons, RecordField.name_plain, RecordField.name_optional]
    repeat' apply And.intro
  all_goals first
    | exact List.forall_mem_nil _
    | exact fun hpart => absurd hpart (by decide)
    | intro _
      repeat' apply And.intro
  all_goals first
    | exact List.forall_mem_nil _
    | exact fun hname => absurd hname (by decide)
    | exact fun _ => nests_edges rfl (RecordField.carries_plain fun _ _ => rfl)
    | exact fun _ => nests_text (by decide) (RecordField.carries_plain fun _ _ => rfl)

end Records

def widgets : List String := tables.map StyleTable.key

theorem styleKeys_key : ∀ t ∈ tables, styleKeys t.key = t.keys :=
  forall_tables (forall_widgetTables rfl rfl rfl rfl) rfl

/-- The family of the sheet, a field of a style, or one of a part of a style. -/
def isFieldPath : List String → Bool
  | [key] => key == "font_family"
  | [widget, _] => widgets.contains widget
  | [widget, part, _] =>
    widgets.contains widget && parts.contains part && (styleKeys widget).contains part
  | _ => false

theorem isFieldPath_of_mem : ∀ path ∈ scalarPaths, isFieldPath path := by decide +kernel

theorem found_eq_none_of_given (place : List String) {key : String} {v : Value}
    (h : givenBelow place [key] v = none) : Record.found (keysAt place) v key = none := by
  rw [givenBelow] at h
  cases hfound : Record.found (keysAt place) v key with
  | none => rfl
  | some u =>
    rw [hfound] at h
    exact nomatch h

section Missing

variable {lib : Toml.Library} {document v : Value} {sheet : StyleSheet Binary32} {t : StyleTable}
  {key : String}

/-- The style of a table that was given is read from it. -/
theorem exists_style (hc : lib.codecs.FillsRecords)
    (hsheet : (codec lib.codecs).read document = .ok sheet) (ht : t ∈ tables)
    (hfound : Record.found sheetKind.keys document t.key = some v) :
    ∃ r, (t.codec lib.codecs).read v = .ok r ∧
      ∀ path, sheet.tree.leaf? (t.key :: path) = (t.tree r).leaf? path :=
  (nests_table lib.codecs t ht).exists_read sheetKind_mem hc hsheet (field_mem _ ht)
    (field_mem _ ht) rfl hfound

theorem leaf?_default (ht : t ∈ tables) (path : List String) :
    (tree default).leaf? (t.key :: path) = (t.tree t.start).leaf? path := by
  have hstart : ∀ t ∈ tables, t.get default = t.start :=
    forall_tables (forall_widgetTables rfl rfl rfl rfl) rfl
  have hnames := names_nodup .own sheetKind_mem
  refine (Record.leaf?_entries hnames (field_mem .own ht) default _).trans ?_
  rw [← hstart t ht]
  rfl

/-- A part that was given, but for this key, has what it has on its own. -/
theorem leaf?_part {r : t.Carrier} {part : String} (hc : lib.codecs.FillsRecords) (ht : t ∈ tables)
    (hread : (t.codec lib.codecs).read v = .ok r) (hkey : part ∈ t.keys) (hpart : part ∈ parts)
    (hgiven : (givenBelow [t.key] [part] v).isSome)
    (hnone : givenBelow [t.key] [part, key] v = none) :
    (t.tree r).leaf? [part, key] =
      ((partKind part).tree (partKind part).start).leaf? [key] := by
  obtain ⟨g, hg, rfl⟩ := List.mem_map.mp hkey
  obtain ⟨f, hf, hname⟩ := (shows lib.codecs .own (mem_kinds ht)).exists_field hg
  rw [givenBelow, keysAt, styleKeys_key t ht] at hgiven hnone
  cases hfound : Record.found t.keys v g.name with
  | none =>
    rw [hfound] at hgiven
    exact nomatch hgiven
  | some u =>
    rw [hfound] at hnone
    obtain ⟨b, hb, hleaf⟩ := (nests_part lib.codecs t ht g hg hpart f hf hname).exists_read
      (mem_kinds ht) hc hread hf hg hname hfound
    rw [hleaf]
    exact RecordKind.leaf?_of_not_found hc (partKind_mem g.name) hb
      (found_eq_none_of_given [t.key, g.name] hnone) []

theorem exists_table {widget : String} (h : widgets.contains widget) :
    ∃ t ∈ tables, t.key = widget :=
  List.mem_map.mp (List.contains_iff_mem.mp h)

theorem leaf?_of_not_given (hc : lib.codecs.FillsRecords)
    (hsheet : (codec lib.codecs).read document = .ok sheet) {path : List String}
    (hpath : isFieldPath path) (hnone : given? path document = none) :
    sheet.tree.leaf? path = ownDefault document path := by
  -- A style that is not given keeps what the sheet started from.
  have hstyle {widget : String} (hfound : Record.found sheetKind.keys document widget = none)
      (path : List String) :
      sheet.tree.leaf? (widget :: path) = (tree default).leaf? (widget :: path) :=
    RecordKind.leaf?_of_not_found hc sheetKind_mem hsheet hfound path
  unfold isFieldPath at hpath
  split at hpath
  next key => exact hstyle (found_eq_none_of_given [] hnone) []
  next widget key =>
    obtain ⟨t, ht, rfl⟩ := exists_table hpath
    cases hfound : Record.found sheetKind.keys document t.key with
    | none => exact hstyle hfound [key]
    | some v =>
      rw [given?, givenBelow, keysAt, hfound] at hnone
      obtain ⟨r, hread, hleaf⟩ := exists_style hc hsheet ht hfound
      have hkey : Record.found (keysAt [t.key]) v key = none := found_eq_none_of_given _ hnone
      rw [keysAt, styleKeys_key t ht] at hkey
      change _ = (tree default).leaf? [t.key, key]
      rw [hleaf, leaf?_default ht]
      exact RecordKind.leaf?_of_not_found hc (mem_kinds ht) hread hkey []
  next widget part key =>
    obtain ⟨⟨hwidget, hpart⟩, hkey⟩ := by simpa only [Bool.and_eq_true] using hpath
    obtain ⟨t, ht, rfl⟩ := exists_table hwidget
    rw [styleKeys_key t ht] at hkey
    rw [ownDefault]
    cases hfound : Record.found sheetKind.keys document t.key with
    | none =>
      rw [given?, givenBelow, keysAt, hfound, if_neg nofun]
      exact hstyle hfound [part, key]
    | some v =>
      rw [given?, givenBelow, keysAt, hfound] at hnone ⊢
      obtain ⟨r, hread, hleaf⟩ := exists_style hc hsheet ht hfound
      rw [hleaf]
      split
      next hgiven =>
        exact leaf?_part hc ht hread (List.contains_iff_mem.mp hkey)
          (List.contains_iff_mem.mp hpart) hgiven hnone
      next hgiven =>
        have hpart : Record.found (keysAt [t.key]) v part = none :=
          found_eq_none_of_given _ (Option.not_isSome_iff_eq_none.mp hgiven)
        rw [keysAt, styleKeys_key t ht] at hpart
        rw [leaf?_default ht]
        exact RecordKind.leaf?_of_not_found hc (mem_kinds ht) hread hpart [key]
  next => exact nomatch hpath

end Missing

section Families

variable {lib : Toml.Library} {document : Value} {sheet : StyleSheet Binary32} {widget : String}

/-- Where the text styles stand. -/
def textPlaces : List (List String) :=
  [["tabs", "text_style"], ["segmented", "text_style"], ["badge", "text_style"],
    ["tooltip", "text_style"], ["tooltip", "title_style"], ["tooltip", "body_style"], ["text"]]

theorem exists_text_of_family (s : StyleSheet Num) {path : List String} (hpath : path ∈ scalarPaths)
    (hlast : path.getLast? = some "family") : ∃ p ∈ s.texts, path = p.1 ++ ["family"] := by
  have hplaces : ∀ path ∈ scalarPaths, path.getLast? = some "family" →
      path ∈ textPlaces.map (· ++ ["family"]) := by decide +kernel
  obtain ⟨place, hplace, rfl⟩ := List.mem_map.mp (hplaces path hpath hlast)
  have hmap : s.texts.map Prod.fst = textPlaces := rfl
  rw [← hmap] at hplace
  obtain ⟨p, hp, rfl⟩ := List.mem_map.mp hplace
  exact ⟨p, hp, rfl⟩

theorem family_of_default : ∀ p ∈ (default : StyleSheet Num).texts, p.2.family = none := by
  simp only [texts, List.forall_mem_cons]
  exact ⟨rfl, rfl, rfl, rfl, rfl, rfl, rfl, List.forall_mem_nil _⟩

theorem ownDefault_part {part : String} (hpart : part ≠ "padding")
    (hdefault : (tree default).leaf? [widget, part, "family"] = none) :
    ownDefault document [widget, part, "family"] = none := by
  rw [ownDefault]
  split
  · rw [partKind, if_neg hpart]
    exact leaf?_family .default
  · exact hdefault

/-- No text style has a family to start from. -/
theorem ownDefault_family {place : List String} (hplace : place ∈ textPlaces) :
    ownDefault document (place ++ ["family"]) = none := by
  have hdefault : (tree default).leaf? (place ++ ["family"]) = none := by
    have hmap : (default : StyleSheet Num).texts.map Prod.fst = textPlaces := rfl
    rw [← hmap] at hplace
    obtain ⟨p, hp, rfl⟩ := List.mem_map.mp hplace
    rw [leaf?_texts default p hp, family_of_default p hp]
    rfl
  simp only [textPlaces, List.mem_cons, List.not_mem_nil, or_false] at hplace
  rcases hplace with rfl | rfl | rfl | rfl | rfl | rfl | rfl
  case inr.inr.inr.inr.inr.inr => exact hdefault
  all_goals exact ownDefault_part (by decide) hdefault

/-- A family that is not given comes from the sheet. -/
theorem leaf?_filled_family (hc : lib.codecs.FillsRecords)
    (hsheet : (codec lib.codecs).read document = .ok sheet) {path : List String}
    (hpath : path ∈ scalarPaths) (hlast : path.getLast? = some "family")
    (hnone : given? path document = none) :
    sheet.filled.tree.leaf? path = sheet.fontFamily.map .string := by
  have hraw := leaf?_of_not_given hc hsheet (isFieldPath_of_mem path hpath) hnone
  obtain ⟨p, hp, rfl⟩ := exists_text_of_family sheet hpath hlast
  have hplace : p.1 ∈ textPlaces := List.mem_map_of_mem hp
  rw [ownDefault_family hplace, leaf?_texts sheet p hp, Option.map_eq_none_iff] at hraw
  have hfilled : (p.1, p.2.orFamily sheet.fontFamily) ∈ sheet.filled.texts := by
    rw [filled_texts]
    exact List.mem_map_of_mem hp
  rw [leaf?_texts sheet.filled _ hfilled, TextStyle.orFamily, hraw]
  rfl

end Families

/-- Every field outside colours that a document leaves out, whatever library reads the document. -/
theorem missing_fields (lib : Toml.Library) (hrecords : lib.codecs.FillsRecords) (source : String)
    (sheet : StyleSheet Binary32) (h : parse lib source = .ok sheet) :
    ∃ entries, lib.read source = .ok entries ∧ ∀ path ∈ scalarPaths,
      given? path (.table entries) = none →
        sheet.tree.leaf? path = fallback sheet (.table entries) path := by
  obtain ⟨entries, hread, hdocument⟩ := exists_document_of_parse h
  obtain ⟨unfilled, hunfilled, rfl⟩ := exists_unfilled_of_ofDocument hdocument
  refine ⟨entries, hread, fun path hpath hnone => ?_⟩
  rw [fallback]
  split
  next hlast => exact leaf?_filled_family hrecords hunfilled hpath hlast hnone
  next hlast =>
    rw [familyApart_filled unfilled path hlast]
    exact leaf?_of_not_given hrecords hunfilled (isFieldPath_of_mem path hpath) hnone

theorem missing_fields_insets :
    ∃ sheet entries, Codecs.own.FillsRecords ∧
      parse .own "[tooltip.padding]\nleft = 1.0\n" = .ok sheet ∧
      Toml.Library.own.read "[tooltip.padding]\nleft = 1.0\n" = .ok entries ∧
      given? ["tooltip", "padding", "top"] (.table entries) = none ∧
      sheet.tooltip.padding = ⟨1, 0, 0, 0⟩ ∧
      sheet.tree.leaf? ["tooltip", "padding", "top"] =
        fallback sheet (.table entries) ["tooltip", "padding", "top"] := by
  have hpath : ["tooltip", "padding", "top"] ∈ scalarPaths := by decide +kernel
  have hparse : (match parse .own "[tooltip.padding]\nleft = 1.0\n" with
      | .ok sheet => decide (sheet.tooltip.padding = ⟨1, 0, 0, 0⟩)
      | .error _ => false) = true := by decide +kernel
  have hgiven : (match Toml.Library.own.read "[tooltip.padding]\nleft = 1.0\n" with
      | .ok entries => (given? ["tooltip", "padding", "top"] (.table entries)).isNone
      | .error _ => false) = true := by decide +kernel
  rcases hsheet : parse .own "[tooltip.padding]\nleft = 1.0\n" with e | sheet
  all_goals rw [hsheet] at hparse
  · exact nomatch hparse
  obtain ⟨entries, hread, hmissing⟩ :=
    missing_fields .own Codecs.own_fillsRecords _ sheet hsheet
  rw [hread] at hgiven
  have hnone := Option.isNone_iff_eq_none.mp hgiven
  exact ⟨sheet, entries, Codecs.own_fillsRecords, rfl, hread, hnone, of_decide_eq_true hparse,
    hmissing _ hpath hnone⟩

/-- The text of a badge has a size of its own, until a document says that it is italic. -/
theorem badge_text_restarts :
    ∃ sheet entries, Codecs.own.FillsRecords ∧
      parse .own "[badge.text_style]\nitalic = true\n" = .ok sheet ∧
      Toml.Library.own.read "[badge.text_style]\nitalic = true\n" = .ok entries ∧
      ["badge", "text_style", "size_px"] ∈ scalarPaths ∧
      given? ["badge", "text_style", "size_px"] (.table entries) = none ∧
      sheet.badge.text.sizePx = 14 ∧ (default : StyleSheet Binary32).badge.text.sizePx = 11 := by
  have hparse : (match parse .own "[badge.text_style]\nitalic = true\n" with
      | .ok sheet => decide (sheet.badge.text.sizePx = 14)
      | .error _ => false) = true := by decide +kernel
  have hgiven : (match Toml.Library.own.read "[badge.text_style]\nitalic = true\n" with
      | .ok entries => (given? ["badge", "text_style", "size_px"] (.table entries)).isNone
      | .error _ => false) = true := by decide +kernel
  rcases hsheet : parse .own "[badge.text_style]\nitalic = true\n" with e | sheet
  all_goals rw [hsheet] at hparse
  · exact nomatch hparse
  rcases hread : Toml.Library.own.read "[badge.text_style]\nitalic = true\n" with e | entries
  all_goals rw [hread] at hgiven
  · exact nomatch hgiven
  exact ⟨sheet, entries, Codecs.own_fillsRecords, rfl, rfl, by decide +kernel,
    Option.isNone_iff_eq_none.mp hgiven, of_decide_eq_true hparse, rfl⟩

end StyleSheet

end Widgetry
