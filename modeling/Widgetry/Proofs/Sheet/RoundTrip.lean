import Widgetry.Proofs.Sheet.Families
import Widgetry.Proofs.Sheet.Gate
import Widgetry.Proofs.Sheet.Kept

/-! A style sheet that is written is read back as it was, but that a family is named for each text
style that has none. -/
namespace Widgetry

/-- A size and a weight of 32 bits. -/
def TextStyle.Storable {α : Type} (t : TextStyle α) : Prop := Short t.sizePx ∧ Short t.weight

instance {α : Type} (t : TextStyle α) : Decidable t.Storable := inferInstanceAs (Decidable (_ ∧ _))

namespace StyleSheet

open RecordField Codec

section Writing

variable {codecs : Codecs} {depth : Nat}

theorem bare_names : ∀ kind ∈ kinds, ∀ name ∈ kind.keys, Toml.Reader.Bare name := by decide

theorem writable {kind : RecordKind} (h : kind ∈ kinds) : Record.Writable (kind.fields codecs) where
  bare := (names_eq codecs kind h).symm ▸ bare_names kind h
  independent := independent codecs h

theorem not_table_number (hl : codecs.Lawful) (x : Binary32) :
    Toml.Printer.isTable (codecs.number.write x) = false := by
  rw [hl.write_number]
  rfl

theorem keeps_color (hl : codecs.Lawful) (c : Color Num) : (color codecs).Keeps (depth + 1) c := by
  refine Record.Restores.keeps ?_ hl (writable (.head _))
    ⟨_, List.mem_of_getElem? (i := 0) rfl, _, rfl, not_table_number hl _⟩
  iterate 3 refine .cons (restores_mandatory (keeps_number hl _)) ?_
  exact .cons (restores_plain (keeps_number hl _)) (.nil c)

theorem keeps_edges (hl : codecs.Lawful) (e : Edges Num) : (edges codecs).Keeps (depth + 1) e := by
  refine Record.Restores.keeps ?_ hl (writable edgesKind_mem)
    ⟨_, List.mem_of_getElem? (i := 0) rfl, _, rfl, not_table_number hl _⟩
  iterate 4 refine .cons (restores_plain (keeps_number hl _)) ?_
  exact .nil e

theorem keeps_text (hl : codecs.Lawful) {t : TextStyle Num} (h : t.Storable) :
    (textStyle codecs).Keeps (depth + 2) t := by
  refine Record.Restores.keeps ?_ hl (writable (mem_kinds textTable_mem))
    ⟨_, List.mem_of_getElem? (i := 1) rfl, _, rfl, by rw [hl.write_integer]; rfl⟩
  exact .cons (restores_optional (keeps_string hl) rfl) <|
    .cons (restores_plain (keeps_integer32 hl h.1)) <|
    .cons (restores_plain (keeps_integer32 hl h.2)) <|
    .cons (restores_plain (keeps_boolean hl _)) <|
    .cons (restores_plain (keeps_color hl _)) (.nil t)

theorem tabMode?_name (mode : TabMode) : tabMode? (tabModeName mode) = some mode := by
  cases mode <;> rfl

theorem easing?_name (easing : Easing) : easing? (easingName easing) = some easing := by
  cases easing <;> rfl

theorem variant?_name (v : TooltipVariant) : variant? (variantName v) = some v := by
  cases v <;> rfl

/-- All sizes and weights of the style have 32 bits. -/
def StyleTable.Storable (t : StyleTable) (r : t.Carrier) : Prop := ∀ p ∈ t.texts r, p.2.Storable

instance (t : StyleTable) (r : t.Carrier) : Decidable (t.Storable r) :=
  inferInstanceAs (Decidable (∀ p ∈ t.texts r, p.2.Storable))

/-- The fields of a style one after the other, as it lists them. -/
theorem restores_widgets (hl : codecs.Lawful) : ∀ t ∈ widgetTables, ∀ r, t.Storable r →
    Record.Restores (depth + 2) r (t.fields codecs) t.start r := by
  refine forall_widgetTables (fun s h => (?_ : Record.Restores _ s (tabFields codecs) _ s))
    (fun s h => (?_ : Record.Restores _ s (segmentFields codecs) _ s))
    (fun s h => (?_ : Record.Restores _ s (badgeFields codecs) _ s))
    fun s h => (?_ : Record.Restores _ s (tooltipFields codecs) _ s)
  all_goals
    simp only [StyleTable.Storable, tabTable, segmentTable, badgeTable, tooltipTable,
      List.forall_mem_cons] at h
    -- A field holds a number, a colour, insets, one of up to three text styles, or a variant.
    repeat first
      | refine .cons (restores_plain (keeps_number hl _)) ?_
      | refine .cons (restores_plain (keeps_color hl _)) ?_
      | refine .cons (restores_plain (keeps_edges hl _)) ?_
      | refine .cons (restores_plain (keeps_text hl h.1)) ?_
      | refine .cons (restores_plain (keeps_text hl h.2.1)) ?_
      | refine .cons (restores_plain (keeps_text hl h.2.2.1)) ?_
      | refine .cons (restores_plain (keeps_variant hl (tabMode?_name _))) ?_
      | refine .cons (restores_plain (keeps_variant hl (easing?_name _))) ?_
      | refine .cons (restores_plain (keeps_variant hl (variant?_name _))) ?_
    exact .nil s

/-- Each style has a number among its fields, or a size. -/
theorem keeps_tables (hl : codecs.Lawful) : ∀ t ∈ tables, ∀ r, t.Storable r →
    (t.codec codecs).Keeps (depth + 3) r := by
  have hnumber : ∀ t ∈ widgetTables, ∀ r, ∃ f ∈ t.fields codecs, ∃ v, f.write r = some v ∧
      Toml.Printer.isTable v = false :=
    forall_widgetTables
      (fun _ => ⟨_, List.mem_of_getElem? (i := 2) rfl, _, rfl, not_table_number hl _⟩)
      (fun _ => ⟨_, List.mem_of_getElem? (i := 1) rfl, _, rfl, not_table_number hl _⟩)
      (fun _ => ⟨_, List.mem_of_getElem? (i := 3) rfl, _, rfl, not_table_number hl _⟩)
      fun _ => ⟨_, List.mem_of_getElem? (i := 2) rfl, _, rfl, not_table_number hl _⟩
  exact forall_tables
    (fun t ht r hr => (restores_widgets hl t ht r hr).keeps hl
      (writable (mem_kinds (widget_mem ht))) (hnumber t ht r))
    fun r hr => keeps_text hl (hr _ (.head _))

variable {s : StyleSheet Binary32}

/-- All sizes and weights have 32 bits. -/
def Storable (s : StyleSheet Binary32) : Prop := ∀ p ∈ s.texts, p.2.Storable

instance (s : StyleSheet Binary32) : Decidable s.Storable :=
  inferInstanceAs (Decidable (∀ p ∈ s.texts, p.2.Storable))

theorem storable_iff : s.Storable ↔ ∀ t ∈ tables, t.Storable (t.get s) := by
  simp only [Storable, texts_eq, List.mem_flatMap, List.mem_map, StyleTable.Storable]
  constructor
  · intro h t ht p hp
    exact h (t.key :: p.1, p.2) ⟨t, ht, p, hp, rfl⟩
  · rintro h p ⟨t, ht, q, hq, rfl⟩
    exact h t ht q hq

theorem restores_sheet (hl : codecs.Lawful) (h : s.Storable) :
    Record.Restores 3 s (sheetFields codecs) default s := by
  have hkeeps {i : Nat} {t : StyleTable} (ht : tables[i]? = some t) :
      (t.codec codecs).Keeps 3 (t.get s) :=
    keeps_tables hl t (List.mem_of_getElem? ht) _ (storable_iff.mp h t (List.mem_of_getElem? ht))
  exact .cons (restores_optional (keeps_string hl) rfl) <|
    .cons (restores_plain (hkeeps (i := 0) rfl)) <| .cons (restores_plain (hkeeps (i := 1) rfl)) <|
    .cons (restores_plain (hkeeps (i := 2) rfl)) <| .cons (restores_plain (hkeeps (i := 3) rfl)) <|
    .cons (restores_plain (hkeeps (i := 4) rfl)) (.nil s)

variable {lib : Toml.Library}

/-- The text of a sheet is that of a document with all its fields. -/
theorem read_print (hl : lib.codecs.Lawful) (htrip : lib.RoundTrips) (h : s.Storable) :
    ∃ text, print lib s = .ok text ∧ ∃ entries, lib.read text = .ok entries ∧
      (codec lib.codecs).read (.table entries) = .ok s := by
  have hrestores := restores_sheet hl h
  have hwritable : Record.Writable (sheetFields lib.codecs) := writable sheetKind_mem
  obtain ⟨text, htext, entries, hread, hsame⟩ := htrip _ (hwritable.keyed s) fun entry hentry => by
    obtain ⟨f, hf, hwrite, -⟩ := Record.mem_entries hentry
    exact hrestores.printable f hf _ hwrite
  refine ⟨text, ?_, entries, hread, hrestores.read hl hwritable hsame⟩
  rw [print, codec, hl.write_record, htext]

/-- What is read from the text of a sheet. -/
theorem parse_print (hl : lib.codecs.Lawful) (htrip : lib.RoundTrips) (h : s.Storable) :
    ∃ text, print lib s = .ok text ∧ parse lib text =
      match s.validate with
      | .ok () => .ok s.filled
      | .error e => .error e := by
  obtain ⟨text, htext, entries, hread, hsheet⟩ := read_print hl htrip h
  have hvalidate := validate_filled s
  refine ⟨text, htext, ?_⟩
  cases hvalid : s.validate with
  | ok _ => simp only [parse, hread, ofDocument, hsheet, hvalidate, hvalid]
  | error e => simp only [parse, hread, ofDocument, hsheet, hvalidate, hvalid]

end Writing

section Reading

variable {codecs : Codecs} {value : Toml.Value} {s : StyleSheet Binary32}

theorem storable_of_read_text (hc : codecs.FillsRecords) (hl : codecs.Lawful) {t : TextStyle Num}
    (h : (textStyle codecs).read value = .ok t) : t.Storable := by
  refine Record.read_preserves (P := TextStyle.Storable) hc
    (independent codecs (mem_kinds textTable_mem)) ?_ (by decide) h
  change ∀ f ∈ textFields codecs, _
  simp only [textFields, List.forall_mem_cons]
  exact ⟨preserves_optional fun _ _ ht => ht,
    preserves_plain hl.short_integer fun _ _ hshort ht => ⟨hshort, ht.2⟩,
    preserves_plain hl.short_integer fun _ _ hshort ht => ⟨ht.1, hshort⟩,
    preserves_untouched fun _ _ ht => ht, preserves_untouched fun _ _ ht => ht,
    List.forall_mem_nil _⟩

/-- A field of a style is a text style, or leaves all of them alone. -/
theorem preserves_widgets (hc : codecs.FillsRecords) (hl : codecs.Lawful) :
    ∀ t ∈ widgetTables, ∀ f ∈ t.fields codecs, f.Preserves t.Storable := by
  refine forall_widgetTables (?_ : ∀ f ∈ tabFields codecs, _) (?_ : ∀ f ∈ segmentFields codecs, _)
    (?_ : ∀ f ∈ badgeFields codecs, _) (?_ : ∀ f ∈ tooltipFields codecs, _)
  all_goals
    simp only [tabFields, segmentFields, badgeFields, tooltipFields, List.forall_mem_cons]
    repeat' apply And.intro
  all_goals first
    | exact List.forall_mem_nil _
    | exact preserves_untouched fun _ _ h => h
    | refine preserves_plain (fun _ _ => storable_of_read_text hc hl) fun _ _ ht h => ?_
      simp only [StyleTable.Storable, tabTable, segmentTable, badgeTable, tooltipTable,
        List.forall_mem_cons] at h ⊢
      simp only [h, ht, true_and]
      exact List.forall_mem_nil _

theorem storable_of_read_table (hc : codecs.FillsRecords) (hl : codecs.Lawful) : ∀ t ∈ tables,
    ∀ v r, (t.codec codecs).read v = .ok r → t.Storable r := by
  have hstart : ∀ t ∈ tables, t.Storable t.start := by decide
  exact forall_tables
    (fun t ht _ _ h => Record.read_preserves hc
      (independent codecs (mem_kinds (widget_mem ht))) (preserves_widgets hc hl t ht)
      (hstart t (widget_mem ht)) h)
    fun _ _ h => List.forall_mem_singleton.mpr (storable_of_read_text hc hl h)

theorem storable_set : ∀ t ∈ tables, ∀ r (s : StyleSheet Binary32), t.Storable r → s.Storable →
    (t.set r s).Storable := by
  refine forall_tables (forall_widgetTables ?_ ?_ ?_ ?_) ?_
  all_goals
    intro r s hr hs
    simp only [StyleTable.Storable, tabTable, segmentTable, badgeTable, tooltipTable, textTable,
      List.forall_mem_cons] at hr
    simp only [Storable, texts, List.forall_mem_cons] at hs
    simp only [Storable, texts, tabTable, segmentTable, badgeTable, tooltipTable, textTable,
      List.forall_mem_cons, hr, hs, true_and]
    exact List.forall_mem_nil _

theorem storable_of_read (hc : codecs.FillsRecords) (hl : codecs.Lawful)
    (h : (codec codecs).read value = .ok s) : s.Storable := by
  refine Record.read_preserves (P := Storable) hc (independent codecs sheetKind_mem) ?_
    (by decide) h
  change ∀ f ∈ sheetFields codecs, _
  rw [sheetFields_eq, List.forall_mem_cons, List.forall_mem_map]
  refine ⟨preserves_optional fun _ _ hs => hs, fun t ht => ?_⟩
  exact preserves_plain (storable_of_read_table hc hl t ht) fun r s => storable_set t ht r s

theorem Storable.filled (h : s.Storable) : s.filled.Storable := by
  rw [Storable, filled_texts, List.forall_mem_map]
  exact h

end Reading

/-- What is read from the text of a sheet, by a library that reads the text of a document as that
document: the families of its text styles are filled in, and nothing else is changed. A sheet that
was read is read again as it is. -/
theorem round_trip (lib : Toml.Library) (hrecords : lib.codecs.FillsRecords)
    (hlawful : lib.codecs.Lawful) (htrip : lib.RoundTrips) :
    (∀ s : StyleSheet Binary32, s.Storable → ∃ text, print lib s = .ok text ∧ parse lib text =
      match s.validate with
      | .ok () => .ok s.filled
      | .error e => .error e) ∧
    (∀ s : StyleSheet Binary32,
      s.filled.texts =
        s.texts.map (fun p => (p.1, { p.2 with family := p.2.family <|> s.fontFamily })) ∧
      FamilyApart s.filled.tree s.tree ∧ s.filled.filled = s.filled) ∧
    ∀ source (s : StyleSheet Binary32), parse lib source = .ok s →
      ∃ text, print lib s = .ok text ∧ parse lib text = .ok s := by
  refine ⟨fun s => parse_print hlawful htrip,
    fun s => ⟨filled_texts s, familyApart_filled s, filled_filled s⟩, fun source s h => ?_⟩
  obtain ⟨entries, -, hdocument⟩ := exists_document_of_parse h
  obtain ⟨unfilled, hread, rfl⟩ := exists_unfilled_of_ofDocument hdocument
  obtain ⟨text, htext, hparse⟩ :=
    parse_print hlawful htrip (storable_of_read hrecords hlawful hread).filled
  rw [validate_of_ofDocument hdocument, filled_filled] at hparse
  exact ⟨text, htext, hparse⟩

theorem round_trip_named :
    Codecs.own.FillsRecords ∧ Codecs.own.Lawful ∧ Toml.Library.own.RoundTrips ∧
    (∃ s : StyleSheet Binary32, s.fontFamily = some "Roboto" ∧ s.text.family = none ∧ s.Storable ∧
      s.validate = .ok () ∧ ∃ text, print .own s = .ok text ∧ parse .own text = .ok s.filled) ∧
    ∃ s, parse .own "[text]\nsize_px = 20\n" = .ok s ∧
      ∃ text, print .own s = .ok text ∧ parse .own text = .ok s := by
  have hown := round_trip .own Codecs.own_fillsRecords Codecs.own_lawful Toml.Library.own_roundTrips
  refine ⟨Codecs.own_fillsRecords, Codecs.own_lawful, Toml.Library.own_roundTrips, ?_, ?_⟩
  · have hstorable :
        ({ default with fontFamily := some "Roboto" } : StyleSheet Binary32).Storable := by decide
    have hvalid : ({ default with fontFamily := some "Roboto" } : StyleSheet Binary32).validate =
        .ok () := by decide +kernel
    obtain ⟨text, htext, hparse⟩ := hown.1 _ hstorable
    rw [hvalid] at hparse
    exact ⟨_, rfl, rfl, hstorable, hvalid, text, htext, hparse⟩
  · have hread : (match parse .own "[text]\nsize_px = 20\n" with
        | .ok _ => true
        | .error _ => false) = true := by decide +kernel
    rcases hparse : parse .own "[text]\nsize_px = 20\n" with e | s
    all_goals rw [hparse] at hread
    · exact nomatch hread
    · exact ⟨s, rfl, hown.2.2 _ s hparse⟩

end StyleSheet

end Widgetry
