import Widgetry.Proofs.Sheet.Fields

/-! Families of text styles. Naming them for those that have none changes nothing else in the
document of a sheet, and nothing in what it is checked for. -/
namespace Widgetry

open Toml (Value)

/-- The value at a path of keys, unless it is a table. -/
def Toml.Value.leaf? : List String → Value → Option Value
  | [], .table _ => none
  | [], v => some v
  | key :: path, .table entries => (entries.lookup key).bind (leaf? path)
  | _ :: _, _ => none

namespace Record

variable {ρ : Type} {fields shown : List (RecordField ρ)} {f g : RecordField ρ} {start r : ρ}
  {codecs : Codecs} {value : Value}

theorem leaf?_entries (hnames : (fields.map RecordField.name).Nodup) (hf : f ∈ fields) (r : ρ)
    (path : List String) :
    (Value.table (entries fields r)).leaf? (f.name :: path) =
      (f.write r).bind (Value.leaf? path) := by
  rw [Value.leaf?, lookup_entries hnames hf]

theorem leaf?_entries_of_not_mem {key : String} (h : key ∉ fields.map RecordField.name) (r : ρ)
    (path : List String) : (Value.table (entries fields r)).leaf? (key :: path) = none := by
  rw [Value.leaf?, lookup_entries_of_not_mem h]
  rfl

/-- Records that write each field alike have the same below each key. -/
theorem leaf?_congr (hnames : (fields.map RecordField.name).Nodup) {r r' : ρ} {key : String}
    {path : List String} (h : ∀ f ∈ fields, f.name = key →
      (f.write r).bind (Value.leaf? path) = (f.write r').bind (Value.leaf? path)) :
    (Value.table (entries fields r)).leaf? (key :: path) =
      (Value.table (entries fields r')).leaf? (key :: path) := by
  by_cases hkey : key ∈ fields.map RecordField.name
  · obtain ⟨f, hf, rfl⟩ := List.mem_map.mp hkey
    rw [leaf?_entries hnames hf, leaf?_entries hnames hf, h f hf rfl]
  · rw [leaf?_entries_of_not_mem hkey, leaf?_entries_of_not_mem hkey]

/-- What is not found keeps what the record started from. -/
theorem leaf?_of_not_found {key : String} (hc : codecs.FillsRecords) (hi : Independent fields)
    (hs : Shows fields shown) (hread : (codecs.record fields start).read value = .ok r)
    (hnone : found (shown.map RecordField.name) value key = none) (path : List String) :
    (Value.table (entries shown r)).leaf? (key :: path) =
      (Value.table (entries shown start)).leaf? (key :: path) := by
  refine leaf?_congr hs.nodup ?_
  rintro g hg rfl
  obtain ⟨f, hf, hname⟩ := hs.exists_field hg
  have hfilled := read_filled hc hi hs hread hf hg hname
  rw [hnone] at hfilled
  rw [show g.write r = g.write start from hfilled]

/-- What is found was read. -/
theorem leaf?_of_found {β : Type} {codec codec' : Codec β} {u : Value} (hc : codecs.FillsRecords)
    (hi : Independent fields) (hs : Shows fields shown)
    (hread : (codecs.record fields start).read value = .ok r)
    (hf : f ∈ fields) (hg : g ∈ shown) (hname : f.name = g.name)
    (hcarries : f.Carries g codec codec')
    (hfound : found (shown.map RecordField.name) value g.name = some u) :
    ∃ b, codec.read u = .ok b ∧ ∀ path,
      (Value.table (entries shown r)).leaf? (g.name :: path) = (codec'.write b).leaf? path := by
  have hfilled := read_filled hc hi hs hread hf hg hname
  rw [hfound] at hfilled
  obtain ⟨r₀, r₁, hr₁, hwrite⟩ := hfilled
  obtain ⟨b, hb, hwrite'⟩ := hcarries u r₀ r₁ hr₁
  refine ⟨b, hb, fun path => ?_⟩
  rw [leaf?_entries hs.nodup hg, hwrite, hwrite']
  rfl

end Record

namespace StyleSheet

/-- The text styles of a sheet and their paths. -/
def texts {α : Type} (s : StyleSheet α) : List (List String × TextStyle α) :=
  [(["tabs", "text_style"], s.tabs.text), (["segmented", "text_style"], s.segmented.text),
    (["badge", "text_style"], s.badge.text), (["tooltip", "text_style"], s.tooltip.text),
    (["tooltip", "title_style"], s.tooltip.title), (["tooltip", "body_style"], s.tooltip.body),
    (["text"], s.text)]

/-- A sheet as a document, with every field at its path, whatever library the sheet was read by. -/
def tree (s : StyleSheet Num) : Value := sheetKind.tree s

theorem texts_eq (s : StyleSheet Num) :
    s.texts = tables.flatMap fun t => (t.texts (t.get s)).map fun p => (t.key :: p.1, p.2) := rfl

theorem filled_texts (s : StyleSheet Num) :
    s.filled.texts = s.texts.map fun p => (p.1, p.2.orFamily s.fontFamily) := rfl

theorem filled_filled (s : StyleSheet Binary32) : s.filled.filled = s.filled := by
  have horFamily (t : TextStyle Binary32) (family : Option String) :
      (t.orFamily family).orFamily family = t.orFamily family := by
    cases h : t.family <;> cases family <;> simp [TextStyle.orFamily, h]
  simp only [filled, withFamily, horFamily]

section Checks

variable {α : Type} [Scalar α]

theorem validate_orFamily (t : TextStyle α) (family : Option String) :
    (t.orFamily family).validate false = t.validate false := by
  have hopen (t : TextStyle α) : ¬((false : Bool) = true ∧ t.family = none) :=
    fun h => Bool.false_ne_true h.1
  rw [TextStyle.validate, TextStyle.validate, if_neg (hopen _), if_neg (hopen _)]
  rfl

theorem forM_orFamily (texts : List (TextStyle α)) (family : Option String) :
    (texts.map (TextStyle.orFamily · family)).forM (fun t : TextStyle α => t.validate false) =
      texts.forM fun t : TextStyle α => t.validate false := by
  induction texts with
  | nil => rfl
  | cons t texts ih =>
    change ((t.orFamily family).validate false >>= fun _ => _) = (t.validate false >>= fun _ => _)
    rw [validate_orFamily, ih]

omit [Scalar α] in
theorem activeText_orFamily (s : TooltipStyle α) (family : Option String) :
    TooltipStyle.activeText
        { s with
          text := s.text.orFamily family
          title := s.title.orFamily family
          body := s.body.orFamily family } =
      s.activeText.map (TextStyle.orFamily · family) := by
  rw [TooltipStyle.activeText, TooltipStyle.activeText]
  cases s.variant <;> rfl

/-- A sheet is checked for all but families. -/
theorem validate_filled (s : StyleSheet α) : s.filled.validate = s.validate := by
  simp only [StyleSheet.validate, filled, withFamily, TabStyle.validate, SegmentStyle.validate,
    BadgeStyle.validate, TooltipStyle.validate, validate_orFamily, activeText_orFamily,
    forM_orFamily]
  rfl

end Checks

section Tables

variable {ρ : Type} {fields : List (RecordField ρ)} {r : ρ}

/-- The same but for families. -/
def FamilyApart (v w : Value) : Prop :=
  ∀ path : List String, path.getLast? ≠ some "family" → v.leaf? path = w.leaf? path

theorem familyApart_text (t : TextStyle Num) (family : Option String) :
    FamilyApart (textTable.tree (t.orFamily family)) (textTable.tree t) := by
  rintro (_ | ⟨key, path⟩) hpath
  · rfl
  refine Record.leaf?_congr (names_nodup .own (mem_kinds textTable_mem)) ?_
  change ∀ f ∈ textFields .own, _
  simp only [textFields, List.forall_mem_cons]
  refine ⟨?_, fun _ => rfl, fun _ => rfl, fun _ => rfl, fun _ => rfl, List.forall_mem_nil _⟩
  rintro rfl
  cases path with
  | nil => exact (hpath rfl).elim
  | cons next path =>
    have hnone (o : Option String) :
        (o.map Value.string).bind (Value.leaf? (next :: path)) = none := by
      cases o <;> rfl
    exact (hnone _).trans (hnone _).symm

theorem familyApart_record {r r' : ρ} (hnames : (fields.map RecordField.name).Nodup)
    (h : ∀ f ∈ fields, f.write r = f.write r' ∨
      ∃ v w, f.write r = some v ∧ f.write r' = some w ∧ FamilyApart v w) :
    FamilyApart (.table (Record.entries fields r)) (.table (Record.entries fields r')) := by
  rintro (_ | ⟨key, path⟩) hpath
  · rfl
  refine Record.leaf?_congr hnames fun f hf _ => ?_
  rcases h f hf with heq | ⟨v, w, hv, hw, hvw⟩
  · rw [heq]
  · rw [hv, hw]
    refine hvw path fun hlast => hpath ?_
    rw [List.getLast?_cons, hlast]
    rfl

/-- The fields of a style are as they were, but for the text styles. -/
theorem write_mapTexts (family : Option String) : ∀ t ∈ widgetTables, ∀ r, ∀ f ∈ t.fields .own,
    f.write (t.mapTexts (·.orFamily family) r) = f.write r ∨
      ∃ v w, f.write (t.mapTexts (·.orFamily family) r) = some v ∧ f.write r = some w ∧
        FamilyApart v w := by
  refine forall_widgetTables (fun r => (?_ : ∀ f ∈ tabFields .own, _))
    (fun r => (?_ : ∀ f ∈ segmentFields .own, _)) (fun r => (?_ : ∀ f ∈ badgeFields .own, _))
    fun r => (?_ : ∀ f ∈ tooltipFields .own, _)
  all_goals
    simp only [tabFields, segmentFields, badgeFields, tooltipFields, List.forall_mem_cons]
    repeat' apply And.intro
  all_goals first
    | exact .inl rfl
    | exact .inr ⟨_, _, rfl, rfl, familyApart_text _ _⟩
    | exact List.forall_mem_nil _

theorem familyApart_tables (family : Option String) : ∀ t ∈ tables, ∀ r,
    FamilyApart (t.tree (t.mapTexts (·.orFamily family) r)) (t.tree r) :=
  forall_tables
    (fun t ht r => familyApart_record (names_nodup .own (mem_kinds (widget_mem ht)))
      (write_mapTexts family t ht r))
    fun r => familyApart_text r family

theorem get_filled (s : StyleSheet Num) : ∀ t ∈ tables,
    t.get s.filled = t.mapTexts (·.orFamily s.fontFamily) (t.get s) :=
  forall_tables (forall_widgetTables rfl rfl rfl rfl) rfl

theorem familyApart_filled (s : StyleSheet Num) : FamilyApart s.filled.tree s.tree := by
  refine familyApart_record (names_nodup .own sheetKind_mem) ?_
  change ∀ f ∈ sheetFields .own, _
  rw [sheetFields_eq, List.forall_mem_cons, List.forall_mem_map]
  refine ⟨.inl rfl, fun t ht => .inr ⟨t.tree (t.get s.filled), t.tree (t.get s), rfl, rfl, ?_⟩⟩
  rw [get_filled s t ht]
  exact familyApart_tables _ t ht _

theorem leaf?_family (t : TextStyle Num) :
    (textTable.tree t).leaf? ["family"] = t.family.map .string := by
  have hleaf := Record.leaf?_entries (names_nodup .own (mem_kinds textTable_mem))
    (List.mem_of_getElem? (i := 0) rfl) t []
  refine hleaf.trans ?_
  change (t.family.map Value.string).bind (Value.leaf? []) = _
  cases t.family <;> rfl

theorem leaf?_text {kind : RecordKind} (hkind : kind ∈ kinds) {f : RecordField kind.Carrier}
    (hf : f ∈ kind.fields .own) {r : kind.Carrier} {t : TextStyle Num}
    (hwrite : f.write r = some (textTable.tree t)) :
    (kind.tree r).leaf? [f.name, "family"] = t.family.map .string := by
  rw [RecordKind.tree, Record.leaf?_entries (names_nodup .own hkind) hf, hwrite]
  exact leaf?_family t

/-- Each text style of a style stands at its path. -/
theorem leaf?_tableTexts : ∀ t ∈ tables, ∀ r, ∀ p ∈ t.texts r,
    (t.tree r).leaf? (p.1 ++ ["family"]) = p.2.family.map .string := by
  have hkind {i : Nat} {t : StyleTable} (h : widgetTables[i]? = some t) : t.toRecordKind ∈ kinds :=
    mem_kinds (widget_mem (List.mem_of_getElem? h))
  refine forall_tables (forall_widgetTables (fun r => List.forall_mem_singleton.mpr ?_)
    (fun r => List.forall_mem_singleton.mpr ?_) (fun r => List.forall_mem_singleton.mpr ?_)
    fun r => ?_) fun r => List.forall_mem_singleton.mpr (leaf?_family r)
  · exact leaf?_text (hkind (i := 0) rfl) (List.mem_of_getElem? (i := 11) rfl) rfl
  · exact leaf?_text (hkind (i := 1) rfl) (List.mem_of_getElem? (i := 8) rfl) rfl
  · exact leaf?_text (hkind (i := 2) rfl) (List.mem_of_getElem? (i := 2) rfl) rfl
  · have htooltip := hkind (i := 3) rfl
    simp only [tooltipTable, List.forall_mem_cons]
    exact ⟨leaf?_text htooltip (List.mem_of_getElem? (i := 9) rfl) rfl,
      leaf?_text htooltip (List.mem_of_getElem? (i := 10) rfl) rfl,
      leaf?_text htooltip (List.mem_of_getElem? (i := 11) rfl) rfl, List.forall_mem_nil _⟩

theorem leaf?_texts (s : StyleSheet Num) :
    ∀ p ∈ s.texts, s.tree.leaf? (p.1 ++ ["family"]) = p.2.family.map .string := by
  rw [texts_eq]
  intro p hp
  obtain ⟨t, ht, hp⟩ := List.mem_flatMap.mp hp
  obtain ⟨q, hq, rfl⟩ := List.mem_map.mp hp
  refine (Record.leaf?_entries (names_nodup .own sheetKind_mem) (field_mem .own ht) s _).trans ?_
  exact leaf?_tableTexts t ht (t.get s) q hq

end Tables

end StyleSheet

end Widgetry
