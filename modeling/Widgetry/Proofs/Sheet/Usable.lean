import Widgetry.Proofs.Constructors
import Widgetry.Proofs.Sheet.Defaults

/-! Sheets that name a family. A sheet is checked with families left open and then has them filled
in; after that nothing is left for a constructor to refuse. -/
namespace Widgetry

section Checks

variable {α : Type} [Scalar α]

theorem TabStyle.validate_true_iff {s : TabStyle α} :
    s.validate true = .ok () ↔ s.text.family ≠ none ∧ s.validate false = .ok () := by
  simp only [TabStyle.validate, Validate.seq_eq_ok, TextStyle.validate_true_iff]
  tauto

theorem SegmentStyle.validate_true_iff {s : SegmentStyle α} :
    s.validate true = .ok () ↔ s.text.family ≠ none ∧ s.validate false = .ok () := by
  simp only [SegmentStyle.validate, Validate.seq_eq_ok, TextStyle.validate_true_iff]
  tauto

theorem TooltipStyle.validate_true_iff {s : TooltipStyle α} :
    s.validate true = .ok () ↔
      (∀ t ∈ s.activeText, t.family ≠ none) ∧ s.validate false = .ok () := by
  simp only [TooltipStyle.validate, Validate.seq_eq_ok, Validate.require_eq_ok,
    Validate.all_eq_ok, TextStyle.validate_true_iff, imp_and, forall_and]
  tauto

end Checks

namespace StyleSheet

variable {s : StyleSheet Binary32}

/-- A widget of every kind can be made in the styles of the sheet, whatever fonts the backend has
already. -/
structure Usable (s : StyleSheet Binary32) : Prop where
  tabs : ∀ (items : List String) (selected : Option Nat), Fits items.length selected →
    Succeeds (TabRow.create s.tabs items selected .idle .idle :
      HostM (Monospace Binary32) (TabRow Binary32 (Monospace Binary32) (Timing Binary32)))
  segments : ∀ (items : List String) (selection : Selection), selection.Ranged items.length →
    Succeeds (SegmentGroup.create s.segmented items selection : HostM (Monospace Binary32) _)
  label : ∀ text : String, Succeeds (Label.create s.text text : HostM (Monospace Binary32) _)
  badge : ∀ label : Option String,
    Succeeds (Badge.create s.badge label : HostM (Monospace Binary32) _)
  tooltip : ∀ (anchor : TooltipAnchor Binary32) (placement : TooltipPlacement) (body : String),
    anchor.Sound →
      Succeeds (Tooltip.create s.tooltip anchor placement body : HostM (Monospace Binary32) _)

/-- Every text style names a family. -/
def Named (s : StyleSheet Binary32) : Prop := ∀ p ∈ s.texts, p.2.family ≠ none

theorem named_filled (h : s.fontFamily ≠ none) : s.filled.Named := by
  obtain ⟨family, hfamily⟩ := Option.ne_none_iff_exists'.mp h
  intro p hp
  rw [filled_texts] at hp
  obtain ⟨q, -, rfl⟩ := List.mem_map.mp hp
  rw [TextStyle.orFamily, hfamily]
  cases q.2.family with
  | none => exact Option.some_ne_none family
  | some own => exact Option.some_ne_none own

theorem Named.activeText (h : s.Named) : ∀ t ∈ s.tooltip.activeText, t.family ≠ none := by
  have htext := h (["tooltip", "text_style"], s.tooltip.text) (by simp [texts])
  have htitle := h (["tooltip", "title_style"], s.tooltip.title) (by simp [texts])
  have hbody := h (["tooltip", "body_style"], s.tooltip.body) (by simp [texts])
  unfold TooltipStyle.activeText
  cases s.tooltip.variant with
  | plain => simpa using htext
  | rich => simpa using And.intro htitle hbody

/-- What a sheet is checked for, and families, are all that widgets are checked for. -/
theorem Named.usable (h : s.Named) (hvalid : s.validate = .ok ()) : s.Usable := by
  obtain ⟨htabs, hvalid⟩ := Validate.seq_eq_ok.mp hvalid
  obtain ⟨hsegments, hvalid⟩ := Validate.seq_eq_ok.mp hvalid
  obtain ⟨hbadge, hvalid⟩ := Validate.seq_eq_ok.mp hvalid
  obtain ⟨htooltip, htext⟩ := Validate.seq_eq_ok.mp hvalid
  have htabs := TabStyle.validate_true_iff.mpr ⟨h (_, s.tabs.text) (.head _), htabs⟩
  have hsegments := SegmentStyle.validate_true_iff.mpr
    ⟨h (_, s.segmented.text) (.tail _ (.head _)), hsegments⟩
  have htooltip := TooltipStyle.validate_true_iff.mpr ⟨h.activeText, htooltip⟩
  have htext := TextStyle.validate_true_iff.mpr ⟨h (["text"], s.text) (by simp [texts]), htext⟩
  exact {
    tabs := fun items selected hi => TabRow.succeeds_create htabs hi _ _
    segments := fun items selection hs => SegmentGroup.succeeds_create hsegments hs
    label := Label.succeeds_create htext
    badge := Badge.succeeds_create hbadge
    tooltip := fun anchor placement body ha => Tooltip.succeeds_create htooltip ha placement body }

variable {lib : Toml.Library}

/-- A family that the document sets is read. -/
theorem fontFamily_of_given (hc : lib.codecs.FillsRecords) {document : Toml.Value}
    (hread : (codec lib.codecs).read document = .ok s)
    (hset : (given? ["font_family"] document).isSome) : s.fontFamily ≠ none := by
  have hfamily : ∀ codecs, RecordField.optional "font_family" codecs.string StyleSheet.fontFamily
      (fun v s => { s with fontFamily := v }) ∈ sheetFields codecs := fun _ => .head _
  have hfilled := Record.read_filled hc (independent lib.codecs sheetKind_mem)
    (shows lib.codecs .own sheetKind_mem) hread (hfamily lib.codecs) (hfamily .own) rfl
  rw [given?, givenBelow, keysAt] at hset
  change RecordField.Filled _ _ (Record.found sheetKind.keys document "font_family") _ _ at hfilled
  cases hfound : Record.found sheetKind.keys document "font_family" with
  | none =>
    rw [hfound] at hset
    exact (Bool.false_ne_true hset).elim
  | some v =>
    rw [hfound] at hfilled
    obtain ⟨r₀, r₁, hr₁, hwrite⟩ := hfilled
    obtain ⟨family, -, rfl⟩ := RecordField.read_optional hr₁
    intro hnone
    change s.fontFamily.map Toml.Value.string = some (.string family) at hwrite
    rw [hnone] at hwrite
    exact Option.some_ne_none _ hwrite.symm

/-- A sheet that was read from a document with a family, whatever library reads it, serves every
constructor. -/
theorem usable_of_parse (lib : Toml.Library) (hrecords : lib.codecs.FillsRecords) (source : String)
    (entries : List (String × Toml.Value)) (s : StyleSheet Binary32)
    (hread : lib.read source = .ok entries)
    (hset : (given? ["font_family"] (.table entries)).isSome) (hparse : parse lib source = .ok s) :
    s.Usable := by
  obtain ⟨entries', hread', hdocument⟩ := exists_document_of_parse hparse
  obtain rfl : entries' = entries := Except.ok.inj (hread'.symm.trans hread)
  obtain ⟨unfilled, hunfilled, rfl⟩ := exists_unfilled_of_ofDocument hdocument
  have hfamily := fontFamily_of_given hrecords hunfilled hset
  exact (named_filled hfamily).usable (validate_of_ofDocument hdocument)

theorem usable_of_parse_unbounded :
    let source := "font_family = \"Sans\"\n[tabs]\nmode = \"scrollable\"\n" ++
      "min_width = inf\npadding.left = nan\n"
    Codecs.own.FillsRecords ∧ ∃ entries s, Toml.Library.own.read source = .ok entries ∧
      (given? ["font_family"] (.table entries)).isSome ∧ parse .own source = .ok s ∧
      s.tabs.minWidth = .infinite false ∧ s.tabs.padding.left = .nan ∧ s.Usable := by
  intro source
  have hset : (match Toml.Library.own.read source with
      | .ok entries => (given? ["font_family"] (.table entries)).isSome
      | .error _ => false) = true := by decide +kernel
  have hstyle : (match parse .own source with
      | .ok s => decide (s.tabs.minWidth = .infinite false ∧ s.tabs.padding.left = .nan)
      | .error _ => false) = true := by decide +kernel
  rcases hread : Toml.Library.own.read source with e | entries
  all_goals rw [hread] at hset
  · exact nomatch hset
  rcases hparse : parse .own source with e | s
  all_goals rw [hparse] at hstyle
  · exact nomatch hstyle
  obtain ⟨hwidth, hleft⟩ := of_decide_eq_true hstyle
  exact ⟨Codecs.own_fillsRecords, entries, s, rfl, hset, rfl, hwidth, hleft,
    usable_of_parse .own Codecs.own_fillsRecords source entries s hread hset hparse⟩

end StyleSheet

end Widgetry
