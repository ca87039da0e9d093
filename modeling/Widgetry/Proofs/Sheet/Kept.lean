import Widgetry.Proofs.Sheet.Lawful

/-! Values that are the same after they were written into a document, read from its text and turned
back into records. -/
namespace Widgetry

open Toml (Value)
open Toml.Printer (isTable)
open Toml.Reader (Bare)

namespace Codec

variable {β : Type} {c : Codec β} {depth : Nat} {b : β}

/-- The value can be printed, and what is read in its place is turned back into it. -/
structure Keeps (c : Codec β) (depth : Nat) (b : β) : Prop where
  printable : (c.write b).Printable depth
  read : ∀ v, v.Same (c.write b) → c.read v = .ok b

/-- Where a value is written on one line, it is read as it was written. -/
theorem keeps_of_onLine {v : Value} (hwrite : c.write b = v) (h : v.OnLine)
    (hread : c.read v = .ok b) : c.Keeps depth b where
  printable := hwrite ▸ h.printable depth
  read w hw := by
    rw [hwrite] at hw
    rw [hw.eq_of_plain h.not_table, hread]

variable {codecs : Codecs}

theorem keeps_string (hl : codecs.Lawful) (text : String) : codecs.string.Keeps depth text :=
  keeps_of_onLine (hl.write_string text) trivial (hl.read_string text)

theorem keeps_boolean (hl : codecs.Lawful) (b : Bool) : codecs.boolean.Keeps depth b :=
  keeps_of_onLine (hl.write_boolean b) trivial (hl.read_boolean b)

theorem keeps_number (hl : codecs.Lawful) (x : Binary32) : codecs.number.Keeps depth x := by
  refine keeps_of_onLine (hl.write_number x) trivial ?_
  rw [hl.read_number, x.convert_convert (by decide) (by decide) (by decide)]

theorem keeps_integer32 (hl : codecs.Lawful) {i : Int} (h : Short i) :
    codecs.integer32.Keeps depth i := by
  refine keeps_of_onLine (hl.write_integer i) ?_ (hl.read_integer i h)
  obtain ⟨hlow, hhigh⟩ := h
  simp only [Value.OnLine, Value.integerRange, Bool.and_eq_true, decide_eq_true_eq]
  omega

theorem keeps_variant (hl : codecs.Lawful) {ofName? : String → Option β} {name : β → String}
    (h : ofName? (name b) = some b) : (codecs.variant ofName? name).Keeps depth b :=
  keeps_of_onLine (hl.write_variant ofName? name b) trivial (hl.read_variant ofName? name _ b h)

end Codec

namespace RecordField

variable {ρ β : Type} {name : String} {codec : Codec β} {depth : Nat} {r r₀ : ρ}

/-- The field, as it is kept of `r`, turns `r₀` into `r₁`. -/
structure Restores (f : RecordField ρ) (depth : Nat) (r r₀ r₁ : ρ) : Prop where
  printable : ∀ v, f.write r = some v → v.Printable depth
  fill : ∀ found, Option.Rel Value.Same found (f.write r) → f.fill found r₀ = .ok r₁

theorem restores_plain {get : ρ → β} {set : β → ρ → ρ} (h : codec.Keeps depth (get r)) :
    (plain name codec get set).Restores depth r r₀ (set (get r) r₀) where
  printable v hv := Option.some.inj hv ▸ h.printable
  fill found hfound := by
    obtain ⟨hsame⟩ : Option.Rel Value.Same found (some (codec.write (get r))) := hfound
    change (codec.read _).map _ = _
    rw [h.read _ hsame]
    rfl

theorem restores_mandatory {get : ρ → β} {set : β → ρ → ρ} (h : codec.Keeps depth (get r)) :
    (mandatory name codec get set).Restores depth r r₀ (set (get r) r₀) := by
  have hplain : (plain name codec get set).Restores depth r r₀ (set (get r) r₀) := restores_plain h
  refine ⟨hplain.printable, fun found hfound => ?_⟩
  obtain ⟨hsame⟩ : Option.Rel Value.Same found (some (codec.write (get r))) := hfound
  exact hplain.fill _ (.some hsame)

/-- A field without a value is left out, and has none to start from. -/
theorem restores_optional {get : ρ → Option β} {set : Option β → ρ → ρ}
    (h : ∀ b, codec.Keeps depth b) (hnone : set none r₀ = r₀) :
    (optional name codec get set).Restores depth r r₀ (set (get r) r₀) := by
  have hwrite : (optional name codec get set).write r = (get r).map codec.write := rfl
  cases hget : get r with
  | none =>
    rw [hget] at hwrite
    constructor
    · intro v hv
      exact (Option.some_ne_none v (hv.symm.trans hwrite)).elim
    · intro found hfound
      rw [hwrite] at hfound
      cases hfound
      rw [hnone]
      rfl
  | some b =>
    rw [hget] at hwrite
    constructor
    · intro v hv
      rw [hwrite] at hv
      exact Option.some.inj hv ▸ (h b).printable
    · intro found hfound
      rw [hwrite] at hfound
      obtain ⟨hsame⟩ := hfound
      change (codec.read _).map _ = _
      rw [(h b).read _ hsame]
      rfl

end RecordField

namespace Record

/-- The fields, one after the other, turn one record into another. -/
inductive Restores {ρ : Type} (depth : Nat) (r : ρ) : List (RecordField ρ) → ρ → ρ → Prop
  | nil (r₀ : ρ) : Restores depth r [] r₀ r₀
  | cons {f : RecordField ρ} {fields : List (RecordField ρ)} {r₀ r₁ r₂ : ρ} :
    f.Restores depth r r₀ r₁ → Restores depth r fields r₁ r₂ →
    Restores depth r (f :: fields) r₀ r₂

variable {ρ : Type} {fields : List (RecordField ρ)} {depth : Nat} {start r r₀ r₁ : ρ}
  {codecs : Codecs}

theorem Restores.printable (h : Restores depth r fields r₀ r₁) :
    ∀ f ∈ fields, ∀ v, f.write r = some v → v.Printable depth := by
  induction h with
  | nil => exact List.forall_mem_nil _
  | cons hfirst _ ih => exact List.forall_mem_cons.mpr ⟨hfirst.printable, ih⟩

theorem Restores.fillAll {find : String → Option Value} (h : Restores depth r fields r₀ r₁)
    (hfind : ∀ f ∈ fields, Option.Rel Value.Same (find f.name) (f.write r)) :
    fillAll find fields r₀ = .ok r₁ := by
  induction h with
  | nil => rfl
  | cons hfirst _ ih =>
    obtain ⟨hf, hrest⟩ := List.forall_mem_cons.mp hfind
    rw [Record.fillAll, hfirst.fill _ hf]
    exact ih hrest

theorem mem_entries {entry : String × Value} (h : entry ∈ entries fields r) :
    ∃ f ∈ fields, f.write r = some entry.2 ∧ f.name = entry.1 := by
  obtain ⟨f, hf, hwrite⟩ := List.mem_filterMap.mp h
  obtain ⟨v, hv, rfl⟩ := Option.map_eq_some_iff.mp hwrite
  exact ⟨f, hf, hv, rfl⟩

/-- The keys of a record are names of fields. -/
theorem keys_sublist (fields : List (RecordField ρ)) (r : ρ) :
    ((entries fields r).map Prod.fst).Sublist (fields.map RecordField.name) := by
  induction fields with
  | nil => exact List.Sublist.refl _
  | cons f fs ih =>
    rw [entries, List.filterMap_cons]
    cases f.write r with
    | none => exact ih.cons _
    | some v => exact ih.cons_cons _

/-- The fields of a record that can be written: their names need no quotes. -/
structure Writable (fields : List (RecordField ρ)) : Prop where
  bare : ∀ name ∈ fields.map RecordField.name, Bare name
  independent : Independent fields

theorem Writable.keyed (h : Writable fields) (r : ρ) : Toml.Keyed (entries fields r) where
  bare entry hentry := by
    obtain ⟨f, hf, -, hname⟩ := mem_entries hentry
    rw [← hname]
    exact h.bare f.name (List.mem_map_of_mem hf)
  nodup := h.independent.nodup.sublist (keys_sublist fields r)

/-- The record is read from its entries, in whatever order they come. -/
theorem Restores.read (h : Restores depth r fields start r₁) (hl : codecs.Lawful)
    (hw : Writable fields) {v : Value} (hv : v.Same (.table (entries fields r))) :
    (codecs.record fields start).read v = .ok r₁ := by
  cases hv with
  | plain htable => exact (Bool.false_ne_true htable.symm).elim
  | table hnodup hlookup =>
    refine hl.read_record fields start r₁ _ hw.independent hnodup (h.fillAll fun f hf => ?_)
    have hsame := hlookup f.name
    rwa [lookup_entries hw.independent.nodup hf] at hsame

/-- A record with a value of its own that its fields restore. -/
theorem Restores.keeps (h : Restores depth r fields start r) (hl : codecs.Lawful)
    (hw : Writable fields) (hown : ∃ f ∈ fields, ∃ v, f.write r = some v ∧ isTable v = false) :
    (codecs.record fields start).Keeps (depth + 1) r where
  printable := by
    rw [hl.write_record]
    refine ⟨hw.keyed r, ?_, fun entry hentry => ?_⟩
    · obtain ⟨f, hf, v, hv, hvalue⟩ := hown
      exact ⟨(f.name, v), List.mem_filterMap.mpr ⟨f, hf, by rw [hv]; rfl⟩, hvalue⟩
    · obtain ⟨f, hf, hwrite, -⟩ := mem_entries hentry
      exact h.printable f hf _ hwrite
  read v hv := by
    rw [hl.write_record] at hv
    exact h.read hl hw hv

end Record

end Widgetry
