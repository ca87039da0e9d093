import Widgetry.Proofs.Sheet.Record
import Widgetry.Proofs.Toml.Document

/-! What a library is asked for so that a record that is written can be read again: what it makes of
texts, numbers and records, and that the text that it prints for a document stands for it. -/
namespace Widgetry

open Toml (Value Keyed)

/-- Every number of a format is one of a wider format. -/
theorem Binary.convert_convert {f g : Format} (hprecision : f.precision ≤ g.precision)
    (hscale : f.scale ≤ g.scale) (htop : f.top + (g.scale - f.scale) ≤ g.top) (x : Binary f) :
    (convert (convert x : Binary g) : Binary f) = x := by
  cases x with
  | nan => rfl
  | infinite neg => rfl
  | finite neg mag h =>
    obtain ⟨k, hk⟩ := Nat.exists_eq_add_of_le hscale
    have hgrid : mag / 2 ^ f.grid mag * 2 ^ f.grid mag = mag := Nat.div_mul_cancel h.2
    have hdigits : mag / 2 ^ f.grid mag < 2 ^ g.precision :=
      Nat.lt_of_lt_of_le (Format.div_grid_lt mag) (Nat.pow_le_pow_right (by decide) hprecision)
    have hexact := Format.exact_mul_pow hdigits (f.grid mag + k)
    rw [Nat.pow_add, ← Nat.mul_assoc, hgrid] at hexact
    have hrange : mag * 2 ^ k < 2 ^ g.top := by
      refine Nat.lt_of_lt_of_le (Nat.mul_lt_mul_of_pos_right h.1 (Nat.two_pow_pos k)) ?_
      rw [← Nat.pow_add]
      exact Nat.pow_le_pow_right (by decide) (by omega)
    refine convert_ofSteps neg mag h (n := mag * 2 ^ k) ⟨hrange, hexact⟩ ?_
    rw [Nat.mul_assoc, ← Nat.pow_add, hk, Nat.add_comm k]

/-- What 32 bits hold. -/
def Short (i : Int) : Prop := -0x80000000 ≤ i ∧ i < 0x80000000

instance (i : Int) : Decidable (Short i) := inferInstanceAs (Decidable (_ ∧ _))

/-- What is asked of a library that writes records and reads them again. Numbers are widened when
they are written and rounded when they are read, a variant is written by its name, and a record as
the table of its fields; of that table a record is read whatever the order of its keys. -/
structure Codecs.Lawful (codecs : Codecs) : Prop where
  write_string : ∀ text, codecs.string.write text = .string text
  read_string : ∀ text, codecs.string.read (.string text) = .ok text
  write_boolean : ∀ b, codecs.boolean.write b = .boolean b
  read_boolean : ∀ b, codecs.boolean.read (.boolean b) = .ok b
  write_integer : ∀ i, codecs.integer32.write i = .integer i
  read_integer : ∀ i, Short i → codecs.integer32.read (.integer i) = .ok i
  short_integer : ∀ v i, codecs.integer32.read v = .ok i → Short i
  write_number : ∀ x, codecs.number.write x = .float x.convert
  read_number : ∀ y, codecs.number.read (.float y) = .ok y.convert
  write_variant : ∀ {β : Type} (ofName? : String → Option β) (name : β → String) (b : β),
    (codecs.variant ofName? name).write b = .string (name b)
  read_variant : ∀ {β : Type} (ofName? : String → Option β) (name : β → String) (text : String)
    (b : β), ofName? text = some b → (codecs.variant ofName? name).read (.string text) = .ok b
  write_record : ∀ {ρ : Type} (fields : List (RecordField ρ)) (start r : ρ),
    (codecs.record fields start).write r = .table (Record.entries fields r)
  read_record : ∀ {ρ : Type} (fields : List (RecordField ρ)) (start r : ρ)
    (entries : List (String × Value)), Record.Independent fields →
    (entries.map Prod.fst).Nodup → Record.fillAll (List.lookup · entries) fields start = .ok r →
    (codecs.record fields start).read (.table entries) = .ok r

/-- What is asked of a library that prints documents and reads them again: a document of tables that
are nested no deeper than those of a sheet has a text, and what is read from that text is the
document again, but for the order of keys. -/
def Toml.Library.RoundTrips (lib : Toml.Library) : Prop :=
  ∀ entries, Keyed entries → (∀ entry ∈ entries, entry.2.Printable 3) →
    ∃ text, lib.print (.table entries) = .ok text ∧ ∃ entries', lib.read text = .ok entries' ∧
      (Value.table entries').Same (.table entries)

theorem Codecs.own_lawful : Codecs.own.Lawful where
  write_string _ := rfl
  read_string _ := rfl
  write_boolean _ := rfl
  read_boolean _ := rfl
  write_integer _ := rfl
  read_integer _ h := if_pos h
  short_integer v i h := by
    cases v with
    | integer j =>
      change (if Short j then Except.ok j else _) = _ at h
      split at h
      next hshort => exact Except.ok.inj h ▸ hshort
      next => exact nomatch h
    | string text => exact nomatch h
    | float x => exact nomatch h
    | boolean b => exact nomatch h
    | datetime text => exact nomatch h
    | array elements => exact nomatch h
    | table entries => exact nomatch h
  write_number _ := rfl
  read_number _ := rfl
  write_variant _ _ _ := rfl
  read_variant ofName? name text b h := by
    simp only [own, Codec.variant, Codec.variantName, bind, Except.bind, h]
  write_record _ _ _ := rfl
  read_record _ _ _ _ _ _ h := h

theorem Toml.Library.own_roundTrips : Toml.Library.own.RoundTrips := by
  intro entries hkeyed hvalues
  have hread := Toml.read_document hkeyed (by decide : 3 ≤ Toml.Reader.depthLimit) hvalues
  refine ⟨_, rfl, Toml.settledEntries entries, ?_, ?_⟩
  · change (Toml.read (Toml.Printer.document (.table entries))).mapError _ = _
    rw [hread]
    rfl
  · exact Toml.settled_same_table hkeyed fun entry hentry => (hvalues entry hentry).settled_same

end Widgetry
