import Mathlib.Data.List.Basic
import Mathlib.Data.List.Nodup
import Widgetry.Sheet.Library

/-! Records field by field, read by any library that fills a record as it should. A field that a
value has nothing for keeps its default, and where no field touches what another one shows, each
field shows what its value has for it. -/
namespace Widgetry

open Toml (Value)

namespace RecordField

variable {ρ β : Type} {f g : RecordField ρ} {codec shown : Codec β} {name : String} {v : Value}
  {r r' : ρ}

theorem name_plain {get : ρ → β} {set : β → ρ → ρ} : (plain name codec get set).name = name := rfl

theorem name_optional {get : ρ → Option β} {set : Option β → ρ → ρ} :
    (optional name codec get set).name = name := rfl

theorem read_plain {get : ρ → β} {set : β → ρ → ρ}
    (h : (plain name codec get set).read v r = .ok r') :
    ∃ b, codec.read v = .ok b ∧ r' = set b r := by
  simp only [plain] at h
  cases hb : codec.read v with
  | error message =>
    rw [hb] at h
    exact nomatch h
  | ok b =>
    rw [hb] at h
    exact ⟨b, rfl, (Except.ok.inj h).symm⟩

theorem read_optional {get : ρ → Option β} {set : Option β → ρ → ρ}
    (h : (optional name codec get set).read v r = .ok r') :
    ∃ b, codec.read v = .ok b ∧ r' = set (some b) r := by
  simp only [optional] at h
  cases hb : codec.read v with
  | error message =>
    rw [hb] at h
    exact nomatch h
  | ok b =>
    rw [hb] at h
    exact ⟨b, rfl, (Except.ok.inj h).symm⟩

/-- Reading the one field leaves alone what the other one shows. -/
def Spares (f g : RecordField ρ) : Prop := ∀ v r r', f.read v r = .ok r' → g.write r' = g.write r

theorem spares_plain {get : ρ → β} {set : β → ρ → ρ} (h : ∀ b r, g.write (set b r) = g.write r) :
    (plain name codec get set).Spares g := by
  intro v r r' hread
  obtain ⟨b, -, rfl⟩ := read_plain hread
  exact h b r

theorem spares_mandatory {get : ρ → β} {set : β → ρ → ρ}
    (h : ∀ b r, g.write (set b r) = g.write r) : (mandatory name codec get set).Spares g :=
  (spares_plain h : (plain name codec get set).Spares g)

theorem spares_optional {get : ρ → Option β} {set : Option β → ρ → ρ}
    (h : ∀ b r, g.write (set b r) = g.write r) : (optional name codec get set).Spares g := by
  intro v r r' hread
  obtain ⟨b, -, rfl⟩ := read_optional hread
  exact h (some b) r

/-- What the one field reads by the one codec, the other one shows by the other codec. -/
def Carries (f g : RecordField ρ) (codec shown : Codec β) : Prop :=
  ∀ v r r', f.read v r = .ok r' → ∃ b, codec.read v = .ok b ∧ g.write r' = some (shown.write b)

theorem carries_plain {get : ρ → β} {set : β → ρ → ρ} (h : ∀ b r, get (set b r) = b) :
    (plain name codec get set).Carries (plain name shown get set) codec shown := by
  intro v r r' hread
  obtain ⟨b, hb, rfl⟩ := read_plain hread
  exact ⟨b, hb, congrArg (some <| shown.write ·) (h b r)⟩

/-- Reading the field keeps this true of the record. -/
def Preserves (f : RecordField ρ) (P : ρ → Prop) : Prop :=
  ∀ v r r', f.read v r = .ok r' → P r → P r'

theorem preserves_plain {P : ρ → Prop} {Q : β → Prop} {get : ρ → β} {set : β → ρ → ρ}
    (hcodec : ∀ v b, codec.read v = .ok b → Q b) (hset : ∀ b r, Q b → P r → P (set b r)) :
    (plain name codec get set).Preserves P := by
  intro v r r' hread hr
  obtain ⟨b, hb, rfl⟩ := read_plain hread
  exact hset b r (hcodec v b hb) hr

theorem preserves_untouched {P : ρ → Prop} {get : ρ → β} {set : β → ρ → ρ}
    (hset : ∀ b r, P r → P (set b r)) : (plain name codec get set).Preserves P :=
  preserves_plain (Q := fun _ => True) (fun _ _ _ => trivial) fun b r _ => hset b r

theorem preserves_optional {P : ρ → Prop} {get : ρ → Option β} {set : Option β → ρ → ρ}
    (hset : ∀ b r, P r → P (set b r)) : (optional name codec get set).Preserves P := by
  intro v r r' hread hr
  obtain ⟨b, -, rfl⟩ := read_optional hread
  exact hset (some b) r hr

/-- Filling a field reads what was found for it, or changes nothing. -/
theorem fill_cases {found : Option Value} (h : f.fill found r = .ok r') :
    (∃ v, found = some v ∧ f.read v r = .ok r') ∨ found = none ∧ r' = r := by
  cases found with
  | some v => exact .inl ⟨v, rfl, h⟩
  | none =>
    rw [fill] at h
    split at h
    · exact nomatch h
    · exact .inr ⟨rfl, (Except.ok.inj h).symm⟩

theorem Preserves.fill {P : ρ → Prop} {found : Option Value} (hf : f.Preserves P)
    (h : f.fill found r = .ok r') (hr : P r) : P r' := by
  obtain ⟨v, -, hread⟩ | ⟨-, rfl⟩ := fill_cases h
  · exact hf v r r' hread hr
  · exact hr

theorem Spares.fill {found : Option Value} (hs : f.Spares g) (h : f.fill found r = .ok r') :
    g.write r' = g.write r := by
  obtain ⟨v, -, hread⟩ | ⟨-, rfl⟩ := fill_cases h
  · exact hs v r r' hread
  · rfl

/-- What `g` shows of a record that `f` was filled in from what was found. -/
def Filled (f g : RecordField ρ) (found : Option Value) (start r : ρ) : Prop :=
  match found with
  | some v => ∃ r₀ r₁, f.read v r₀ = .ok r₁ ∧ g.write r = g.write r₁
  | none => g.write r = g.write start

theorem filled_of_fill {found : Option Value} (h : f.fill found r = .ok r') :
    f.Filled g found r r' := by
  obtain ⟨v, rfl, hread⟩ | ⟨rfl, rfl⟩ := fill_cases h
  · exact ⟨r, r', hread, rfl⟩
  · rfl

theorem Filled.of_write {found : Option Value} {start start' : ρ} (h : f.Filled g found start r)
    (hstart : g.write start' = g.write start) (hr : g.write r' = g.write r) :
    f.Filled g found start' r' := by
  cases found with
  | some v =>
    obtain ⟨r₀, r₁, hread, hwrite⟩ := h
    exact ⟨r₀, r₁, hread, hr.trans hwrite⟩
  | none => exact hr.trans (h.trans hstart.symm)

end RecordField

namespace Record

variable {ρ : Type}

/-- Fields to read a record by and fields to show it by: they have the same names, each but once,
and reading one of them leaves alone what is shown under another name. -/
structure Shows (fields shown : List (RecordField ρ)) : Prop where
  names : fields.map RecordField.name = shown.map RecordField.name
  nodup : (shown.map RecordField.name).Nodup
  apart : ∀ f ∈ fields, ∀ g ∈ shown, f.name ≠ g.name → f.Spares g

/-- Fields that show what is read for them, in whatever order they are read. -/
def Independent (fields : List (RecordField ρ)) : Prop := Shows fields fields

end Record

/-- What is asked of a library that reads records: in a record that was read, each field has what
was read for it, and its default where the value has nothing for it. -/
def Codecs.FillsRecords (codecs : Codecs) : Prop :=
  ∀ {ρ : Type} (fields : List (RecordField ρ)) (start r : ρ) (v : Value),
    Record.Independent fields → (codecs.record fields start).read v = .ok r →
      Record.fillAll (Record.found (fields.map RecordField.name) v) fields start = .ok r

theorem Codecs.own_fillsRecords : Codecs.own.FillsRecords := by
  intro ρ fields start r v _ h
  cases v with
  | table entries => exact h
  | array elements => exact h
  | datetime text => exact h
  | string text => exact nomatch h
  | integer i => exact nomatch h
  | float x => exact nomatch h
  | boolean b => exact nomatch h

namespace Record

variable {ρ : Type} {fields shown : List (RecordField ρ)} {f g : RecordField ρ} {start r : ρ}
  {find : String → Option Value} {value : Value} {codecs : Codecs}

theorem Shows.exists_field (h : Shows fields shown) (hg : g ∈ shown) :
    ∃ f ∈ fields, f.name = g.name := by
  have hmem := List.mem_map_of_mem (f := RecordField.name) hg
  rw [← h.names] at hmem
  exact List.mem_map.mp hmem

theorem fillAll_cons (h : fillAll find (f :: fields) start = .ok r) :
    ∃ mid, f.fill (find f.name) start = .ok mid ∧ fillAll find fields mid = .ok r := by
  rw [fillAll] at h
  cases hfill : f.fill (find f.name) start with
  | error message =>
    rw [hfill] at h
    exact nomatch h
  | ok mid =>
    rw [hfill] at h
    exact ⟨mid, rfl, h⟩

theorem fillAll_spares (hfields : ∀ f ∈ fields, f.Spares g)
    (h : fillAll find fields start = .ok r) : g.write r = g.write start := by
  induction fields generalizing start with
  | nil => rw [Except.ok.inj h]
  | cons f fs ih =>
    obtain ⟨hf, hfs⟩ := List.forall_mem_cons.mp hfields
    obtain ⟨mid, hfill, hrest⟩ := fillAll_cons h
    exact (ih hfs hrest).trans (hf.fill hfill)

/-- By induction on the fields: the one that goes by the name is filled, and the others leave alone
what is shown under it. -/
theorem fillAll_filled (hnodup : (fields.map RecordField.name).Nodup)
    (hspares : ∀ f ∈ fields, f.name ≠ g.name → f.Spares g)
    (h : fillAll find fields start = .ok r) (hf : f ∈ fields) (hname : f.name = g.name) :
    f.Filled g (find g.name) start r := by
  induction fields generalizing start with
  | nil => exact nomatch hf
  | cons first fs ih =>
    obtain ⟨hnot, hnodup⟩ := List.nodup_cons.mp hnodup
    obtain ⟨hfirst, hrest⟩ := List.forall_mem_cons.mp hspares
    obtain ⟨mid, hfill, hfills⟩ := fillAll_cons h
    have hother : ∀ other ∈ fs, other.name ≠ first.name := fun other hmem heq =>
      hnot (List.mem_map.mpr ⟨other, hmem, heq⟩)
    rcases List.mem_cons.mp hf with rfl | hmem
    · have hkept : g.write r = g.write mid :=
        fillAll_spares (fun other hmem => hrest other hmem (hname ▸ hother other hmem)) hfills
      rw [← hname]
      exact (RecordField.filled_of_fill hfill).of_write rfl hkept
    · have hne : first.name ≠ g.name := hname ▸ (hother f hmem).symm
      exact (ih hnodup hrest hfills hmem).of_write ((hfirst hne).fill hfill).symm rfl

theorem fillAll_preserves {P : ρ → Prop} (hfields : ∀ f ∈ fields, f.Preserves P) (hstart : P start)
    (h : fillAll find fields start = .ok r) : P r := by
  induction fields generalizing start with
  | nil => exact Except.ok.inj h ▸ hstart
  | cons f fs ih =>
    obtain ⟨hf, hfs⟩ := List.forall_mem_cons.mp hfields
    obtain ⟨mid, hfill, hrest⟩ := fillAll_cons h
    exact ih hfs (hf.fill hfill hstart) hrest

/-- A record that was read from any value. -/
theorem read_filled (hc : codecs.FillsRecords) (hi : Independent fields) (hs : Shows fields shown)
    (h : (codecs.record fields start).read value = .ok r) (hf : f ∈ fields) (hg : g ∈ shown)
    (hname : f.name = g.name) :
    f.Filled g (found (shown.map RecordField.name) value g.name) start r := by
  rw [← hs.names]
  exact fillAll_filled hi.nodup (fun other hmem => hs.apart other hmem g hg)
    (hc fields start r value hi h) hf hname

/-- What reading each field keeps true is true of a record that was read. -/
theorem read_preserves {P : ρ → Prop} (hc : codecs.FillsRecords) (hi : Independent fields)
    (hfields : ∀ f ∈ fields, f.Preserves P) (hstart : P start)
    (h : (codecs.record fields start).read value = .ok r) : P r :=
  fillAll_preserves hfields hstart (hc fields start r value hi h)

theorem lookup_entries_cons (g : RecordField ρ) (fs : List (RecordField ρ)) (name : String)
    (r : ρ) :
    List.lookup name (entries (g :: fs) r) =
      (if name = g.name then g.write r else none).or (List.lookup name (entries fs r)) := by
  rw [entries, List.filterMap_cons]
  cases g.write r with
  | none => rw [ite_self]; rfl
  | some v =>
    by_cases h : name = g.name
    · rw [if_pos h, h]
      exact List.lookup_cons_self
    · rw [if_neg h, Option.map_some, List.lookup_cons, beq_eq_false_iff_ne.mpr h]
      rfl

theorem lookup_entries_of_not_mem {name : String} (h : name ∉ fields.map RecordField.name) (r : ρ) :
    List.lookup name (entries fields r) = none := by
  induction fields with
  | nil => rfl
  | cons g fs ih =>
    rw [List.map_cons, List.mem_cons, not_or] at h
    rw [lookup_entries_cons, if_neg h.1, ih h.2]
    rfl

theorem lookup_entries (hnames : (fields.map RecordField.name).Nodup) (hf : f ∈ fields) (r : ρ) :
    List.lookup f.name (entries fields r) = f.write r := by
  induction fields with
  | nil => exact nomatch hf
  | cons g fs ih =>
    obtain ⟨hg, hfs⟩ := List.nodup_cons.mp hnames
    rw [lookup_entries_cons]
    rcases List.mem_cons.mp hf with rfl | hmem
    · rw [if_pos rfl, lookup_entries_of_not_mem hg, Option.or_none]
    · have hne : f.name ≠ g.name := fun h => hg (List.mem_map.mpr ⟨f, hmem, h⟩)
      rw [if_neg hne, ih hfs hmem]
      rfl

end Record

end Widgetry
