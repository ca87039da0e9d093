import Mathlib.Data.List.Nodup
import Widgetry.Proofs.Toml.Reader
import Widgetry.Proofs.Toml.Table

/-! A document that was written is read back. In each of its tables the values come first then, and
the tables below it after them. -/
namespace Widgetry.Toml

open Printer (isTable)
open Reader (Bare Inlined Place Passes Through pointed depthLimit)

/-- The values that a table holds itself. -/
def ownNodes : List (String × Value) → Entries
  | [] => []
  | (key, value) :: rest =>
    if isTable value then ownNodes rest else (key, .leaf value) :: ownNodes rest

mutual

/-- What is kept of a value that is read from its text. -/
def Value.node : Value → Node
  | .table entries => .table .header (ownNodes entries ++ nodesBelow entries)
  | value => .leaf value

/-- The tables below a table. -/
def nodesBelow : List (String × Value) → Entries
  | [] => []
  | (key, value) :: rest =>
    if isTable value then (key, value.node) :: nodesBelow rest else nodesBelow rest

end

/-- A value after it was written and read: its tables are in another order. -/
def Value.settled (value : Value) : Value := value.node.toValue

/-- Values with a text on one line that stands for them. -/
def Value.OnLine : Value → Prop
  | .string _ | .float _ | .boolean _ => True
  | .integer i => integerRange i = true
  | _ => False

/-- Keys without quotes, each but once. -/
structure Keyed (entries : List (String × Value)) : Prop where
  bare : ∀ entry ∈ entries, Bare entry.1
  nodup : (entries.map Prod.fst).Nodup

/-- Tables that hold a value of their own, nested so deep, and other values on one line. -/
def Value.Printable : Nat → Value → Prop
  | depth + 1, .table entries => Keyed entries ∧ (∃ entry ∈ entries, isTable entry.2 = false) ∧
      ∀ entry ∈ entries, Printable depth entry.2
  | _, value => value.OnLine

variable {entries : List (String × Value)} {value : Value} {key : String} {depth : Nat}

theorem Value.OnLine.inlined (h : value.OnLine) : Inlined (Printer.inlined value).toList value := by
  cases value with
  | string text => exact Reader.inlined_text text
  | integer i => exact Reader.inlined_token (Literal.stands_integer h)
  | float x => exact Reader.inlined_token (Literal.stands_float x)
  | boolean b => exact Reader.inlined_token (Literal.stands_boolean b)
  | datetime text => exact h.elim
  | array elements => exact h.elim
  | table entries => exact h.elim

theorem Value.OnLine.printable (h : value.OnLine) (depth : Nat) :
    value.Printable depth := by
  cases value with
  | table entries => exact h.elim
  | _ => cases depth <;> exact h

theorem Value.OnLine.not_table (h : value.OnLine) : isTable value = false := by
  cases value with
  | table entries => exact h.elim
  | _ => rfl

theorem Value.Printable.onLine (h : value.Printable depth) (hvalue : isTable value = false) :
    value.OnLine := by
  cases value with
  | table entries => exact (Bool.false_ne_true hvalue.symm).elim
  | _ => cases depth <;> exact h

theorem key_eq (h : Bare key) : Printer.key key = key := by
  have hempty : key.isEmpty = false := by
    rw [Bool.eq_false_iff, ne_eq, String.isEmpty_iff]
    rintro rfl
    exact h.ne_empty rfl
  have hall : key.toList.any (! Printer.isBareKeyChar ·) = false := by
    rw [List.any_eq_false]
    intro c hc
    have hbare : Printer.isBareKeyChar c = true := h.bare c hc
    rw [hbare]
    decide
  rw [Printer.key, hempty, hall]
  rfl

/-- The text of a block. -/
def blockText (lines : List String) : List Char := lines.flatMap fun line => line.toList ++ ['\n']

theorem toList_document (value : Value) : (Printer.document value).toList =
    List.intercalate ['\n'] ((Printer.blocks [] value).map blockText) := by
  rw [Printer.document, String.toList_intercalate, List.map_map]
  congr 2
  funext lines
  simp [blockText, List.flatMap_map]

theorem intercalate_pointed (path : List String) (key : String) :
    List.intercalate ['.'] ((path ++ [key]).map String.toList) = pointed path ++ key.toList := by
  induction path with
  | nil => exact List.intercalate_singleton
  | cons part path ih =>
    have hnext : ∃ next rest, (path ++ [key]).map String.toList = next :: rest := by
      cases path with
      | nil => exact ⟨_, _, rfl⟩
      | cons next path => exact ⟨_, _, rfl⟩
    obtain ⟨next, rest, hnext⟩ := hnext
    rw [List.cons_append, List.map_cons, hnext, List.intercalate_cons_cons, ← hnext, ih, pointed,
      pointed, List.flatMap_cons, List.append_assoc, List.append_assoc, List.append_assoc]

theorem toList_header {path : List String} (hpath : ∀ part ∈ path, Bare part) (hkey : Bare key) :
    (Printer.header (path ++ [key])).toList = '[' :: (pointed path ++ (key.toList ++ [']'])) := by
  have hkeys : (path ++ [key]).map Printer.key = path ++ [key] := by
    refine (List.map_congr_left (g := id) fun part hpart => ?_).trans (List.map_id _)
    rcases List.mem_append.mp hpart with hpart | hpart
    · exact key_eq (hpath part hpart)
    · rw [List.mem_singleton.mp hpart]
      exact key_eq hkey
  rw [Printer.header, hkeys, String.toList_append, String.toList_append, String.toList_intercalate]
  change '[' :: (List.intercalate ['.'] _ ++ [']']) = _
  rw [intercalate_pointed, List.append_assoc]

section Own

variable {around : Entries.Around} {cur : Entries}

theorem key_ne_of_mem {other : String × Value} (hnot : key ∉ entries.map Prod.fst)
    (hother : other ∈ entries) : other.1 ≠ key := by
  rintro rfl
  exact hnot (List.mem_map_of_mem hother)

theorem own_subset {part : String} (h : part ∈ (ownNodes entries).map Prod.fst) :
    ∃ entry ∈ entries, entry.1 = part ∧ isTable entry.2 = false := by
  induction entries with
  | nil => exact (List.not_mem_nil h).elim
  | cons entry rest ih =>
    rw [ownNodes] at h
    split at h
    next =>
      obtain ⟨other, hmem, hother⟩ := ih h
      exact ⟨other, List.mem_cons_of_mem _ hmem, hother⟩
    next htable =>
      rcases List.mem_cons.mp h with rfl | hrest
      · exact ⟨entry, List.mem_cons_self, rfl, Bool.eq_false_iff.mpr htable⟩
      · obtain ⟨other, hmem, hother⟩ := ih hrest
        exact ⟨other, List.mem_cons_of_mem _ hmem, hother⟩

/-- By induction on the values, each is one line. -/
theorem passes_ownLines (cur : Entries) (haround : around.Fresh) (hkeyed : Keyed entries)
    (hvalues : ∀ entry ∈ entries, isTable entry.2 = false → entry.2.OnLine)
    (hcur : ∀ entry ∈ entries, entry.1 ∉ cur.map Prod.fst) :
    Passes (around.path, around.plug cur) (blockText (Printer.ownLines entries))
      (around.path, around.plug (cur ++ ownNodes entries)) := by
  induction entries generalizing cur with
  | nil =>
    rw [ownNodes, List.append_nil]
    exact Reader.passes_nil _
  | cons entry rest ih =>
    obtain ⟨key, value⟩ := entry
    obtain ⟨hkey, hbare⟩ := List.forall_mem_cons.mp hkeyed.bare
    obtain ⟨hvalue, hvalues⟩ := List.forall_mem_cons.mp hvalues
    obtain ⟨hfresh, hcur⟩ := List.forall_mem_cons.mp hcur
    obtain ⟨hnot, hnodup⟩ := List.nodup_cons.mp hkeyed.nodup
    rw [Printer.ownLines, ownNodes]
    split
    next => exact ih cur ⟨hbare, hnodup⟩ hvalues hcur
    next htable =>
      have hline := (hvalue (Bool.eq_false_iff.mpr htable)).inlined
      have hassign := haround.assign hfresh value
      have htext : ((Printer.key key ++ " = " ++ Printer.inlined value).toList ++ ['\n']) =
          key.toList ++ ' ' :: '=' :: ' ' :: ((Printer.inlined value).toList ++ ['\n']) := by
        rw [key_eq hkey]
        simp
      rw [blockText, List.flatMap_cons, htext, List.append_cons cur]
      refine (Reader.passes_pair hkey hline hassign).append ?_
      refine ih _ ⟨hbare, hnodup⟩ hvalues fun other hother => ?_
      exact Entries.not_mem_append (hcur other hother) (key_ne_of_mem hnot hother)

theorem ownLines_ne_nil (h : ∃ entry ∈ entries, isTable entry.2 = false) :
    Printer.ownLines entries ≠ [] := by
  obtain ⟨entry, hmem, hvalue⟩ := h
  induction entries with
  | nil => exact (List.not_mem_nil hmem).elim
  | cons other rest ih =>
    rw [Printer.ownLines]
    split
    next htable =>
      rcases List.mem_cons.mp hmem with rfl | hrest
      · exact absurd htable (Bool.eq_false_iff.mp hvalue)
      · exact ih hrest
    next => exact List.cons_ne_nil _ _

/-- The key of a table is none of a value beside it. -/
theorem not_own (hkeyed : Keyed entries) :
    ∀ entry ∈ entries, isTable entry.2 = true → entry.1 ∉ (ownNodes entries).map Prod.fst := by
  intro entry hentry htable hown
  obtain ⟨other, hother, hkey, hvalue⟩ := own_subset hown
  obtain rfl := List.inj_on_of_nodup_map hkeyed.nodup hother hentry hkey
  exact Bool.false_ne_true (hvalue.symm.trans htable)

theorem blocks_of_not_table {path : List String} (h : isTable value = false) :
    Printer.blocks path value = [] := by
  cases value with
  | table entries => exact (Bool.false_ne_true h.symm).elim
  | _ => rfl

/-- Tables whose headers are read back, as far as those of tables nested so deep in them. -/
structure Entries.Around.Holds (around : Entries.Around) (depth : Nat) : Prop where
  fresh : around.Fresh
  bare : ∀ part ∈ around.path, Bare part
  limit : around.path.length + depth ≤ depthLimit

theorem Entries.Around.Holds.inner (h : around.Holds (depth + 1)) (hkey : Bare key)
    (hfresh : key ∉ cur.map Prod.fst) : Holds (around ++ [(cur, key)]) depth where
  fresh := h.fresh.append hfresh
  bare := by
    rw [around.path_append]
    exact List.forall_mem_append.mpr ⟨h.bare, List.forall_mem_singleton.mpr hkey⟩
  limit := by
    have := h.limit
    rw [around.path_append, List.length_append, List.length_singleton]
    omega

/-- A table is read back, inside these others and after what was read before. -/
def ReadsTable (depth : Nat) (around : Entries.Around) : Prop :=
  ∀ (cur : Entries) (entries : List (String × Value)) (key : String) (header : List String),
    Bare key → (Value.table entries).Printable depth → key ∉ cur.map Prod.fst →
    ∃ header', Through (header, around.plug cur)
      ((Printer.blocks (around.path ++ [key]) (.table entries)).map blockText)
      (header', around.plug (cur ++ [(key, (Value.table entries).node)]))

/-- All tables below one are read back. -/
def ReadsBelow (depth : Nat) (around : Entries.Around) : Prop :=
  ∀ (cur : Entries) (entries : List (String × Value)) (header : List String), Keyed entries →
    (∀ entry ∈ entries, entry.2.Printable depth) →
    (∀ entry ∈ entries, isTable entry.2 = true → entry.1 ∉ cur.map Prod.fst) →
    ∃ header', Through (header, around.plug cur)
      ((Printer.blocksBelow around.path entries).map blockText)
      (header', around.plug (cur ++ nodesBelow entries))

/-- By induction on the entries, one table after the other. -/
theorem readsBelow_of_table (htable : ReadsTable depth around) : ReadsBelow depth around := by
  intro cur entries
  induction entries generalizing cur with
  | nil =>
    intro header _ _ _
    refine ⟨header, ?_⟩
    rw [nodesBelow, List.append_nil]
    rfl
  | cons entry rest ih =>
    obtain ⟨key, value⟩ := entry
    intro header hkeyed hvalues hcur
    obtain ⟨hkey, hbare⟩ := List.forall_mem_cons.mp hkeyed.bare
    obtain ⟨hvalue, hrestValues⟩ := List.forall_mem_cons.mp hvalues
    obtain ⟨hfresh, hrestCur⟩ := List.forall_mem_cons.mp hcur
    obtain ⟨hnot, hnodup⟩ := List.nodup_cons.mp hkeyed.nodup
    rw [Printer.blocksBelow, nodesBelow, List.map_append]
    cases hcase : isTable value with
    | false =>
      rw [blocks_of_not_table hcase, if_neg Bool.false_ne_true]
      exact ih cur header ⟨hbare, hnodup⟩ hrestValues hrestCur
    | true =>
      cases value with
      | table entries =>
        obtain ⟨mid, hfirst⟩ := htable cur entries key header hkey hvalue (hfresh hcase)
        have hcur' : ∀ other ∈ rest, isTable other.2 = true →
            other.1 ∉ (cur ++ [(key, (Value.table entries).node)]).map Prod.fst :=
          fun other hother htable =>
            Entries.not_mem_append (hrestCur other hother htable) (key_ne_of_mem hnot hother)
        obtain ⟨header', hrest⟩ := ih _ mid ⟨hbare, hnodup⟩ hrestValues hcur'
        rw [List.append_assoc] at hrest
        exact ⟨header', hfirst.append hrest⟩
      | _ => cases hcase

/-- A header opens the table, and its values and tables follow. -/
theorem readsTable_succ
    (hbelow : ∀ {inner : Entries.Around}, inner.Holds depth → ReadsBelow depth inner)
    (haround : around.Holds (depth + 1)) : ReadsTable (depth + 1) around := by
  intro cur entries key header hkey ⟨hkeyed, hown, hvalues⟩ hfresh
  have hinner := haround.inner hkey hfresh
  have hlimit := haround.limit
  have hheader := Reader.passes_header header haround.bare hkey (by omega)
    (haround.fresh.openTable hfresh)
  have hlines := passes_ownLines [] hinner.fresh hkeyed
    (fun entry hentry hvalue => (hvalues entry hentry).onLine hvalue)
    (fun _ _ => List.not_mem_nil)
  obtain ⟨header', hrest⟩ :=
    hbelow hinner (ownNodes entries) entries _ hkeyed hvalues (not_own hkeyed)
  rw [around.path_append] at hlines hrest
  rw [List.nil_append] at hlines
  refine ⟨header', ?_⟩
  -- The header is written, as the table has values of its own.
  have hblock : Printer.ownBlock (around.path ++ [key]) entries =
      [Printer.header (around.path ++ [key]) :: Printer.ownLines entries] := by
    rw [Printer.ownBlock]
    simp [ownLines_ne_nil hown]
  have htext : blockText (Printer.header (around.path ++ [key]) :: Printer.ownLines entries) =
      ('[' :: (pointed around.path ++ (key.toList ++ [']', '\n']))) ++
        blockText (Printer.ownLines entries) := by
    rw [blockText, List.flatMap_cons, toList_header haround.bare hkey]
    simp [blockText]
  rw [Printer.blocks, hblock, Value.node, ← around.plug_append, List.map_append]
  refine Through.append ?_ hrest
  exact ⟨_, htext ▸ hheader.append hlines, rfl⟩

theorem readsBelow (depth : Nat) {around : Entries.Around} (haround : around.Holds depth) :
    ReadsBelow depth around := by
  induction depth generalizing around with
  | zero => exact readsBelow_of_table fun _ _ _ _ _ hprintable => hprintable.elim
  | succ depth ih => exact readsBelow_of_table (readsTable_succ ih haround)

end Own

/-- The entries of a table after it was written and read. -/
def settledEntries (entries : List (String × Value)) : List (String × Value) :=
  entriesToValues (ownNodes entries ++ nodesBelow entries)

theorem Value.settled_table (entries : List (String × Value)) :
    (Value.table entries).settled = .table (settledEntries entries) := by
  rw [settled, node, Node.toValue, settledEntries]

theorem ownNodes_eq_nil (h : Printer.ownLines entries = []) : ownNodes entries = [] := by
  induction entries with
  | nil => rfl
  | cons entry rest ih =>
    rw [Printer.ownLines] at h
    rw [ownNodes]
    split at h
    next htable =>
      rw [if_pos htable]
      exact ih h
    next => exact (List.cons_ne_nil _ _ h).elim

/-- The lines before the first header belong to the root. -/
theorem through_root (hkeyed : Keyed entries) (hdepth : depth ≤ depthLimit)
    (hvalues : ∀ entry ∈ entries, entry.2.Printable depth) :
    ∃ header', Through ([], []) ((Printer.blocks [] (.table entries)).map blockText)
      (header', ownNodes entries ++ nodesBelow entries) := by
  have hroot : Entries.Around.Holds [] depth :=
    ⟨List.forall_mem_nil _, List.forall_mem_nil _, by rwa [Entries.Around.path, List.map_nil,
      List.length_nil, Nat.zero_add]⟩
  have hlines := passes_ownLines [] hroot.fresh hkeyed
    (fun entry hentry hvalue => (hvalues entry hentry).onLine hvalue) (fun _ _ => List.not_mem_nil)
  obtain ⟨header', hrest⟩ := readsBelow depth hroot (ownNodes entries) entries [] hkeyed hvalues
    (not_own hkeyed)
  refine ⟨header', ?_⟩
  have hown : Through ([], []) ((Printer.ownBlock [] entries).map blockText)
      ([], ownNodes entries) := by
    rw [Printer.ownBlock]
    cases hnone : Printer.ownLines entries with
    | nil =>
      rw [ownNodes_eq_nil hnone]
      rfl
    | cons line lines =>
      rw [hnone] at hlines
      exact ⟨_, hlines, rfl⟩
  rw [Printer.blocks, List.map_append]
  exact hown.append hrest

/-- What is read from a document that was written. -/
theorem read_document (hkeyed : Keyed entries) (hdepth : depth ≤ depthLimit)
    (hvalues : ∀ entry ∈ entries, entry.2.Printable depth) :
    read (Printer.document (.table entries)) = .ok (settledEntries entries) := by
  obtain ⟨header', hthrough⟩ := through_root hkeyed hdepth hvalues
  have hpasses := hthrough.passes
  rw [← toList_document] at hpasses
  rw [read]
  dsimp only
  rw [if_neg hpasses.no_mark, hpasses.run_loop]
  rfl

theorem lookup_entriesToValues (nodes : Entries) (key : String) :
    (entriesToValues nodes).lookup key = (nodes.lookup key).map Node.toValue := by
  induction nodes with
  | nil => rfl
  | cons entry rest ih =>
    rw [entriesToValues, List.lookup_cons, List.lookup_cons, ih]
    split <;> rfl

theorem lookup_cons_of_ne {β : Type} {other : String} {b : β} {rest : List (String × β)}
    (h : key ≠ other) : List.lookup key ((other, b) :: rest) = rest.lookup key := by
  rw [List.lookup_cons, beq_eq_false_iff_ne.mpr h]

theorem Value.node_of_not_table (h : isTable value = false) : value.node = .leaf value := by
  cases value with
  | table entries => exact (Bool.false_ne_true h.symm).elim
  | _ => rfl

/-- By induction on the entries: those of the tables come behind those of the values. -/
theorem lookup_nodes (hnodup : (entries.map Prod.fst).Nodup) (key : String) :
    List.lookup key (ownNodes entries ++ nodesBelow entries) =
      (entries.lookup key).map Value.node := by
  induction entries with
  | nil => rfl
  | cons entry rest ih =>
    obtain ⟨other, value⟩ := entry
    obtain ⟨hnot, hnodup⟩ := List.nodup_cons.mp hnodup
    rw [ownNodes, nodesBelow]
    cases hcase : isTable value with
    | false =>
      rw [if_neg Bool.false_ne_true, if_neg Bool.false_ne_true, List.cons_append,
        ← Value.node_of_not_table hcase]
      by_cases hkey : key = other
      · rw [hkey, List.lookup_cons_self, List.lookup_cons_self, Option.map_some]
      · rw [lookup_cons_of_ne hkey, lookup_cons_of_ne hkey, ih hnodup]
    | true =>
      rw [if_pos rfl, if_pos rfl, List.lookup_append]
      by_cases hkey : key = other
      · have hown : other ∉ (ownNodes rest).map Prod.fst := by
          intro hmem
          obtain ⟨entry, hentry, rfl, -⟩ := own_subset hmem
          exact hnot (List.mem_map.mpr ⟨entry, hentry, rfl⟩)
        rw [hkey, Entries.lookup_eq_none hown, Option.none_or, List.lookup_cons_self,
          List.lookup_cons_self, Option.map_some]
      · rw [lookup_cons_of_ne hkey, lookup_cons_of_ne hkey, ← List.lookup_append, ih hnodup]

theorem lookup_settled (hnodup : (entries.map Prod.fst).Nodup) (key : String) :
    (settledEntries entries).lookup key = (entries.lookup key).map Value.settled := by
  rw [settledEntries, lookup_entriesToValues, lookup_nodes hnodup, Option.map_map]
  rfl

theorem keys_entriesToValues (nodes : Entries) :
    (entriesToValues nodes).map Prod.fst = nodes.map Prod.fst := by
  induction nodes with
  | nil => rfl
  | cons entry rest ih => rw [entriesToValues, List.map_cons, List.map_cons, ih]

/-- By induction on the entries: the keys of tables come behind those of values. -/
theorem keys_settled_perm (entries : List (String × Value)) :
    ((settledEntries entries).map Prod.fst).Perm (entries.map Prod.fst) := by
  rw [settledEntries, keys_entriesToValues]
  induction entries with
  | nil => exact List.Perm.refl _
  | cons entry rest ih =>
    rw [ownNodes, nodesBelow]
    split
    · rw [List.map_append, List.map_cons, List.map_cons]
      rw [List.map_append] at ih
      exact List.perm_middle.trans (ih.cons _)
    · exact ih.cons _

/-- Values that are the same but for the order of the keys of their tables. -/
inductive Value.Same : Value → Value → Prop
  | plain {v : Value} (h : isTable v = false) : Same v v
  | table {entries entries' : List (String × Value)} (nodup : (entries.map Prod.fst).Nodup)
    (lookup : ∀ key, Option.Rel Same (entries.lookup key) (entries'.lookup key)) :
    Same (.table entries) (.table entries')

theorem Value.Same.eq_of_plain {v w : Value} (h : v.Same w) (hw : isTable w = false) : v = w := by
  cases h with
  | plain => rfl
  | table => exact (Bool.false_ne_true hw.symm).elim

theorem mem_of_lookup (h : entries.lookup key = some value) : (key, value) ∈ entries := by
  obtain ⟨before, after, rfl, -⟩ := List.lookup_eq_some_iff.mp h
  exact List.mem_append_right _ List.mem_cons_self

/-- A table is settled when its values are. -/
theorem settled_same_table (hkeyed : Keyed entries)
    (hvalues : ∀ entry ∈ entries, entry.2.settled.Same entry.2) :
    (Value.table (settledEntries entries)).Same (.table entries) := by
  refine .table ((keys_settled_perm entries).nodup_iff.mpr hkeyed.nodup) fun key => ?_
  rw [lookup_settled hkeyed.nodup]
  cases hlookup : entries.lookup key with
  | none => exact .none
  | some v => exact .some (hvalues (key, v) (mem_of_lookup hlookup))

theorem Value.Printable.settled_same (h : value.Printable depth) : value.settled.Same value := by
  induction depth generalizing value with
  | zero =>
    cases value with
    | table entries => exact h.elim
    | _ => exact .plain rfl
  | succ depth ih =>
    cases value with
    | table entries =>
      obtain ⟨hkeyed, -, hvalues⟩ := h
      rw [settled_table]
      exact settled_same_table hkeyed fun entry hentry => ih (hvalues entry hentry)
    | _ => exact .plain rfl

end Widgetry.Toml
