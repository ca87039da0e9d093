import Mathlib.Data.List.Basic
import Widgetry.Toml.Table

/-! Tables while a document is read whose tables each have a header: the table that is being read is
the last one of the table around it. -/
namespace Widgetry.Toml.Entries

variable {key : String} {node node' : Node} {entries cur new : Entries}

theorem lookup_eq_none (h : key ∉ entries.map Prod.fst) : entries.lookup key = none := by
  rw [List.lookup_eq_none_iff]
  intro entry hentry
  rw [bne_iff_ne]
  rintro rfl
  exact h (List.mem_map_of_mem hentry)

theorem lookup_append (h : key ∉ entries.map Prod.fst) :
    List.lookup key (entries ++ [(key, node)]) = some node := by
  rw [List.lookup_append, lookup_eq_none h]
  exact List.lookup_cons_self

theorem put_of_not_mem (h : key ∉ entries.map Prod.fst) :
    put key node entries = entries ++ [(key, node)] := by
  induction entries with
  | nil => rfl
  | cons entry rest ih =>
    rw [List.map_cons, List.mem_cons, not_or] at h
    rw [put, if_neg (Ne.symm h.1), ih h.2]
    rfl

theorem put_append (h : key ∉ entries.map Prod.fst) :
    put key node' (entries ++ [(key, node)]) = entries ++ [(key, node')] := by
  induction entries with
  | nil => exact if_pos rfl
  | cons entry rest ih =>
    rw [List.map_cons, List.mem_cons, not_or] at h
    rw [List.cons_append, put, if_neg (Ne.symm h.1), ih h.2]
    rfl

theorem not_mem_append {other : String} (h : other ∉ entries.map Prod.fst) (hne : other ≠ key) :
    other ∉ (entries ++ [(key, node)]).map Prod.fst := by
  rw [List.map_append, List.mem_append, not_or]
  exact ⟨h, fun hmem => hne (List.mem_singleton.mp hmem)⟩

/-- The tables around the one that is being read, each as far as it was read, with the key of the
next one inside. -/
abbrev Around := List (Entries × String)

def Around.path (around : Around) : List String := around.map Prod.snd

/-- No table was read before under the same key. -/
def Around.Fresh (around : Around) : Prop := ∀ level ∈ around, level.2 ∉ level.1.map Prod.fst

/-- The root, when a table inside it has come to `cur`. -/
def Around.plug : Around → Entries → Entries
  | [], cur => cur
  | (before, key) :: around, cur => before ++ [(key, .table .header (plug around cur))]

namespace Around

variable {around : Around}

theorem path_append (around : Around) (before : Entries) (key : String) :
    path (around ++ [(before, key)]) = path around ++ [key] := List.map_append

theorem plug_append (around : Around) (before cur : Entries) (key : String) :
    plug (around ++ [(before, key)]) cur = plug around (before ++ [(key, .table .header cur)]) := by
  induction around with
  | nil => rfl
  | cons level around ih =>
    rw [List.cons_append, plug, ih]
    rfl

theorem Fresh.append (h : Fresh around) {before : Entries} (hkey : key ∉ before.map Prod.fst) :
    Fresh (around ++ [(before, key)]) :=
  List.forall_mem_append.mpr ⟨h, List.forall_mem_singleton.mpr hkey⟩

/-- By induction on the tables around it, a change reaches the table that is being read. -/
theorem Fresh.descend (h : Fresh around) {change : Origin → Entries → Except Fault Entries}
    (hchange : change .header cur = .ok new) :
    Entries.descend false change (path around) .header (plug around cur) =
      .ok (plug around new) := by
  induction around with
  | nil => exact hchange
  | cons level around ih =>
    obtain ⟨before, key⟩ := level
    obtain ⟨hkey, haround⟩ := List.forall_mem_cons.mp h
    rw [path, List.map_cons, plug, Entries.descend, lookup_append hkey]
    change (if (false : Bool) = true ∧ Origin.header = .header then _ else _) = _
    rw [if_neg fun hdotted => Bool.false_ne_true hdotted.1,
      show Entries.descend false change (around.map Prod.snd) .header (plug around cur) = _ from
        ih haround]
    change Except.ok (put key _ _) = _
    rw [put_append hkey]
    rfl

theorem Fresh.assign (h : Fresh around) (hkey : key ∉ cur.map Prod.fst) (value : Value) :
    Entries.assign (path around) [] key value (plug around cur) =
      .ok (plug around (cur ++ [(key, .leaf value)])) := by
  refine h.descend ?_
  rw [Entries.descend, if_neg (by simp), lookup_eq_none hkey]
  change Except.ok (put key _ cur) = _
  rw [put_of_not_mem hkey]

theorem Fresh.openTable (h : Fresh around) (hkey : key ∉ cur.map Prod.fst) :
    Entries.openTable (path around) key (plug around cur) =
      .ok (plug (around ++ [(cur, key)]) []) := by
  rw [plug_append]
  refine h.descend ?_
  rw [lookup_eq_none hkey]
  change Except.ok (put key _ cur) = _
  rw [put_of_not_mem hkey]

end Around

end Widgetry.Toml.Entries
