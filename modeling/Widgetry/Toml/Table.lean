import Widgetry.Toml.Value
/-!
Tables while a document is read. A table may be opened by one header; it may also come into being
as part of a longer path, and then be opened later.
-/
namespace Widgetry.Toml

/-- How a table came about. -/
inductive Origin where
  /-- By a header of its own, or as the root. -/
  | header
  /-- As part of the path of a longer header. -/
  | implied
  /-- As part of a dotted key. -/
  | dotted
  deriving DecidableEq, Repr

inductive Node where
  | leaf (value : Value)
  | table (origin : Origin) (entries : List (String × Node))
  /-- The elements of an array of tables; none is empty of elements. -/
  | tables (elements : List (List (String × Node)))

abbrev Entries := List (String × Node)

namespace Entries

def put (key : String) (node : Node) : Entries → Entries
  | [] => [(key, node)]
  | (k, n) :: rest => if k = key then (k, node) :: rest else (k, n) :: put key node rest

/-- Changes the table at a path, making the tables on the way. A dotted key does not enter a table
that has a header. -/
def descend (dotted : Bool) (change : Origin → Entries → Except Fault Entries) :
    List String → Origin → Entries → Except Fault Entries
  | [], origin, entries => change origin entries
  | key :: path, _, entries =>
    match entries.lookup key with
    | none => do
      let origin := if dotted then .dotted else .implied
      return put key (.table origin (← descend dotted change path origin [])) entries
    | some (.table origin sub) => do
      if dotted ∧ origin = .header then throw (.duplicateKey key)
      else return put key (.table origin (← descend dotted change path origin sub)) entries
    | some (.tables elements) => do
      let last ← descend dotted change path .header (elements.getLastD [])
      return put key (.tables (elements.dropLast ++ [last])) entries
    | some (.leaf _) => throw (.notATable key)

/-- Opens the table of a header. -/
def openTable (path : List String) (key : String) (root : Entries) : Except Fault Entries :=
  descend false (fun _ entries =>
    match entries.lookup key with
    | none => .ok (put key (.table .header []) entries)
    | some (.table .implied sub) => .ok (put key (.table .header sub) entries)
    | some _ => .error (.duplicateKey key)) path .header root

/-- Starts the next element of an array of tables. -/
def openElement (path : List String) (key : String) (root : Entries) : Except Fault Entries :=
  descend false (fun _ entries =>
    match entries.lookup key with
    | none => .ok (put key (.tables [[]]) entries)
    | some (.tables elements) => .ok (put key (.tables (elements ++ [[]])) entries)
    | some _ => .error (.duplicateKey key)) path .header root

/-- Sets a dotted key in the table at `header`. A table that a header implied takes no dotted key,
and one made of dotted keys nothing else. -/
def assign (header path : List String) (key : String) (value : Value) (root : Entries) :
    Except Fault Entries :=
  let set (origin : Origin) (entries : Entries) : Except Fault Entries :=
    if (origin = .dotted) = (path = []) then .error (.duplicateKey key)
    else
      match entries.lookup key with
      | none => .ok (put key (.leaf value) entries)
      | some _ => .error (.duplicateKey key)
  descend false (descend true set path) header .header root

end Entries

mutual

def Node.toValue : Node → Value
  | .leaf value => value
  | .table _ entries => .table (entriesToValues entries)
  | .tables elements => .array (elementsToValues elements)

def entriesToValues : List (String × Node) → List (String × Value)
  | [] => []
  | (key, node) :: rest => (key, node.toValue) :: entriesToValues rest

def elementsToValues : List (List (String × Node)) → List Value
  | [] => []
  | entries :: rest => .table (entriesToValues entries) :: elementsToValues rest

end

end Widgetry.Toml
