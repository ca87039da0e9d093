import Widgetry.Decimal.Text
import Widgetry.Toml.Text
/-!
Writes a document: in each table the values first, then the tables below it under headers of
their own. A header without values of its own is left out.
-/
namespace Widgetry.Toml.Printer

/-- Floats have the fewest digits that read back, all positional. -/
def floats : Decimal.Spelling := ⟨"nan", none, none⟩

def isBareKeyChar (c : Char) : Bool := c.isAlphanum || c == '-' || c == '_'

def key (text : String) : String :=
  if text.isEmpty || text.toList.any (! isBareKeyChar ·) then Text.write text else text

mutual

/-- A value on one line. -/
def inlined : Value → String
  | .string text => Text.write text
  | .integer i => toString i
  | .float x => floats.write x
  | .boolean b => toString b
  | .datetime text => text
  | .array elements => "[" ++ inlinedElements elements ++ "]"
  | .table entries => "\x7b" ++ inlinedEntries entries ++ "\x7d"

def inlinedElements : List Value → String
  | [] => ""
  | [value] => inlined value
  | value :: rest => inlined value ++ ", " ++ inlinedElements rest

def inlinedEntries : List (String × Value) → String
  | [] => " "
  | [(k, value)] => " " ++ key k ++ " = " ++ inlined value ++ " "
  | (k, value) :: rest => " " ++ key k ++ " = " ++ inlined value ++ "," ++ inlinedEntries rest

end

def isTable : Value → Bool
  | .table _ => true
  | _ => false

def header (path : List String) : String := "[" ++ ".".intercalate (path.map key) ++ "]"

/-- The lines of the values a table holds itself. -/
def ownLines : List (String × Value) → List String
  | [] => []
  | (k, value) :: rest =>
    if isTable value then ownLines rest else (key k ++ " = " ++ inlined value) :: ownLines rest

def ownBlock (path : List String) (entries : List (String × Value)) : List (List String) :=
  let lines := ownLines entries
  if path.isEmpty then if lines.isEmpty then [] else [lines]
  else if lines.isEmpty && !entries.isEmpty then []
  else [header path :: lines]

mutual

/-- The blocks of a table and of all tables below it. -/
def blocks (path : List String) : Value → List (List String)
  | .table entries => ownBlock path entries ++ blocksBelow path entries
  | _ => []

def blocksBelow (path : List String) : List (String × Value) → List (List String)
  | [] => []
  | (k, value) :: rest => blocks (path ++ [k]) value ++ blocksBelow path rest

end

def document (root : Value) : String :=
  "\n".intercalate ((blocks [] root).map fun lines => String.join (lines.map (· ++ "\n")))

end Widgetry.Toml.Printer
