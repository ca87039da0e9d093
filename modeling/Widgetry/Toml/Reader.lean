import Widgetry.Toml.Table
import Widgetry.Toml.Text
/-!
Reads a document: keys and values line by line, under the header they follow.
-/
namespace Widgetry.Toml

/-- Reads the front of a text. -/
abbrev Reader := StateT (List Char) (Except Fault)

namespace Reader

variable {β : Type}

def peek : Reader (Option Char) := return (← get).head?

def fail : Reader β := do
  match ← peek with
  | some c => throw (.unexpected c)
  | none => throw .unexpectedEnd

/-- Takes a character if it comes next. -/
def accept (c : Char) : Reader Bool := do
  match ← get with
  | d :: rest => if d = c then do set rest; return true else return false
  | [] => return false

def expect (c : Char) : Reader Unit := do
  if ← accept c then pure () else fail

def takeWhile (ok : Char → Bool) : Reader (List Char) :=
  modifyGet fun cs => (cs.takeWhile ok, cs.dropWhile ok)

def iterate (step : β → Reader (β × Bool)) : Nat → β → Reader β
  | 0, _ => throw .unexpectedEnd
  | fuel + 1, b => do
    let (b, more) ← step b
    if more then iterate step fuel b else return b

/-- Repeats a step that takes a character each time it asks for more. -/
def loop (step : β → Reader (β × Bool)) (b : β) : Reader β := do
  iterate step ((← get).length + 1) b

def isBlank (c : Char) : Bool := c == ' ' || c == '\t'

def blanks : Reader Unit := do let _ ← takeWhile isBlank

/-- Takes a line end if one comes next. -/
def newline? : Reader Bool := do
  match ← get with
  | '\n' :: rest => set rest; return true
  | '\r' :: '\n' :: rest => set rest; return true
  | '\r' :: _ => throw .badNewline
  | _ => return false

/-- Takes a comment if one comes next. -/
def comment : Reader Unit := do
  if ← accept '#' then let _ ← takeWhile Text.isPlain

/-- The end of a line or of the document, after blanks and a comment. -/
def lineEnd : Reader Unit := do
  blanks
  comment
  if (← get).isEmpty then pure ()
  else if ← newline? then pure ()
  else fail

/-- Blanks, comments and line ends between the elements of an array. -/
def space : Reader Unit :=
  loop (fun _ => do
    blanks
    comment
    return ((), ← newline?)) ()

def text (read : List Char → Text.Scan) : Reader String := do
  let (text, rest) ← liftExcept (read (← get))
  set rest
  return String.ofList text

def isBareKeyChar (c : Char) : Bool := c.isAlphanum || c == '-' || c == '_'

def simpleKey : Reader String := do
  match ← peek with
  | some '"' | some '\'' => text Text.line
  | _ =>
    let cs ← takeWhile isBareKeyChar
    if cs.isEmpty then fail else return String.ofList cs

/-- The most parts a key may have, and the deepest nesting of values. -/
def depthLimit : Nat := 79

/-- A dotted key: the path to its table, and its last part. -/
def key : Reader (List String × String) := do
  let parts ← loop (fun parts => do
    blanks
    let part ← simpleKey
    blanks
    return (parts ++ [part], ← accept '.')) []
  match parts.getLast? with
  | some last => if parts.length ≤ depthLimit then return (parts.dropLast, last) else throw .tooDeep
  | none => fail

/-- A date may be followed by a blank and a time. -/
def scalar : Reader Value := do
  let token ← takeWhile Literal.isTokenChar
  let rest ← get
  let dayTime := (rest.drop 1).takeWhile Literal.isTokenChar
  if Literal.isDate token && rest.head? == some ' ' && Literal.isDayTime dayTime then
    set (rest.drop (1 + dayTime.length))
    return .datetime (String.ofList (token ++ ' ' :: dayTime))
  else
    match Literal.read? token with
    | some value => return value
    | none => if token.isEmpty then fail else throw (.badLiteral (String.ofList token))

def array (element : Reader Value) : Reader Value := do
  let elements ← loop (fun elements => do
    space
    if ← accept ']' then return (elements, false)
    else
      let value ← element
      space
      if ← accept ',' then return (elements ++ [value], true)
      else
        expect ']'
        return (elements ++ [value], false)) []
  return .array elements

/-- A key and its value, set in the table at `header`. -/
def pair (element : Reader Value) (header : List String) (root : Entries) : Reader Entries := do
  let (path, last) ← key
  expect '='
  blanks
  let value ← element
  liftExcept (root.assign header path last value)

/-- A table on one line, without a comma after its last pair. -/
def inlineTable (element : Reader Value) : Reader Value := do
  blanks
  if ← accept '\x7d' then return .table []
  else
    let entries ← loop (fun entries => do
      let entries ← pair element [] entries
      blanks
      if ← accept ',' then return (entries, true)
      else
        expect '\x7d'
        return (entries, false)) []
    return .table (entriesToValues entries)

def item (onArray onTable : Reader Value) : Reader Value := do
  match ← peek with
  | some '"' | some '\'' => return .string (← text Text.read)
  | some '[' => expect '['; onArray
  | some '\x7b' => expect '\x7b'; onTable
  | _ => scalar

/-- A value with at most `depth` levels of arrays and inline tables. -/
def value : (depth : Nat) → Reader Value
  | 0 => item (throw .tooDeep) (throw .tooDeep)
  | depth + 1 => item (array (value depth)) (inlineTable (value depth))

/-- A header: the path of the table that the lines below belong to. -/
def header (root : Entries) : Reader (List String × Entries) := do
  expect '['
  if ← accept '[' then
    let (path, last) ← key
    expect ']'
    expect ']'
    lineEnd
    return (path ++ [last], ← liftExcept (root.openElement path last))
  else
    let (path, last) ← key
    expect ']'
    lineEnd
    return (path ++ [last], ← liftExcept (root.openTable path last))

/-- One line under the current header. -/
def line (s : List String × Entries) : Reader ((List String × Entries) × Bool) := do
  blanks
  match ← peek with
  | none => return (s, false)
  | some '#' | some '\n' | some '\r' =>
    lineEnd
    return (s, true)
  | some '[' => return (← header s.2, true)
  | some _ =>
    let entries ← pair (value depthLimit) s.1 s.2
    lineEnd
    return ((s.1, entries), true)

end Reader

/-- The table of a document. A byte order mark in front of it is no part of it. -/
def read (source : String) : Except Fault (List (String × Value)) := do
  let cs := source.toList
  let cs := if cs.head? = some '\ufeff' then cs.drop 1 else cs
  let ((_, entries), _) ← (Reader.loop Reader.line ([], [])).run cs
  return entriesToValues entries

end Widgetry.Toml
