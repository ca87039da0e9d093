import Widgetry.Toml.Literal
/-!
Strings in their four written forms. Each reader starts behind the opening quotes and gives the
text and what follows the closing ones.
-/
namespace Widgetry.Toml.Text

abbrev Scan := Except Fault (List Char × List Char)

def cons (c : Char) (s : Scan) : Scan := s.map fun (text, rest) => (c :: text, rest)

/-- Tab, or no control character. -/
def isPlain (c : Char) : Bool := c == '\t' || (decide (32 ≤ c.toNat) && c.toNat != 127)

def refuse : List Char → Scan
  | [] => .error .unexpectedEnd
  | c :: _ => .error (.unexpected c)

/-- The character of a code point, unless it is a surrogate or out of range. -/
def ofCodePoint? (n : Nat) : Option Char :=
  if n.isValidChar then some (Char.ofNat n) else none

def ofHex? (cs : List Char) : Option Char :=
  if cs.all Literal.isHexDigit then ofCodePoint? (Literal.natOf 16 cs) else none

def simpleEscape? : Char → Option Char
  | 'b' => some '\x08'
  | 't' => some '\t'
  | 'n' => some '\n'
  | 'f' => some '\x0c'
  | 'r' => some '\r'
  | '"' => some '"'
  | '\\' => some '\\'
  | _ => none

def escaped (c : Option Char) (s : Scan) : Scan :=
  match c with
  | some c => cons c s
  | none => .error .badEscape

def basic : List Char → Scan
  | '"' :: rest => .ok ([], rest)
  | '\\' :: 'u' :: a :: b :: c :: d :: rest => escaped (ofHex? [a, b, c, d]) (basic rest)
  | '\\' :: 'U' :: a :: b :: c :: d :: e :: f :: g :: h :: rest =>
    escaped (ofHex? [a, b, c, d, e, f, g, h]) (basic rest)
  | '\\' :: c :: rest => escaped (simpleEscape? c) (basic rest)
  | c :: rest => if isPlain c && c != '\\' then cons c (basic rest) else .error (.unexpected c)
  | [] => .error .unexpectedEnd

def literal : List Char → Scan
  | '\'' :: rest => .ok ([], rest)
  | c :: rest => if isPlain c then cons c (literal rest) else .error (.unexpected c)
  | [] => .error .unexpectedEnd

/-- Three to five quotes end a text of several lines; those before the last three belong to it. -/
def closing? (quote : Char) (cs : List Char) : Option (List Char × List Char) :=
  let run := (cs.takeWhile (· == quote)).length
  if run < 3 then none
  else
    let count := Nat.min run 5
    some (List.replicate (count - 3) quote, cs.drop count)

/-- A backslash before a line end drops it and all blanks and line ends that follow. -/
def endsLine (cs : List Char) : Bool :=
  match cs.dropWhile fun c => c == ' ' || c == '\t' with
  | '\n' :: _ => true
  | '\r' :: '\n' :: _ => true
  | _ => false

def multilineBasic (trim : Bool) : List Char → Scan
  | '\r' :: '\n' :: rest =>
    if trim then multilineBasic true rest else cons '\n' (multilineBasic false rest)
  | '\\' :: 'u' :: a :: b :: c :: d :: rest =>
    escaped (ofHex? [a, b, c, d]) (multilineBasic false rest)
  | '\\' :: 'U' :: a :: b :: c :: d :: e :: f :: g :: h :: rest =>
    escaped (ofHex? [a, b, c, d, e, f, g, h]) (multilineBasic false rest)
  | '\\' :: '\r' :: '\n' :: rest => multilineBasic true rest
  | '\\' :: c :: rest =>
    if endsLine (c :: rest) then multilineBasic true rest
    else escaped (simpleEscape? c) (multilineBasic false rest)
  | c :: rest =>
    if c == '"' then
      match closing? '"' (c :: rest) with
      | some (quotes, rest) => .ok (quotes, rest)
      | none => cons '"' (multilineBasic false rest)
    else if trim && (c == ' ' || c == '\t' || c == '\n') then multilineBasic true rest
    else if c == '\n' || (isPlain c && c != '\\') then cons c (multilineBasic false rest)
    else .error (.unexpected c)
  | [] => .error .unexpectedEnd

def multilineLiteral : List Char → Scan
  | '\r' :: '\n' :: rest => cons '\n' (multilineLiteral rest)
  | c :: rest =>
    if c == '\'' then
      match closing? '\'' (c :: rest) with
      | some (quotes, rest) => .ok (quotes, rest)
      | none => cons '\'' (multilineLiteral rest)
    else if c == '\n' || isPlain c then cons c (multilineLiteral rest)
    else .error (.unexpected c)
  | [] => .error .unexpectedEnd

/-- A line end right behind the opening quotes is no part of the text. -/
def afterOpening : List Char → List Char
  | '\n' :: rest => rest
  | '\r' :: '\n' :: rest => rest
  | cs => cs

/-- A text on one line, with its quotes. -/
def line : List Char → Scan
  | '"' :: rest => basic rest
  | '\'' :: rest => literal rest
  | cs => refuse cs

/-- Any text, with its quotes. -/
def read : List Char → Scan
  | '"' :: '"' :: '"' :: rest => multilineBasic false (afterOpening rest)
  | '\'' :: '\'' :: '\'' :: rest => multilineLiteral (afterOpening rest)
  | cs => line cs

def hexDigits (n : Nat) : List Char :=
  let ds := (Nat.toDigits 16 n).map Char.toUpper
  List.replicate (4 - ds.length) '0' ++ ds

def escape (c : Char) : List Char :=
  match c with
  | '\x08' => ['\\', 'b']
  | '\t' => ['\\', 't']
  | '\n' => ['\\', 'n']
  | '\x0c' => ['\\', 'f']
  | '\r' => ['\\', 'r']
  | '"' => ['\\', '"']
  | '\\' => ['\\', '\\']
  | c => if isPlain c then [c] else '\\' :: 'u' :: hexDigits c.toNat

/-- Single quotes spare escapes where the text allows them. -/
def write (text : String) : String :=
  let cs := text.toList
  let wantsLiteral :=
    cs.any (fun c => c == '"' || c == '\\') && cs.all (fun c => isPlain c && c != '\'')
  String.ofList <|
    if wantsLiteral then ['\''] ++ cs ++ ['\''] else ['"'] ++ cs.flatMap escape ++ ['"']

end Widgetry.Toml.Text
