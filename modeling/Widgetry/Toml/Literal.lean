import Widgetry.Toml.Value
/-!
Booleans, numbers and dates, each written as one token without blanks.
-/
namespace Widgetry.Toml.Literal

/-- Digits in which an underscore stands between two digits only. -/
def digits (ok : Char → Bool) : List Char → Option (List Char)
  | [] => none
  | [c] => if ok c then some [c] else none
  | c :: '_' :: rest => if ok c then (digits ok rest).map (c :: ·) else none
  | c :: rest => if ok c then (digits ok rest).map (c :: ·) else none

def digitValue (c : Char) : Nat :=
  if c.isDigit then c.toNat - '0'.toNat
  else if c.isLower then c.toNat - 'a'.toNat + 10
  else c.toNat - 'A'.toNat + 10

def isHexDigit (c : Char) : Bool :=
  c.isDigit || ('a' ≤ c && c ≤ 'f') || ('A' ≤ c && c ≤ 'F')

def natOf (base : Nat) (cs : List Char) : Nat :=
  cs.foldl (fun n c => n * base + digitValue c) 0

/-- Decimal digits without a leading zero. -/
def plain (cs : List Char) : Option (List Char) :=
  match digits Char.isDigit cs with
  | some ['0'] => some ['0']
  | some ('0' :: _) => none
  | ds => ds

/-- A sign and what follows it. -/
def signed : List Char → Bool × List Char
  | '-' :: rest => (true, rest)
  | '+' :: rest => (false, rest)
  | cs => (false, cs)

def unsignedInteger : List Char → Option Nat
  | '0' :: 'x' :: rest => (digits isHexDigit rest).map (natOf 16)
  | '0' :: 'o' :: rest => (digits (fun c => '0' ≤ c && c ≤ '7') rest).map (natOf 8)
  | '0' :: 'b' :: rest => (digits (fun c => c == '0' || c == '1') rest).map (natOf 2)
  | _ => none

def integer? (cs : List Char) : Option Int := do
  let i ← (unsignedInteger cs).map Int.ofNat <|> do
    let (neg, body) := signed cs
    let n := natOf 10 (← plain body)
    return if neg then -n else n
  if Value.integerRange i then some i else none

/-- Beyond this the exponent of `count` digits changes nothing. -/
def clampExponent (count : Nat) (exponent : Int) : Int :=
  Max.max (-(count + 400)) (Min.min exponent 400)

def exponent? : List Char → Option Int
  | e :: rest => do
    if e = 'e' ∨ e = 'E' then
      let (neg, body) := signed rest
      let n := natOf 10 (← digits Char.isDigit body)
      return if neg then -n else n
    else none
  | [] => some 0

def isDigitOrMark (c : Char) : Bool := c.isDigit || c == '_'

/-- A number with a fraction, an exponent, or both; too large a positive one is refused. -/
def decimal? (cs : List Char) : Option Binary64 := do
  let (neg, body) := signed cs
  let whole ← plain (body.takeWhile isDigitOrMark)
  let rest := body.dropWhile isDigitOrMark
  let (frac, tail) ← match rest with
    | '.' :: rest => do
      let frac ← digits Char.isDigit (rest.takeWhile isDigitOrMark)
      pure (frac, rest.dropWhile isDigitOrMark)
    | [] => none
    | _ => pure ([], rest)
  let exponent ← exponent? tail
  let count := whole.length + frac.length
  let x : Binary64 := .ofDecimal neg (natOf 10 (whole ++ frac))
    (clampExponent count (exponent - frac.length))
  if x = .infinite false then none else some x

def special? (cs : List Char) : Option Binary64 :=
  let (neg, body) := signed cs
  if body = "inf".toList then some (.infinite neg)
  else if body = "nan".toList then some .nan
  else none

/-- A number of two digits within bounds, and the rest. -/
def twoDigits (low high : Nat) : List Char → Option (List Char)
  | a :: b :: rest =>
    let n := natOf 10 [a, b]
    if a.isDigit && b.isDigit && decide (low ≤ n) && decide (n ≤ high) then some rest else none
  | _ => none

def expect (c : Char) : List Char → Option (List Char)
  | d :: rest => if d = c then some rest else none
  | [] => none

def daysIn (year month : Nat) : Nat :=
  if month = 2 then
    if year % 4 = 0 ∧ (year % 100 ≠ 0 ∨ year % 400 = 0) then 29 else 28
  else if month = 4 ∨ month = 6 ∨ month = 9 ∨ month = 11 then 30
  else 31

/-- Reads `YYYY-MM-DD` and gives the rest. -/
def date : List Char → Option (List Char)
  | y1 :: y2 :: y3 :: y4 :: '-' :: rest => do
    if ¬[y1, y2, y3, y4].all Char.isDigit then none
    else
      let afterMonth ← twoDigits 1 12 rest
      let month := natOf 10 (rest.take 2)
      twoDigits 1 (daysIn (natOf 10 [y1, y2, y3, y4]) month) (← expect '-' afterMonth)
  | _ => none

/-- Reads `HH:MM:SS` with an optional fraction and gives the rest. -/
def time (cs : List Char) : Option (List Char) := do
  let cs ← twoDigits 0 23 cs
  let cs ← twoDigits 0 59 (← expect ':' cs)
  let cs ← twoDigits 0 60 (← expect ':' cs)
  match cs with
  | '.' :: c :: rest => if c.isDigit then some (rest.dropWhile Char.isDigit) else none
  | cs => some cs

/-- An offset from universal time, or none. -/
def offset : List Char → Bool
  | [] | ['Z'] | ['z'] => true
  | s :: rest =>
    (s = '+' || s = '-') &&
      (do twoDigits 0 59 (← expect ':' (← twoDigits 0 23 rest))) == some []

def isDate (cs : List Char) : Bool := date cs == some []

def isTime (cs : List Char) : Bool := time cs == some []

/-- The time of a day given before, with an offset. -/
def isDayTime (cs : List Char) : Bool := (time cs).any offset

def isDatetime (cs : List Char) : Bool :=
  isTime cs ||
    match date cs with
    | some [] => true
    | some (t :: rest) => (t = 'T' || t = 't') && isDayTime rest
    | none => false

def read? (cs : List Char) : Option Value :=
  if cs = "true".toList then some (.boolean true)
  else if cs = "false".toList then some (.boolean false)
  else if isDatetime cs then some (.datetime (String.ofList cs))
  else
    (integer? cs).map .integer <|> (decimal? cs).map .float <|> (special? cs).map .float

/-- Characters a token is made of. -/
def isTokenChar (c : Char) : Bool :=
  c.isAlphanum || c == '+' || c == '-' || c == '_' || c == '.' || c == ':'

end Widgetry.Toml.Literal
