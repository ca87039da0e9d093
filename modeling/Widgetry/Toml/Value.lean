import Widgetry.Binary.Basic
/-!
Values of a TOML document, and why a text is not one.
-/
namespace Widgetry.Toml

/-- Tables keep their keys in the order they were written. -/
inductive Value where
  | string (text : String)
  | integer (value : Int)
  | float (value : Binary64)
  | boolean (value : Bool)
  | datetime (text : String)
  | array (elements : List Value)
  | table (entries : List (String × Value))

inductive Fault where
  | unexpectedEnd
  | unexpected (c : Char)
  | badEscape
  | badNewline
  | badLiteral (token : String)
  | duplicateKey (key : String)
  | notATable (key : String)
  | tooDeep
  deriving DecidableEq, Repr

def Fault.message : Fault → String
  | unexpectedEnd => "unexpected end of input"
  | unexpected c => "unexpected character " ++ c.quote
  | badEscape => "invalid escape sequence"
  | badNewline => "invalid newline"
  | badLiteral token => "invalid value " ++ token.quote
  | duplicateKey key => "duplicate key " ++ key.quote
  | notATable key => "key " ++ key.quote ++ " is not a table"
  | tooDeep => "nesting is too deep"

namespace Value

/-- Integers have 64 bits. -/
def integerRange (i : Int) : Bool :=
  decide (-0x8000000000000000 ≤ i) && decide (i < 0x8000000000000000)

end Value

end Widgetry.Toml
