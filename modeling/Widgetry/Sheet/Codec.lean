import Widgetry.Toml.Value
/-!
How the values of a document become records and back. What reads and writes documents is not fixed
here: a `Library` does it, which is told the fields of a record and the record that a missing field
is taken from.
-/
namespace Widgetry

/-- A value that is not what it should be is refused in words. -/
structure Codec (β : Type) where
  read : Toml.Value → Except String β
  write : β → Toml.Value

/-- A field of the record `ρ`. -/
structure RecordField (ρ : Type) where
  name : String
  required : Bool
  read : Toml.Value → ρ → Except String ρ
  /-- The field is left out when it has no value. -/
  write : ρ → Option Toml.Value

namespace RecordField

variable {ρ β : Type}

/-- A missing field keeps its default. -/
def plain (name : String) (codec : Codec β) (get : ρ → β) (set : β → ρ → ρ) : RecordField ρ where
  name
  required := false
  read v r := (codec.read v).map (set · r)
  write r := some (codec.write (get r))

def mandatory (name : String) (codec : Codec β) (get : ρ → β) (set : β → ρ → ρ) : RecordField ρ :=
  { plain name codec get set with required := true }

/-- An absent value is left out. -/
def optional (name : String) (codec : Codec β) (get : ρ → Option β) (set : Option β → ρ → ρ) :
    RecordField ρ where
  name
  required := false
  read v r := (codec.read v).map fun b => set (some b) r
  write r := (get r).map codec.write

end RecordField

/-- How each kind of field is read and written. -/
structure Codecs where
  string : Codec String
  boolean : Codec Bool
  /-- Integers of 32 bits. -/
  integer32 : Codec Int
  number : Codec Binary32
  /-- One of several named values. -/
  variant {β : Type} (ofName? : String → Option β) (name : β → String) : Codec β
  /-- A record with these fields; a missing one is taken from `default`. -/
  record {ρ : Type} (fields : List (RecordField ρ)) (default : ρ) : Codec ρ

/-- What reads documents and prints them. -/
structure Toml.Library where
  codecs : Codecs
  /-- The entries of the table that a text stands for. -/
  read : String → Except String (List (String × Value))
  print : Value → Except String String

end Widgetry
