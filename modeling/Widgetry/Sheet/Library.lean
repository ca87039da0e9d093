import Widgetry.Sheet.Codec
import Widgetry.Toml.Printer
import Widgetry.Toml.Reader
/-!
A library for documents. A record is read from a table, whose missing keys keep their defaults and
whose unknown keys are ignored, or from an array of its fields in order.
-/
namespace Widgetry

/-- Why a value of a document is not what a field asks for. -/
inductive ShapeFault where
  | mismatch (expected : String)
  | missing (key : String)
  | unknownVariant (name : String)
  | outOfRange (value : Int)
  deriving DecidableEq, Repr

def ShapeFault.message : ShapeFault → String
  | mismatch expected => "expected " ++ expected
  | missing key => "missing field " ++ key
  | unknownVariant name => "unknown variant " ++ name
  | outOfRange value => "integer out of range: " ++ toString value

def ShapeFault.refuse {β : Type} (fault : ShapeFault) : Except String β := .error fault.message

/-- Sets the field from what was found for it. -/
def RecordField.fill {ρ : Type} (f : RecordField ρ) (found : Option Toml.Value) (r : ρ) :
    Except String ρ :=
  match found with
  | some v => f.read v r
  | none => if f.required then (ShapeFault.missing f.name).refuse else .ok r

namespace Record

variable {ρ : Type}

/-- What a value has for a field of a record whose fields have these names. A date has no key that a
record knows, and elements beyond the last field are ignored. -/
def found (names : List String) (value : Toml.Value) (name : String) : Option Toml.Value :=
  match value with
  | .table entries => entries.lookup name
  | .array elements => (names.zip elements).lookup name
  | _ => none

/-- Fills each field with what is found under its name. -/
def fillAll (find : String → Option Toml.Value) : List (RecordField ρ) → ρ → Except String ρ
  | [], r => .ok r
  | f :: fs, r => do fillAll find fs (← f.fill (find f.name) r)

def read (fields : List (RecordField ρ)) (default : ρ) (value : Toml.Value) : Except String ρ :=
  match value with
  | .table _ | .array _ | .datetime _ =>
    fillAll (found (fields.map RecordField.name) value) fields default
  | _ => (ShapeFault.mismatch "a table").refuse

def entries (fields : List (RecordField ρ)) (r : ρ) : List (String × Toml.Value) :=
  fields.filterMap fun f => (f.write r).map fun v => (f.name, v)

def codec (fields : List (RecordField ρ)) (default : ρ) : Codec ρ where
  read := read fields default
  write r := .table (entries fields r)

end Record

namespace Codec

def string : Codec String where
  read
    | .string text => .ok text
    | _ => (ShapeFault.mismatch "a string").refuse
  write := .string

def boolean : Codec Bool where
  read
    | .boolean b => .ok b
    | _ => (ShapeFault.mismatch "a boolean").refuse
  write := .boolean

def integer32 : Codec Int where
  read
    | .integer i =>
      if -0x80000000 ≤ i ∧ i < 0x80000000 then .ok i else (ShapeFault.outOfRange i).refuse
    | _ => (ShapeFault.mismatch "an integer").refuse
  write := .integer

/-- Integers are taken for numbers, rounded once; floats are rounded from the wider format. -/
def number : Codec Binary32 where
  read
    | .integer i => .ok (.ofInt i)
    | .float x => .ok x.convert
    | _ => (ShapeFault.mismatch "a number").refuse
  write x := .float x.convert

/-- A variant stands by its name alone, or as the only key of a table with nothing in it. -/
def variantName : Toml.Value → Except String String
  | .string name => .ok name
  | .table [(name, .table [])] => .ok name
  | .table [(name, .array [])] => .ok name
  | _ => (ShapeFault.mismatch "a variant").refuse

def variant {β : Type} (ofName? : String → Option β) (name : β → String) : Codec β where
  read v := do
    let text ← variantName v
    match ofName? text with
    | some b => .ok b
    | none => (ShapeFault.unknownVariant text).refuse
  write b := .string (name b)

end Codec

def Codecs.own : Codecs where
  string := .string
  boolean := .boolean
  integer32 := .integer32
  number := .number
  variant := .variant
  record := Record.codec

/-- Only a table is a document. -/
def Toml.Library.own : Toml.Library where
  codecs := .own
  read source := (Toml.read source).mapError Toml.Fault.message
  print
    | .table entries => .ok (Toml.Printer.document (.table entries))
    | _ => (ShapeFault.mismatch "a table").refuse

end Widgetry
