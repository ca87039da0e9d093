/-!
Widget flags, and what a widget tells an accessibility host.
-/
namespace Widgetry

/-- A word of flag bits. -/
structure WidgetFlags where
  bits : UInt32
  deriving DecidableEq

namespace WidgetFlags

def none : WidgetFlags := ⟨0⟩

/-- The widget can take keyboard focus. -/
def focusable : UInt32 := 1

/-- The widget ignores input and paints in its disabled colours. -/
def disabled : UInt32 := 2

/-- The widget is not painted. -/
def hidden : UInt32 := 4

/-- Some bit of `flag` is set. -/
def has (flags : WidgetFlags) (flag : UInt32) : Bool := flags.bits &&& flag != 0

def set (flags : WidgetFlags) (flag : UInt32) : WidgetFlags := ⟨flags.bits ||| flag⟩

def clear (flags : WidgetFlags) (flag : UInt32) : WidgetFlags := ⟨flags.bits &&& ~~~flag⟩

def assign (flags : WidgetFlags) (flag : UInt32) (on : Bool) : WidgetFlags :=
  if on then flags.set flag else flags.clear flag

variable {flags : WidgetFlags} {flag other : UInt32}

theorem has_eq_false : flags.has flag = false ↔ flags.bits &&& flag = 0 := by
  simp [has]

theorem has_set (hflag : flag ≠ 0) : (flags.set flag).has flag = true := by
  have hbits : (flags.bits ||| flag) &&& flag = flag := by
    rw [← UInt32.toBitVec_inj]
    ext i hi
    simp +contextual
  simpa [has, set, hbits] using hflag

/-- Clearing other flags leaves a flag as it is. -/
theorem has_clear (h : ~~~other &&& flag = flag) :
    (flags.clear other).has flag = flags.has flag := by
  rw [has, clear, UInt32.and_assoc, h, has]

@[simp] theorem assign_true : flags.assign flag true = flags.set flag := rfl

@[simp] theorem assign_false : flags.assign flag false = flags.clear flag := rfl

/-- A flag that was not set is put back by clearing it. -/
theorem clear_set (h : flags.has flag = false) : (flags.set flag).clear flag = flags := by
  rw [has_eq_false, ← UInt32.toBitVec_inj] at h
  rw [clear, set, WidgetFlags.mk.injEq, ← UInt32.toBitVec_inj]
  ext i hi
  have hbit : (flags.bits.toBitVec[i] && flag.toBitVec[i]) = false := by
    simpa using congrArg (fun bits : BitVec 32 => bits[i]) h
  simp only [UInt32.toBitVec_and, UInt32.toBitVec_or, UInt32.toBitVec_not, BitVec.getElem_and,
    BitVec.getElem_or, BitVec.getElem_not]
  revert hbit
  cases flags.bits.toBitVec[i] <;> cases flag.toBitVec[i] <;> simp

end WidgetFlags

inductive SemanticRole where
  | none
  | text
  deriving DecidableEq, Repr

structure SemanticFlags where
  bits : UInt32
  deriving DecidableEq

namespace SemanticFlags

def none : SemanticFlags := ⟨0⟩

def disabled : UInt32 := 1

def selected : UInt32 := 2

def focusable : UInt32 := 4

def focused : UInt32 := 8

def has (flags : SemanticFlags) (flag : UInt32) : Bool := flags.bits &&& flag != 0

def set (flags : SemanticFlags) (flag : UInt32) : SemanticFlags := ⟨flags.bits ||| flag⟩

def setIf (flags : SemanticFlags) (flag : UInt32) (on : Bool) : SemanticFlags :=
  if on then flags.set flag else flags

/-- The disabled and focusable bits of a widget. -/
def ofWidget (flags : WidgetFlags) : SemanticFlags :=
  (none.setIf disabled (flags.has WidgetFlags.disabled)).setIf focusable
    (flags.has WidgetFlags.focusable)

end SemanticFlags

structure Semantics where
  role : SemanticRole
  flags : SemanticFlags
  label : Option String
  hint : Option String
  value : Option String
  deriving DecidableEq

end Widgetry
