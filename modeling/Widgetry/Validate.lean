import Widgetry.Color
/-!
Argument checks shared by the widgets. They run before any state is touched.
-/
namespace Widgetry.Validate

variable {α : Type} [Scalar α]

/-- Names the first value that is negative or NaN. -/
def nonNegative : List (α × String) → Except Error Unit
  | [] => .ok ()
  | (value, label) :: rest =>
    if Scalar.isNaN value = true ∨ value < 0 then .error (.range (.field label))
    else nonNegative rest

def colors : List (Color α) → Except Error Unit
  | [] => .ok ()
  | color :: rest =>
    match color.validate with
    | .ok () => colors rest
    | .error e => .error e

/-- A selected index addresses one of `count` items. -/
def selection (index : Option Nat) (count : Nat) : Except Error Unit :=
  match index with
  | some i => if i < count then .ok () else .error (.range .selectedIndex)
  | none => .ok ()

/-- Keeps an index that addresses one of `count` items. -/
def inRange (count : Nat) (index : Option Nat) : Option Nat := index.filter (· < count)

/-- One flag per item. -/
def states (flags : List Bool) (count : Nat) : Except Error Unit :=
  if flags.length = count then .ok () else .error (.invalidArgument .flagCount)

end Widgetry.Validate
