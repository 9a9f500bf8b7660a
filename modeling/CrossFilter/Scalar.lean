import CrossFilter.Json.Printer
import CrossFilter.Json.Shape

/-!
# Scalars

A scalar is what a cell of a result or a filter on a column holds. Numbers are doubles. `display`
is its text in a label, `toJson` its form in a request, in which NaN and the infinities turn into
null, and `ofJson?` reads the cells of a response.
-/

namespace CrossFilter

open Number

inductive Scalar where
  | null
  | bool (b : Bool)
  | number (d : Binary64)
  | text (s : String)
  deriving DecidableEq, Repr

namespace Scalar

/-- The text in a label; null shows nothing. -/
def display : Scalar → String
  | .null => ""
  | .bool b => if b then "true" else "false"
  | .number d => plainText d
  | .text s => s

def isNull : Scalar → Bool
  | .null => true
  | _ => false

def number? : Scalar → Option Binary64
  | .number d => some d
  | _ => none

/-- Equality of values: that of numbers is `Binary64.same`. -/
def same : Scalar → Scalar → Bool
  | .null, .null => true
  | .bool a, .bool b => a == b
  | .number a, .number b => a.same b
  | .text a, .text b => a == b
  | _, _ => false

def toJson : Scalar → Json
  | .null => .null
  | .bool b => .bool b
  | .number d => .ofReal d
  | .text s => .text s

def ofJson? : Json → Option Scalar
  | .null => some .null
  | .bool b => some (.bool b)
  | .number n => some (.number n.toReal)
  | .text s => some (.text s)
  | _ => none

/-- The scalar that a JSON text spells. -/
def ofText? (s : String) : Option Scalar := do ofJson? (← Json.ofText? s)

end Scalar

end CrossFilter
