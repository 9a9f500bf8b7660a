import CrossFilter.Failure
import CrossFilter.Json.Value
import CrossFilter.Text.Blank

/-!
# Recasting columns

A column can be given another type on the side of the service. The three targets have several
names each, and one tag that the service understands.
-/

namespace CrossFilter

namespace Recast

inductive Target where
  | text
  | decimal
  | integer
  deriving DecidableEq, Repr

def Target.tag : Target → String
  | .text => "String"
  | .decimal => "Float64"
  | .integer => "Int64"

def Target.ofName (s : String) : Except UnknownName Target :=
  match Text.word s with
  | "text" | "string" => .ok .text
  | "decimal" | "float" | "float64" => .ok .decimal
  | "integer" | "int" | "int64" => .ok .integer
  | word => .error ⟨"recast type", word⟩

/-- New type tags for some columns. -/
structure Request where
  changes : List (String × String)
  deriving DecidableEq, Repr

def Request.ofTargets (changes : List (String × Target)) : Request :=
  ⟨changes.map fun (column, target) => (column, target.tag)⟩

def Request.toJson (r : Request) : Json :=
  .object [("modifications", .array (r.changes.map fun (column, tag) =>
    .object [("column", .text column), ("type", .text tag)]))]

end Recast

end CrossFilter
