import CrossFilter.Pivot.Table

/-!
# Pivot grids

The grid that shows a pivot table, and its JSON form. The leading columns are row fields. A row of
totals whose first label was left null is labelled `Total`.
-/

namespace CrossFilter.Pivot

inductive Role where
  | rowField
  | value
  deriving DecidableEq, Repr

structure GridColumn where
  name : String
  role : Role
  deriving DecidableEq, Repr

structure Grid where
  columns : List GridColumn
  rows : List Row
  rowCount : Nat
  deriving DecidableEq, Repr

/-- Puts a label in the place of a leading null. -/
def labelled : List Scalar → List Scalar
  | .null :: cells => .text "Total" :: cells
  | cells => cells

def Row.shown (rowFields : Nat) (r : Row) : Row :=
  if r.isTotal && 0 < rowFields then { r with cells := labelled r.cells } else r

/-- The columns under these headers, the first `rowFields` of them row fields. -/
def gridColumns : (rowFields : Nat) → List String → List GridColumn
  | _, [] => []
  | 0, name :: names => ⟨name, .value⟩ :: gridColumns 0 names
  | n + 1, name :: names => ⟨name, .rowField⟩ :: gridColumns n names

def Table.grid (t : Table) : Grid where
  columns := gridColumns t.rowFields t.headers
  rows := t.rows.map (Row.shown t.rowFields)
  rowCount := t.rowCount

namespace Grid

def Role.name : Role → String
  | .rowField => "row_field"
  | .value => "value"

def toJson (g : Grid) : Json :=
  .object [
    ("columns", .array (g.columns.map fun c =>
      .object [("name", .text c.name), ("role", .text (Role.name c.role))])),
    ("rows", .array (g.rows.map fun r =>
      .object [("cells", .array (r.cells.map Scalar.toJson)), ("is_total", .bool r.isTotal)])),
    ("row_count", .ofNat g.rowCount)]

end Grid

end CrossFilter.Pivot
