import CrossFilter.Outcome
import CrossFilter.Pivot.Request

/-!
# Pivot tables

The answer of the service to a pivot request, and the table that is made of it: every row is as wide
as the headers, and the totals, if there are any, are the last row and flagged.
-/

namespace CrossFilter.Pivot

structure Response where
  headers : List String := []
  rows : List (List Scalar) := []
  totals : Option (List Scalar) := none
  /-- How many rows the service counts, if it says so. -/
  rowCount : Option Nat := none

structure Row where
  cells : List Scalar
  isTotal : Bool
  deriving DecidableEq, Repr

structure Table where
  headers : List String
  /-- The data rows, and behind them the row of totals if there is one. -/
  rows : List Row
  /-- How many data rows there are by the service's count. -/
  rowCount : Nat
  /-- How many leading columns hold the labels of row fields. -/
  rowFields : Nat
  deriving DecidableEq, Repr

namespace Table

def totals? (t : Table) : Option Row := t.rows.getLast?.filter Row.isTotal

def dataRows (t : Table) : List Row := t.rows.filter fun r => !r.isTotal

end Table

/-- Cuts or fills up with nulls to the given width. -/
def align (width : Nat) (cells : List Scalar) : List Scalar :=
  cells.take width ++ List.replicate (width - cells.length) .null

namespace Response

def fieldNames : List String := ["headers", "rows", "totals", "row_count"]

def ofJson? (v : Json) : Option Response := do
  let field ← v.fields? fieldNames
  let cells := Json.list? Scalar.ofJson?
  return {
    headers := ← Json.field? (Json.list? Json.text?) [] (field "headers")
    rows := ← Json.field? (Json.list? cells) [] (field "rows")
    totals := ← Json.field? (Json.nullable? cells) none (field "totals")
    rowCount := ← Json.field? (Json.nullable? Json.natural?) none (field "row_count") }

/-- The row of totals, unless there are no totals. -/
def totalRows (r : Response) : List Row :=
  match r.totals with
  | some (c :: cs) => [⟨align r.headers.length (c :: cs), true⟩]
  | _ => []

/-- The outcome of a request that this response answers. -/
def outcome (r : Response) (q : Request) : Outcome Table :=
  if r.rows.isEmpty || r.headers.isEmpty then .empty
  else
    let width := r.headers.length
    .data {
      headers := r.headers
      rows := (r.rows.map fun cells => ⟨align width cells, false⟩) ++ r.totalRows
      rowCount := r.rowCount.getD r.rows.length
      rowFields := min q.rows.length width }

end Response

end CrossFilter.Pivot
