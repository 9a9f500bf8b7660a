import CrossFilter.Filters
import CrossFilter.Pivot.Aggregator

/-!
# Pivot requests

What is asked of the service for a pivot table, and the object that a request body holds.
-/

namespace CrossFilter.Pivot

/-- A column whose values are aggregated. -/
structure ValueField where
  column : String
  aggregator : Aggregator
  deriving DecidableEq, Repr

structure Request where
  rows : List String
  columns : List String
  values : List ValueField
  filters : Filters
  deriving DecidableEq, Repr

def ValueField.toJson (f : ValueField) : Json :=
  .object [("column", .text f.column), ("aggregator", .text f.aggregator.name)]

def Request.toJson (r : Request) : Json :=
  .object [("rows", Json.texts r.rows), ("columns", Json.texts r.columns),
    ("values", .array (r.values.map ValueField.toJson)), ("filters", r.filters.toJson)]

end CrossFilter.Pivot
