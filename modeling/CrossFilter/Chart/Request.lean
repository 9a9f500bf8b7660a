import CrossFilter.Chart.Kind
import CrossFilter.Filters

/-!
# Chart requests

What is asked of the service for a chart, and the object that a request body holds: a Y column
that is not chosen has no member.
-/

namespace CrossFilter.Chart

structure Request where
  x : String
  y : Option String
  kind : Kind
  filters : Filters
  deriving DecidableEq, Repr

def Request.toJson (r : Request) : Json :=
  .object ([("x_column", .text r.x)] ++ (r.y.map fun y => ("y_column", Json.text y)).toList ++
    [("chart_type", .text r.kind.name), ("filters", r.filters.toJson)])

end CrossFilter.Chart
