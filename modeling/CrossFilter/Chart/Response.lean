import CrossFilter.Scalar

/-!
# Chart responses

The answer of the service to a chart request, before anything is made of it. All fields are
optional; which of them matter depends on the kind that the response declares.
-/

namespace CrossFilter.Chart

open Number

structure Response where
  kind : Option String := none
  /-- The categories of a bar, line or area chart. -/
  labels : List Scalar := []
  /-- The values of those categories. -/
  values : List (Option Binary64) := []
  /-- Set on a line chart that is to be filled. -/
  areaFill : Option Bool := none
  xName : Option String := none
  yName : Option String := none
  /-- Pie slices, scatter points or five-number statistics. -/
  data : Option Json := none
  /-- The categories of a boxplot. -/
  categories : List Scalar := []
  /-- The category index and value of each outlier of a boxplot. -/
  outliers : List (Binary64 × Binary64) := []

namespace Response

def fieldNames : List String :=
  ["chart_type", "labels", "values", "area_fill", "x_name", "y_name", "data", "categories", "outliers"]

def ofJson? (v : Json) : Option Response := do
  let field ← v.fields? fieldNames
  return {
    kind := ← Json.field? (Json.nullable? Json.text?) none (field "chart_type")
    labels := ← Json.field? (Json.list? Scalar.ofJson?) [] (field "labels")
    values := ← Json.field? (Json.list? (Json.nullable? Json.real?)) [] (field "values")
    areaFill := ← Json.field? (Json.nullable? Json.bool?) none (field "area_fill")
    xName := ← Json.field? (Json.nullable? Json.text?) none (field "x_name")
    yName := ← Json.field? (Json.nullable? Json.text?) none (field "y_name")
    data := ← Json.field? (Json.nullable? some) none (field "data")
    categories := ← Json.field? (Json.list? Scalar.ofJson?) [] (field "categories")
    outliers := ← Json.field? (Json.list? (Json.pair? Json.real? Json.real?)) [] (field "outliers") }

end Response

end CrossFilter.Chart
