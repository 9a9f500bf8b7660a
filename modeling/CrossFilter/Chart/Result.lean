import CrossFilter.Chart.Request
import CrossFilter.Chart.Response
import CrossFilter.Outcome

/-!
# Chart results

What a chart shows, in one of four closed shapes. `Response.outcome` makes a result of a response.
The kind that the response declares counts, not the one that was asked for: the request only lends
its column names to axes that the response leaves unnamed. A response that cannot be understood is
an empty outcome and not an error.
-/

namespace CrossFilter.Chart

open Number

/-- The charts that give each category one value. -/
inductive SeriesShape where
  | bar
  | line
  | area
  deriving DecidableEq, Repr

structure Slice where
  name : String
  value : Binary64
  deriving DecidableEq, Repr

structure Point where
  x : Binary64
  y : Binary64
  deriving DecidableEq, Repr

/-- The five-number statistics of one category. -/
structure Box where
  min : Binary64
  q1 : Binary64
  median : Binary64
  q3 : Binary64
  max : Binary64
  deriving DecidableEq, Repr

/-- A value outside the box of the category at the given position. -/
structure Outlier where
  category : Nat
  value : Binary64
  deriving DecidableEq, Repr

inductive Result where
  | series (shape : SeriesShape) (labels : List String) (values : List (Option Binary64))
      (yName : String)
  | pie (slices : List Slice)
  | scatter (points : List Point) (xName yName : String)
  | boxplot (categories : List String) (boxes : List Box) (outliers : List Outlier)
      (yName : String)
  deriving DecidableEq, Repr

def SeriesShape.kind : SeriesShape → Kind
  | .bar => .bar
  | .line => .line
  | .area => .area

def Result.kind : Result → Kind
  | .series shape _ _ _ => shape.kind
  | .pie _ => .pie
  | .scatter _ _ _ => .scatter
  | .boxplot _ _ _ _ => .boxplot

/-! ## Payloads -/

/-- A slice as sent: its name must be there, and its value may be null. A missing value is null
only where the slice is spelled as an object. -/
def slice? : Json → Option (Scalar × Option Binary64)
  | .array [name, value] => do
    return (← Scalar.ofJson? name, ← Json.nullable? Json.real? value)
  | .object members => do
    let name ← Scalar.ofJson? (← Json.member? "name" members)
    return (name, ← Json.field? (Json.nullable? Json.real?) none (Json.member? "value" members))
  | _ => none

def box? : Json → Option Box
  | .array [a, b, c, d, e] => do
    return ⟨← a.real?, ← b.real?, ← c.real?, ← d.real?, ← e.real?⟩
  | _ => none

/-- The outlier of an index that is a natural number below `size`. -/
def outlier? (size : Nat) (index value : Binary64) : Option Outlier :=
  match index.natural? with
  | some i => if i < size then some ⟨i, value⟩ else none
  | none => none

/-! ## Normalization -/

namespace Response

/-- The kind that a response declares; a line chart that is to be filled is an area chart. -/
def declared? (r : Response) : Option Kind := do
  match (Kind.ofName (← r.kind)).toOption with
  | some .line => if r.areaFill = some true then some .area else some .line
  | kind => kind

def xNameFor (r : Response) (q : Request) : String := r.xName.getD q.x

/-- Without a Y column the values are counts. -/
def yNameFor (r : Response) (q : Request) : String := (r.yName <|> q.y).getD "count"

def series? (r : Response) (shape : SeriesShape) (yName : String) : Option Result :=
  if r.labels.isEmpty || r.labels.length != r.values.length then none
  else some (.series shape (r.labels.map Scalar.display) r.values yName)

/-- A slice without a value is left out. -/
def pie? (r : Response) : Option Result := do
  let sent ← (← r.data).list? slice?
  let slices := sent.filterMap fun (name, value) => value.map fun v => ⟨name.display, v⟩
  if slices.isEmpty then none else some (.pie slices)

/-- A point without one of its coordinates is left out. -/
def scatter? (r : Response) (xName yName : String) : Option Result := do
  let coordinate := Json.nullable? Json.real?
  let sent ← (← r.data).list? (Json.pair? coordinate coordinate)
  let points := sent.filterMap fun (x, y) => do return ⟨← x, ← y⟩
  if points.isEmpty then none else some (.scatter points xName yName)

/-- An outlier whose index is no category is left out. -/
def boxplot? (r : Response) (yName : String) : Option Result := do
  let boxes ← (← r.data).list? box?
  if boxes.isEmpty || boxes.length != r.categories.length then none
  let outliers := r.outliers.filterMap fun (index, value) => outlier? boxes.length index value
  return .boxplot (r.categories.map Scalar.display) boxes outliers yName

def result? (r : Response) (q : Request) : Option Result := do
  match ← r.declared? with
  | .bar => r.series? .bar (r.yNameFor q)
  | .line => r.series? .line (r.yNameFor q)
  | .area => r.series? .area (r.yNameFor q)
  | .pie => r.pie?
  | .scatter => r.scatter? (r.xNameFor q) (r.yNameFor q)
  | .boxplot => r.boxplot? (r.yNameFor q)

/-- The outcome of a request that this response answers. -/
def outcome (r : Response) (q : Request) : Outcome Result := .ofOption (r.result? q)

end Response

end CrossFilter.Chart
