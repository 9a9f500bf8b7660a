import CrossFilter.Chart.Palette
import CrossFilter.Chart.Result

/-!
# Plots

The declarative plot that a charting surface draws, and its JSON form. `Result.plot` lays out a
chart result: bars, lines and areas over a category axis, pies without axes, scatters over two value
axes, and boxplots over a category axis, with their outliers as a second, scattered series.
-/

namespace CrossFilter.Chart

open Number

namespace Plot

inductive Trigger where
  | axis
  | item
  deriving DecidableEq, Repr

inductive Pointer where
  | shadow
  | line
  deriving DecidableEq, Repr

structure Tooltip where
  trigger : Trigger
  pointer : Option Pointer
  deriving DecidableEq, Repr

inductive Axis where
  | category (labels : List String)
  | value (name : String)
  deriving DecidableEq, Repr

/-- A box with the colours of its filling and border. -/
structure ColoredBox where
  box : Box
  fill : String
  border : String
  deriving DecidableEq, Repr

inductive Series where
  | bar (name : String) (values : List (Option Binary64))
  /-- The area under a line may be filled. -/
  | line (name : String) (values : List (Option Binary64)) (filled : Bool)
  | pie (slices : List Slice)
  | scatter (name : String) (points : List Point)
  | boxplot (name : String) (boxes : List ColoredBox)
  deriving DecidableEq, Repr

end Plot

structure Plot where
  title : Option String
  colors : List String
  tooltip : Plot.Tooltip
  /-- Whether there is a scrolling legend. -/
  legend : Bool
  xAxis : Option Plot.Axis
  yAxis : Option Plot.Axis
  series : List Plot.Series
  /-- Whether a click on an element names a category to filter on. -/
  clickable : Bool
  deriving DecidableEq, Repr

namespace Plot

/-! ## Layout -/

def itemTooltip : Tooltip := ⟨.item, none⟩

def outliersName : String := "Outliers"

/-- The boxes in palette colours, the first in that of `index`. -/
def colored (index : Nat) : List Box → List ColoredBox
  | [] => []
  | b :: bs =>
    let border := Palette.color index
    ⟨b, Palette.withAlpha border Palette.fillAlpha, border⟩ :: colored (index + 1) bs

/-- An outlier over its category's position. -/
def outlierPoint (o : Outlier) : Point := ⟨.ofNat o.category, o.value⟩

def tooltipOf : Result → Tooltip
  | .series .bar _ _ _ => ⟨.axis, some .shadow⟩
  | .series _ _ _ _ => ⟨.axis, some .line⟩
  | _ => itemTooltip

def xAxisOf : Result → Option Axis
  | .series _ labels _ _ => some (.category labels)
  | .pie _ => none
  | .scatter _ xName _ => some (.value xName)
  | .boxplot categories _ _ _ => some (.category categories)

def yAxisOf : Result → Option Axis
  | .series _ _ _ yName => some (.value yName)
  | .pie _ => none
  | .scatter _ _ yName => some (.value yName)
  | .boxplot _ _ _ yName => some (.value yName)

def seriesOf : Result → List Series
  | .series .bar _ values yName => [.bar yName values]
  | .series .line _ values yName => [.line yName values false]
  | .series .area _ values yName => [.line yName values true]
  | .pie slices => [.pie slices]
  | .scatter points _ yName => [.scatter yName points]
  | .boxplot _ boxes outliers yName =>
    .boxplot yName (colored 0 boxes) ::
      if outliers.isEmpty then [] else [.scatter outliersName (outliers.map outlierPoint)]

end Plot

/-- The plot of a result under a title. -/
def Result.plot (r : Result) (title : Option String) : Plot where
  title := title
  colors := Palette.colors
  tooltip := Plot.tooltipOf r
  legend := r.kind = .pie
  xAxis := Plot.xAxisOf r
  yAxis := Plot.yAxisOf r
  series := Plot.seriesOf r
  clickable := r.kind.isClickable

/-! ## JSON form -/

namespace Plot

def Trigger.name : Trigger → String
  | .axis => "axis"
  | .item => "item"

def Pointer.name : Pointer → String
  | .shadow => "shadow"
  | .line => "line"

/-- A member that is left out if it has no value. -/
def optional {α : Type} (key : String) (f : α → Json) (v : Option α) : List (String × Json) :=
  (v.map fun a => (key, f a)).toList

def Tooltip.toJson (t : Tooltip) : Json :=
  .object (("trigger", .text t.trigger.name) ::
    optional "axisPointer" (fun p => .text p.name) t.pointer)

/-- A category axis without labels has no `data` member. -/
def Axis.toJson : Axis → Json
  | .category labels =>
    .object (("type", .text "category") ::
      if labels.isEmpty then [] else [("data", Json.texts labels)])
  | .value name => .object [("type", .text "value"), ("name", .text name)]

/-- How much of an area's colour covers what is behind it. -/
def areaOpacity : Binary64 := .ofRatio false 15 100

def symbolSize : Nat := 8

/-- The inner and outer radius of a pie. -/
def pieRadius : List String := ["35%", "65%"]

def pairJson (a b : Binary64) : Json := .array [.ofReal a, .ofReal b]

def valuesJson (values : List (Option Binary64)) : Json :=
  .array (values.map (Json.orNull Json.ofReal))

def ColoredBox.toJson (c : ColoredBox) : Json :=
  .object [
    ("value", .array ([c.box.min, c.box.q1, c.box.median, c.box.q3, c.box.max].map Json.ofReal)),
    ("itemStyle", .object [("color", .text c.fill), ("borderColor", .text c.border)])]

def Series.toJson : Series → Json
  | .bar name values =>
    .object [("type", .text "bar"), ("name", .text name), ("data", valuesJson values)]
  | .line name values filled =>
    .object ([("type", .text "line"), ("name", .text name), ("data", valuesJson values)] ++
      if filled then [("areaStyle", .object [("opacity", .ofReal areaOpacity)])] else [])
  | .pie slices =>
    .object [("type", .text "pie"), ("radius", Json.texts pieRadius),
      ("data", .array (slices.map fun s =>
        .object [("name", .text s.name), ("value", .ofReal s.value)]))]
  | .scatter name points =>
    .object [("type", .text "scatter"), ("name", .text name),
      ("data", .array (points.map fun p => pairJson p.x p.y)), ("symbolSize", .ofNat symbolSize)]
  | .boxplot name boxes =>
    .object [("type", .text "boxplot"), ("name", .text name),
      ("data", .array (boxes.map ColoredBox.toJson))]

def toJson (p : Plot) : Json :=
  .object (
    optional "title" .text p.title ++
    [("color", Json.texts p.colors), ("tooltip", p.tooltip.toJson)] ++
    (if p.legend then [("legend", .object [("type", .text "scroll")])] else []) ++
    optional "xAxis" Axis.toJson p.xAxis ++
    optional "yAxis" Axis.toJson p.yAxis ++
    [("series", .array (p.series.map Series.toJson)), ("clickable", .bool p.clickable)])

end Plot

end CrossFilter.Chart
