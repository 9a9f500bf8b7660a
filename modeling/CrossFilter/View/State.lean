import CrossFilter.Chart.Plot
import CrossFilter.Chart.Selection
import CrossFilter.Column.Recast
import CrossFilter.Pivot.Assignment
import CrossFilter.Pivot.Grid
import CrossFilter.View.Preferences
import CrossFilter.View.Section

/-!
# Report views

A view has a chart section and a pivot section over one catalog, which share their cross-filters.
Its operations are pure: an operation that asks the service something hands out a ticket, and the
answer is given back with the ticket later, in whatever order answers arrive.

* An operation that can be refused says whether it was, beside the view that it leaves.
* A new catalog prunes every reference to a column it lacks and resets both sections.
* A change of the filters issues the last query of each active section again, under the new filters.
* A rejected chart clears what is displayed; a rejected pivot table leaves it in place.
-/

namespace CrossFilter

/-- A chart request with the title that its result is to have. -/
structure Chart.Query where
  request : Chart.Request
  title : Option String
  deriving DecidableEq, Repr

structure View where
  tab : Tab := .default
  catalog : Catalog := .empty
  selection : Chart.Selection := {}
  assignment : Pivot.Assignment := .empty
  filters : Filters := .empty
  chart : Section Chart.Query Chart.Result := {}
  /-- The title of the displayed chart. -/
  chartTitle : Option String := none
  pivot : Section Pivot.Request Pivot.Table := {}
  deriving DecidableEq, Repr

/-- The queries that a change of the filters issued again. -/
structure Refresh where
  chart : Option (Ticket Chart.Query) := none
  pivot : Option (Ticket Pivot.Request) := none
  deriving DecidableEq, Repr

def Refresh.isEmpty (r : Refresh) : Bool := r.chart.isNone && r.pivot.isNone

namespace View

/-! ## The catalog -/

def resetChart (v : View) : View := { v with chart := v.chart.reset, chartTitle := none }

def resetPivotSection (v : View) : View := { v with pivot := v.pivot.reset }

/-- Takes on a new catalog. Displayed results were computed from the old one and are dropped, and
so is whatever is under way. -/
def applyCatalog (v : View) (catalog : Catalog) : View :=
  { v with
    catalog
    selection := v.selection.reconcile catalog
    assignment := v.assignment.prune catalog
    filters := v.filters.prune catalog }.resetChart.resetPivotSection

/-- Takes the answer to a query for the columns. -/
def loadColumns (v : View) (answer : Except Failure Catalog) : Except Failure Unit × View :=
  match answer with
  | .ok catalog => (.ok (), v.applyCatalog catalog)
  | .error failure => (.error failure, v)

/-- The request that recasts some columns, all of which have to be in the catalog. -/
def recastRequest (v : View) (changes : List (String × Recast.Target)) :
    Except Rejection Recast.Request :=
  match changes.find? fun change => !v.catalog.contains change.1 with
  | some (column, _) => .error (.unknownColumn column)
  | none => .ok (.ofTargets changes)

/-! ## The chart section -/

def setX (v : View) (column : Option String) : Except Rejection Unit × View :=
  let (done, selection) := v.selection.setX v.catalog column
  (done, { v with selection })

def setY (v : View) (column : Option String) : Except Rejection Unit × View :=
  let (done, selection) := v.selection.setY v.catalog column
  (done, { v with selection })

def setKind (v : View) (kind : Chart.Kind) : Except Rejection Unit × View :=
  let (done, selection) := v.selection.setKind kind
  (done, { v with selection })

def setTitle (v : View) (title : String) : View :=
  { v with selection := v.selection.setTitle title }

/-- The plot of the displayed chart, if it has data. -/
def plot? (v : View) : Option Chart.Plot :=
  v.chart.slot.data?.map fun result => result.plot v.chartTitle

def chartRequest (v : View) : Except Rejection Chart.Request :=
  if v.catalog.isEmpty then .error .noDataset else v.selection.request v.filters

/-- Issues the query of the chart selection. A rejection clears the displayed chart. -/
def beginChart (v : View) : Except Rejection (Ticket Chart.Query) × View :=
  match v.chartRequest with
  | .ok request =>
    let (ticket, chart) := v.chart.issue ⟨request, v.selection.effectiveTitle⟩
    (.ok ticket, { v with chart })
  | .error cause =>
    let chart := v.chart.reject (v.chart.slot.failAndClear cause.message)
    (.error cause, { v with chart, chartTitle := none })

/-- Takes the answer to a chart ticket, and says whether the ticket was current. -/
def completeChart (v : View) (t : Ticket Chart.Query)
    (answer : Except Failure (Outcome Chart.Result)) : Except Failure Bool × View :=
  let (current, chart) := v.chart.complete t answer
  let chartTitle := match current with
    | .ok true => t.query.title
    | _ => v.chartTitle
  (current, { v with chart, chartTitle })

/-! ## The pivot section -/

def assign (v : View) (column : String) (zone : Pivot.Zone) : Except Rejection Unit × View :=
  if v.catalog.contains column then
    (.ok (), { v with assignment := v.assignment.assign column zone })
  else (.error (.unknownColumn column), v)

/-- Takes a column out of the assignment, and says whether it was there. -/
def unassign (v : View) (column : String) : Bool × View :=
  let (was, assignment) := v.assignment.unassign column
  (was, { v with assignment })

/-- Takes an assigned column out, and assigns any other to its natural zone, which is returned. -/
def toggle (v : View) (column : String) : Except Rejection (Option Pivot.Zone) × View :=
  match v.catalog.typeOf? column with
  | none => (.error (.unknownColumn column), v)
  | some type =>
    let (zone, assignment) := v.assignment.toggle column type
    (.ok zone, { v with assignment })

def setAggregator (v : View) (column : String) (aggregator : Pivot.Aggregator) :
    Except Rejection Unit × View :=
  let (done, assignment) := v.assignment.setAggregator column aggregator
  (done, { v with assignment })

/-- Empties all zones and resets the section. -/
def resetPivot (v : View) : View := { v with assignment := .empty }.resetPivotSection

/-- The grid of the displayed pivot table, if it has data. -/
def grid? (v : View) : Option Pivot.Grid := v.pivot.slot.data?.map Pivot.Table.grid

def pivotRequest (v : View) : Except Rejection Pivot.Request :=
  if v.catalog.isEmpty then .error .noDataset else v.assignment.request v.filters v.catalog

/-- Issues the query of the pivot assignment. A rejection leaves the displayed table in place. -/
def beginPivot (v : View) : Except Rejection (Ticket Pivot.Request) × View :=
  match v.pivotRequest with
  | .ok request =>
    let (ticket, pivot) := v.pivot.issue request
    (.ok ticket, { v with pivot })
  | .error cause =>
    (.error cause, { v with pivot := v.pivot.reject (v.pivot.slot.fail cause.message) })

/-- Takes the answer to a pivot ticket, and says whether the ticket was current. -/
def completePivot (v : View) (t : Ticket Pivot.Request)
    (answer : Except Failure (Outcome Pivot.Table)) : Except Failure Bool × View :=
  let (current, pivot) := v.pivot.complete t answer
  (current, { v with pivot })

/-! ## Cross-filters -/

/-- Issues the last query of every active section again, under the present filters. -/
def reissue (v : View) : Refresh × View :=
  let (chartTicket, chart) := v.chart.reissue fun q =>
    { q with request := { q.request with filters := v.filters } }
  let (pivotTicket, pivot) := v.pivot.reissue fun q => { q with filters := v.filters }
  (⟨chartTicket, pivotTicket⟩, { v with chart, pivot })

/-- What follows a possible change of the filters: nothing, if there was none. -/
def filtersChanged (v : View) (changed : Bool) : Refresh × View :=
  if changed then v.reissue else ({}, v)

def addFilter (v : View) (column : String) (value : Scalar) : Except Rejection Refresh × View :=
  match v.filters.add v.catalog column value with
  | (.error cause, filters) => (.error cause, { v with filters })
  | (.ok changed, filters) =>
    let (refresh, v) := { v with filters }.filtersChanged changed
    (.ok refresh, v)

def removeFilter (v : View) (column : String) : Refresh × View :=
  let (changed, filters) := v.filters.remove column
  { v with filters }.filtersChanged changed

/-- Takes off all filters; a section with nothing displayed or awaited goes back to idle. -/
def clearFilters (v : View) : Refresh × View :=
  let (changed, filters) := v.filters.clear
  { v with filters, chart := v.chart.settle, pivot := v.pivot.settle }.filtersChanged changed

/-- The column that a click on the displayed chart filters on. Only some kinds of chart have
elements that name a category. -/
def clickColumn? (v : View) : Option String := do
  let result ← v.chart.slot.data?
  let query ← v.chart.last
  if result.kind.isClickable then some query.request.x else none

/-- Filters on the category with the clicked label, typed after its column. -/
def click (v : View) (label : String) : Except Rejection Refresh × View :=
  match v.clickColumn? with
  | none => (.ok {}, v)
  | some column => v.addFilter column (typedValue (v.catalog.typeOf? column) label)

/-- The first failure among the answers to some tickets. -/
def firstFailure : List (Except Failure Bool) → Except Failure Unit
  | [] => .ok ()
  | .error failure :: _ => .error failure
  | .ok _ :: rest => firstFailure rest

/-- The answers to the tickets of a refresh, each with its ticket. -/
structure RefreshAnswer where
  chart : Option (Ticket Chart.Query × Except Failure (Outcome Chart.Result))
  pivot : Option (Ticket Pivot.Request × Except Failure (Outcome Pivot.Table))

/-- Takes the answer to a chart ticket, if there is one. -/
def completeChart? (v : View) :
    Option (Ticket Chart.Query × Except Failure (Outcome Chart.Result)) → Except Failure Bool × View
  | none => (.ok false, v)
  | some (ticket, answer) => v.completeChart ticket answer

def completePivot? (v : View) :
    Option (Ticket Pivot.Request × Except Failure (Outcome Pivot.Table)) → Except Failure Bool × View
  | none => (.ok false, v)
  | some (ticket, answer) => v.completePivot ticket answer

/-- Takes the answers of a refresh. Both are applied, whether or not one failed, and the chart's
failure is reported before the pivot table's. -/
def completeRefresh (v : View) (answer : RefreshAnswer) : Except Failure Unit × View :=
  let (chartDone, v) := v.completeChart? answer.chart
  let (pivotDone, v) := v.completePivot? answer.pivot
  (firstFailure [chartDone, pivotDone], v)

/-! ## Tabs -/

/-- Makes a tab the active one. The result is the tab to be saved, if the active one changed. -/
def switchTab (v : View) (tab : Tab) : Option Tab × View :=
  if tab = v.tab then (none, v) else (some tab, { v with tab })

end View

end CrossFilter
