import CrossFilter.Backend.Service
import CrossFilter.View.State

/-!
# Sessions

A view together with the service that it asks. Each function here asks its questions, and gives the
answers to the view in one step. Of a refresh both questions are asked before either answer is
given to the view.
-/

namespace CrossFilter

namespace View

open Backend

variable {m : Type → Type} [Monad m] (service : Service m)

/-- Asks for the outcome of a chart request. -/
def askChart (request : Chart.Request) : m (Except Failure (Outcome Chart.Result)) := do
  return (← service.chart request).map fun response => response.outcome request

/-- Asks for the outcome of a pivot request. -/
def askPivot (request : Pivot.Request) : m (Except Failure (Outcome Pivot.Table)) := do
  return (← service.pivot request).map fun response => response.outcome request

/-- Loads the columns. -/
def reload (v : View) : m (Except Failure Unit × View) := do
  return v.loadColumns (← service.columns)

/-- Recasts columns and loads them again. Without changes, or with one of a column that the catalog
lacks, nothing is asked. -/
def recast (v : View) (changes : List (String × Recast.Target)) :
    m (Except Failure Unit × View) := do
  if changes.isEmpty then return (.ok (), v)
  match v.recastRequest changes with
  | .error cause => return (.error (.rejected cause), v)
  | .ok request =>
    match ← service.recast request with
    | .error failure => return (.error failure, v)
    | .ok () => v.reload service

/-- Issues the query of the chart selection and takes its answer. -/
def generateChart (v : View) : m (Except Failure Unit × View) := do
  match v.beginChart with
  | (.error cause, v) => return (.error (.rejected cause), v)
  | (.ok ticket, v) =>
    let (done, v) := v.completeChart ticket (← askChart service ticket.query.request)
    return (done.map fun _ => (), v)

/-- Issues the query of the pivot assignment and takes its answer. -/
def generatePivot (v : View) : m (Except Failure Unit × View) := do
  match v.beginPivot with
  | (.error cause, v) => return (.error (.rejected cause), v)
  | (.ok ticket, v) =>
    let (done, v) := v.completePivot ticket (← askPivot service ticket.query)
    return (done.map fun _ => (), v)

/-- Asks the questions of a refresh. -/
def askRefresh (r : Refresh) : m RefreshAnswer := do
  let chart ← match r.chart with
    | none => pure none
    | some ticket => do pure (some (ticket, ← askChart service ticket.query.request))
  let pivot ← match r.pivot with
    | none => pure none
    | some ticket => do pure (some (ticket, ← askPivot service ticket.query))
  return { chart, pivot }

/-- Asks the questions of a refresh and takes the answers. -/
def refresh (v : View) (r : Refresh) : m (Except Failure Unit × View) := do
  return v.completeRefresh (← askRefresh service r)

/-- A new view on the tab that was active last, with its columns loaded. -/
def mount (tab : Tab) : m (Except Failure View) := do
  let (done, v) := View.loadColumns { tab } (← service.columns)
  return done.map fun _ => v

/-- Makes a tab the active one and saves it, unless it is active already. The tab is switched even
if it cannot be saved. -/
def switchAndSave (save : Tab → m (Except Failure Unit)) (v : View) (tab : Tab) :
    m (Except Failure Unit × View) := do
  match v.switchTab tab with
  | (none, v) => return (.ok (), v)
  | (some tab, v) => return (← save tab, v)

end View

end CrossFilter
