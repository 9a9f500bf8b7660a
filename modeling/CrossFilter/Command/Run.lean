import CrossFilter.Command.Arguments
import CrossFilter.View.Session

/-!
# Running a command

A command loads the columns, asks the service for one thing and prints the answer. `Host` is what a
command needs of the world around it: something that carries messages, and a place for preferences.
-/

namespace CrossFilter.Command

open Backend

structure Host (m : Type → Type) where
  /-- Carries a message to the service. -/
  send : Settings → Message → m (Except String Reply)
  loadTab : Settings → m Tab
  saveTab : Settings → Tab → m (Except Failure Unit)

/-- Why a command printed nothing. -/
inductive Fault where
  | failed (failure : Failure)
  | unknown (name : UnknownName)
  deriving DecidableEq, Repr

def Fault.message : Fault → String
  | .failed failure => failure.userMessage
  | .unknown name => name.message

/-! ## What is printed -/

/-- Fills up with blanks on the right. -/
def padTo (width : Nat) (s : String) : String :=
  s ++ String.ofList (List.replicate (width - s.length) ' ')

def tableRow (name type tag : String) : String :=
  padTo 32 name ++ " " ++ padTo 10 type ++ " " ++ tag ++ "\n"

def catalogTable (catalog : Catalog) : String :=
  catalog.columns.foldl (fun text c => text ++ tableRow c.name c.type.name c.tag)
    (tableRow "column" "type" "backend type")

/-- A result as indented JSON, or a line that there is none. -/
def printed (result : Option Json) : String :=
  match result with
  | some v => v.renderPretty ++ "\n"
  | none => "No data for this selection\n"

/-! ## Steps -/

/-- A value field as given: a column, and an aggregator behind a colon. -/
def valueField (s : String) : Except UnknownName (String × Pivot.Aggregator) :=
  match Text.splitFirst? ':' s with
  | some (column, name) => do return (Text.trim column, ← Pivot.Aggregator.ofName name)
  | none => .ok (Text.trim s, .sum)

def recastChange (change : String × String) : Except UnknownName (String × Recast.Target) := do
  return (change.1, ← Recast.Target.ofName change.2)

def rejectedAs {α : Type} (r : Except Rejection α) : Except Fault α :=
  r.mapError fun cause => .failed (.rejected cause)

/-- The state that an operation leaves, unless it was refused. -/
def accepted {σ α : Type} (step : Except Rejection α × σ) : Except Rejection σ :=
  step.1.map fun _ => step.2

/-- The view with a chart's columns, kind and title chosen. -/
def chooseChart (v : View) (x : String) (y : Option String) (kind : Option Chart.Kind)
    (title : Option String) : Except Fault View := rejectedAs do
  let v ← accepted (v.setX (some x))
  let v ← accepted (v.setY y)
  let v ← match kind with
    | some kind => accepted (v.setKind kind)
    | none => pure v
  return match title with
    | some title => v.setTitle title
    | none => v

/-- The view with a value field placed under its aggregator. -/
def placeValue (v : View) (field : String) : Except Fault View := do
  let (column, aggregator) ← (valueField field).mapError .unknown
  rejectedAs do
    let v ← accepted (v.assign column .values)
    accepted (v.setAggregator column aggregator)

/-- The view with the columns of the three zones placed in order. -/
def placeFields (v : View) (rows columns values : List String) : Except Fault View := do
  let v ← rejectedAs (rows.foldlM (fun v c => accepted (v.assign c .rows)) v)
  let v ← rejectedAs (columns.foldlM (fun v c => accepted (v.assign c .columns)) v)
  values.foldlM placeValue v

variable {m : Type → Type} [Monad m]

/-- Goes on if a step succeeded. -/
def attempt {α : Type} (r : Except Fault α) : ExceptT Fault m α := ExceptT.mk (pure r)

/-- Goes on with the view of a session's step if the step succeeded. -/
def proceed (step : m (Except Failure Unit × View)) : ExceptT Fault m View := do
  let (done, v) ← (step : m _)
  attempt (done.mapError .failed)
  return v

/-- Adds filters in order, each typed after its column, and runs what they set off. -/
def applyFilters (service : Service m) : List (String × String) → View → ExceptT Fault m View
  | [], v => return v
  | (column, raw) :: rest, v => do
    let value := typedValue (v.catalog.typeOf? column) raw
    let (asked, v) := v.addFilter column value
    let refresh ← attempt (rejectedAs asked)
    applyFilters service rest (← proceed (v.refresh service refresh))

/-- Makes a tab the active one; that it cannot be saved does not matter. -/
def rememberTab (save : Tab → m (Except Failure Unit)) (v : View) (tab : Tab) :
    ExceptT Fault m View := do
  let (_, v) ← (View.switchAndSave save v tab : m _)
  return v

/-- Runs an action on a view and prints its result. -/
def runAction (service : Service m) (save : Tab → m (Except Failure Unit)) (v : View) :
    Action → ExceptT Fault m String
  | .columns => return catalogTable v.catalog
  | .chart x y kind title filters => do
    let v ← rememberTab save v .charts
    let v ← applyFilters service filters v
    let v ← attempt (chooseChart v x y kind title)
    let v ← proceed (v.generateChart service)
    return printed (v.plot?.map Chart.Plot.toJson)
  | .pivot rows columns values filters => do
    let v ← rememberTab save v .pivot
    let v ← applyFilters service filters v
    let v ← attempt (placeFields v rows columns values)
    let v ← proceed (v.generatePivot service)
    return printed (v.grid?.map Pivot.Grid.toJson)
  | .recast changes => do
    let changes ← attempt ((changes.mapM recastChange).mapError .unknown)
    let v ← proceed (v.recast service changes)
    return catalogTable v.catalog

/-- The settings of an invocation: what it says itself goes before the variables. -/
def Invocation.settings (i : Invocation) (lookup : String → Option String) : Settings :=
  let s := Settings.ofVariables lookup
  { s with
    baseUrl := (i.backend.map (Text.dropTrailing '/')).getD s.baseUrl
    token := i.token <|> s.token }

/-- Runs an invocation under some variables; the result is the text to print. -/
def run (host : Host m) (lookup : String → Option String) (i : Invocation) :
    ExceptT Fault m String := do
  let settings := i.settings lookup
  let client ← attempt ((Client.ofSettings settings).mapError .failed)
  let service := client.service (host.send settings)
  let tab ← (host.loadTab settings : m _)
  let mounted ← (View.mount service tab : m _)
  let v ← attempt (mounted.mapError .failed)
  runAction service (host.saveTab settings) v i.action

/-- What a finished program leaves behind. -/
structure Report where
  exitCode : Nat
  output : String
  complaint : String
  deriving DecidableEq, Repr

/-- The commands and their options. -/
def usage : String :=
  String.intercalate "\n" [
    "Charts and pivot tables over an analytics backend",
    "",
    "Usage: report-engine [--backend URL] [--token TOKEN] COMMAND",
    "",
    "Commands:",
    "  columns   print the column catalog",
    "  chart     --x COL [--y COL] [--kind KIND] [--title TEXT] [--filter COL=VAL]...",
    "  pivot     --rows COL,... [--columns COL,...] --values COL[:AGG],... [--filter COL=VAL]...",
    "  recast    COL=text|decimal|integer ...",
    ""]

def versionLine : String := "report-engine 0.0.1\n"

def Report.ofStop : Stop → Report
  | .help => ⟨0, usage, ""⟩
  | .version => ⟨0, versionLine, ""⟩
  | .misuse reason => ⟨2, "", "error: " ++ reason ++ "\n\n" ++ usage⟩

def Report.ofResult : Except Fault String → Report
  | .ok text => ⟨0, text, ""⟩
  | .error fault => ⟨1, "", "✗ " ++ fault.message ++ "\n"⟩

end CrossFilter.Command
