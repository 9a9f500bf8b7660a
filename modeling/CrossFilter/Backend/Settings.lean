import CrossFilter.Failure
import CrossFilter.Number.Literal
import CrossFilter.Text.Blank

/-!
# Settings

Where the service is, how to identify to it, and where preferences are kept. Every setting has a
default; named variables override some of them, a blank one none. Only `validate` refuses settings,
namely a base URL that no request could succeed with.
-/

namespace CrossFilter.Backend

structure Settings where
  baseUrl : String := "http://127.0.0.1:5000"
  /-- What every request identifies itself with. -/
  token : Option String := none
  columnsPath : String := "/api/reports/columns"
  chartPath : String := "/api/chart-data"
  pivotPath : String := "/api/pivot-data"
  recastPath : String := "/api/database/recast"
  /-- How many seconds a connection may take. -/
  connectTimeout : Nat := 10
  preferencesPath : String := ".report-engine/preferences.json"
  deriving DecidableEq, Repr

namespace Settings

def variableNames : List String :=
  ["REPORT_BACKEND_URI", "REPORT_BACKEND_TOKEN", "REPORT_CONNECT_TIMEOUT_SECS", "REPORT_PREFERENCES"]

/-- The value of a variable that is set and not blank. -/
def given? (lookup : String → Option String) (name : String) : Option String :=
  (lookup name).filter fun value => !Text.allBlank value

/-- The settings under some variables; a timeout that is no count has no effect. -/
def ofVariables (lookup : String → Option String) : Settings :=
  let given := given? lookup
  let defaults : Settings := {}
  { defaults with
    baseUrl := Text.dropTrailing '/' ((given "REPORT_BACKEND_URI").getD defaults.baseUrl)
    token := given "REPORT_BACKEND_TOKEN"
    connectTimeout :=
      ((given "REPORT_CONNECT_TIMEOUT_SECS").bind fun s => Number.natural64? (Text.trim s)).getD
        defaults.connectTimeout
    preferencesPath := (given "REPORT_PREFERENCES").getD defaults.preferencesPath }

def hasScheme (url : String) : Bool :=
  Text.startsWith "http://" url || Text.startsWith "https://" url

def validate (s : Settings) : Except Failure Unit :=
  if Text.allBlank s.baseUrl then .error (.settings "backend URL is empty")
  else if hasScheme s.baseUrl then .ok ()
  else .error (.settings s!"backend URL '{s.baseUrl}' must start with http:// or https://")

/-- The URL of a path: exactly one slash stands between it and the base URL. -/
def endpoint (s : Settings) (path : String) : String :=
  Text.dropTrailing '/' s.baseUrl ++ "/" ++ Text.dropLeading '/' path

end Settings

end CrossFilter.Backend
