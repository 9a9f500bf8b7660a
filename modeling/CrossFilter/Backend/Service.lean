import CrossFilter.Backend.Reply
import CrossFilter.Backend.Settings
import CrossFilter.Chart.Result
import CrossFilter.Column.Recast
import CrossFilter.Json.Printer
import CrossFilter.Pivot.Table

/-!
# The analytics service

`Service m` is the service as the rest of the library sees it: four questions, answered in the monad
`m`. `Client` asks them over HTTP: it turns each question into a message, hands that to whatever
carries messages, and reads the reply.
-/

namespace CrossFilter.Backend

structure Service (m : Type → Type) where
  columns : m (Except Failure Catalog)
  chart : Chart.Request → m (Except Failure Chart.Response)
  pivot : Pivot.Request → m (Except Failure Pivot.Response)
  recast : Recast.Request → m (Except Failure Unit)

inductive Endpoint where
  | columns
  | chart
  | pivot
  | recast
  deriving DecidableEq, Repr

/-- One HTTP request. -/
structure Message where
  endpoint : Endpoint
  url : String
  authorization : Option String
  /-- A JSON text, in every request but those that only read. -/
  body : Option String
  deriving DecidableEq, Repr

namespace Message

def method (msg : Message) : String := if msg.body.isSome then "POST" else "GET"

def contentType (msg : Message) : Option String := msg.body.map fun _ => "application/json"

/-- The path of the URL, behind the scheme and the host. -/
def path (msg : Message) : String :=
  let afterScheme := (msg.url.toList.dropWhile (· != ':')).drop 3
  String.ofList (afterScheme.dropWhile (· != '/'))

end Message

/-- A client for valid settings. -/
structure Client where
  settings : Settings
  deriving DecidableEq, Repr

/-- Whether a header can hold a character: no control character but the tab. -/
def isHeaderChar (c : Char) : Bool := c = '\t' || (0x20 ≤ c.toNat && c.toNat != 0x7f)

namespace Client

/-- The client of some settings. They are validated first, and the token after them. -/
def ofSettings (s : Settings) : Except Failure Client := do
  s.validate
  if s.token.all fun t => t.toList.all isHeaderChar then return ⟨s⟩
  else throw (.settings "Invalid token format: failed to parse header value")

def pathOf (c : Client) : Endpoint → String
  | .columns => c.settings.columnsPath
  | .chart => c.settings.chartPath
  | .pivot => c.settings.pivotPath
  | .recast => c.settings.recastPath

def message (c : Client) (e : Endpoint) (body : Option Json) : Message where
  endpoint := e
  url := c.settings.endpoint (c.pathOf e)
  authorization := c.settings.token.map ("Bearer " ++ ·)
  body := body.map Json.render

variable {m : Type → Type} [Monad m]

/-- Sends a question and reads the reply, unless none comes. -/
def ask {α : Type} (c : Client) (send : Message → m (Except String Reply)) (e : Endpoint)
    (body : Option Json) (ofJson? : Json → Option α) (empty : α) : m (Except Failure α) := do
  match ← send (c.message e body) with
  | .error detail => return .error (.transport detail)
  | .ok reply => return reply.read ofJson? empty

/-- The service behind something that carries messages. -/
def service (c : Client) (send : Message → m (Except String Reply)) : Service m where
  columns := c.ask send .columns none Catalog.ofJson? .empty
  chart r := c.ask send .chart (some r.toJson) Chart.Response.ofJson? {}
  pivot r := c.ask send .pivot (some r.toJson) Pivot.Response.ofJson? {}
  recast r := c.ask send .recast (some r.toJson) (fun _ => some ()) ()

end Client

end CrossFilter.Backend
