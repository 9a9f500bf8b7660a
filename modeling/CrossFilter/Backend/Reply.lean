import CrossFilter.Backend.Status
import CrossFilter.Failure
import CrossFilter.Json.Shape
import CrossFilter.Text.Blank

/-!
# Replies

An HTTP reply to a request, and what it is taken for.

* A reply that reports an error, or one without success whose body is JSON, is a failure of the
  service, under the service's own message if it has one.
* A reply without success whose body is no JSON comes from something else on the way.
* Any other reply is an answer. If its body has not the expected shape, it is an empty answer.
-/

namespace CrossFilter.Backend

structure Reply where
  status : Nat
  body : String
  deriving DecidableEq, Repr

/-- The members that every response may have. -/
structure Envelope where
  status : Option String := none
  message : Option String := none
  deriving DecidableEq, Repr

def Envelope.ofJson? (v : Json) : Option Envelope := do
  let field ← v.fields? ["status", "message"]
  return {
    status := ← Json.field? (Json.nullable? Json.text?) none (field "status")
    message := ← Json.field? (Json.nullable? Json.text?) none (field "message") }

/-- The message for a failure that brings none. -/
def genericFailure : String := "generation failed"

namespace Reply

def isSuccess (r : Reply) : Bool := 200 ≤ r.status && r.status < 300

/-- The text of the body. Some replies have none, and a byte order mark is no part of it. -/
def text (r : Reply) : String :=
  if r.status = 204 || r.status = 304 then ""
  else match r.body.toList with
    | '\ufeff' :: rest => String.ofList rest
    | _ => r.body

/-- The message under which a failure of the service is reported. -/
def failureMessage (e : Envelope) : String :=
  (e.message.filter fun m => !Text.allBlank m).getD genericFailure

/-- The value that an answer holds, if it holds JSON. -/
def payload? (r : Reply) : Except Failure (Option Json) :=
  match Json.ofText? r.text with
  | none =>
    if r.isSuccess then .ok none
    else .error (.transport s!"unexpected {statusLine r.status} response from server")
  | some v =>
    let envelope := (Envelope.ofJson? v).getD {}
    if envelope.status = some "error" || !r.isSuccess then
      .error (.backend (failureMessage envelope))
    else .ok (some v)

/-- The answer that a reply holds, read by `ofJson?`. -/
def read {α : Type} (r : Reply) (ofJson? : Json → Option α) (empty : α) : Except Failure α :=
  r.payload?.map fun v => (v.bind ofJson?).getD empty

end Reply

end CrossFilter.Backend
