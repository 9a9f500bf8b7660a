import CrossFilter.Json.Complaint

/-!
# Causes of failure

A `Rejection` is found before any request is sent: the configuration of a chart or pivot makes no
sense. A `Failure` is a rejection or something that went wrong later. `message` is the full text of
a failure and `userMessage` the text a view shows, which says no more about a failed connection than
that the server cannot be reached.
-/

namespace CrossFilter

inductive Rejection where
  | xRequired
  | kindNotAllowed (kind : String)
  | rowsRequired
  | valuesRequired
  | nonNumericValues (columns : List String)
  | duplicateField (column : String)
  | unknownColumn (column : String)
  | notAValueField (column : String)
  | noDataset
  deriving DecidableEq, Repr

def Rejection.message : Rejection → String
  | .xRequired => "X required"
  | .kindNotAllowed kind => s!"chart kind '{kind}' is not valid for the selected columns"
  | .rowsRequired => "rows required"
  | .valuesRequired => "values required"
  | .nonNumericValues columns =>
    "non-numeric value field requires count aggregator: " ++ String.intercalate ", " columns
  | .duplicateField column => "duplicate field: " ++ column
  | .unknownColumn column => "unknown column: " ++ column
  | .notAValueField column => s!"column '{column}' is not a value field"
  | .noDataset => "no dataset loaded"

inductive Failure where
  | rejected (cause : Rejection)
  /-- The service could not be reached, or something else answered in its place. -/
  | transport (detail : String)
  /-- The service reported an error of its own. -/
  | backend (message : String)
  | settings (detail : String)
  | storage (detail : String)
  | malformed (complaint : Json.Complaint)
  deriving DecidableEq, Repr

namespace Failure

def message : Failure → String
  | .rejected cause => cause.message
  | .transport detail => "Transport error: " ++ detail
  | .backend message => message
  | .settings detail => "Configuration error: " ++ detail
  | .storage detail => "I/O error: " ++ detail
  | .malformed complaint => "JSON error: " ++ complaint.message

def userMessage : Failure → String
  | .transport _ => "cannot reach server"
  | failure => failure.message

def isRejection : Failure → Bool
  | .rejected _ => true
  | _ => false

end Failure

/-- A word that names nothing of its kind. -/
structure UnknownName where
  kind : String
  given : String
  deriving DecidableEq, Repr

def UnknownName.message (e : UnknownName) : String := s!"unknown {e.kind} '{e.given}'"

end CrossFilter
