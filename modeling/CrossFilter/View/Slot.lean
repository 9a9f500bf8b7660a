import CrossFilter.Outcome

/-!
# Slots

What one section of a view shows: the phase of its latest query, the outcome that was displayed
last, and the text of a failure. A failed query leaves the outcome in place; only `clear` and
`failAndClear` drop it.
-/

namespace CrossFilter

inductive Phase where
  | idle
  | loading
  | displayed
  | failed
  deriving DecidableEq, Repr

structure Slot (α : Type) where
  phase : Phase := .idle
  outcome : Option (Outcome α) := none
  error : Option String := none
  deriving DecidableEq, Repr

namespace Slot

variable {α : Type}

/-- Whether an outcome is displayed, be it that there is no data. -/
def hasOutcome (s : Slot α) : Bool := s.outcome.isSome

/-- The data of the displayed outcome. -/
def data? (s : Slot α) : Option α := s.outcome.bind Outcome.data?

/-- Whether an outcome is displayed or awaited. -/
def isActive (s : Slot α) : Bool := s.hasOutcome || s.phase = .loading

def begin (s : Slot α) : Slot α := { s with phase := .loading, error := none }

def display (_ : Slot α) (o : Outcome α) : Slot α :=
  { phase := .displayed, outcome := some o, error := none }

def fail (s : Slot α) (message : String) : Slot α :=
  { s with phase := .failed, error := some message }

def failAndClear (s : Slot α) (message : String) : Slot α :=
  { s.fail message with outcome := none }

def clear (_ : Slot α) : Slot α := {}

theorem isActive_iff {s : Slot α} : s.isActive = true ↔ s.outcome.isSome ∨ s.phase = .loading := by
  simp [isActive, hasOutcome]

theorem isActive_eq_false {s : Slot α} :
    s.isActive = false ↔ s.outcome.isNone ∧ s.phase ≠ .loading := by
  simp [isActive, hasOutcome]

theorem isActive_of_outcome {s : Slot α} {o : Outcome α} (h : s.outcome = some o) :
    s.isActive = true := by
  simp [isActive, hasOutcome, h]

theorem isActive_of_loading {s : Slot α} (h : s.phase = .loading) : s.isActive = true := by
  simp [isActive, h]

theorem outcome_of_data? {s : Slot α} {a : α} (h : s.data? = some a) :
    s.outcome = some (.data a) := by
  obtain ⟨o, ho, hdata⟩ := Option.bind_eq_some_iff.1 h
  cases o with
  | empty => cases hdata
  | data b =>
    cases hdata
    exact ho

end Slot

end CrossFilter
