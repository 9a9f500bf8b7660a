/-!
# Outcomes

A query that did not fail has data, or says that there is none for its selection.
-/

namespace CrossFilter

inductive Outcome (α : Type) where
  | empty
  | data (a : α)
  deriving DecidableEq, Repr

namespace Outcome

variable {α β : Type}

def data? : Outcome α → Option α
  | .empty => none
  | .data a => some a

def isEmpty : Outcome α → Bool
  | .empty => true
  | .data _ => false

def ofOption : Option α → Outcome α
  | none => .empty
  | some a => .data a

def map (f : α → β) : Outcome α → Outcome β
  | .empty => .empty
  | .data a => .data (f a)

@[simp] theorem map_ofOption (f : α → β) (x : Option α) :
    (ofOption x).map f = ofOption (x.map f) := by
  cases x <;> rfl

@[simp] theorem ofOption_eq_data_iff {x : Option α} {a : α} :
    ofOption x = .data a ↔ x = some a := by
  cases x with
  | none => simp [ofOption]
  | some b => simp [ofOption]

end Outcome

end CrossFilter
