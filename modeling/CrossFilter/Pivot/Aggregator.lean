import CrossFilter.Failure
import CrossFilter.Text.Blank

/-!
# Aggregators

How the values of a pivot cell are reduced to one.
-/

namespace CrossFilter.Pivot

inductive Aggregator where
  | sum
  | mean
  | count
  | min
  | max
  deriving DecidableEq, Repr

namespace Aggregator

def all : List Aggregator := [sum, mean, count, min, max]

def name : Aggregator → String
  | .sum => "sum"
  | .mean => "mean"
  | .count => "count"
  | .min => "min"
  | .max => "max"

/-- The aggregator of a name, in any letter case and with any blanks around it. -/
def ofName (s : String) : Except UnknownName Aggregator :=
  match Text.word s with
  | "sum" => .ok .sum
  | "mean" | "avg" | "average" => .ok .mean
  | "count" => .ok .count
  | "min" => .ok .min
  | "max" => .ok .max
  | word => .error ⟨"aggregator", word⟩

end Aggregator

end CrossFilter.Pivot
