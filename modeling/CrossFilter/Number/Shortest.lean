import CrossFilter.Number.Binary64

/-!
# Shortest decimals

The decimal text of a double has the fewest digits that read back as the same double. The numbers
that round to rank `r` form an interval around its magnitude, from halfway to the rank below to
halfway to the rank above, ends included exactly if `r` is even. The decimal grids `10 ^ p` are
tried from coarse to fine, and the first one with a point inside the interval wins; of two points
the nearer is taken, and `Tie` says which one if they are equally near. On the grid
`10 ^ -1074` every magnitude is a point itself, so the search ends there.
-/

namespace CrossFilter.Number

/-- The number `digits * 10 ^ exponent`. -/
structure Decimal where
  digits : Nat
  exponent : Int
  deriving DecidableEq, Repr

/-- Which of two equally near grid points is taken. -/
inductive Tie where
  | up
  | even
  deriving DecidableEq, Repr

/-- The interval of one rank over a decimal grid: every number stands for itself divided by
`scale`, so that grid point `q` is `q * step`. -/
structure Window where
  low : Nat
  value : Nat
  high : Nat
  step : Nat
  closed : Bool

/-- The window of `rank` over the grid `10 ^ (index - 1074)`, scaled by `2 ^ 1075 * 10 ^ (1074 - index)`
where that power is positive. -/
def window (rank index : Nat) : Window :=
  let scale := Nat.pow 10 (1074 - index)
  { low := (units (rank - 1) + units rank) * scale
    value := 2 * units rank * scale
    high := (units rank + units (rank + 1)) * scale
    step := Nat.pow 2 1075 * Nat.pow 10 (index - 1074)
    closed := rank % 2 == 0 }

def Window.contains (w : Window) (q : Nat) : Bool :=
  if w.closed then w.low ≤ q * w.step && q * w.step ≤ w.high
  else w.low < q * w.step && q * w.step < w.high

/-- The grid point that stands for the window's value, if the window holds one. -/
def Window.point? (w : Window) (tie : Tie) : Option Nat :=
  let q := w.value / w.step
  match w.contains q, w.contains (q + 1) with
  | false, false => none
  | true, false => some q
  | false, true => some (q + 1)
  | true, true =>
    let below := w.value - q * w.step
    let above := (q + 1) * w.step - w.value
    if below < above then some q
    else if above < below then some (q + 1)
    else match tie with
      | .up => some (q + 1)
      | .even => some (if q % 2 = 0 then q else q + 1)

/-- Searches the grids from `10 ^ (index - 1074)` down. -/
def coarsest (tie : Tie) (rank : Nat) : Nat → Decimal
  | 0 => ⟨units rank * Nat.pow 5 1074, -1074⟩
  | index + 1 =>
    match (window rank (index + 1)).point? tie with
    | some q => ⟨q, (index + 1 : Nat) - 1074⟩
    | none => coarsest tie rank index

/-- A grid no point of which but zero is near a magnitude below `2 ^ bits` units: `30103 / 100000`
is just above the decimal logarithm of two. -/
def coarseBound (bits : Nat) : Nat := (bits * 30103 + 75169378) / 100000

/-- The decimal with the fewest digits that reads back as the magnitude of `rank`. -/
def shortest (tie : Tie) (rank : Nat) : Decimal :=
  if rank = 0 then ⟨0, 0⟩
  else coarsest tie rank (coarseBound (Nat.log2 (units rank) + 1))

end CrossFilter.Number
