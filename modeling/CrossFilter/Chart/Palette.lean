import CrossFilter.Text.Hex

/-!
# Palette

The colours of a chart's series, which repeat after the last, and colour texts: a hash sign and
three channels of two characters. A channel is two hexadecimal digits, or a plus sign and one.
-/

namespace CrossFilter.Chart.Palette

open Text

def colors : List String :=
  ["#5470c6", "#91cc75", "#fac858", "#ee6666", "#73c0de", "#3ba272", "#fc8452", "#9a60b4"]

def color (index : Nat) : String := colors.getD (index % colors.length) ""

/-- The transparency of a boxplot's filling, as two hexadecimal digits. -/
def fillAlpha : String := "30"

def channel? (high low : Char) : Option Nat :=
  if high = '+' then hexValue? low
  else do return 16 * (← hexValue? high) + (← hexValue? low)

/-- The red, green and blue channel of a colour text. -/
def parse? (s : String) : Option (Nat × Nat × Nat) :=
  match s.toList with
  | ['#', a, b, c, d, e, f] => do return (← channel? a b, ← channel? c d, ← channel? e f)
  | _ => none

/-- The colour with a transparency; a text that is no colour stays as it is. -/
def withAlpha (s alpha : String) : String := if (parse? s).isSome then s ++ alpha else s

end CrossFilter.Chart.Palette
