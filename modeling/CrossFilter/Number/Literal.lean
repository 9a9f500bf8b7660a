import CrossFilter.Number.Binary64

/-!
# Number texts

Two grammars of number texts. `real?` reads what a user types where a number is expected: a sign,
digits with at most one point among or beside them, an exponent, or the name of an infinity or of
NaN in any letter case; the result is the nearest double. `natural64?` reads a count that fits 64
bits, with an optional plus sign.
-/

namespace CrossFilter.Number

def digitValue (c : Char) : Nat := c.toNat - '0'.toNat

/-- The number that a list of digits spells. -/
def digitsValue (ds : List Char) : Nat := ds.foldl (fun n c => 10 * n + digitValue c) 0

/-- The double nearest to `digits * 10 ^ exponent`. A number past every finite double or below half
the least one is not worked out. -/
def nearestDecimal (negative : Bool) (digits : List Char) (exponent : Int) : Binary64 :=
  let significant := digits.dropWhile (· == '0')
  let top := exponent + significant.length
  if significant.isEmpty || top < -330 then .zero negative
  else if 310 < top then .infinite negative
  else
    let n := digitsValue significant
    if 0 ≤ exponent then .ofRatio negative (n * Nat.pow 10 exponent.toNat) 1
    else .ofRatio negative n (Nat.pow 10 (-exponent).toNat)

/-- Takes a leading sign. -/
def signed : List Char → Bool × List Char
  | '-' :: cs => (true, cs)
  | '+' :: cs => (false, cs)
  | cs => (false, cs)

/-- The exponent that a text behind the digits spells: none is zero. -/
def exponent? : List Char → Option Int
  | [] => some 0
  | c :: cs =>
    if c == 'e' || c == 'E' then
      let (negative, ds) := signed cs
      if ds.isEmpty || !ds.all Char.isDigit then none
      else some (if negative then -digitsValue ds else digitsValue ds)
    else none

/-- The unsigned number text of digits, point and exponent. -/
def decimal? (negative : Bool) (cs : List Char) : Option Binary64 :=
  let whole := cs.takeWhile Char.isDigit
  let rest := cs.dropWhile Char.isDigit
  let (fraction, rest) := match rest with
    | '.' :: behind => (behind.takeWhile Char.isDigit, behind.dropWhile Char.isDigit)
    | _ => ([], rest)
  if whole.isEmpty && fraction.isEmpty then none
  else (exponent? rest).map fun e =>
    nearestDecimal negative (whole ++ fraction) (e - fraction.length)

/-- The double that a typed text names. -/
def real? (s : String) : Option Binary64 :=
  let (negative, cs) := signed s.toList
  let lower := cs.map Char.toLower
  if lower == "inf".toList || lower == "infinity".toList then some (.infinite negative)
  else if lower == "nan".toList then some .nan
  else decimal? negative cs

/-- The count that a typed text names, if it fits 64 bits. -/
def natural64? (s : String) : Option Nat :=
  let ds := match s.toList with
    | '+' :: cs => cs
    | cs => cs
  if ds.isEmpty || !ds.all Char.isDigit then none
  else if digitsValue ds < Nat.pow 2 64 then some (digitsValue ds)
  else none

end CrossFilter.Number
