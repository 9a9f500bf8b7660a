import CrossFilter.Number.Shortest

/-!
# Number layouts

Two layouts write a double. A label shows it as `plainText`: all digits written out, however many
zeros that takes, and no point behind a whole number. A JSON text holds it as `jsonText?`: a point
in every plain number, and powers of ten outside `10 ^ -5` to `10 ^ 15` written with an exponent.
Both show the shortest digits that read back; they differ on which of two equally near decimals
they take.
-/

namespace CrossFilter.Number

/-- The decisions of a number format. -/
structure Layout where
  tie : Tie
  /-- Whether a whole number is written with `.0`. -/
  pointed : Bool
  /-- Which powers of ten of the leading digit are written without an exponent. -/
  plain : Int → Bool

/-- Labels have every digit and no superfluous point; of two decimals the upper is taken. -/
def label : Layout := ⟨.up, false, fun _ => true⟩

/-- JSON numbers have a point or an exponent; of two decimals the one with the even digit is taken. -/
def wire : Layout := ⟨.even, true, fun k => -5 ≤ k && k ≤ 15⟩

def natDigits (n : Nat) : List Char := Nat.toDigits 10 n

/-- The digits of `d` with its point, and no exponent. -/
def Layout.positional (l : Layout) (d : Decimal) : List Char :=
  let ds := natDigits d.digits
  if 0 ≤ d.exponent then
    ds ++ List.replicate d.exponent.toNat '0' ++ (if l.pointed then ['.', '0'] else [])
  else
    let places := (-d.exponent).toNat
    if places < ds.length then
      ds.take (ds.length - places) ++ '.' :: ds.drop (ds.length - places)
    else
      '0' :: '.' :: List.replicate (places - ds.length) '0' ++ ds

/-- One leading digit, the others behind the point, and the exponent with its sign. -/
def Layout.scientific (d : Decimal) (k : Int) : List Char :=
  let ds := natDigits d.digits
  let rest := ds.drop 1
  ds.take 1 ++ (if rest.isEmpty then [] else '.' :: rest) ++
    'e' :: (if k < 0 then '-' else '+') :: natDigits k.natAbs

def Layout.decimal (l : Layout) (d : Decimal) : List Char :=
  let k := d.exponent + (natDigits d.digits).length - 1
  if l.plain k then l.positional d else Layout.scientific d k

/-- The digits of a magnitude, after its sign. -/
def Layout.finite (l : Layout) (negative : Bool) (rank : Nat) : String :=
  String.ofList ((if negative then ['-'] else []) ++ l.decimal (shortest l.tie rank))

/-- The text of a double in a label. -/
def plainText : Binary64 → String
  | .finite negative rank => label.finite negative rank.val
  | .infinite negative => if negative then "-inf" else "inf"
  | .nan => "NaN"

/-- The text of a double in a JSON text, which has none for the other doubles. -/
def jsonText? : Binary64 → Option String
  | .finite negative rank => some (wire.finite negative rank.val)
  | _ => none

end CrossFilter.Number
