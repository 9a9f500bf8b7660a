import CrossFilter.Number.Literal

/-!
# Complaints about JSON

What is wrong with a JSON text, and where. A complaint may be handed on as a text that ends in the
position: it is then taken apart again, so that the position is stated once and in plain digits.
Lines count from one, and line zero stands for an unknown position, which is not stated.
-/

namespace CrossFilter.Json

structure Complaint where
  text : String
  line : Nat
  column : Nat
  deriving DecidableEq, Repr

namespace Complaint

def lineMark : String := " at line "

def columnMark : String := " column "

/-- What stands behind a mark at the start. -/
def behind? (mark : String) (cs : List Char) : Option (List Char) :=
  if mark.toList.isPrefixOf cs then some (cs.drop mark.length) else none

/-- The count that some digits spell, if they spell one. -/
def count? (digits : List Char) : Option Nat := Number.natural64? (String.ofList digits)

/-- The position that a whole text states. -/
def position? (cs : List Char) : Option (Nat × Nat) := do
  let cs ← behind? lineMark cs
  let line ← count? (cs.takeWhile Char.isDigit)
  let digits ← behind? columnMark (cs.dropWhile Char.isDigit)
  if digits.all Char.isDigit then return (line, ← count? digits) else none

/-- The text before the position at its end, and that position. -/
def splitPosition : List Char → List Char × Option (Nat × Nat)
  | [] => ([], none)
  | c :: cs =>
    match position? (c :: cs) with
    | some position => ([], some position)
    | none =>
      let (text, position) := splitPosition cs
      (c :: text, position)

def ofText (s : String) : Complaint :=
  let (text, position) := splitPosition s.toList
  let (line, column) := position.getD (0, 0)
  ⟨String.ofList text, line, column⟩

def message (c : Complaint) : String :=
  if c.line = 0 then c.text
  else c.text ++ lineMark ++ toString c.line ++ columnMark ++ toString c.column

end Complaint

end CrossFilter.Json
