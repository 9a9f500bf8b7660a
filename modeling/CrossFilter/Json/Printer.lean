import CrossFilter.Json.Value
import CrossFilter.Number.Layout
import CrossFilter.Text.Hex

/-!
# JSON printers

`Json.compact` writes a value without any blanks, as request bodies hold it; `Json.pretty` writes
each element on a line of its own, indented by two blanks for each level. Both escape in a string
only what JSON demands: the quote, the backslash and the control characters below U+0020.
-/

namespace CrossFilter.Json

open Number

/-- A character inside a string literal. -/
def escape (c : Char) : List Char :=
  if c = '"' then ['\\', '"']
  else if c = '\\' then ['\\', '\\']
  else if c = '\x08' then ['\\', 'b']
  else if c = '\x0c' then ['\\', 'f']
  else if c = '\n' then ['\\', 'n']
  else if c = '\r' then ['\\', 'r']
  else if c = '\t' then ['\\', 't']
  else if c.toNat < 0x20 then ['\\', 'u', '0', '0', Text.hexChar (c.toNat / 16), Text.hexChar (c.toNat % 16)]
  else [c]

def quote (s : String) : List Char := '"' :: s.toList.flatMap escape ++ ['"']

def Numeral.chars : Json.Numeral → List Char
  | .natural n => natDigits n
  | .negative n => '-' :: natDigits n
  | .real d => (jsonText? d).elim "null".toList String.toList

/-! ## Compact -/

mutual

def compact : Json → List Char
  | .null => "null".toList
  | .bool b => if b then "true".toList else "false".toList
  | .number n => n.chars
  | .text s => quote s
  | .array [] => ['[', ']']
  | .array (v :: vs) => '[' :: compact v ++ compactItems vs
  | .object [] => ['\x7b', '\x7d']
  | .object ((k, v) :: rest) => '\x7b' :: quote k ++ ':' :: compact v ++ compactMembers rest

/-- The items behind the first one, with their commas and the closing bracket. -/
def compactItems : List Json → List Char
  | [] => [']']
  | v :: vs => ',' :: compact v ++ compactItems vs

def compactMembers : List (String × Json) → List Char
  | [] => ['\x7d']
  | (k, v) :: rest => ',' :: quote k ++ ':' :: compact v ++ compactMembers rest

end

def render (v : Json) : String := String.ofList v.compact

/-! ## Indented -/

def newLine (level : Nat) : List Char := '\n' :: List.replicate (2 * level) ' '

mutual

/-- The text of a value that stands `level` levels deep. -/
def pretty (level : Nat) : Json → List Char
  | .null => "null".toList
  | .bool b => if b then "true".toList else "false".toList
  | .number n => n.chars
  | .text s => quote s
  | .array [] => ['[', ']']
  | .array (v :: vs) => '[' :: newLine (level + 1) ++ pretty (level + 1) v ++ prettyItems level vs
  | .object [] => ['\x7b', '\x7d']
  | .object ((k, v) :: rest) =>
    '\x7b' :: newLine (level + 1) ++ quote k ++ ':' :: ' ' :: pretty (level + 1) v ++
      prettyMembers level rest

def prettyItems (level : Nat) : List Json → List Char
  | [] => newLine level ++ [']']
  | v :: vs => ',' :: newLine (level + 1) ++ pretty (level + 1) v ++ prettyItems level vs

def prettyMembers (level : Nat) : List (String × Json) → List Char
  | [] => newLine level ++ ['\x7d']
  | (k, v) :: rest =>
    ',' :: newLine (level + 1) ++ quote k ++ ':' :: ' ' :: pretty (level + 1) v ++
      prettyMembers level rest

end

def renderPretty (v : Json) : String := String.ofList (v.pretty 0)

end CrossFilter.Json
