import CrossFilter.Json.Tree

/-!
# Shapes of JSON values

Readers that take a JSON value for a value of the library. A record may be spelled as an object, in
which other members are ignored, or as an array of its fields in their order, which may stop early.
A field that is missing and one that is null are different things: only `nullable?` reads null.
-/

namespace CrossFilter.Json

open Number

variable {α β : Type}

def text? : Json → Option String
  | .text s => some s
  | _ => none

def bool? : Json → Option Bool
  | .bool b => some b
  | _ => none

/-- Every number is a double, a whole one too. -/
def real? : Json → Option Binary64
  | .number n => some n.toReal
  | _ => none

/-- Only a number spelled as a whole one is a count. -/
def natural? : Json → Option Nat
  | .number (.natural n) => some n
  | _ => none

def nullable? (f : Json → Option α) : Json → Option (Option α)
  | .null => some none
  | v => (f v).map some

def list? (f : Json → Option α) : Json → Option (List α)
  | .array items => items.mapM f
  | _ => none

/-- An array of exactly two elements. -/
def pair? (f : Json → Option α) (g : Json → Option β) : Json → Option (α × β)
  | .array [a, b] => do return (← f a, ← g b)
  | _ => none

/-- The fields of a record with these names, as a look-up. -/
def fields? (names : List String) : Json → Option (String → Option Json)
  | .object members => some fun name => member? name members
  | .array items =>
    if items.length ≤ names.length then some fun name => items[names.idxOf name]? else none
  | _ => none

/-- A field that has a value of its own when it is missing. -/
def field? (f : Json → Option α) (missing : α) : Option Json → Option α
  | none => some missing
  | some v => f v

/-- The name that a tree spells for one of a set of named things: a string, or an object whose only
member has that key and is null. -/
def Tree.name? : Tree → Option String
  | .string s => s
  | .object [(key, .null)] => key
  | _ => none

/-- The named thing that a text spells, among those of a list. -/
def named? (nameOf : α → String) (all : List α) (s : String) : Option α := do
  let name ← (← Tree.ofText? s).name?
  all.find? fun a => nameOf a == name

end CrossFilter.Json
