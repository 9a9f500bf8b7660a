import CrossFilter.Json.Token
import CrossFilter.Json.Value
import CrossFilter.Number.Literal

/-!
# JSON trees

Reading a JSON text has two steps. `Tree.ofText?` reads its grammar: a machine takes token after
token, with a frame for each array or object that is still open. A tree keeps every number as
spelled, every member even if its key comes twice, and has no limit on nesting. `Tree.value?` then
takes the tree for a value: nesting is limited to `depthLimit`, a string must form a text, a number
must be in range, and of members with one key the last one counts.
-/

namespace CrossFilter.Json

/-- A text as a string literal gives it; none if its escapes form no text. -/
abbrev Spelled := Option String

inductive Tree where
  | null
  | bool (b : Bool)
  | number (l : Literal)
  | string (s : Spelled)
  | array (items : List Tree)
  | object (members : List (Spelled × Tree))
  deriving Repr

namespace Tree

/-! ## The reading machine -/

/-- An open array or object around the place where the machine reads, with what it holds so far,
last element first. -/
inductive Frame where
  | item (before : List Tree)
  | member (before : List (Spelled × Tree)) (key : Spelled)

/-- What may come next. -/
inductive Place where
  | value
  /-- Behind an opening bracket: a value or the closing bracket. -/
  | firstItem
  | afterItem (items : List Tree)
  /-- Behind an opening brace: a key or the closing brace. -/
  | firstKey
  | nextKey (members : List (Spelled × Tree))
  | colon (members : List (Spelled × Tree)) (key : Spelled)
  | afterMember (members : List (Spelled × Tree))
  | done (tree : Tree)

structure Machine where
  frames : List Frame
  place : Place

def Machine.start : Machine := ⟨[], .value⟩

/-- Hands a finished value to the innermost open container. -/
def deliver (t : Tree) : List Frame → Machine
  | [] => ⟨[], .done t⟩
  | .item before :: outer => ⟨outer, .afterItem (t :: before)⟩
  | .member before key :: outer => ⟨outer, .afterMember ((key, t) :: before)⟩

def spelled (points : List Nat) : Spelled := (textOf? points).map String.ofList

/-- Starts the value that a token begins. -/
def begin (frames : List Frame) : Token → Option Machine
  | .null => some (deliver .null frames)
  | .bool b => some (deliver (.bool b) frames)
  | .number l => some (deliver (.number l) frames)
  | .string points => some (deliver (.string (spelled points)) frames)
  | .beginArray => some ⟨frames, .firstItem⟩
  | .beginObject => some ⟨frames, .firstKey⟩
  | _ => none

def Machine.step (m : Machine) (t : Token) : Option Machine :=
  match m.place, t with
  | .value, t => begin m.frames t
  | .firstItem, .endArray => some (deliver (.array []) m.frames)
  | .firstItem, t => begin (.item [] :: m.frames) t
  | .afterItem items, .comma => some ⟨.item items :: m.frames, .value⟩
  | .afterItem items, .endArray => some (deliver (.array items.reverse) m.frames)
  | .firstKey, .endObject => some (deliver (.object []) m.frames)
  | .firstKey, .string points => some ⟨m.frames, .colon [] (spelled points)⟩
  | .nextKey members, .string points => some ⟨m.frames, .colon members (spelled points)⟩
  | .colon members key, .colon => some ⟨.member members key :: m.frames, .value⟩
  | .afterMember members, .comma => some ⟨m.frames, .nextKey members⟩
  | .afterMember members, .endObject => some (deliver (.object members.reverse) m.frames)
  | _, _ => none

def Machine.result? (m : Machine) : Option Tree :=
  match m.place with
  | .done t => some t
  | _ => none

/-- The tree that a text spells, blanks around its tokens aside. -/
def ofText? (s : String) : Option Tree := do
  let m ← (← Token.ofText? s).foldlM Machine.step Machine.start
  m.result?

end Tree

/-! ## Numbers -/

section Numbers

open Number

/-- Takes digits into a count as long as it stays below `2 ^ 64`; the digits from the first one
that would not fit are left over. -/
def absorb (count : Nat) : List Char → Nat × List Char
  | [] => (count, [])
  | c :: cs =>
    let next := count * 10 + digitValue c
    if next < Nat.pow 2 64 then absorb next cs else (count, c :: cs)

/-- The largest power of ten that scales in one step. -/
def stepLimit : Nat := 308

/-- Divides a magnitude by `10 ^ places`, rounding after each step; zero stays zero. -/
def scaleDown (rank places : Nat) : Nat :=
  if places ≤ stepLimit then divRank rank (natRank (Nat.pow 10 places))
  else if rank = 0 then 0
  else scaleDown (divRank rank (natRank (Nat.pow 10 stepLimit))) (places - stepLimit)
termination_by places
decreasing_by simp only [stepLimit] at *; omega

/-- The double of a count times a power of ten: the count is rounded first and the product or
quotient again. A number past every finite double is out of range. -/
def scaled? (negative : Bool) (count : Nat) (exponent : Int) : Option Binary64 :=
  let rank := natRank count
  if exponent < 0 then some (.ofRank negative (scaleDown rank exponent.natAbs))
  else if rank = 0 then some (.zero negative)
  else if stepLimit < exponent.natAbs then none
  else
    let product := mulRank rank (natRank (Nat.pow 10 exponent.natAbs))
    if product < rankLimit then some (.ofRank negative product) else none

/-- The number of a literal, unless it is out of range. Digits that a 64-bit count cannot take
are dropped: those of the whole part raise the exponent, those of the fraction are ignored. -/
def Numeral.ofLiteral? (l : Literal) : Option Json.Numeral :=
  let (count, dropped) := absorb 0 l.whole
  if l.fraction.isEmpty && l.exponent.isNone && dropped.isEmpty then
    if l.negative = false then some (.natural count)
    else if count = 0 || Nat.pow 2 63 < count then some (.real (.ofRatio true count 1))
    else some (.negative count)
  else
    let (count, ignored) := absorb count l.fraction
    let places : Int := dropped.length - (l.fraction.length - ignored.length)
    let exponent : Int := match l.exponent with
      | none => 0
      | some (minus, ds) => if minus then -digitsValue ds else digitsValue ds
    (scaled? l.negative count (places + exponent)).map .real

end Numbers

/-! ## Values -/

/-- How deep arrays and objects may nest. -/
def depthLimit : Nat := 127

/-- Of members with one key the last. -/
def keepLast : List (String × Json) → List (String × Json)
  | [] => []
  | p :: rest => if rest.any (·.1 == p.1) then keepLast rest else p :: keepLast rest

namespace Tree

mutual

/-- The value of a tree that nests at most `depth` deep. -/
def valueWithin? (depth : Nat) : Tree → Option Json
  | .null => some .null
  | .bool b => some (.bool b)
  | .number l => (Numeral.ofLiteral? l).map .number
  | .string s => s.map .text
  | .array items =>
    match depth with
    | 0 => none
    | depth + 1 => (itemsWithin? depth items).map .array
  | .object members =>
    match depth with
    | 0 => none
    | depth + 1 => (membersWithin? depth members).map fun ms => .object (keepLast ms)

def itemsWithin? (depth : Nat) : List Tree → Option (List Json)
  | [] => some []
  | t :: ts => do return (← valueWithin? depth t) :: (← itemsWithin? depth ts)

def membersWithin? (depth : Nat) : List (Spelled × Tree) → Option (List (String × Json))
  | [] => some []
  | (key, t) :: rest => do
    return (← key, ← valueWithin? depth t) :: (← membersWithin? depth rest)

end

def value? (t : Tree) : Option Json := valueWithin? depthLimit t

end Tree

/-- The value that a JSON text spells. -/
def ofText? (s : String) : Option Json := do (← Tree.ofText? s).value?

end CrossFilter.Json
