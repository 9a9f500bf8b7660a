import CrossFilter.Text.Hex

/-!
# JSON tokens

A JSON text falls into brackets, separators, string literals and bare words. A bare word is a
longest run of characters without blanks, brackets, separators and quotes, so two words never touch;
it is one of the three names or spells a number. `Token.scan` refuses a text in which a literal is
left open, holds a control character or an unknown escape, or in which a word is neither.
-/

namespace CrossFilter.Json

/-- The parts of a number as spelled. Both digit lists are without signs; the fraction is empty if
there is no point. -/
structure Literal where
  negative : Bool
  whole : List Char
  fraction : List Char
  /-- The sign and digits behind `e`. -/
  exponent : Option (Bool × List Char)
  deriving DecidableEq, Repr

inductive Token where
  | beginArray
  | endArray
  | beginObject
  | endObject
  | comma
  | colon
  | null
  | bool (b : Bool)
  | number (l : Literal)
  /-- The code points of a string literal; an escape may give one half of a surrogate pair. -/
  | string (points : List Nat)
  deriving DecidableEq, Repr

/-! ## Words -/

/-- The sign and digits behind `e`, the last part of a number. -/
def exponentPart? : List Char → Option (Option (Bool × List Char))
  | [] => some none
  | c :: cs =>
    if c == 'e' || c == 'E' then
      let (negative, ds) := match cs with
        | '-' :: ds => (true, ds)
        | '+' :: ds => (false, ds)
        | ds => (false, ds)
      if ds.isEmpty || !ds.all Char.isDigit then none else some (some (negative, ds))
    else none

/-- The digits behind the point, and what follows them. -/
def fractionPart? : List Char → Option (List Char × List Char)
  | '.' :: cs =>
    let ds := cs.takeWhile Char.isDigit
    if ds.isEmpty then none else some (ds, cs.dropWhile Char.isDigit)
  | cs => some ([], cs)

/-- A number as a JSON text spells it: no plus sign, no needless leading zero, digits on both sides
of a point. -/
def literal? (word : List Char) : Option Literal := do
  let (negative, cs) := match word with
    | '-' :: cs => (true, cs)
    | cs => (false, cs)
  let whole := cs.takeWhile Char.isDigit
  if whole.isEmpty || (whole.head? == some '0' && 1 < whole.length) then none
  let (fraction, rest) ← fractionPart? (cs.dropWhile Char.isDigit)
  let exponent ← exponentPart? rest
  return ⟨negative, whole, fraction, exponent⟩

def word? (word : List Char) : Option Token :=
  if word == "null".toList then some .null
  else if word == "true".toList then some (.bool true)
  else if word == "false".toList then some (.bool false)
  else (literal? word).map .number

/-! ## String literals -/

/-- The code unit of four hexadecimal digits. -/
def unit? (a b c d : Char) : Option Nat := do
  return (((← Text.hexValue? a) * 16 + (← Text.hexValue? b)) * 16 + (← Text.hexValue? c)) * 16 + (← Text.hexValue? d)

/-- The code point of a one-letter escape. -/
def escaped? : Char → Option Nat
  | '"' => some 0x22
  | '\\' => some 0x5c
  | '/' => some 0x2f
  | 'b' => some 0x08
  | 'f' => some 0x0c
  | 'n' => some 0x0a
  | 'r' => some 0x0d
  | 't' => some 0x09
  | _ => none

/-- The text of code points and paired surrogates; a surrogate without its partner forms none. -/
def textOf? : List Nat → Option (List Char)
  | [] => some []
  | high :: rest =>
    if 0xd800 ≤ high && high < 0xdc00 then
      match rest with
      | low :: rest' =>
        if 0xdc00 ≤ low && low < 0xe000 then
          (textOf? rest').map (Char.ofNat (0x10000 + (high - 0xd800) * 0x400 + (low - 0xdc00)) :: ·)
        else none
      | [] => none
    else if 0xdc00 ≤ high && high < 0xe000 then none
    else (textOf? rest).map (Char.ofNat high :: ·)

/-! ## Scanning -/

def isSpace (c : Char) : Bool := c == ' ' || c == '\n' || c == '\r' || c == '\t'

def punctuation? : Char → Option Token
  | '[' => some .beginArray
  | ']' => some .endArray
  | '\x7b' => some .beginObject
  | '\x7d' => some .endObject
  | ',' => some .comma
  | ':' => some .colon
  | _ => none

/-- Where in a text the scanner stands: in a bare word, or in a string literal. What was read of
either is kept last character first. -/
inductive Scanner where
  | bare (word : List Char)
  | quoted (points : List Nat)

/-- Ends a bare word; the empty word is no token. -/
def finish (word : List Char) (tokens : List Token) : Option (List Token) :=
  if word.isEmpty then some tokens
  else (word? word.reverse).map (· :: tokens)

/-- The tokens of a text, read from `state` on; those read so far are kept last token first. -/
def scan (read : List Token) : Scanner → List Char → Option (List Token)
  | .bare word, [] => (finish word read).map List.reverse
  | .quoted _, [] => none
  | .quoted points, '"' :: rest => scan (.string points.reverse :: read) (.bare []) rest
  | .quoted points, '\\' :: 'u' :: a :: b :: c :: d :: rest => do
    scan read (.quoted ((← unit? a b c d) :: points)) rest
  | .quoted points, '\\' :: c :: rest => do
    scan read (.quoted ((← escaped? c) :: points)) rest
  | .quoted points, c :: rest =>
    if c == '\\' || c.toNat < 0x20 then none else scan read (.quoted (c.toNat :: points)) rest
  | .bare word, c :: rest =>
    if c == '"' then do scan (← finish word read) (.quoted []) rest
    else if isSpace c then do scan (← finish word read) (.bare []) rest
    else match punctuation? c with
      | some t => do scan (t :: (← finish word read)) (.bare []) rest
      | none => scan read (.bare (c :: word)) rest

def Token.ofText? (s : String) : Option (List Token) := scan [] (.bare []) s.toList

end CrossFilter.Json
