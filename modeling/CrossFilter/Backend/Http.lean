import CrossFilter.Backend.Service
import CrossFilter.Text.Hex

/-!
# HTTP exchanges

A message and its reply as the bytes on a connection that carries this one exchange and is closed
behind it. The body of a reply ends with its last chunk if it is sent in chunks, where its length
says if it has one, and with the connection otherwise.
-/

namespace CrossFilter.Backend

/-! ## Requests -/

/-- The machine that a URL leads to, and the number of the service on it. -/
structure Authority where
  host : String
  service : Nat
  deriving DecidableEq, Repr

def webService : Nat := 80

/-- The authority of an unencrypted URL. -/
def Authority.ofUrl? (url : String) : Option Authority := do
  if !Text.startsWith "http://" url then none
  let text := String.ofList ((url.toList.drop "http://".length).takeWhile fun c => !"/?#".contains c)
  match Text.splitFirst? ':' text with
  | none => return ⟨text, webService⟩
  | some (host, number) =>
    if number = "" then return ⟨host, webService⟩
    else return ⟨host, ← (Number.natural64? number).filter (· < 65536)⟩

def Authority.text (a : Authority) : String :=
  if a.service = webService then a.host else s!"{a.host}:{a.service}"

/-- Whether a character stands for itself in the path of a request. -/
def isPathChar (c : Char) : Bool :=
  0x20 < c.toNat && c.toNat < 0x7f && !"\"#<>?`\x7b\x7d".contains c

/-- A byte as a percent sign and two hexadecimal digits. -/
def percentEncoded (b : UInt8) : List Char :=
  ['%', (Text.hexChar (b.toNat / 16)).toUpper, (Text.hexChar (b.toNat % 16)).toUpper]

/-- A path with every character but those that stand for themselves encoded. -/
def encodedPath (path : String) : String :=
  String.ofList (path.toList.flatMap fun c =>
    if isPathChar c then [c] else (String.singleton c).toUTF8.toList.flatMap percentEncoded)

namespace Message

/-- The lines above the body. -/
def headLines (msg : Message) (a : Authority) : List String :=
  [s!"{msg.method} {encodedPath msg.path} HTTP/1.1", s!"host: {a.text}", "accept: */*",
    "connection: close"] ++
  (msg.authorization.map ("authorization: " ++ ·)).toList ++
  (msg.contentType.map ("content-type: " ++ ·)).toList ++
  (msg.body.map fun body => s!"content-length: {body.utf8ByteSize}").toList

/-- What is sent for a message. -/
def transmission (msg : Message) (a : Authority) : String :=
  String.join ((msg.headLines a).map (· ++ "\r\n")) ++ "\r\n" ++ msg.body.getD ""

end Message

/-! ## Replies -/

/-- Splits at the empty line behind the head; `seen` are the bytes before, the last one first. -/
def splitHead? (seen : List UInt8) : List UInt8 → Option (List UInt8 × List UInt8)
  | 13 :: 10 :: 13 :: 10 :: rest => some (seen.reverse, rest)
  | b :: rest => splitHead? (b :: seen) rest
  | [] => none

/-- The text of bytes, each of which is a character. -/
def headText (bytes : List UInt8) : String :=
  String.ofList (bytes.map fun b => Char.ofNat b.toNat)

/-- A head field: its name in lower case, and its value. -/
def headField? (line : String) : Option (String × String) :=
  (Text.splitFirst? ':' line).map fun (name, value) => (Text.word name, Text.trim value)

/-- The status that a head's first line states. -/
def headStatus? (line : String) : Option Nat :=
  match Text.split ' ' line with
  | _ :: status :: _ => Number.natural64? (Text.trim status)
  | _ => none

/-- The number at the start of a chunk's first line. -/
def chunkSize (line : List UInt8) : Nat :=
  ((line.map fun b => Text.hexValue? (Char.ofNat b.toNat)).takeWhile Option.isSome).foldl
    (fun n d => 16 * n + d.getD 0) 0

/-- The bytes of at most `count` chunks, up to the empty one. -/
def unchunk : Nat → List UInt8 → List UInt8
  | 0, _ => []
  | count + 1, bytes =>
    match chunkSize (bytes.takeWhile (· != 10)) with
    | 0 => []
    | size =>
      let chunk := (bytes.dropWhile (· != 10)).drop 1
      chunk.take size ++ unchunk count (chunk.drop (size + 2))

/-- The body under a head with the given fields. -/
def bodyBytes (fields : List (String × String)) (bytes : List UInt8) : List UInt8 :=
  if (fields.lookup "transfer-encoding").any (Text.holds "chunked") then
    unchunk bytes.length bytes
  else match (fields.lookup "content-length").bind Number.natural64? with
    | some n => bytes.take n
    | none => bytes

/-- The text of a body. Bytes that are no text stand for a text that is no JSON. -/
def bodyText (bytes : List UInt8) : String :=
  (String.fromUTF8? (ByteArray.mk bytes.toArray)).getD "\ufffd"

/-- The reply that was received on a connection. -/
def Reply.ofBytes? (bytes : List UInt8) : Option Reply := do
  let (head, rest) ← splitHead? [] bytes
  match Text.split '\n' (headText head) with
  | [] => none
  | first :: lines =>
    return { status := ← headStatus? first
             body := bodyText (bodyBytes (lines.filterMap headField?) rest) }

end CrossFilter.Backend
