import Flotilla.Http.Message
import Flotilla.Json.Writer
import Flotilla.Text.Blank
import Flotilla.Text.Lines
import Flotilla.Text.Lowercase
import Flotilla.Url.Percent

/-!
# Messages on the Wire

Requests and responses as the bytes of HTTP/1.1. One connection carries one exchange, so a
response ends at the latest where the connection does. A body has a stated length, or it comes in
chunks each of which states its own, or it goes on to the end.
-/

namespace Flotilla.Http.Wire

/-! ## Requests -/

/-- The host and the port of a URL, as the server is told. -/
def hostText (url : Url) : String :=
  match url.authority with
  | none => ""
  | some a => { a with user := "", password := "" : Url.Authority }.render

def requestLines (r : Request) (body : List UInt8) : List String :=
  [r.method.word ++ " " ++ r.target ++ " HTTP/1.1",
    "host: " ++ hostText r.url,
    "accept: */*",
    "connection: close"] ++
  r.authorization.map ("authorization: " ++ ·) ++
  if r.body.isSome then
    ["content-type: application/json", "content-length: " ++ Text.decimal body.length]
  else []

def requestBytes (r : Request) : List UInt8 :=
  let body := (r.body.map fun j => Text.bytes j.write).getD []
  Text.bytes (String.join ((requestLines r body).map (· ++ "\r\n")) ++ "\r\n") ++ body

/-! ## Responses -/

def endLine (rev : List UInt8) : List UInt8 :=
  match rev with
  | 0x0D :: rest => rest.reverse
  | rev => rev.reverse

/-- The lines up to the first empty one, and the bytes after it. What was read of the line at hand
comes first, in reverse. -/
def cutHead (rev : List UInt8) (lines : List (List UInt8)) :
    List UInt8 → Option (List (List UInt8) × List UInt8)
  | [] => none
  | b :: rest =>
    if b ≠ 0x0A then cutHead (b :: rev) lines rest
    else if (endLine rev).isEmpty then some (lines.reverse, rest)
    else cutHead [] (endLine rev :: lines) rest

def status? (line : String) : Option Nat :=
  match Text.split ' ' line with
  | version :: status :: _ =>
    if version.startsWith "HTTP/1." then Text.numberBelow? 1000 status else none
  | _ => none

/-- The value of a header, by its name in lowercase. -/
def header? (name : String) (lines : List String) : Option String :=
  lines.findSome? fun line =>
    match Text.cells ':' line.toList with
    | found :: value =>
      if Text.lowercase (String.ofList found) = name then
        some (Text.trim (Text.join ":" (value.map String.ofList)))
      else none
    | [] => none

/-- What reading chunks is in the middle of. -/
inductive Chunking where
  /-- The size of a chunk, as far as it was read. -/
  | size (value : Nat)
  /-- What follows the size up to the end of the line. -/
  | note (value : Nat)
  /-- The bytes of a chunk. -/
  | data (left : Nat)
  /-- The end of the line after a chunk. -/
  | gap
  deriving DecidableEq, Repr

/-- The bytes in chunks, if the last one is there. Those read so far come in reverse. -/
def joinChunks (found : List UInt8) : Chunking → List UInt8 → Option (List UInt8)
  | _, [] => none
  | .size value, b :: rest =>
    match Url.hexValue? (Char.ofNat b.toNat) with
    | some digit => joinChunks found (.size (16 * value + digit)) rest
    | none =>
      -- The chunk of size zero is the last one.
      if b ≠ 0x0A then joinChunks found (.note value) rest
      else if value = 0 then some found.reverse
      else joinChunks found (.data value) rest
  | .note value, b :: rest =>
    if b ≠ 0x0A then joinChunks found (.note value) rest
    else if value = 0 then some found.reverse
    else joinChunks found (.data value) rest
  | .data left, b :: rest =>
    joinChunks (b :: found) (if left ≤ 1 then .gap else .data (left - 1)) rest
  | .gap, b :: rest => joinChunks found (if b = 0x0A then .size 0 else .gap) rest

/-- The reason for which a body is not there as a whole. -/
def cutShort : String := "error decoding response body"

/-- The body of a response, from its headers and the bytes after them. -/
def body (headers : List String) (bytes : List UInt8) : Except String (List UInt8) :=
  if (header? "transfer-encoding" headers).any (Text.lowercase · = "chunked") then
    match joinChunks [] (.size 0) bytes with
    | some found => .ok found
    | none => .error cutShort
  -- A length that cannot be read counts as none.
  else match (header? "content-length" headers).bind (Text.numberBelow? (Nat.pow 2 64)) with
    | none => .ok bytes
    | some n => if bytes.length < n then .error cutShort else .ok (bytes.take n)

/-- The response that bytes write, if they write one. -/
def response? (bytes : List UInt8) : Option Delivery :=
  match cutHead [] [] bytes with
  | none => none
  | some (lines, rest) =>
    match lines.map Text.ofBytesLossy with
    | [] => none
    | first :: headers => (status? first).map fun status => .response status (body headers rest)

/-- What came back for a request, from the bytes that the server sent. -/
def delivery (r : Request) (bytes : List UInt8) : Delivery :=
  (response? bytes).getD (.lost (sendingFailed r))

end Flotilla.Http.Wire
