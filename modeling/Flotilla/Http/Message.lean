import Flotilla.Json.Basic
import Flotilla.Text.Utf8
import Flotilla.Url.Basic

/-!
# Requests and Deliveries

What is sent to a server and what comes back for it. A link carries requests to a server; it may
keep a state, and it may lose a request or cut a response short.
-/

namespace Flotilla.Http

/-- What a request asks a server to do. -/
inductive Method where
  | get
  | post
  | delete
  deriving DecidableEq, Repr, Inhabited

def Method.word : Method → String
  | get => "GET"
  | post => "POST"
  | delete => "DELETE"

/-- A request, ready to be sent. -/
structure Request where
  method : Method
  url : Url
  /-- The values of the header `Authorization`, in order. -/
  authorization : List String
  body : Option Json

/-- The path and the query of a request, as the server sees them. -/
def Request.target (r : Request) : String :=
  r.url.path.render ++ Url.renderPart "?" r.url.query

/-- What comes back for a request. -/
inductive Delivery where
  /-- Nothing; the text says what went wrong. -/
  | lost (reason : String)
  /-- A response: its status, and its body or what went wrong while the body was read. -/
  | response (status : Nat) (body : Except String (List UInt8))

instance : Inhabited Delivery := ⟨.lost ""⟩

/-- The text of a body: without one byte order mark at its beginning, and with the replacement
character for bytes that write no character. -/
def bodyText (body : List UInt8) : String :=
  match body with
  | 0xEF :: 0xBB :: 0xBF :: rest => Text.ofBytesLossy rest
  | bytes => Text.ofBytesLossy bytes

/-- Whether a status says that a request was carried out. -/
def isSuccess (status : Nat) : Bool :=
  200 ≤ status && status ≤ 299

/-- A way to a server. -/
structure Link (τ : Type) where
  send : Request → τ → Delivery × τ

/-- The reason for which a request is lost when no server can be reached. -/
def sendingFailed (r : Request) : String :=
  "error sending request for url (" ++ r.url.render ++ ")"

def Link.broken (τ : Type) : Link τ where
  send := fun r s => (.lost (sendingFailed r), s)

end Flotilla.Http
