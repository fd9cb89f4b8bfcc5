import Flotilla.Http.Message
import Flotilla.Inspection.Answer
import Flotilla.Json.Reader
import Flotilla.Json.Writer
import Flotilla.Remote.World
import Flotilla.Text.Base64
import Flotilla.Url.Parser

/-!
# The Control Plane over HTTP

Every call is one request to a URL below the base URL:

* the registry is at `nodes`, the containers of a node are at `nodes/{node}/containers`;
* a container is below that, at its id; `inspect`, `start` and `stop` are below the container.

Ids are data from elsewhere. Each is encoded as one segment of the path, so that no id leads to
another resource. A response that is no success is a fault with the text of its body as message.
-/

namespace Flotilla.Http

/-- How the control plane is reached. -/
structure Client where
  base : Url
  /-- The token that proves who asks. -/
  token : Option String
  /-- What is said about a body that is not what the call asked for. -/
  complaint : String → String

namespace Client

def open? (base : String) (token : Option String) : Except Fault Client :=
  match Url.read (Text.trim base) with
  | .ok url =>
    if url.isHierarchical then .ok ⟨url, token, fun _ => "unexpected content"⟩
    else .error (.transport ("Invalid base URL: " ++ base))
  | .error _ => .error (.transport ("Invalid base URL: " ++ base))

/-! ## Requests -/

def methodOf : Call → Method
  | .nodes | .list _ | .inspect _ _ => .get
  | .start _ _ | .stop _ _ | .create _ _ => .post
  | .delete _ _ => .delete

def segmentsOf : Call → List String
  | .nodes => ["nodes"]
  | .list node | .create node _ => ["nodes", node, "containers"]
  | .inspect node id => ["nodes", node, "containers", id, "inspect"]
  | .start node id => ["nodes", node, "containers", id, "start"]
  | .stop node id => ["nodes", node, "containers", id, "stop"]
  | .delete node id => ["nodes", node, "containers", id]

def bodyOf : Call → Option Json
  | .create _ plan => some plan.toJson
  | _ => none

def endpoint (c : Client) (call : Call) : Url :=
  c.base.append (segmentsOf call)

def pathOf (c : Client) (call : Call) : String :=
  (c.endpoint call).path.render

/-- The text that percent encoding stands for, if it is one. -/
def decoded? (text : String) : Option String :=
  Text.ofBytes? (Url.decode text.toList)

/-- The name and the password that a URL holds, if there are any. -/
def credentials? (a : Url.Authority) : Option (String × Option String) := do
  let user ← decoded? a.user
  let password := if a.password = "" then none else decoded? a.password
  if user = "" ∧ password = none then none else some (user, password)

/-- A URL without the name and the password, and these. -/
def withoutCredentials (url : Url) : Url × Option (String × Option String) :=
  match url.authority with
  | none => (url, none)
  | some a =>
    match credentials? a with
    | none => (url, none)
    | some found =>
      ({ url with authority := some { a with user := "", password := "" } }, some found)

def basic (user : String) (password : Option String) : String :=
  "Basic " ++ String.ofList (Text.Base64.encode (Text.bytes (user ++ ":" ++ password.getD "")))

def isHeaderText (text : String) : Bool :=
  text.toList.all fun c => c = '\t' || (0x20 ≤ c.toNat && c.toNat != 0x7F)

/-- Whether a host can be asked: some characters that a host may have are known to no server. -/
def isAskable (host : String) : Bool :=
  host.toList.all fun c => !(['"', '\x60', '\x7b', '\x7d'].contains c)

def maxUrlLength : Nat := 65534

def canBeSent (url : Url) : Bool :=
  Url.isWeb url.scheme && (url.authority.map (·.host)).all isAskable &&
    url.render.length ≤ maxUrlLength

/-- The reason for which no request is made for a URL. -/
def notBuilt (url : Url) : String :=
  "builder error for url (" ++ url.render ++ ")"

/-- The request for a call, or why none can be made. -/
def request? (c : Client) (call : Call) : Except String Request :=
  let url := c.endpoint call
  if (url.authority.map (·.host)).all (· = "") then .error (notBuilt url)
  else
    let (url, found) := withoutCredentials url
    if !c.token.all isHeaderText then .error "builder error"
    else if !canBeSent url then .error (notBuilt url)
    else .ok {
      method := methodOf call
      url := url
      authorization :=
        (found.map fun (user, password) => basic user password).toList ++
          (c.token.map ("Bearer " ++ ·)).toList
      body := bodyOf call }

/-! ## Responses -/

/-- The registry's answer; the nodes may be missing. -/
def nodesOfJson? (j : Json) : Option (List Node) :=
  match Json.record? [.optional "nodes"] j with
  | some [nodes] => Json.orDefault [] (Json.list? Node.ofJson?) nodes
  | _ => none

/-- The listing of a node; null stands for no containers. -/
def containersOfJson? (j : Json) : Option (List Container) :=
  (Json.maybe (Json.list? Container.ofJson?) (some j)).map (·.getD [])

/-- What is made of the body of a success. -/
inductive BodyUse (α : Type) where
  /-- The status alone is the answer. -/
  | ignored (answer : α)
  | read (reader : Json → Option α)

def bodyUse : (call : Call) → BodyUse call.Answer
  | .nodes => .read nodesOfJson?
  | .list _ => .read containersOfJson?
  | .inspect _ _ => .read fun j => (Inspection.ofJson? j).map Inspection.snapshot
  | .start _ _ | .stop _ _ | .delete _ _ | .create _ _ => .ignored ()

/-- The fault of a call for which no request was answered. -/
def requestFailed (c : Client) (call : Call) (reason : String) : Fault :=
  .transport ("Request to " ++ c.pathOf call ++ " failed: " ++ reason)

/-- The fault of a call whose answer is not what it asked for. -/
def notUnderstood (c : Client) (call : Call) (text : String) : Fault :=
  .transport ("Failed to parse response from /" ++ Text.join "/" (segmentsOf call) ++ ": " ++
    c.complaint text)

/-- The reply to a call from the body of a success. -/
def readBody (c : Client) (call : Call) (body : Except String (List UInt8)) : call.Reply :=
  match bodyUse call, body with
  | .ignored answer, _ => .ok answer
  | .read _, .error reason => .error (.transport ("Failed to read response: " ++ reason))
  | .read reader, .ok bytes =>
    let text := bodyText bytes
    match (Json.read? text).bind reader with
    | some answer => .ok answer
    | none => .error (c.notUnderstood call text)

/-- The reply to a call from what came back for its request. -/
def interpret (c : Client) (call : Call) : Delivery → call.Reply
  | .lost reason => .error (c.requestFailed call reason)
  | .response status body =>
    if isSuccess status then c.readBody call body
    else .error (.ofResponse status ((body.toOption.map bodyText).getD ""))

/-! ## The world behind a link -/

def perform {τ : Type} (c : Client) (link : Link τ) (call : Call) (s : τ) : call.Reply × τ :=
  match c.request? call with
  | .error reason => (.error (c.requestFailed call reason), s)
  | .ok request => (c.interpret call (link.send request s).1, (link.send request s).2)

def world {τ : Type} (c : Client) (link : Link τ) (cancelled : List Event → Bool)
    (clock : List Event → Instant) : World τ where
  reply := c.perform link
  cancelled := cancelled
  clock := clock

end Client

end Flotilla.Http
