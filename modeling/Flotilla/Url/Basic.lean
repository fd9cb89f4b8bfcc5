import Flotilla.Text.Number
import Flotilla.Text.Search

/-!
# URLs

A URL in its usual form, part by part. Some schemes are special: they have a host and a path that
is never empty. The other schemes may go without a host, and their path may be a text without any
structure, to which nothing can be appended.
-/

namespace Flotilla

/-- Who is asked: a host, perhaps with a port and with the name and the password of a user. -/
structure Url.Authority where
  user : String
  password : String
  host : String
  /-- The port, unless it is the usual one of the scheme. -/
  port : Option Nat
  deriving DecidableEq, Repr, Inhabited

/-- What is asked for. -/
inductive Url.Path where
  /-- A text without structure. -/
  | whole (text : String)
  /-- Segments, each of which follows a slash. -/
  | segments (list : List String)
  deriving DecidableEq, Repr, Inhabited

/-- A URL in its usual form. -/
structure Url where
  scheme : String
  authority : Option Url.Authority
  path : Url.Path
  query : Option String
  fragment : Option String
  deriving DecidableEq, Repr, Inhabited

namespace Url

/-! ## Schemes -/

/-- The special schemes with a host, each with its usual port. -/
def usualPorts : List (String × Nat) :=
  [("http", 80), ("https", 443), ("ws", 80), ("wss", 443), ("ftp", 21)]

def usualPort? (scheme : String) : Option Nat :=
  (usualPorts.find? (·.1 = scheme)).map (·.2)

def isSpecial (scheme : String) : Bool :=
  scheme = "file" || (usualPort? scheme).isSome

/-- Whether a scheme is spoken by the control plane. -/
def isWeb (scheme : String) : Bool :=
  scheme = "http" || scheme = "https"

/-! ## Written form -/

def Authority.userText (a : Authority) : String :=
  if a.user = "" ∧ a.password = "" then ""
  else a.user ++ (if a.password = "" then "" else ":" ++ a.password) ++ "@"

def Authority.render (a : Authority) : String :=
  a.userText ++ a.host ++ (a.port.map fun n => ":" ++ Text.decimal n).getD ""

def renderSegments (segments : List String) : String :=
  String.join (segments.map ("/" ++ ·))

def Path.render : Path → String
  | whole text => text
  | segments list => renderSegments list

/-- What stands between the scheme and the path. Without a host, a path that begins with two
slashes is set apart by a dot, because it would be read as a host otherwise. -/
def beforePath (u : Url) : String :=
  match u.authority, u.path with
  | some a, _ => "//" ++ a.render
  | none, .segments ("" :: _ :: _) => "/."
  | none, _ => ""

/-- An optional part after the sign that begins it. -/
def renderPart (sign : String) (part : Option String) : String :=
  (part.map (sign ++ ·)).getD ""

def render (u : Url) : String :=
  u.scheme ++ ":" ++ u.beforePath ++ u.path.render ++ renderPart "?" u.query ++
    renderPart "#" u.fragment

def base (u : Url) : String :=
  Text.dropTrailing '/' u.render

def isHierarchical (u : Url) : Bool :=
  match u.path with
  | .whole _ => false
  | .segments _ => true

end Url

end Flotilla
