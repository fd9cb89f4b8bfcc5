import Flotilla.Text.Lowercase
import Flotilla.Url.Address
import Flotilla.Url.Domain
import Flotilla.Url.Segments

/-!
# Reading URLs

The rules by which browsers read a URL, without one to which it could be relative. Blanks and
control characters around it are dropped, tabs and line breaks inside it as well. The fragment
begins at the first number sign, the query at the first question mark before it.
-/

namespace Flotilla.Url

/-- Why a text is no URL. -/
inductive Error where
  | relative
  | emptyHost
  | domainName
  | port
  | fourBytes
  | eightPieces
  | hostCharacter
  deriving DecidableEq, Repr

def Error.message : Error → String
  | relative => "relative URL without a base"
  | emptyHost => "empty host"
  | domainName => "invalid international domain name"
  | port => "invalid port number"
  | fourBytes => "invalid IPv4 address"
  | eightPieces => "invalid IPv6 address"
  | hostCharacter => "invalid domain character"

/-! ## Parts of the text -/

/-- Whether a character is dropped at the ends of a URL. -/
def isOuter (c : Char) : Bool :=
  c.toNat ≤ 0x20

def readable (text : String) : List Char :=
  let cs := text.toList.dropWhile isOuter
  (cs.reverse.dropWhile isOuter).reverse.filter (!isRemoved ·)

/-- The characters before the first `sign`, and those after it if it is there. -/
def cutAt (sign : Char) : List Char → List Char × Option (List Char)
  | [] => ([], none)
  | c :: rest =>
    if c = sign then ([], some rest)
    else
      let (before, after) := cutAt sign rest
      (c :: before, after)

def isDecimal (c : Char) : Bool :=
  '0' ≤ c && c ≤ '9'

/-- Whether a character may stand in a scheme after its first letter. -/
def isSchemeChar (c : Char) : Bool :=
  isLetter c || isDecimal c || c == '+' || c == '-' || c == '.'

/-- The scheme in lowercase, and what follows the colon after it. -/
def scheme? (cs : List Char) : Option (String × List Char) :=
  match cutAt ':' cs with
  | (scheme, some rest) =>
    if scheme.head?.any isLetter && scheme.all isSchemeChar then
      some (String.ofList (scheme.flatMap Text.lowerChar), rest)
    else none
  | (_, none) => none

/-! ## Hosts -/

/-- The domain name or the address of four bytes that a text writes. -/
def readDomain (cs : List Char) : Except Error String :=
  match (Text.ofBytes? (decode cs)).bind fun s => domainLabels? s.toList with
  | none => .error .domainName
  | some labels =>
    if labels.flatten.isEmpty && labels.length ≤ 1 then .error .emptyHost
    -- Once the last label is a number, the host is an address or wrong.
    else if endsInNumber labels then
      match fourBytes? labels with
      | some n => .ok (showFourBytes n)
      | none => .error .fourBytes
    else .ok (Text.join "." (labels.map String.ofList))

def isNoHostChar (c : Char) : Bool :=
  ['\x00', '\t', '\n', '\r', ' ', '#', '/', ':', '<', '>', '?', '@', '[', '\\', ']', '^',
    '|'].contains c

/-- The host that a text writes; the hosts of schemes that are not special are left as they
are. -/
def readHost (special : Bool) : List Char → Except Error String
  | '[' :: rest =>
    if rest.getLast? = some ']' then
      match eightPieces? rest.dropLast with
      | some pieces => .ok ("[" ++ showEightPieces pieces ++ "]")
      | none => .error .eightPieces
    else .error .eightPieces
  | cs =>
    if special then readDomain cs
    else if cs.any isNoHostChar then .error .hostCharacter
    else .ok (String.ofList (encode isPlain cs))

/-! ## Authorities -/

/-- The characters before the last at sign, if there is one, and those after it. -/
def cutUser (cs : List Char) : Option (List Char) × List Char :=
  if cs.contains '@' then
    let after := (cs.reverse.takeWhile (· != '@')).reverse
    (some (cs.take (cs.length - after.length - 1)), after)
  else (none, cs)

def readUser (cs : List Char) : String × String :=
  let (name, password) := cutAt ':' cs
  (String.ofList (encode keptInUser name), String.ofList (encode keptInUser (password.getD [])))

/-- The characters of a host, up to a colon outside brackets, and those after it. -/
def cutHost (inBrackets : Bool) : List Char → List Char × List Char
  | [] => ([], [])
  | c :: rest =>
    if c = ':' ∧ !inBrackets then ([], c :: rest)
    else
      let (host, after) := cutHost (if c = '[' then true else if c = ']' then false else inBrackets) rest
      (c :: host, after)

/-- The port after a host, unless it is the usual one, and what follows it. -/
def readPort (scheme : String) : List Char → Except Error (Option Nat × List Char)
  | ':' :: cs =>
    let digits := cs.takeWhile isDecimal
    let rest := cs.drop digits.length
    -- No digits are the usual port.
    match (Text.digitsValue? 0 digits).filter (· ≤ 65535), rest.head? with
    | none, _ => .error .port
    | some n, none | some n, some '\\' =>
      .ok (if digits.isEmpty ∨ usualPort? scheme = some n then none else some n, rest)
    | _, _ => .error .port
  | cs => .ok (none, cs)

/-- The authority that a text writes. What is left of the text belongs to the path. Only a scheme
that is not special may go without a host, and then also without a user and a port. A lone at sign
before nothing is no authority, unless the URL ends there: `isEnd`. -/
def readAuthority (scheme : String) (cs : List Char) (isEnd : Bool) :
    Except Error (Authority × List Char) := do
  let (user, cs) := cutUser cs
  if user = some [] ∧ cs.isEmpty ∧ !isEnd then throw .emptyHost
  let (name, password) := readUser (user.getD [])
  let (host, cs) := cutHost false cs
  -- Here `cs` is what follows the host: nothing, or a colon and more.
  let isBare := name = "" ∧ password = "" ∧ cs.isEmpty
  if host.isEmpty ∧ (isSpecial scheme ∨ !isBare) then throw .emptyHost
  let host ← readHost (isSpecial scheme) host
  let (port, rest) ← readPort scheme cs
  return (⟨name, password, host, port⟩, rest)

/-! ## Paths -/

def isSlash (special : Bool) (c : Char) : Bool :=
  c == '/' || (special && c == '\\')

/-- The path after segments in the form in which they were written. -/
def readSegments (path : List String) : List (List Char) → List String
  | [] => path
  | [last] => placeSegment path (String.ofList (encode keptInPath last)) true
  | segment :: rest =>
    readSegments (placeSegment path (String.ofList (encode keptInPath segment)) false) rest

/-- The segments of a path. The path of a special scheme has at least one. -/
def readPath (special : Bool) (cs : List Char) : List String :=
  let pieces (cs : List Char) : List (List Char) :=
    Text.cells '/' (cs.map fun c => if isSlash special c then '/' else c)
  match cs with
  | [] => if special then [""] else []
  | c :: rest => readSegments [] (pieces (if isSlash special c then rest else c :: rest))

/-! ## Files -/

/-- A path without empty segments before the others. -/
def dropEmptyFirst (path : List String) : List String :=
  match path.dropWhile (· = "") with
  | [] => [""]
  | segments => segments

/-- A file on a host. The name of a drive at the beginning of its path stands for the host. -/
def onHost (host : String) (path : List String) : Authority × Path :=
  match path with
  | first :: rest =>
    if isDrive first.toList then (⟨"", "", "", none⟩, .segments (driveName first :: rest))
    else (⟨"", "", host, none⟩, .segments (dropEmptyFirst path))
  | [] => (⟨"", "", host, none⟩, .segments [""])

/-- The host and the path of a file. After two slashes there is a host, perhaps an empty one, unless
the name of a drive stands there. After an empty host the path is taken as it is. -/
def readFile (cs : List Char) : Except Error (Authority × Path) :=
  let afterHost? : Option (List Char) := match cs with
    | a :: b :: rest => if isSlash true a && isSlash true b then some rest else none
    | _ => none
  match afterHost? with
  | none => .ok (onHost "" (readPath true cs))
  | some rest =>
    let host := rest.takeWhile (!isSlash true ·)
    -- The name of a drive is no host; it begins the path.
    if isDrive host then .ok (onHost "" (readPath true rest))
    else do
      let name ← if host.isEmpty then pure "" else readHost true host
      let path := readPath true (rest.drop host.length)
      if name = "" ∨ name = "localhost" then
        return (⟨"", "", "", none⟩, .segments (dropEmptyFirst path))
      else return onHost name path

/-! ## The whole -/

/-- The authority and the path that begin with an authority. -/
def readHierarchy (scheme : String) (cs : List Char) (isEnd : Bool) :
    Except Error (Option Authority × Path) := do
  let special := isSpecial scheme
  let chunk := cs.takeWhile (!isSlash special ·)
  let after := cs.drop chunk.length
  let (authority, rest) ← readAuthority scheme chunk (isEnd && after.isEmpty)
  return (some authority, .segments (readPath special (rest ++ after)))

/-- The authority and the path of a URL, from what follows the scheme. Neither a query nor a
fragment follows them if they are the end. -/
def readRest (scheme : String) (cs : List Char) (isEnd : Bool) :
    Except Error (Option Authority × Path) :=
  if scheme = "file" then (readFile cs).map fun (authority, path) => (some authority, path)
  else if isSpecial scheme then readHierarchy scheme (cs.dropWhile (isSlash true)) isEnd
  else match cs with
    | '/' :: '/' :: rest => readHierarchy scheme rest isEnd
    | '/' :: rest => .ok (none, .segments (readSegments [] (Text.cells '/' rest)))
    | cs => .ok (none, .whole (String.ofList (encode isPlain cs)))

/-- The URL that a text writes, or why it writes none. -/
def read (text : String) : Except Error Url := do
  -- A question mark after the first hash belongs to the fragment, so the fragment is cut first.
  let (cs, fragment) := cutAt '#' (readable text)
  let (cs, query) := cutAt '?' cs
  match scheme? cs with
  | none => throw .relative
  | some (scheme, rest) =>
    let (authority, path) ← readRest scheme rest (query.isNone && fragment.isNone)
    return {
      scheme := scheme
      authority := authority
      path := path
      query := query.map fun cs => String.ofList (encode (keptInQuery (isSpecial scheme)) cs)
      fragment := fragment.map fun cs => String.ofList (encode keptInFragment cs) }

end Flotilla.Url
