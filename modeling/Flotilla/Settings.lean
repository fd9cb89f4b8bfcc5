import Flotilla.Text.Blank
import Flotilla.Text.Utf8
import Flotilla.Url.Parser

/-!
# Settings

How the control plane is reached: its URL, a token, the timeout of one request, and the directory
that may hold a token file. A value that is given explicitly comes first, then an environment
variable, then a default. A data directory that is neither given nor set lies below the home
directory, so without a home directory there is none.
-/

namespace Flotilla

/-- What is found at a path. -/
inductive Found where
  | nothing
  | directory
  | file (content : List UInt8)
  deriving DecidableEq, Repr

/-- What settings are loaded from: the environment variables, the home directory and the files. -/
structure Surroundings where
  /-- The value of an environment variable that is set. -/
  lookup : String → Option String
  /-- The home directory, unless none can be determined. -/
  home : Option String
  find : String → Found

/-- Values that come before the environment. -/
structure Given where
  apiUrl : Option String
  token : Option String
  dataDir : Option String
  timeout : Option Nat
  deriving DecidableEq, Repr, Inhabited

def Given.none : Given :=
  ⟨.none, .none, .none, .none⟩

/-- How the control plane is reached. -/
structure Settings where
  apiUrl : Url
  token : Option String
  /-- The seconds that one request may take. -/
  timeout : Nat
  dataDir : String
  deriving DecidableEq, Repr

namespace Settings

/-! ## Names and defaults -/

def urlVariable : String := "DOCKLET_API_URL"

def tokenVariable : String := "DOCKLET_TOKEN"

/-- The environment variable of the data directory. -/
def dataDirVariable : String := "DOCKLET_DATA_DIR"

def timeoutVariable : String := "DOCKLET_REQUEST_TIMEOUT_SECS"

def defaultUrl : String := "http://127.0.0.1:8080/api"

def defaultTimeout : Nat := 30

def dataDirName : String := ".docklet"

def tokenFileName : String := "token"

/-- Timeouts and other large numbers stay below this bound. -/
def numberBound : Nat := Nat.pow 2 64

/-! ## Errors -/

/-- Why a file could not be read. -/
inductive ReadFault where
  | isDirectory
  | notText
  deriving DecidableEq, Repr

def ReadFault.message : ReadFault → String
  | isDirectory => "Is a directory (os error 21)"
  | notText => "stream did not contain valid UTF-8"

/-- Why no settings could be loaded. -/
inductive Error where
  | noHome
  | url (text : String) (cause : Url.Error)
  | scheme (name : String)
  | timeout (text : String)
  | tokenFile (path : String) (cause : ReadFault)
  deriving DecidableEq, Repr

namespace Error

def message : Error → String
  | noHome => "Could not determine home directory, set " ++ dataDirVariable
  | url text cause => "Invalid API URL '" ++ text ++ "': " ++ cause.message
  | scheme name => "Unsupported API URL scheme '" ++ name ++ "', expected http or https"
  | timeout text =>
    "Invalid request timeout '" ++ text ++ "', expected a positive number of seconds"
  | tokenFile path cause => "Failed to read token file " ++ path ++ ": " ++ cause.message

/-- The wordings of what lies behind an error, the nearest cause first. -/
def causes : Error → List String
  | url _ cause => [cause.message]
  | tokenFile _ cause => [cause.message]
  | noHome | scheme _ | timeout _ => []

end Error

/-! ## Loading -/

def below (dir name : String) : String :=
  if dir = "" ∨ dir.toList.getLast? = some '/' then dir ++ name else dir ++ "/" ++ name

/-- The trimmed value of a variable, unless it is blank. -/
def valueOf (s : Surroundings) (name : String) : Option String :=
  (s.lookup name).bind Text.nonBlank?

def readUrl (text : String) : Except Error Url :=
  match Url.read (Text.trim text) with
  | .error cause => .error (.url text cause)
  | .ok url => if Url.isWeb url.scheme then .ok url else .error (.scheme url.scheme)

def checkTimeout (text : String) (seconds : Option Nat) : Except Error Nat :=
  match seconds with
  | some (n + 1) => .ok (n + 1)
  | _ => .error (.timeout text)

/-- The timeout from a number that is given, from a text or by default. -/
def readTimeout (given : Option Nat) (text : Option String) : Except Error Nat :=
  match given, text with
  | some n, _ => checkTimeout (Text.decimal n) (some n)
  | none, some text => checkTimeout text (Text.numberBelow? numberBound (Text.trim text))
  | none, none => .ok defaultTimeout

/-- The token in a file; a file that is not there or blank holds none. -/
def readTokenFile (path : String) : Found → Except Error (Option String)
  | .nothing => .ok none
  | .directory => .error (.tokenFile path .isDirectory)
  | .file content =>
    match Text.ofBytes? content with
    | none => .error (.tokenFile path .notText)
    | some text => .ok (Text.nonBlank? text)

/-- The path of the token file in a data directory. -/
def tokenPathIn (dataDir : String) : String :=
  below dataDir tokenFileName

/-- The data directory that is given, or set, or below the home directory. -/
def dataDirFor (given : Given) (s : Surroundings) : Except Error String :=
  match given.dataDir <|> valueOf s dataDirVariable, s.home with
  | some dir, _ => .ok dir
  | none, some home => .ok (below home dataDirName)
  | none, none => .error .noHome

/-- Load the settings. Where several values are wrong or missing, the home directory is reported
first, then the URL, the timeout, and the token file. -/
def load (given : Given) (s : Surroundings) : Except Error Settings := do
  let dataDir ← dataDirFor given s
  let apiUrl ← readUrl ((given.apiUrl <|> valueOf s urlVariable).getD defaultUrl)
  let timeout ← readTimeout given.timeout (valueOf s timeoutVariable)
  let token ← match (given.token <|> valueOf s tokenVariable).bind Text.nonBlank? with
    | some token => .ok (some token)
    | none => readTokenFile (tokenPathIn dataDir) (s.find (tokenPathIn dataDir))
  return ⟨apiUrl, token, timeout, dataDir⟩

def tokenPath (s : Settings) : String :=
  tokenPathIn s.dataDir

def apiBase (s : Settings) : String :=
  s.apiUrl.base

end Settings

end Flotilla
