import Flotilla.Json.Basic

/-!
# Reading JSON Text

The strict grammar of RFC 8259: no byte order mark, no trailing comma, no text after the value and
no control character inside a string. An escape for half of a surrogate pair fits the grammar, but
the string in which it stands is no text.

The reader has two stages. The lexer is a machine that takes one character at a time; the parser
is a machine with a stack that takes one token at a time. Both are structural recursions over
their input.
-/

namespace Flotilla.Json

/-! ## Tokens -/

/-- A word of JSON text. -/
inductive Token where
  | openArr | closeArr | openObj | closeObj | comma | colon
  /-- A string; `none` if it is no text. -/
  | text (s : Option String)
  | scalar (value : Json)

/-- What the lexer is in the middle of. What is not finished is held in reverse. Inside a string it
is `none` once half of a surrogate pair has been met. -/
inductive Lexing where
  | gap
  | word (rev : List Char)
  | number (rev : List Char)
  | text (rev : Option (List Char))
  | escape (rev : Option (List Char))
  /-- Hexadecimal digits after `\u`: how many are still to come, their value so far, and the
  high surrogate that came before, if any. -/
  | unit (rev : Option (List Char)) (left value : Nat) (high : Option Nat)
  /-- After a high surrogate: the backslash of the low one is due. -/
  | lowSlash (rev : Option (List Char)) (high : Nat)
  /-- After a high surrogate and a backslash: the `u` of the low one is due. -/
  | lowUnit (rev : Option (List Char)) (high : Nat)

def hexValue? (c : Char) : Option Nat :=
  if '0' ≤ c ∧ c ≤ '9' then some (c.toNat - '0'.toNat)
  else if 'a' ≤ c ∧ c ≤ 'f' then some (c.toNat - 'a'.toNat + 10)
  else if 'A' ≤ c ∧ c ≤ 'F' then some (c.toNat - 'A'.toNat + 10)
  else none

/-- The character that a one-letter escape stands for. -/
def escaped? : Char → Option Char
  | '"' => some '"'
  | '\\' => some '\\'
  | '/' => some '/'
  | 'b' => some '\x08'
  | 'f' => some '\x0c'
  | 'n' => some '\n'
  | 'r' => some '\r'
  | 't' => some '\t'
  | _ => none

def wordToken? (cs : List Char) : Option Token :=
  match String.ofList cs with
  | "null" => some (.scalar .null)
  | "true" => some (.scalar (.bool true))
  | "false" => some (.scalar (.bool false))
  | _ => none

private def isDigit (c : Char) : Bool :=
  '0' ≤ c && c ≤ '9'

/-- What may follow the integer part of a number: a fraction, an exponent, both or neither. -/
def isNumberTail (cs : List Char) : Bool :=
  let afterFraction := match cs with
    | '.' :: rest => if rest.head?.any isDigit then some (rest.dropWhile isDigit) else none
    | cs => some cs
  match afterFraction with
  | none => false
  | some [] => true
  | some (e :: rest) =>
    (e == 'e' || e == 'E') &&
      let digits := match rest with
        | '+' :: ds => ds
        | '-' :: ds => ds
        | ds => ds
      !digits.isEmpty && digits.all isDigit

/-- The natural number that a list of digits writes. -/
def digitsValue (cs : List Char) : Nat :=
  cs.foldl (fun n c => 10 * n + (c.toNat - '0'.toNat)) 0

def numberToken? (cs : List Char) : Option Token :=
  let (negative, magnitude) := match cs with
    | '-' :: rest => (true, rest)
    | cs => (false, cs)
  let whole := magnitude.takeWhile isDigit
  let tail := magnitude.dropWhile isDigit
  -- No digit may follow a leading zero.
  if whole.isEmpty || (whole.head? == some '0' && whole.length != 1) || !isNumberTail tail then
    none
  else
    let n := digitsValue whole
    -- Zero with a minus sign is no integer.
    if tail.isEmpty && !(negative && n == 0) then
      some (.scalar (.int (if negative then -(n : Int) else n)))
    else some (.scalar (.real (String.ofList cs)))

def startToken? (c : Char) : Option (List Token × Lexing) :=
  if c == ' ' || c == '\t' || c == '\n' || c == '\r' then some ([], .gap)
  else if c == '[' then some ([.openArr], .gap)
  else if c == ']' then some ([.closeArr], .gap)
  else if c == '{' then some ([.openObj], .gap)
  else if c == '}' then some ([.closeObj], .gap)
  else if c == ',' then some ([.comma], .gap)
  else if c == ':' then some ([.colon], .gap)
  else if c == '"' then some ([], .text (some []))
  else if c == '-' || isDigit c then some ([], .number [c])
  else if 'a' ≤ c && c ≤ 'z' then some ([], .word [c])
  else none

private def isNumberChar (c : Char) : Bool :=
  isDigit c || c == '+' || c == '-' || c == '.' || c == 'e' || c == 'E'

/-- The state after the last digit of a `\u` escape. -/
def finishUnit (rev : Option (List Char)) (value : Nat) : Option Nat → Lexing
  -- A low surrogate without a high one before it is half of a pair.
  | none =>
    if 0xD800 ≤ value ∧ value ≤ 0xDBFF then .lowSlash rev value
    else if 0xDC00 ≤ value ∧ value ≤ 0xDFFF then .text none
    else .text (rev.map (Char.ofNat value :: ·))
  | some high =>
    if 0xDC00 ≤ value ∧ value ≤ 0xDFFF then
      .text (rev.map (Char.ofNat (0x10000 + (high - 0xD800) * 0x400 + (value - 0xDC00)) :: ·))
    else .text none

def lexText? (rev : Option (List Char)) (c : Char) : Option (List Token × Lexing) :=
  if c == '"' then some ([.text (rev.map fun cs => String.ofList cs.reverse)], .gap)
  else if c == '\\' then some ([], .escape rev)
  -- Control characters have to be escaped.
  else if c.toNat < 0x20 then none
  else some ([], .text (rev.map (c :: ·)))

def lexEscape? (rev : Option (List Char)) (c : Char) : Option (List Token × Lexing) :=
  if c == 'u' then some ([], .unit rev 4 0 none)
  else (escaped? c).map fun e => ([], .text (rev.map (e :: ·)))

/-- One character of lexing: the tokens that it ends, in order, and the next state. -/
def lexChar? : Lexing → Char → Option (List Token × Lexing)
  | .gap, c => startToken? c
  | .word rev, c =>
    if 'a' ≤ c && c ≤ 'z' then some ([], .word (c :: rev))
    else do
      let token ← wordToken? rev.reverse
      let (more, next) ← startToken? c
      return (token :: more, next)
  | .number rev, c =>
    if isNumberChar c then some ([], .number (c :: rev))
    else do
      let token ← numberToken? rev.reverse
      let (more, next) ← startToken? c
      return (token :: more, next)
  | .text rev, c => lexText? rev c
  | .escape rev, c => lexEscape? rev c
  | .unit rev left value high, c => do
    let digit ← hexValue? c
    let value := 16 * value + digit
    if left ≤ 1 then return ([], finishUnit rev value high)
    else return ([], .unit rev (left - 1) value high)
  -- What is due did not come: the string goes on as one that is no text.
  | .lowSlash rev high, c => if c == '\\' then some ([], .lowUnit rev high) else lexText? none c
  | .lowUnit rev high, c =>
    if c == 'u' then some ([], .unit rev 4 0 (some high)) else lexEscape? none c

/-- The tokens of a text from a state on; the tokens found so far are held in reverse. -/
def lexFrom? (found : List Token) : Lexing → List Char → Option (List Token)
  | .gap, [] => some found.reverse
  | .word rev, [] => (wordToken? rev.reverse).map fun t => (t :: found).reverse
  | .number rev, [] => (numberToken? rev.reverse).map fun t => (t :: found).reverse
  -- A string that is open at the end.
  | _, [] => none
  | state, c :: rest =>
    match lexChar? state c with
    | none => none
    | some (tokens, next) => lexFrom? (tokens.reverse ++ found) next rest

/-! ## Values -/

/-- An array or an object that is still open, its contents in reverse. A name is `none` if it is
no text. -/
inductive Frame where
  | arr (rev : List Json)
  | obj (rev : List (Option String × Json)) (name : Option String)

/-- What the parser waits for. -/
inductive Parsing where
  /-- A value, or the closing bracket of an array that has just been opened. -/
  | value (mayClose : Bool)
  /-- The name of a member, or the closing brace of an object that has just been opened. -/
  | name (rev : List (Option String × Json)) (mayClose : Bool)
  /-- The colon after a name. -/
  | colon (rev : List (Option String × Json)) (name : Option String)
  /-- What follows a finished value. -/
  | after (value : Json)

def ofText : Option String → Json
  | some s => .str s
  | none => .unpaired

def ofMembers (members : List (Option String × Json)) : Json :=
  match members.mapM fun (name, v) => name.map (·, v) with
  | some members => .obj members
  | none => .unpaired

/-- One token of parsing: the open frames, innermost first, and the next state. -/
def parseToken? : List Frame → Parsing → Token → Option (List Frame × Parsing)
  | frames, .value _, .openArr => some (.arr [] :: frames, .value true)
  | frames, .value _, .openObj => some (frames, .name [] true)
  | .arr rev :: frames, .value true, .closeArr => some (frames, .after (.arr rev.reverse))
  | frames, .value _, .text s => some (frames, .after (ofText s))
  | frames, .value _, .scalar v => some (frames, .after v)
  | frames, .name rev true, .closeObj => some (frames, .after (ofMembers rev.reverse))
  | frames, .name rev _, .text s => some (frames, .colon rev s)
  | frames, .colon rev name, .colon => some (.obj rev name :: frames, .value false)
  | .arr rev :: frames, .after v, .comma => some (.arr (v :: rev) :: frames, .value false)
  | .arr rev :: frames, .after v, .closeArr => some (frames, .after (.arr (v :: rev).reverse))
  | .obj rev name :: frames, .after v, .comma => some (frames, .name ((name, v) :: rev) false)
  | .obj rev name :: frames, .after v, .closeObj =>
    some (frames, .after (ofMembers ((name, v) :: rev).reverse))
  | _, _, _ => none

/-- The value that a list of tokens writes, from a state on. -/
def parseFrom? : List Frame → Parsing → List Token → Option Json
  | [], .after v, [] => some v
  | _, _, [] => none
  | frames, state, token :: rest =>
    match parseToken? frames state token with
    | none => none
    | some (frames, state) => parseFrom? frames state rest

/-- The value that a text writes, if the text is valid JSON. -/
def read? (text : String) : Option Json :=
  (lexFrom? [] .gap text.toList).bind (parseFrom? [] (.value false))

end Flotilla.Json
