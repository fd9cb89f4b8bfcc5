import Flotilla.Json.Record
import Flotilla.Text.Blank
import Flotilla.Text.Number

/-!
# Published Ports

A port of a node that is bound to a port of a container. Both are sixteen-bit numbers. In JSON
they are written as decimal strings and read from strings or from plain integers.
-/

namespace Flotilla

/-- A port of the node and the port of the container that it leads to. -/
structure Port where
  host : UInt16
  container : UInt16
  deriving DecidableEq, Repr, Inhabited

namespace Port

def shown (p : Port) : String :=
  Text.decimal p.host.toNat ++ ":" ++ Text.decimal p.container.toNat

/-- Order by host port, then by container port. -/
def le (p q : Port) : Bool :=
  p.host < q.host || (p.host = q.host && p.container ≤ q.container)

def number? (s : String) : Option UInt16 :=
  (Text.numberBelow? 65536 s).map UInt16.ofNat

/-! ## JSON form -/

/-- A port number from an integer or from a text with blanks around it. -/
def numberOfJson? : Json → Option UInt16
  | .int i => if 0 ≤ i ∧ i < 65536 then some (UInt16.ofNat i.toNat) else none
  | .str s => number? (Text.trim s)
  | _ => none

def fields : List Json.Field :=
  [.required "host", .required "container"]

def ofJson? (j : Json) : Option Port :=
  match Json.record? fields j with
  | some [host, container] => do
    return ⟨← Json.need numberOfJson? host, ← Json.need numberOfJson? container⟩
  | _ => none

def numberToJson (n : UInt16) : Json :=
  .str (Text.decimal n.toNat)

def toJson (p : Port) : Json :=
  .object [("host", numberToJson p.host), ("container", numberToJson p.container)]

end Port

end Flotilla
