import Flotilla.Node
import Flotilla.Port
import Flotilla.Refusal

/-!
# Launch Plans and Overrides

The configuration of a container that is to be created, and what an operator may override when a
container is created anew.
-/

namespace Flotilla

/-- The launch configuration of a container that is to be created. -/
structure Plan where
  image : String
  name : String
  ports : List Port
  env : List String
  autoRestart : Bool
  restartPolicy : Option String
  deriving DecidableEq, Repr, Inhabited

namespace Plan

/-- A plan that a node would reject is refused: it has to name an image. -/
def validate (p : Plan) : Except Refusal Unit :=
  if Text.trim p.image = "" then .error (.invalid .imageRequired) else .ok ()

def renamed (p : Plan) (name : String) : Plan :=
  { p with name := name }

/-! ## JSON form -/

def fields : List Json.Field :=
  [.required "image", .required "name", .required "ports", .required "env",
    .required "auto_restart", .optional "restart_policy"]

def ofJson? (j : Json) : Option Plan :=
  match Json.record? fields j with
  | some [image, name, ports, env, autoRestart, restartPolicy] => do
    return {
      image := ← Json.need Json.text? image
      name := ← Json.need Json.text? name
      ports := ← Json.need (Json.list? Port.ofJson?) ports
      env := ← Json.need (Json.list? Json.text?) env
      autoRestart := ← Json.need Json.bool? autoRestart
      restartPolicy := ← Json.maybe Json.text? restartPolicy }
  | _ => none

/-- A plan as JSON, which is also the body of a create request. -/
def toJson (p : Plan) : Json :=
  .object <| [("image", .str p.image), ("name", .str p.name),
    ("ports", .arr (p.ports.map Port.toJson)), ("env", .strings p.env),
    ("auto_restart", .bool p.autoRestart)] ++
    Node.optionalMember "restart_policy" p.restartPolicy

end Plan

/-- What an operator wants changed when a container is created anew. A text that is absent or
blank keeps what the container has. -/
structure Overrides where
  image : Option String
  /-- May hold placeholders for the node's token and the container's name. -/
  nameTemplate : Option String
  /-- One environment entry a line. -/
  envText : Option String
  /-- One pair of ports a line. -/
  portsText : Option String
  autoRestart : Bool
  deriving DecidableEq, Repr

namespace Overrides

/-- Keep everything, and restart automatically. -/
def keep : Overrides :=
  ⟨none, none, none, none, true⟩

def fields : List Json.Field :=
  [.optional "image", .optional "name_template", .optional "env_text", .optional "ports_text",
    .required "auto_restart"]

def ofJson? (j : Json) : Option Overrides :=
  match Json.record? fields j with
  | some [image, template, env, ports, autoRestart] => do
    return {
      image := ← Json.maybe Json.text? image
      nameTemplate := ← Json.maybe Json.text? template
      envText := ← Json.maybe Json.text? env
      portsText := ← Json.maybe Json.text? ports
      autoRestart := ← Json.need Json.bool? autoRestart }
  | _ => none

def toJson (o : Overrides) : Json :=
  .object [("image", .strOrNull o.image), ("name_template", .strOrNull o.nameTemplate),
    ("env_text", .strOrNull o.envText), ("ports_text", .strOrNull o.portsText),
    ("auto_restart", .bool o.autoRestart)]

end Overrides

end Flotilla
