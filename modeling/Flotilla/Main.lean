import Flotilla.CommandLine.Invocation
import Flotilla.Http.Wire
import Std.Async.DNS
import Std.Async.Signal
import Std.Async.TCP
import Std.Async.Timer

/-!
# The Command

The command line program. It reads the environment and the token file, performs the command that
the arguments ask for, and carries requests to the control plane over plain connections. The first
interrupt lets a batch end after the item at hand.
-/

namespace Flotilla.Main

open Std.Async Std.Net

/-! ## Surroundings -/

def variableNames : List String :=
  [Settings.urlVariable, Settings.tokenVariable, Settings.dataDirVariable,
    Settings.timeoutVariable, "CLICOLOR_FORCE", "HOME"]

def readVariables : IO (List (String × String)) :=
  variableNames.filterMapM fun name => do
    return (← IO.getEnv name).map fun value => (name, value)

def look (path : String) : IO Found := do
  try
    return .file (← IO.FS.readBinFile path).toList
  catch
    | .inappropriateType .. => return .directory
    | _ => return .nothing

def surroundings (args : List String) : IO Surroundings := do
  let found ← readVariables
  let lookup (name : String) : Option String := (found.find? (·.1 = name)).map (·.2)
  let home := (lookup "HOME").filter (· ≠ "")
  let around : Surroundings := ⟨lookup, home, fun _ => .nothing⟩
  match CommandLine.read lookup args with
  | .order given _ =>
    match Settings.dataDirFor given around with
    | .error _ => return around
    | .ok dataDir =>
      let path := Settings.tokenPathIn dataDir
      let token ← look path
      return { around with find := fun p => if p = path then token else .nothing }
  | _ => return around

/-! ## Connections -/

partial def receive (socket : TCP.Socket.Client) (found : ByteArray) : Async ByteArray := do
  match ← socket.recv? 65536 with
  | some bytes => receive socket (found ++ bytes)
  | none => return found

def portAt (port : UInt16) : IPAddr → SocketAddress
  | .v4 a => .v4 ⟨a, port⟩
  | .v6 a => .v6 ⟨a, port⟩

def address (host : String) (port : UInt16) : Async SocketAddress := do
  let name := String.ofList (host.toList.filter fun c => c != '[' && c != ']')
  let found ← DNS.getAddrInfo name "http" none
  match found.toList with
  | a :: _ => return portAt port a
  | [] => throw (IO.userError "no address")

/-- Send a request and wait for everything that comes back. -/
def exchange (r : Http.Request) (a : Url.Authority) : Async Http.Delivery := do
  let port := a.port.getD ((Url.usualPort? r.url.scheme).getD 80)
  let socket ← TCP.Socket.Client.mk
  socket.connect (← address a.host (UInt16.ofNat port))
  socket.send ⟨(Http.Wire.requestBytes r).toArray⟩
  return Http.Wire.delivery r (← receive socket ByteArray.empty).toList

/-- Send a request, unless that takes longer than a number of seconds. Only plain connections are
made. -/
def send (timeout : Nat) (r : Http.Request) : IO Http.Delivery := do
  let lost : Http.Delivery := .lost (Http.sendingFailed r)
  match r.url.scheme, r.url.authority with
  | "http", some a =>
    let limit : Async Http.Delivery := do
      sleep (Std.Time.Millisecond.Offset.ofNat (1000 * timeout))
      return lost
    try (Async.race (exchange r a) limit).block
    catch _ => return lost
  | _, _ => return lost

/-! ## Operations -/

/-- Whether the operator has interrupted the program. -/
abbrev Interrupted := IO.Ref Bool

def watch : IO Interrupted := do
  let flag ← IO.mkRef false
  let waiter ← Signal.Waiter.mk .sigint false
  let task ← waiter.wait
  let _ ← IO.mapTask (fun _ => flag.set true) task
  return flag

def answerRemote (client : Http.Client) (timeout : Nat) (flag : Interrupted) :
    (op : Remote.Op) → IO op.Reply
  | .call c =>
    match client.request? c with
    | .error reason => return .error (client.requestFailed c reason)
    | .ok request => return client.interpret c (← send timeout request)
  | .cancelled => flag.get
  | .clock => do
    let now ← Std.Time.Timestamp.now
    return ⟨now.toSecondsSinceUnixEpoch.toInt, 0⟩
  | .refresh => return ()

def answer (client : Http.Client) (timeout : Nat) (flag : Interrupted) :
    (op : Terminal.Op) → IO op.Reply
  | .remote op => answerRemote client timeout flag op
  | .print text => do
    let output ← IO.getStdout
    output.putStr text
    output.flush
  | .readLine => do (← IO.getStdin).getLine

/-- Carry out an invocation; the result is the exit status. -/
def invoke (args : List String) : IO Nat := do
  match CommandLine.prepare (← surroundings args) args with
  | .help =>
    IO.print CommandLine.usage
    return 0
  | .wrong =>
    IO.eprint CommandLine.usage
    return 2
  | .failed failure =>
    IO.eprint failure.report
    return 1
  | .ready client settings program =>
    let flag ← watch
    let (status, errors) := CommandLine.endingOf (← program.carryOut (answer client settings.timeout flag))
    IO.eprint errors
    return status

end Flotilla.Main

def main (args : List String) : IO UInt32 := do
  return UInt32.ofNat (← Flotilla.Main.invoke args)
