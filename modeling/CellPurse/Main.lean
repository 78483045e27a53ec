import CellPurse.Command.Run
import CellPurse.Node.Http
import Std.Async.DNS
import Std.Async.TCP

/-!
# CellPurse.Main — the program

Runs a command line: files, the environment, the input, both outputs and the network are those of the machine.
-/

namespace CellPurse.Program

open Std.Async Std.Net

/-! ## The network -/

/-- Connects to the first address that answers. -/
def connect (port : UInt16) : List IPAddr → IO TCP.Socket.Client
  | [] => throw (IO.userError "All connection attempts failed")
  | ip :: others => do
    let socket ← TCP.Socket.Client.mk
    let address : SocketAddress := match ip with
      | .v4 addr => .v4 ⟨addr, port⟩
      | .v6 addr => .v6 ⟨addr, port⟩
    try
      (socket.connect address).block
      pure socket
    catch _ => connect port others

/-- Reads until the other side is done. -/
partial def drain (socket : TCP.Socket.Client) (got : ByteArray) : IO ByteArray := do
  match ← (socket.recv? 65536).block with
  | some more => drain socket (got ++ more)
  | none => pure got

/-- Sends a request and reads the answer. -/
def exchange (t : Target) (body : String) : IO Bytes := do
  let ips ← (DNS.getAddrInfo t.host "").block
  let socket ← connect t.port ips.toList
  (socket.send (ByteArray.mk (Http.request t body).toArray)).block
  pure (← drain socket ByteArray.empty).toList

/-- The reply in the bytes of an answer. -/
def replyOf (bs : Bytes) : Reply :=
  match Http.response? bs with
  | some (status, body) => .response status body
  | none => .failure "Server disconnected without sending a response."

/-- Waits for a task, ten milliseconds at a time. -/
def wait (task : Task (Except IO.Error Bytes)) : Nat → IO Reply
  | 0 => pure (.timeout "")
  | n + 1 => do
    if ← IO.hasFinished task then
      match task.get with
      | .ok bs => pure (replyOf bs)
      | .error e => pure (.failure (toString e))
    else
      IO.sleep 10
      wait task n

/-- Sends a document and waits for some seconds. -/
def post (seconds : Float) (url : Url) (body : Json) : IO Reply := do
  match Target.ofUrl? url with
  | none => pure (.failure "Request URL is missing an 'http://' protocol.")
  | some target => wait (← IO.asTask (exchange target body.compact)) (seconds * 100.0).toUInt64.toNat

/-! ## The machine -/

/-- What is at a place among files. -/
def look (place : String) : IO Entry := do
  try
    let content ← IO.FS.readBinFile place
    pure (.file content.toList)
  catch
    | .noFileOrDirectory .. => pure .absent
    | .inappropriateType _ 20 _ => pure .underFile
    | .invalidArgument .. => pure .tooLong
    | _ => pure .directory

/-- The variables of the environment. -/
def environment : IO (List (String × String)) := do
  match ← look "/proc/self/environ" with
  | .file content =>
    let text := (String.fromUTF8? (ByteArray.mk content.toArray)).getD ""
    pure ((text.splitOn "\x00").filterMap fun v =>
      match v.splitOn "=" with
      | name :: value => if name.isEmpty then none else some (name, "=".intercalate value)
      | [] => none)
  | _ => pure []

/-- The next line of the input without its end. -/
def line : IO (Option String) := do
  let text ← (← IO.getStdin).getLine
  if text.isEmpty then pure none
  else pure (some (String.ofList (text.toList.reverse.dropWhile fun c => c = '\n' || c = '\r').reverse))

instance : Journal IO := ⟨fun n => IO.eprintln n.line⟩

/-- The machine around the program. -/
def host : IO (Host IO) := do
  pure {
    environment := ← environment
    look
    line
    write := fun text => do
      IO.print text
      (← IO.getStdout).flush
    warn := IO.eprintln
    salt := do pure (← IO.getRandomBytes 16).toList
    post }

/-- Says why a command line did not end well, where no note did. -/
def tell : Ending → IO Unit
  | .misused f => IO.eprintln ("Error: " ++ f.message)
  | .broken f => IO.eprintln ("Error: " ++ (f.message?.getD "the data make no sense"))
  | .done | .refused | .aborted => pure ()

end CellPurse.Program

/-- Runs a command line. -/
def main (arguments : List String) : IO UInt32 := do
  let ending ← CellPurse.Command.perform (← CellPurse.Program.host) arguments
  CellPurse.Program.tell ending
  pure (UInt32.ofNat ending.status)
