-- The watcher at a terminal. Files, the environment and the network are asked
-- here; what their answers mean is decided elsewhere.
import Patchbay.Watch.Basic
import Std.Async.DNS
import Std.Async.TCP

open Patchbay Patchbay.Watch
open Std.Async Std.Net

namespace Patchbay.Watch

/-- The environment variables that matter, by name. -/
def environment : IO (List (String × String)) := do
  let names := Setting.all.map Setting.envName ++ ["RUST_LOG", "CLICOLOR_FORCE", "NO_COLOR", "CLICOLOR"]
  let values ← names.mapM fun name => return (← IO.getEnv name).map (name, ·)
  return values.filterMap id

/-- What reading a file gives. -/
def contents (path : String) : IO (Except String (List UInt8)) := do
  try
    return .ok (← IO.FS.readBinFile path).toList
  catch e => return .error (toString e)

/-- The address of a host and a port. -/
def endpoint : IPAddr → UInt16 → SocketAddress
  | .v4 addr, port => .v4 ⟨addr, port⟩
  | .v6 addr, port => .v6 ⟨addr, port⟩

/-- Connects to the first address of a host that answers. -/
def connectTo (c : Config) : IO TCP.Socket.Client := do
  let addresses ← (DNS.getAddrInfo c.host (toString c.port)).block
  let mut failure := IO.userError "no address"
  for addr in addresses do
    try
      let client ← TCP.Socket.Client.mk
      (client.connect (endpoint addr c.port)).block
      client.noDelay
      return client
    catch e => failure := e
  throw failure

/-- Writes what effects call for: lines to the terminal, commands to the controller.
Whether the commands could be written is the answer. -/
def perform (f : Format) (client : TCP.Socket.Client) (effects : List Effect) : IO Bool := do
  for line in f.output effects do
    IO.println line
  (← IO.getStdout).flush
  let bytes := Command.batch (effects.flatMap Effect.commands)
  if bytes.isEmpty then return true
  try
    (client.send ⟨bytes.toArray⟩).block
    return true
  catch _ => return false

/-- Follows the controller until something fails or it is done. After a write that
failed, no more commands are queued. -/
partial def follow (f : Format) (client : TCP.Socket.Client) (e : Engine) (r : Reader) :
    IO ClientError := do
  match ← (client.recv? 4096).block with
  | none => return (Engine.finish r .closed).1
  | some bytes =>
    let p := e.absorb r bytes.toList
    let written ← perform f client p.effects
    match p.failure with
    | some err => return err
    | none => follow f client (if written then p.engine else p.engine.disconnect) p.reader

/-- Connects and watches. -/
def watchLive (o : Options) (w : Surroundings) : IO Outcome := do
  match prepare o w with
  | .error out => return out
  | .ok c =>
    match ← (connectTo c).toBaseIO with
    | .error e => return unconnected c (.io (toString e))
    | .ok client =>
      let f := o.format w
      let t := engine.start
      let written ← perform f client t.effects
      let e := if written then t.engine else t.engine.disconnect
      let err ← try follow f client e (.empty c.frameLimit)
        catch e => pure (.wire (.io (toString e)))
      return ⟨1, [], ended err⟩

end Patchbay.Watch

def main (args : List String) : IO UInt32 := do
  let env ← environment
  let request := Request.read args (env.lookup ·)
  let file ← match request with
    | .watch { config := some path, .. } => contents path
    | _ => pure (.error "")
  let w : Surroundings := {
    env := (env.lookup ·)
    file := fun _ => file
    dial := fun _ => .error ""
    isTerminal := ← (← IO.getStdout).isTty }
  let out ← match request with
    | .watch o => watchLive o w
    | _ => pure (execute args w)
  for line in out.output do
    IO.println line
  for line in out.report do
    IO.eprintln line
  return out.status.toUInt32
