-- What the parts of a client report about their work, for a log.
import Patchbay.Command
import Patchbay.Frame.Basic
import Patchbay.Store

namespace Patchbay

inductive Level where
  | trace
  | debug
  | info
  | warn
  | error
deriving DecidableEq

def Level.text : Level → String
  | trace => "TRACE"
  | debug => "DEBUG"
  | info => "INFO"
  | warn => "WARN"
  | error => "ERROR"

inductive Note where
  /-- A command is about to be queued. -/
  | queueing (c : Command)
  /-- A command is about to be written. -/
  | sending (c : Command)
  | writeFailed (c : Command) (why : String)
  | shutdownFailed (why : String)
  | frameReceived (f : Frame)
  /-- The stream ends within a frame, of which some bytes had come. -/
  | discarding (bytes : Nat)
  | starting (c : Command)
  /-- A topic is acknowledged, and the command for the next goes out. -/
  | acknowledged (stage : Nat) (c : Command)
  | fabricLoaded (s : Stats)
  | commandAcknowledged
  | pong
  | commandRejected (f : Frame)
  | unknownFrame (token : String)
  /-- A record came before the fabric was loaded. -/
  | loaded (a : Address)
  /-- A record came that differs in nothing from the one before. -/
  | unchanged (a : Address)
  | closed
deriving DecidableEq

namespace Note

def level : Note → Level
  | queueing _ | sending _ | frameReceived _ | commandAcknowledged | pong | unknownFrame _
  | unchanged _ => .trace
  | shutdownFailed _ | starting _ | acknowledged _ _ | loaded _ => .debug
  | fabricLoaded _ | closed => .info
  | discarding _ | commandRejected _ => .warn
  | writeFailed _ _ => .error

def message : Note → String
  | queueing _ => "Queueing command"
  | sending _ => "Sending command"
  | writeFailed _ _ => "Command write failed"
  | shutdownFailed _ => "Command writer shutdown failed"
  | frameReceived _ => "Frame received"
  | discarding _ => "Discarding incomplete frame at end of stream"
  | starting _ => "Starting subscription handshake"
  | acknowledged _ _ => "Subscription acknowledged"
  | fabricLoaded _ => "Fabric loaded"
  | commandAcknowledged => "Command acknowledged"
  | pong => "Pong"
  | commandRejected _ => "Controller rejected a command"
  | unknownFrame _ => "Ignoring unknown frame"
  | loaded _ => "Loaded"
  | unchanged _ => "Unchanged"
  | closed => "Controller closed the connection"

/-- The details, by name. -/
def details : Note → List (String × String)
  | queueing c | starting c => [("command", c.name)]
  | sending c => [("command", c.name), ("len", Numeral.write c.bytes.length)]
  | writeFailed c why => [("error", why), ("command", c.name)]
  | shutdownFailed why => [("error", why)]
  | frameReceived f | commandRejected f => [("frame", f.text)]
  | discarding n => [("bytes", Numeral.write n)]
  | acknowledged n c => [("stage", Numeral.write n), ("command", c.name)]
  | fabricLoaded s => [("nodes", Numeral.write s.nodes), ("sources", Numeral.write s.sources),
      ("destinations", Numeral.write s.destinations), ("gpis", Numeral.write s.gpis),
      ("gpos", Numeral.write s.gpos)]
  | unknownFrame t => [("token", t)]
  | loaded a | unchanged a => [("kind", a.kind.text), ("key", a.keyText)]
  | commandAcknowledged | pong | closed => []

end Note

end Patchbay
