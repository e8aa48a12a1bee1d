-- What a frame is about, which its first field tells. Nodes are only added and
-- deleted: a node that changes is added again.
import Patchbay.Alarm

namespace Patchbay

/-- What a frame does to the record that it names. -/
inductive Operation where
  | add
  | delete
  | update
deriving DecidableEq

inductive FrameType where
  | resource (kind : Kind) (op : Operation)
  | alarm (kind : AlarmKind)
  /-- The controller has carried a command out. -/
  | ack
  /-- The controller answers a ping. -/
  | pong
  /-- The controller has refused a command. -/
  | error
  | unknown
deriving DecidableEq

namespace FrameType

/-- The first fields that mean something, with their meaning. -/
def vocabulary : List (String × FrameType) := [
  ("NODEADD", resource .node .add),
  ("NODEDEL", resource .node .delete),
  ("SRCADD", resource .source .add),
  ("SRCDEL", resource .source .delete),
  ("SRC", resource .source .update),
  ("DSTADD", resource .destination .add),
  ("DSTDEL", resource .destination .delete),
  ("DST", resource .destination .update),
  ("GPIADD", resource .gpioInput .add),
  ("GPIDEL", resource .gpioInput .delete),
  ("GPI", resource .gpioInput .update),
  ("GPOADD", resource .gpioOutput .add),
  ("GPODEL", resource .gpioOutput .delete),
  ("GPO", resource .gpioOutput .update),
  ("SILENCE", alarm .silence),
  ("CLIP", alarm .clip),
  ("ok", ack),
  ("pong", pong),
  ("error", error)]

/-- The meaning of a first field. -/
def ofToken (token : String) : FrameType := (vocabulary.lookup token).getD unknown

/-- How messages name a kind. -/
def kindLabel : Kind → String
  | .node => "Node"
  | .source => "Source"
  | .destination => "Destination"
  | .gpioInput => "GpioInput"
  | .gpioOutput => "GpioOutput"

/-- How messages name an operation. -/
def opLabel : Operation → String
  | .add => "Add"
  | .delete => "Delete"
  | .update => "Update"

/-- How messages name a frame type. -/
def label : FrameType → String
  | resource k op => s!"Resource \x7b kind: {kindLabel k}, op: {opLabel op} \x7d"
  | alarm .clip => "Alarm(Clip)"
  | alarm .silence => "Alarm(Silence)"
  | ack => "Ack"
  | pong => "Pong"
  | error => "Error"
  | unknown => "Unknown"

end FrameType

end Patchbay
