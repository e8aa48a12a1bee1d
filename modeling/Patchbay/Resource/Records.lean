-- What a controller reports of each resource. A record is a snapshot: a change
-- of the resource is a new record under the same address.
import Patchbay.Resource.LineCode
import Patchbay.Resource.StreamNumber

namespace Patchbay

/-- A device on the fabric. -/
structure Node where
  host : String
  hostName : String
  deviceName : String
  sourceSlots : UInt32
  destinationSlots : UInt32
  gpiSlots : UInt32
  gpoSlots : UInt32
deriving DecidableEq

/-- An audio stream that a slot sends. -/
structure Source where
  host : String
  slot : UInt32
  hostName : String
  /-- The multicast address that the stream is sent to. -/
  streamAddress : String
  name : String
  enabled : Bool
  channels : UInt32
  blockSize : UInt32
deriving DecidableEq

/-- A slot that receives an audio stream. -/
structure Destination where
  host : String
  slot : UInt32
  hostName : String
  /-- The address of the stream it receives, empty when there is none. -/
  streamAddress : String
  name : String
  channels : UInt32
deriving DecidableEq

/-- A slot of five input lines. -/
structure GpioInput where
  host : String
  slot : UInt32
  hostName : String
  code : LineCode
deriving DecidableEq

/-- A slot of five output lines, which may follow an input. -/
structure GpioOutput where
  host : String
  slot : UInt32
  hostName : String
  code : LineCode
  name : String
  /-- The host of the input that it follows. -/
  sourceHost : String
  /-- The slot of the input that it follows, if it follows one. -/
  sourceSlot : Option UInt32
deriving DecidableEq

def Source.streamNumber (r : Source) : UInt32 := Patchbay.streamNumber r.streamAddress

def Destination.streamNumber (r : Destination) : UInt32 := Patchbay.streamNumber r.streamAddress

/-- Whether the destination receives a stream. -/
def Destination.isPatched (r : Destination) : Bool := r.streamAddress ≠ ""

/-- A record of any kind. -/
inductive Resource where
  | node (r : Node)
  | source (r : Source)
  | destination (r : Destination)
  | gpioInput (r : GpioInput)
  | gpioOutput (r : GpioOutput)
deriving DecidableEq

namespace Resource

def address : Resource → Address
  | node r => .node r.host
  | source r => .source ⟨r.host, r.slot⟩
  | destination r => .destination ⟨r.host, r.slot⟩
  | gpioInput r => .gpioInput ⟨r.host, r.slot⟩
  | gpioOutput r => .gpioOutput ⟨r.host, r.slot⟩

def kind (r : Resource) : Kind := r.address.kind

def host (r : Resource) : String := r.address.host

/-- The slot, which a node has not. -/
def slot? (r : Resource) : Option UInt32 := r.address.slot?

def node? : Resource → Option Node
  | node r => some r
  | _ => none

def source? : Resource → Option Source
  | source r => some r
  | _ => none

def destination? : Resource → Option Destination
  | destination r => some r
  | _ => none

def gpioInput? : Resource → Option GpioInput
  | gpioInput r => some r
  | _ => none

def gpioOutput? : Resource → Option GpioOutput
  | gpioOutput r => some r
  | _ => none

end Resource

end Patchbay
