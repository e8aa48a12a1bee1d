-- The frames in which a controller tells of records, addresses and alarms. A
-- number stands in decimal and a flag as 1 or 0, and an output that follows
-- nothing has -1 for the slot that it follows.
import Patchbay.Frame.Decode

namespace Patchbay

/-- A flag as a field. -/
def flagField (b : Bool) : String := if b then "1" else "0"

/-- The slot that an output follows, as a field. -/
def sourceSlotField : Option UInt32 → String
  | some n => Numeral.ofWord n
  | none => "-1"

/-- The first field of a frame that does something to a record of the kind. Nodes are
never updated, so the token for that means nothing. -/
def Kind.token (k : Kind) : Operation → String
  | .add => k.tag ++ "ADD"
  | .delete => k.tag ++ "DEL"
  | .update => k.tag

/-- The fields of a record, after the first. -/
def Resource.fields : Resource → List String
  | node r => [r.host, r.hostName, r.deviceName, Numeral.ofWord r.sourceSlots,
      Numeral.ofWord r.destinationSlots, Numeral.ofWord r.gpiSlots, Numeral.ofWord r.gpoSlots]
  | source r => [r.host, Numeral.ofWord r.slot, r.hostName, r.streamAddress, r.name,
      flagField r.enabled, Numeral.ofWord r.channels, Numeral.ofWord r.blockSize]
  | destination r => [r.host, Numeral.ofWord r.slot, r.hostName, r.streamAddress, r.name,
      Numeral.ofWord r.channels]
  | gpioInput r => [r.host, Numeral.ofWord r.slot, r.hostName, r.code.text]
  | gpioOutput r => [r.host, Numeral.ofWord r.slot, r.hostName, r.code.text, r.name, r.sourceHost,
      sourceSlotField r.sourceSlot]

/-- A record in a frame. The token tells what becomes of the record. -/
def Resource.frame (r : Resource) (token : String) : Frame := ⟨token :: r.fields⟩

/-- The frame that deletes the record under an address. -/
def Address.frame (a : Address) : Frame :=
  ⟨a.kind.token .delete :: a.host :: (a.slot?.map Numeral.ofWord).toList⟩

def Alarm.frame (a : Alarm) : Frame :=
  ⟨[a.kind.text, a.host, Numeral.ofWord a.slot, a.port.text, a.channel.text, flagField a.active]⟩

namespace Frame

/-- The line of a frame, without its end. -/
def line (f : Frame) : String := "\t".intercalate f.fields

/-- A frame as it is sent: its line and a carriage return. -/
def bytes (f : Frame) : List UInt8 := Utf8.write f.line ++ [0x0d]

end Frame

end Patchbay
