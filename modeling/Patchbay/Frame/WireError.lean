-- What can go wrong between the bytes of a controller and the records they tell.
import Patchbay.Command
import Patchbay.Frame.Vocabulary

namespace Patchbay

/-- The numbers that stand in frames. -/
inductive Quantity where
  | slot
  | sourceSlot
  | sourceSlots
  | destinationSlots
  | gpiSlots
  | gpoSlots
  | channels
  | blockSize
deriving DecidableEq

def Quantity.text : Quantity → String
  | slot => "slot"
  | sourceSlot => "source slot"
  | sourceSlots => "source slot count"
  | destinationSlots => "destination slot count"
  | gpiSlots => "gpi slot count"
  | gpoSlots => "gpo slot count"
  | channels => "channel count"
  | blockSize => "block size"

inductive WireError where
  /-- A frame has no field of that number. -/
  | missingField (token : String) (index : Nat)
  /-- A field that should hold a number holds something else. -/
  | badNumber (token : String) (quantity : Quantity) (value : String)
  /-- The bytes of a frame are no text. -/
  | notText (flaw : Utf8.Flaw)
  | fieldCount (token : String) (expected got : Nat)
  /-- A frame grows past the limit. -/
  | tooLarge (size limit : Nat)
  /-- An acknowledgment came before any subscription was sent. -/
  | unaskedAck
  /-- A frame came before its topic was subscribed to. -/
  | unasked (type : FrameType) (topic : Topic)
  /-- The controller refused a subscription, after so many were acknowledged. -/
  | refused (stage : Nat)
  /-- Reading failed. -/
  | io (why : String)
  | fault (f : Fault)
deriving DecidableEq

namespace WireError

def message : WireError → String
  | missingField t i => s!"Parse error: {t}: missing field {i}"
  | badNumber t q v => s!"Parse error: {t}: invalid {q.text}: {Text.quoted v}"
  | notText f => s!"Parse error: frame is not valid UTF-8: {f.message}"
  | fieldCount t e g => s!"Wrong field count for {t}: expected {e}, got {g}"
  | tooLarge n m => s!"Frame too large: {n} > {m}"
  | unaskedAck => "Handshake violation: ok received before any subscribe"
  | unasked t s =>
    let name := (Command.subscribe s).name
    s!"Handshake violation: {t.label} frame before {name} was sent"
  | refused n => s!"Handshake violation: controller rejected subscribe at stage {n}"
  | io w => s!"IO error: {w}"
  | fault f => s!"Core error: {f.message}"

/-- Whether the fault lies in what the controller sent, so that the frame itself could
not be understood. -/
def isParseError : WireError → Bool
  | io _ | fault (.notFound _) | fault (.badBit _) => false
  | _ => true

end WireError

end Patchbay
