-- Records in one line of text each. Names stand in quotation marks, since a
-- controller may send any characters in them.
import Patchbay.Resource.Records

namespace Patchbay

/-- A number as it stands in a line of text. -/
local instance wordToString : ToString UInt32 := ⟨Numeral.ofWord⟩

def Node.text (r : Node) : String :=
  s!"{r.host} ({r.hostName}) device={r.deviceName} src={r.sourceSlots} " ++
    s!"dst={r.destinationSlots} gpi={r.gpiSlots} gpo={r.gpoSlots}"

def Source.text (r : Source) : String :=
  s!"{r.host}/{r.slot} {Text.quoted r.name} ({r.hostName}) stream={r.streamAddress} " ++
    s!"#{r.streamNumber} enabled={r.enabled} channels={r.channels} block={r.blockSize}"

def Destination.text (r : Destination) : String :=
  s!"{r.host}/{r.slot} {Text.quoted r.name} ({r.hostName}) stream={r.streamAddress} " ++
    s!"#{r.streamNumber} channels={r.channels}"

def GpioInput.text (r : GpioInput) : String :=
  s!"{r.host}/{r.slot} ({r.hostName}) code={r.code.text}"

/-- What an output follows, in words. -/
def GpioOutput.sourceText (r : GpioOutput) : String :=
  match r.sourceSlot with
  | some slot => s!"{r.sourceHost}/{slot}"
  | none => "none"

def GpioOutput.text (r : GpioOutput) : String :=
  s!"{r.host}/{r.slot} {Text.quoted r.name} ({r.hostName}) code={r.code.text} " ++
    s!"source={r.sourceText}"

def Resource.text : Resource → String
  | node r => r.text
  | source r => r.text
  | destination r => r.text
  | gpioInput r => r.text
  | gpioOutput r => r.text

end Patchbay
