-- The records, addresses and alarms that frames carry. The field count is
-- looked at first and the fields then from left to right, except that an output
-- has the slot that it follows looked at before the rest.
import Patchbay.Frame.Basic
import Patchbay.Resource.Records

namespace Patchbay

namespace Kind

/-- How many fields a frame has that carries a record of the kind. -/
def fieldCount : Kind → Nat
  | node => 8
  | source => 9
  | destination => 7
  | gpioInput => 5
  | gpioOutput => 8

/-- How many fields a frame has that carries an address of the kind. -/
def keyFieldCount : Kind → Nat
  | node => 2
  | _ => 3

end Kind

/-- How many fields a frame has that carries an alarm. -/
def Alarm.fieldCount : Nat := 6

namespace Frame

/-- A field that holds a number. -/
def number (f : Frame) (i : Nat) (q : Quantity) : Except WireError UInt32 := do
  let value ← f.field i
  match Numeral.word? value with
  | some n => return n
  | none => throw (.badNumber f.token q value)

/-- A field that says yes with a 1, and no with anything else. -/
def flag (f : Frame) (i : Nat) : Except WireError Bool := do
  return (← f.field i) = "1"

/-- A field that holds a word of a vocabulary. -/
def word {α : Type} (f : Frame) (i : Nat) (read : String → Except Fault α) :
    Except WireError α := do
  (read (← f.field i)).mapError .fault

def decodeNode (f : Frame) : Except WireError Node := do
  f.expect Kind.node.fieldCount
  return {
    host := ← f.field 1
    hostName := ← f.field 2
    deviceName := ← f.field 3
    sourceSlots := ← f.number 4 .sourceSlots
    destinationSlots := ← f.number 5 .destinationSlots
    gpiSlots := ← f.number 6 .gpiSlots
    gpoSlots := ← f.number 7 .gpoSlots }

def decodeSource (f : Frame) : Except WireError Source := do
  f.expect Kind.source.fieldCount
  return {
    host := ← f.field 1
    slot := ← f.number 2 .slot
    hostName := ← f.field 3
    streamAddress := ← f.field 4
    name := ← f.field 5
    enabled := ← f.flag 6
    channels := ← f.number 7 .channels
    blockSize := ← f.number 8 .blockSize }

def decodeDestination (f : Frame) : Except WireError Destination := do
  f.expect Kind.destination.fieldCount
  return {
    host := ← f.field 1
    slot := ← f.number 2 .slot
    hostName := ← f.field 3
    streamAddress := ← f.field 4
    name := ← f.field 5
    channels := ← f.number 6 .channels }

def decodeGpioInput (f : Frame) : Except WireError GpioInput := do
  f.expect Kind.gpioInput.fieldCount
  return {
    host := ← f.field 1
    slot := ← f.number 2 .slot
    hostName := ← f.field 3
    code := ← f.word 4 LineCode.ofText? }

/-- The slot that an output follows, written -1 when it follows none. -/
def sourceSlot (f : Frame) : Except WireError (Option UInt32) := do
  if (← f.field 7) = "-1" then return none
  return some (← f.number 7 .sourceSlot)

def decodeGpioOutput (f : Frame) : Except WireError GpioOutput := do
  f.expect Kind.gpioOutput.fieldCount
  let sourceSlot ← f.sourceSlot
  return {
    host := ← f.field 1
    slot := ← f.number 2 .slot
    hostName := ← f.field 3
    code := ← f.word 4 LineCode.ofText?
    name := ← f.field 5
    sourceHost := ← f.field 6
    sourceSlot }

/-- The record of a kind that a frame carries, whatever its token. -/
def decode (k : Kind) (f : Frame) : Except WireError Resource :=
  match k with
  | .node => f.decodeNode.map .node
  | .source => f.decodeSource.map .source
  | .destination => f.decodeDestination.map .destination
  | .gpioInput => f.decodeGpioInput.map .gpioInput
  | .gpioOutput => f.decodeGpioOutput.map .gpioOutput

/-- The slot named by the two fields after the token. -/
def slotKey (f : Frame) : Except WireError SlotKey := do
  return { host := ← f.field 1, slot := ← f.number 2 .slot }

/-- The address of a kind that a frame carries, whatever its token. -/
def decodeAddress (k : Kind) (f : Frame) : Except WireError Address := do
  f.expect k.keyFieldCount
  match k with
  | .node => return .node (← f.field 1)
  | k => return k.at (← f.slotKey)

/-- The alarm that a frame carries. The token is the kind of the alarm. -/
def decodeAlarm (f : Frame) : Except WireError Alarm := do
  f.expect Alarm.fieldCount
  return {
    kind := ← (AlarmKind.ofWord? f.token).mapError .fault
    host := ← f.field 1
    slot := ← f.number 2 .slot
    port := ← f.word 3 AlarmPort.ofWord?
    channel := ← f.word 4 AlarmChannel.ofWord?
    active := ← f.flag 5 }

end Frame

end Patchbay
