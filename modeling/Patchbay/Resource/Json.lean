-- Records and alarms as JSON. The members of each object stand in alphabetical
-- order, and a code is the string of its characters.
import Patchbay.Alarm
import Patchbay.Json
import Patchbay.Resource.Records

namespace Patchbay

/-- A 32-bit word as a number. -/
def Json.word (n : UInt32) : Json := .number n.toNat

def Node.toJson (r : Node) : Json := .object [
  ("destination_slots", .word r.destinationSlots),
  ("device_name", .string r.deviceName),
  ("gpi_slots", .word r.gpiSlots),
  ("gpo_slots", .word r.gpoSlots),
  ("host_address", .string r.host),
  ("host_name", .string r.hostName),
  ("source_slots", .word r.sourceSlots)]

def Source.toJson (r : Source) : Json := .object [
  ("block_size", .word r.blockSize),
  ("channel_count", .word r.channels),
  ("host_address", .string r.host),
  ("host_name", .string r.hostName),
  ("name", .string r.name),
  ("slot_number", .word r.slot),
  ("stream_address", .string r.streamAddress),
  ("stream_enabled", .bool r.enabled)]

def Destination.toJson (r : Destination) : Json := .object [
  ("channel_count", .word r.channels),
  ("host_address", .string r.host),
  ("host_name", .string r.hostName),
  ("name", .string r.name),
  ("slot_number", .word r.slot),
  ("stream_address", .string r.streamAddress)]

def GpioInput.toJson (r : GpioInput) : Json := .object [
  ("code", .string r.code.text),
  ("host_address", .string r.host),
  ("host_name", .string r.hostName),
  ("slot_number", .word r.slot)]

def GpioOutput.toJson (r : GpioOutput) : Json := .object [
  ("code", .string r.code.text),
  ("host_address", .string r.host),
  ("host_name", .string r.hostName),
  ("name", .string r.name),
  ("slot_number", .word r.slot),
  ("source_address", .string r.sourceHost),
  ("source_slot", match r.sourceSlot with | some n => .word n | none => .null)]

/-- The fields of a record, without its kind. -/
def Resource.plainJson : Resource → Json
  | node r => r.toJson
  | source r => r.toJson
  | destination r => r.toJson
  | gpioInput r => r.toJson
  | gpioOutput r => r.toJson

/-- A record with its kind beside it. -/
def Resource.toJson (r : Resource) : Json :=
  .object [("kind", .string r.kind.name), ("record", r.plainJson)]

def Alarm.toJson (a : Alarm) : Json := .object [
  ("active", .bool a.active),
  ("channel", .string a.channel.text),
  ("host_address", .string a.host),
  ("kind", .string a.kind.text),
  ("port", .string a.port.text),
  ("slot_number", .word a.slot)]

end Patchbay
