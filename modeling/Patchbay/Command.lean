-- What a client says to the controller: one line for each command, its words
-- separated by blanks.
import Patchbay.Resource.LineCode
import Patchbay.Text.Utf8

namespace Patchbay

/-- What a client can ask to be told of, in the order in which it asks. -/
inductive Topic where
  | nodes
  | sources
  | destinations
  | gpis
  | gpos
  | silences
  | clips
deriving DecidableEq

namespace Topic

/-- Every topic, in order. -/
def all : List Topic := [nodes, sources, destinations, gpis, gpos, silences, clips]

/-- The place of a topic in the order. -/
def rank : Topic → Nat
  | nodes => 0
  | sources => 1
  | destinations => 2
  | gpis => 3
  | gpos => 4
  | silences => 5
  | clips => 6

/-- The topic under which the records of a kind come. -/
def ofKind : Kind → Topic
  | .node => nodes
  | .source => sources
  | .destination => destinations
  | .gpioInput => gpis
  | .gpioOutput => gpos

end Topic

inductive Command where
  | subscribe (topic : Topic)
  | clearCrosspoint (destination : SlotKey)
  /-- Lets a destination receive the stream of a source. -/
  | setCrosspoint (destination source : SlotKey)
  | clearGpioCrosspoint (output : SlotKey)
  /-- Lets an output follow an input. -/
  | setGpioCrosspoint (output input : SlotKey)
  | setGpoState (output : SlotKey) (code : LineCode)
  | setGpiState (input : SlotKey) (code : LineCode)
  | ping
deriving DecidableEq

namespace Command

/-- The word that a command begins with. -/
def name : Command → String
  | subscribe .nodes => "SubscribeNodes"
  | subscribe .sources => "SubscribeSources"
  | subscribe .destinations => "SubscribeDestinations"
  | subscribe .gpis => "SubscribeGpis"
  | subscribe .gpos => "SubscribeGpos"
  | subscribe .silences => "SubscribeSilences"
  | subscribe .clips => "SubscribeClips"
  | clearCrosspoint _ => "ClearCrosspoint"
  | setCrosspoint _ _ => "SetCrosspoint"
  | clearGpioCrosspoint _ => "ClearGpioCrosspoint"
  | setGpioCrosspoint _ _ => "SetGpioCrosspoint"
  | setGpoState _ _ => "SetGpoState"
  | setGpiState _ _ => "SetGpiState"
  | ping => "Ping"

/-- Sets one line of an output and leaves the other four. -/
def setGpoBit? (output : SlotKey) (bit : Nat) (state : Bool) : Except Fault Command :=
  (LineCode.bitMask? bit state).map (setGpoState output)

/-- Sets one line of an input and leaves the other four. -/
def setGpiBit? (input : SlotKey) (bit : Nat) (state : Bool) : Except Fault Command :=
  (LineCode.bitMask? bit state).map (setGpiState input)

/-- The two words that name a slot. -/
def slotWords (k : SlotKey) : List String := [k.host, Numeral.ofWord k.slot]

/-- The words after the name. -/
def arguments : Command → List String
  | subscribe _ | ping => []
  | clearCrosspoint k | clearGpioCrosspoint k => slotWords k
  | setCrosspoint k l | setGpioCrosspoint k l => slotWords k ++ slotWords l
  | setGpoState k c | setGpiState k c => slotWords k ++ [c.text]

/-- The line of a command, without its end. Nothing in a word is escaped. -/
def line (c : Command) : List Char :=
  c.name.toList ++ c.arguments.flatMap fun w => ' ' :: w.toList

/-- A command as it is sent: its line, a carriage return and a line feed. -/
def text (c : Command) : String := String.ofList (c.line ++ ['\r', '\n'])

def bytes (c : Command) : List UInt8 := Utf8.write c.text

/-- Writes a command behind what a buffer holds: its name, its arguments one by one with a
blank before each, and the end of the line. -/
def writeInto (buf : ByteArray) (c : Command) : ByteArray :=
  let named := buf ++ c.name.toByteArray
  let argued := c.arguments.foldl (fun buf w => buf.push 0x20 ++ w.toByteArray) named
  argued ++ "\r\n".toByteArray

/-- Commands as they are sent, one after the other. -/
def batch (cs : List Command) : List UInt8 := cs.flatMap bytes

end Command

end Patchbay
