-- Alarms of the level detectors: a detector reports that a channel clips or is
-- silent, and later that it no longer does. Alarms pass by and are not kept.
import Patchbay.Fault

namespace Patchbay

inductive AlarmKind where
  | clip
  | silence
deriving DecidableEq

/-- The side of a slot that a detector listens to. -/
inductive AlarmPort where
  | input
  | output
deriving DecidableEq

inductive AlarmChannel where
  | left
  | right
deriving DecidableEq

namespace AlarmKind

def text : AlarmKind → String
  | clip => "CLIP"
  | silence => "SILENCE"

def ofWord? : String → Except Fault AlarmKind
  | "CLIP" => .ok clip
  | "SILENCE" => .ok silence
  | s => .error (.badWord .alarmKind s)

end AlarmKind

namespace AlarmPort

def text : AlarmPort → String
  | input => "INPUT"
  | output => "OUTPUT"

def ofWord? : String → Except Fault AlarmPort
  | "INPUT" => .ok input
  | "OUTPUT" => .ok output
  | s => .error (.badWord .alarmPort s)

end AlarmPort

namespace AlarmChannel

def text : AlarmChannel → String
  | left => "LEFT"
  | right => "RIGHT"

def ofWord? : String → Except Fault AlarmChannel
  | "LEFT" => .ok left
  | "RIGHT" => .ok right
  | s => .error (.badWord .alarmChannel s)

end AlarmChannel

/-- A detector has changed its mind. -/
structure Alarm where
  kind : AlarmKind
  host : String
  slot : UInt32
  port : AlarmPort
  channel : AlarmChannel
  /-- Whether the condition holds from now on. -/
  active : Bool
deriving DecidableEq

def Alarm.text (a : Alarm) : String :=
  let state := if a.active then "active" else "clear"
  s!"{a.kind.text} {a.host}/{Numeral.ofWord a.slot} {a.port.text} {a.channel.text} {state}"

end Patchbay
