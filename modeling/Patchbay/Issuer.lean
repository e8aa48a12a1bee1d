-- Commands are issued and forgotten: each is put into a queue, and nobody waits
-- for the answer. Codes and bits are checked first, so that only masks are ever
-- written to a slot.
import Patchbay.ClientError
import Patchbay.Note

namespace Patchbay

/-- What can be asked of the issuer. -/
inductive Call where
  | setCrosspoint (destination source : SlotKey)
  | clearCrosspoint (destination : SlotKey)
  | setGpioCrosspoint (output input : SlotKey)
  | clearGpioCrosspoint (output : SlotKey)
  | setGpoCode (output : SlotKey) (code : LineCode)
  | setGpiCode (input : SlotKey) (code : LineCode)
  | setGpoBit (output : SlotKey) (bit : Nat) (state : Bool)
  | setGpiBit (input : SlotKey) (bit : Nat) (state : Bool)
  | ping
  | send (c : Command)
deriving DecidableEq

namespace Call

/-- Refuses a code that says something else than what to do with each line. -/
def writable (c : LineCode) : Except Fault LineCode :=
  if c.isMask then .ok c else .error (.badCode c.text)

/-- The command that a call sends. -/
def command : Call → Except Fault Command
  | setCrosspoint d s => .ok (.setCrosspoint d s)
  | clearCrosspoint d => .ok (.clearCrosspoint d)
  | setGpioCrosspoint o i => .ok (.setGpioCrosspoint o i)
  | clearGpioCrosspoint o => .ok (.clearGpioCrosspoint o)
  | setGpoCode o c => (writable c).map (.setGpoState o)
  | setGpiCode i c => (writable c).map (.setGpiState i)
  | setGpoBit o b s => (LineCode.bitMask? b s >>= writable).map (.setGpoState o)
  | setGpiBit i b s => (LineCode.bitMask? b s >>= writable).map (.setGpiState i)
  | ping => .ok .ping
  | send c => .ok c

end Call

/-- What came of an attempt to issue a command. -/
inductive Issue where
  /-- There was no call to make, since its code or its command could not be built. -/
  | unmade (e : ClientError)
  /-- The issuer refused the call. -/
  | refused (f : Fault)
  /-- The queue was closed. -/
  | unsent (c : Command)
  | sent (c : Command)
deriving DecidableEq

namespace Issue

/-- Puts a command into the queue, if that is open. -/
def send (isOpen : Bool) (c : Command) : Issue := if isOpen then sent c else unsent c

/-- Makes a call of the issuer, unless there is none to make. -/
def attempt (isOpen : Bool) (call : Except ClientError Call) : Issue :=
  match call with
  | .error e => unmade e
  | .ok call =>
    match call.command with
    | .error f => refused f
    | .ok c => send isOpen c

/-- The command that reached the queue. -/
def queued? : Issue → Option Command
  | sent c => some c
  | _ => none

/-- What the caller is told. -/
def result : Issue → Except ClientError Unit
  | unmade e => .error e
  | refused f => .error (.fault f)
  | unsent _ => .error .disconnected
  | sent _ => .ok ()

def notes : Issue → List Note
  | unsent c | sent c => [.queueing c]
  | unmade _ | refused _ => []

end Issue

end Patchbay
