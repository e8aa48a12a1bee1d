-- What can be wrong with a value of the fabric, apart from how it arrived.
import Patchbay.Resource.Address
import Patchbay.Text.Quoted

namespace Patchbay

/-- A place where only certain words may stand. -/
inductive Vocabulary where
  | resourceKind
  | alarmKind
  | alarmPort
  | alarmChannel
deriving DecidableEq

def Vocabulary.text : Vocabulary → String
  | .resourceKind => "resource kind"
  | .alarmKind => "alarm kind"
  | .alarmPort => "alarm port"
  | .alarmChannel => "alarm channel"

/-- A request that the fabric's values do not allow. -/
inductive Fault where
  /-- Nothing is stored under the address. -/
  | notFound (address : Address)
  /-- The text is no line code, or no writable one. -/
  | badCode (text : String)
  /-- A code has no such line. -/
  | badBit (bit : Nat)
  /-- The text is none of the words that may stand there. -/
  | badWord (place : Vocabulary) (text : String)
deriving DecidableEq

def Fault.message : Fault → String
  | notFound a => s!"{a.kind.text} not found: {a.keyText}"
  | badCode t => s!"Invalid GPIO code: {Text.quoted t} (expected 5 characters)"
  | badBit n => s!"Invalid GPIO bit: {n} (expected 0-4)"
  | badWord p t => s!"Invalid {p.text}: {Text.quoted t}"

end Patchbay
