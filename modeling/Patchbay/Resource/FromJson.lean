-- Slots and kinds read from JSON.
import Patchbay.Json.Document
import Patchbay.Resource.Json

namespace Patchbay

open Json (Document)

/-- The value under a key that stands exactly once. -/
def Json.Document.only? (key : String) (members : List (Option String × Document)) :
    Option Document :=
  match members.filter (·.1 = some key) with
  | [m] => some m.2
  | _ => none

/-- The slot with a host and a number, when they are of the right types. -/
def SlotKey.ofParts? : Document → Document → Option SlotKey
  | .string (some host), .number (some digits) =>
    (Text.upTo? 10 (UInt32.size - 1) digits).map fun n => ⟨host, .ofNat n⟩
  | _, _ => none

/-- The slot of a document: an object with its host and number, in which other members
count for nothing, or a list of the two. -/
def SlotKey.ofDocument? : Document → Option SlotKey
  | .object ms =>
    if ms.all (·.1.isSome) then do
      ofParts? (← Document.only? "host_address" ms) (← Document.only? "slot" ms)
    else none
  | .array [host, slot] => ofParts? host slot
  | _ => none

/-- The kind of a document: its name, or an object in which the name holds nothing. -/
def Kind.ofDocument? : Document → Option Kind
  | .string (some name) => ofName? name
  | .object [(some name, .null)] => ofName? name
  | _ => none

/-- A slot in JSON. -/
def SlotKey.toJson (k : SlotKey) : Json :=
  .object [("host_address", .string k.host), ("slot", .word k.slot)]

end Patchbay
