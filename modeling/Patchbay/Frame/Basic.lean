-- A frame is one message of the controller: a line cut into fields by tabs. The
-- first field, the token, tells what the frame is about.
import Patchbay.Frame.WireError
import Patchbay.Text.Fields

namespace Patchbay

structure Frame where
  fields : List String
deriving DecidableEq

namespace Frame

/-- The frame of a line, which comes without its end. -/
def ofLine (line : String) : Frame := ⟨Text.fields '\t' line⟩

/-- The first field. -/
def token (f : Frame) : String := f.fields.headD ""

def type (f : Frame) : FrameType := .ofToken f.token

/-- The field of a number, the token being field 0. -/
def field (f : Frame) (i : Nat) : Except WireError String :=
  match f.fields[i]? with
  | some s => .ok s
  | none => .error (.missingField f.token i)

/-- Whether nothing stands in any field. -/
def isEmpty (f : Frame) : Bool := f.fields.all (· = "")

/-- Refuses a frame that has another number of fields, the token among them. -/
def expect (f : Frame) (count : Nat) : Except WireError Unit :=
  if f.fields.length = count then .ok () else .error (.fieldCount f.token count f.fields.length)

/-- The frame in one line of text. -/
def text (f : Frame) : String := " | ".intercalate f.fields

end Frame

end Patchbay
