-- A configuration out of a file. The file may leave settings out, but it must
-- hold nothing else.
import Patchbay.Config
import Patchbay.Config.Toml

namespace Patchbay.Config

/-- The value under a key that may stand once. -/
def once? (key : String) (entries : List (String × Toml.Value)) :
    Except ConfigProblem (Option Toml.Value) :=
  match entries.filter (·.1 = key) with
  | [] => .ok none
  | [e] => .ok (some e.2)
  | _ => .error .malformed

/-- A setting that is a string. -/
def text? (fallback : String) : Option Toml.Value → Except ConfigProblem String
  | none => .ok fallback
  | some (.string s) => .ok s
  | some (.integer _) => .error .malformed

/-- A setting that is a number below a bound. -/
def number? (fallback bound : Nat) : Option Toml.Value → Except ConfigProblem Nat
  | none => .ok fallback
  | some (.integer n) => if 0 ≤ n ∧ n < bound then .ok n.toNat else .error .malformed
  | some (.string _) => .error .malformed

/-- The settings that can stand in a file. -/
def keys : List String := ["host", "port", "max_frame_len"]

/-- The configuration that entries make, with the standard settings for those left
out. -/
def ofEntries (entries : List (String × Toml.Value)) : Except ConfigProblem Config := do
  if entries.all (keys.contains ·.1) then
    return {
      host := ← text? standard.host (← once? "host" entries)
      port := .ofNat (← number? standard.port.toNat UInt16.size (← once? "port" entries))
      frameLimit := ← number? standard.frameLimit UInt64.size (← once? "max_frame_len" entries) }
  else throw .malformed

/-- A usable configuration out of a text. -/
def ofText (s : String) : Except ConfigProblem Config := do
  match Toml.entries? s with
  | none => throw .malformed
  | some entries =>
    let c ← ofEntries entries
    c.validate
    return c

/-- A usable configuration out of a file, given what reading the file gave. -/
def load (path : String) (contents : Except String (List UInt8)) :
    Except ConfigProblem Config :=
  match contents with
  | .error why => .error (.unreadable path why)
  | .ok bytes =>
    match Utf8.read ⟨bytes.toArray⟩ with
    | .error _ => .error (.unreadable path "stream did not contain valid UTF-8")
    | .ok s => ofText s

end Patchbay.Config
