-- The words that people use for a kind, in singular and plural and in any case.
import Patchbay.Fault
import Patchbay.Text.UpperCase

namespace Patchbay.Kind

/-- The kind that a word names. -/
def ofWord? (s : String) : Except Fault Kind :=
  match Text.upperCased s with
  | "NODE" | "NODES" => .ok node
  | "SRC" | "SOURCE" | "SOURCES" => .ok source
  | "DST" | "DESTINATION" | "DESTINATIONS" => .ok destination
  | "GPI" | "GPIS" => .ok gpioInput
  | "GPO" | "GPOS" => .ok gpioOutput
  | _ => .error (.badWord .resourceKind s)

end Patchbay.Kind
