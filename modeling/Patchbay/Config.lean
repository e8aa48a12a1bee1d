-- Where the controller is, and how much of it a client is willing to read.
import Patchbay.Frame.Reader

namespace Patchbay

structure Config where
  host : String
  port : UInt16
  /-- How many bytes a frame may have. -/
  frameLimit : Nat
deriving DecidableEq

/-- Why there is no usable configuration. -/
inductive ConfigProblem where
  | emptyHost
  | zeroPort
  | zeroFrameLimit
  /-- The file could not be read as text. -/
  | unreadable (path why : String)
  /-- The text is no document of settings. -/
  | malformed
deriving DecidableEq

def ConfigProblem.text : ConfigProblem → String
  | emptyHost => "host must not be empty"
  | zeroPort => "port must not be 0"
  | zeroFrameLimit => "max_frame_len must not be 0"
  | unreadable path why => s!"{path}: {why}"
  | malformed => "TOML parse error"

namespace Config

/-- The settings that hold where nothing else is said. -/
def standard : Config := ⟨"127.0.0.1", 23883, Reader.standardLimit⟩

/-- Refuses settings that cannot work: the host is looked at first, then the port, then
the limit. -/
def validate (c : Config) : Except ConfigProblem Unit :=
  if c.host = "" then .error .emptyHost
  else if c.port = 0 then .error .zeroPort
  else if c.frameLimit = 0 then .error .zeroFrameLimit
  else .ok ()

end Config

end Patchbay
