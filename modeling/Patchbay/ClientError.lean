-- What can go wrong for a client as a whole.
import Patchbay.Config

namespace Patchbay

inductive ClientError where
  | wire (e : WireError)
  | fault (f : Fault)
  /-- The connection could not be made. -/
  | io (why : String)
  /-- The controller has closed the connection. -/
  | closed
  /-- Nobody takes commands any more. -/
  | disconnected
  | config (p : ConfigProblem)
deriving DecidableEq

namespace ClientError

def message : ClientError → String
  | wire e => s!"Protocol error: {e.message}"
  | fault f => s!"Store error: {f.message}"
  | io why => s!"IO error: {why}"
  | closed => "Connection closed by controller"
  | disconnected => "Command channel disconnected"
  | config p => s!"Invalid configuration: {p.text}"

/-- The message, and after it the messages of what lies behind the error. -/
def causes (e : ClientError) : List String :=
  e.message :: match e with
    | wire w => w.message :: match w with
      | .io why => [why]
      | .fault f => [f.message]
      | _ => []
    | fault f => [f.message]
    | io why => [why]
    | closed | disconnected | config _ => []

end ClientError

end Patchbay
