-- A session with a controller: the connection is made, the engine runs on what
-- the controller says, and the controller says something to each command.
import Patchbay.Engine.Run

namespace Patchbay.Session

/-- Makes a connection to the controller of a configuration, which must be usable.
`dial` is how the network answers. -/
def connect {α : Type} (c : Config) (dial : Config → Except String α) : Except ClientError α := do
  c.validate.mapError .config
  (dial c).mapError .io

/-- A controller that answers each command line, and is done after some lines. -/
structure Controller where
  reply : String → List UInt8
  lines : Nat

/-- A session from beginning to end, and the lines that the controller received. -/
structure Exchange where
  run : Run
  received : List String

/-- The lines in which a command arrives, without their ends. It is one line, unless
a host in it holds line ends. -/
def arriving (c : Command) : List String :=
  (Text.splitAtEach '\n' c.text.toList).dropLast.map fun line =>
    String.ofList (if line.getLast? = some '\r' then line.dropLast else line)

/-- The lines in which the commands of effects arrive. -/
def lines (effects : List Effect) : List String :=
  (effects.flatMap Effect.commands).flatMap arriving

/-- The engine goes on as the controller answers the lines that wait, until it is done
or none waits. -/
def converse (reply : String → List UInt8) :
    Nat → List String → Engine → Reader → Exchange
  | n + 1, line :: waiting, e, r =>
    let p := e.absorb r (reply line)
    match p.failure with
    | some err => ⟨⟨p.engine, err, p.effects⟩, [line]⟩
    | none =>
      let x := converse reply n (waiting ++ lines p.effects) p.engine p.reader
      ⟨{ x.run with effects := p.effects ++ x.run.effects }, line :: x.received⟩
  | _, _, e, r =>
    let (err, last) := Engine.finish r .closed
    ⟨⟨e, err, last⟩, []⟩

/-- The whole session of an engine with a controller. -/
def exchange (e : Engine) (limit : Nat) (ctl : Controller) : Exchange :=
  let t := e.start
  match t.result with
  | .error err => ⟨⟨t.engine, err, t.effects⟩, []⟩
  | .ok () =>
    let x := converse ctl.reply ctl.lines (lines t.effects) t.engine (.empty limit)
    ⟨{ x.run with effects := t.effects ++ x.run.effects }, x.received⟩

end Patchbay.Session
