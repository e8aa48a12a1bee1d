-- The engine at a connection: it starts, reads bytes, takes each frame when it
-- is complete, and goes on until something fails or the controller is done.
import Patchbay.Engine.Basic
import Patchbay.Frame.Stream

namespace Patchbay

/-- An engine in the middle of a stream. -/
structure Progress where
  engine : Engine
  reader : Reader
  /-- What ended it before the bytes did. -/
  failure : Option ClientError
  effects : List Effect

/-- A connection from beginning to end. It never ends well. -/
structure Run where
  engine : Engine
  error : ClientError
  effects : List Effect

namespace Engine

/-- Takes bytes until something fails. -/
def absorb (e : Engine) (r : Reader) : List UInt8 → Progress
  | [] => ⟨e, r, none, []⟩
  | b :: bs =>
    match r.push b with
    | (r, .more) => e.absorb r bs
    | (r, .refused err) => ⟨e, r, some (.wire err), []⟩
    | (r, .frame f) =>
      let t := e.dispatch f
      let effects := .noted (.frameReceived f) :: t.effects
      match t.result with
      | .error err => ⟨t.engine, r, some err, effects⟩
      | .ok () =>
        let rest := t.engine.absorb r bs
        { rest with effects := effects ++ rest.effects }

/-- What the end of the bytes means. -/
def finish (r : Reader) (ending : Ending) : ClientError × List Effect :=
  match ending.failure with
  | some err => (.wire err, [])
  | none =>
    let discarded := if r.pending = 0 then [] else [.noted (.discarding r.pending)]
    (.closed, discarded ++ [.noted .closed])

/-- Starts, and takes what a source gives. -/
def run (e : Engine) (limit : Nat) (source : ByteSource) : Run :=
  let t := e.start
  match t.result with
  | .error err => ⟨t.engine, err, t.effects⟩
  | .ok () =>
    let p := t.engine.absorb (.empty limit) source.bytes
    match p.failure with
    | some err => ⟨p.engine, err, t.effects ++ p.effects⟩
    | none =>
      let (err, last) := finish p.reader source.ending
      ⟨p.engine, err, t.effects ++ p.effects ++ last⟩

end Engine

end Patchbay
