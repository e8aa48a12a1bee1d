-- The writer takes commands out of the queue, one after the other, and writes
-- each as a whole. A write that fails ends it, and what is still queued is never
-- written.
import Patchbay.Note

namespace Patchbay

/-- A place to write to. -/
structure Sink where
  /-- How many bytes one write can take, if that is limited. -/
  chunk : Option Nat
  /-- How many bytes can be taken in all, if that is limited, and what a write is told
  after them. -/
  capacity : Option (Nat × String)
  /-- Why it cannot be closed in good order, if it cannot. -/
  stuck : Option String
deriving DecidableEq

namespace Sink

/-- How many of `wanted` bytes one write takes when `taken` were taken before, or why it
takes none. -/
def accepts (s : Sink) (taken wanted : Nat) : Except String Nat :=
  let fits := min wanted (s.chunk.getD wanted)
  match s.capacity with
  | none => .ok fits
  | some (room, full) => if room ≤ taken then .error full else .ok (min fits (room - taken))

end Sink

/-- What has been written, and why writing failed if it did. -/
structure Written where
  bytes : List UInt8
  failure : Option String
deriving DecidableEq

/-- Writes bytes piece by piece until all are written, where `taken` bytes were written
before. A write that takes nothing fails. -/
def Sink.writeAll (s : Sink) (taken : Nat) (bytes : List UInt8) : Written :=
  if _h : bytes = [] then ⟨[], none⟩
  else match s.accepts taken bytes.length with
    | .error why => ⟨[], some why⟩
    | .ok 0 => ⟨[], some "write zero"⟩
    | .ok (n + 1) =>
      let rest := s.writeAll (taken + (n + 1)) (bytes.drop (n + 1))
      { rest with bytes := bytes.take (n + 1) ++ rest.bytes }
termination_by bytes.length
decreasing_by
  have := List.length_pos_iff.2 _h
  simp only [List.length_drop]; omega

/-- Writes commands in order, where `taken` bytes were written before, and then closes
the sink. -/
def Sink.drain (s : Sink) (taken : Nat) : List Command → List UInt8 × List Note
  | [] => ([], (s.stuck.map Note.shutdownFailed).toList)
  | c :: cs =>
    let w := s.writeAll taken c.bytes
    match w.failure with
    | some why => (w.bytes, [.sending c, .writeFailed c why])
    | none =>
      let (bytes, notes) := s.drain (taken + w.bytes.length) cs
      (w.bytes ++ bytes, .sending c :: notes)

end Patchbay
