-- Cuts a stream of bytes into frames. A carriage return ends a frame, and line
-- feeds count for nothing. The bytes of an unfinished frame are held, up to a
-- limit; a byte past the limit is refused and dropped.
import Patchbay.Frame.Basic

namespace Patchbay

structure Reader where
  /-- How many bytes a frame may have. -/
  limit : Nat
  /-- The bytes of the unfinished frame. -/
  held : ByteArray

/-- What one byte brings about. -/
inductive Verdict where
  | more
  | frame (f : Frame)
  | refused (e : WireError)
deriving DecidableEq

namespace Reader

/-- The limit where none is asked for. -/
def standardLimit : Nat := 65536

def empty (limit : Nat) : Reader := ⟨limit, .empty⟩

/-- How many bytes are held. -/
def pending (r : Reader) : Nat := r.held.size

/-- The frame of complete bytes. -/
def complete (bytes : ByteArray) : Verdict :=
  match Utf8.read bytes with
  | .ok line => .frame (.ofLine line)
  | .error flaw => .refused (.notText flaw)

/-- Takes one byte. -/
def push (r : Reader) (b : UInt8) : Reader × Verdict :=
  if b = 0x0d then ({ r with held := .empty }, complete r.held)
  else if b = 0x0a then (r, .more)
  else if r.limit ≤ r.pending then (r, .refused (.tooLarge (r.pending + 1) r.limit))
  else ({ r with held := r.held.push b }, .more)

/-- Takes bytes and gives the frames that they complete. The first refusal ends it:
the frames before it are lost, and the bytes after it are not taken. -/
def feed (r : Reader) : List UInt8 → Reader × Except WireError (List Frame)
  | [] => (r, .ok [])
  | b :: bs =>
    match r.push b with
    | (r, .more) => r.feed bs
    | (r, .frame f) =>
      let (r, rest) := r.feed bs
      (r, rest.map (f :: ·))
    | (r, .refused e) => (r, .error e)

/-- Takes bytes one by one, and gives each frame and each refusal. -/
def answers (r : Reader) : List UInt8 → Reader × List (Except WireError Frame)
  | [] => (r, [])
  | b :: bs =>
    match r.push b with
    | (r, .more) => r.answers bs
    | (r, .frame f) =>
      let (r, rest) := r.answers bs
      (r, .ok f :: rest)
    | (r, .refused e) =>
      let (r, rest) := r.answers bs
      (r, .error e :: rest)

end Reader

end Patchbay
