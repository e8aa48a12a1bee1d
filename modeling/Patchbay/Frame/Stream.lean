-- Frames drawn from a source of bytes, which in the end is closed or fails. A
-- source that has failed is closed from then on.
import Patchbay.Frame.Reader

namespace Patchbay

/-- What kind of failure a read comes back with. -/
inductive FailureKind where
  /-- The source ended before all was read that was wanted. -/
  | unexpectedEnd
  | other
deriving DecidableEq

/-- How a source of bytes ends. -/
inductive Ending where
  /-- There are no more bytes. -/
  | closed
  /-- A read fails. -/
  | failed (why : String) (kind : FailureKind)
deriving DecidableEq

namespace Ending

/-- What ends the frames of a source other than its end. A source that is closed has no byte
for who wants one, so a read that fails with an unexpected end is told as the end. -/
def failure : Ending → Option WireError
  | closed => none
  | failed _ .unexpectedEnd => none
  | failed why .other => some (.io why)

end Ending

/-- The bytes that a source gives, and its end. -/
structure ByteSource where
  bytes : List UInt8
  ending : Ending
deriving DecidableEq

/-- A reader at a source of bytes. -/
structure FrameStream where
  reader : Reader
  source : ByteSource

namespace FrameStream

/-- Draws bytes until there is a frame, a refusal or the end. -/
def nextFrom (r : Reader) (ending : Ending) :
    List UInt8 → FrameStream × Except WireError (Option Frame)
  | [] =>
    (⟨r, [], .closed⟩, match ending.failure with
      | none => .ok none
      | some err => .error err)
  | b :: bs =>
    match r.push b with
    | (r, .more) => nextFrom r ending bs
    | (r, .frame f) => (⟨r, bs, ending⟩, .ok (some f))
    | (r, .refused e) => (⟨r, bs, ending⟩, .error e)

/-- The next frame, or nothing at the end. After a refusal, drawing can go on. -/
def next (s : FrameStream) : FrameStream × Except WireError (Option Frame) :=
  nextFrom s.reader s.source.ending s.source.bytes

/-- What drawing again and again gives, up to the end, at most `n` times. -/
def draw (s : FrameStream) : Nat → List (Except WireError (Option Frame))
  | 0 => []
  | n + 1 =>
    match s.next with
    | (_, .ok none) => [.ok none]
    | (s, answer) => answer :: s.draw n

/-- The frames up to the end or the first refusal, and what ended them other than the
end of the source. -/
def framesFrom (r : Reader) (ending : Ending) : List UInt8 → List Frame × Option WireError
  | [] => ([], ending.failure)
  | b :: bs =>
    match r.push b with
    | (r, .more) => framesFrom r ending bs
    | (r, .frame f) =>
      let (fs, e) := framesFrom r ending bs
      (f :: fs, e)
    | (_, .refused e) => ([], some e)

def frames (s : FrameStream) : List Frame × Option WireError :=
  framesFrom s.reader s.source.ending s.source.bytes

end FrameStream

end Patchbay
