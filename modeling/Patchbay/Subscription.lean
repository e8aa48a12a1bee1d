-- A session subscribes to one topic after the other, and goes on to the next
-- when the controller acknowledges the last. When all seven are acknowledged,
-- everything on the fabric has been told.
import Patchbay.Frame.WireError

namespace Patchbay

/-- The topic to which frames of a type belong. -/
def FrameType.topic? : FrameType → Option Topic
  | resource k _ => some (.ofKind k)
  | alarm .silence => some .silences
  | alarm .clip => some .clips
  | _ => none

/-- How far a session has come with its subscriptions. -/
structure Subscription where
  started : Bool
  /-- How many are acknowledged. -/
  acks : Nat
deriving DecidableEq

/-- What an acknowledgment leads to. -/
inductive Step where
  /-- The next topic is due. -/
  | next (topic : Topic)
  /-- The last topic is acknowledged. -/
  | ready
  /-- All topics were acknowledged before, so this answers some other command. -/
  | absorbed
deriving DecidableEq

namespace Subscription

def new : Subscription := ⟨false, 0⟩

/-- Whether all topics are acknowledged. -/
def isLoaded (s : Subscription) : Bool := Topic.all.length ≤ s.acks

/-- The topic that a session begins with. -/
def first : Topic := .nodes

/-- A session that has subscribed to the first topic. -/
def begun : Subscription := ⟨true, 0⟩

/-- Takes an acknowledgment. -/
def acknowledge (s : Subscription) : Except WireError (Subscription × Step) :=
  if !s.started then .error .unaskedAck
  else if s.isLoaded then .ok (s, .absorbed)
  else
    let s := { s with acks := s.acks + 1 }
    match Topic.all[s.acks]? with
    | some t => .ok (s, .next t)
    | none => .ok (s, .ready)

/-- Refuses a frame of a topic to which no subscription has been sent. -/
def check (s : Subscription) (type : FrameType) : Except WireError Unit :=
  match type.topic? with
  | none => .ok ()
  | some t => if s.started ∧ t.rank ≤ s.acks then .ok () else .error (.unasked type t)

end Subscription

end Patchbay
