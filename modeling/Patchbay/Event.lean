-- What happens on the fabric, and who is told. There is one place for a handler
-- in each category, and a new handler takes the place of the old.
import Patchbay.Issuer

namespace Patchbay

inductive Category where
  | ready
  | add
  | delete
  | change
  | alarm
deriving DecidableEq

namespace Category

def all : List Category := [ready, add, delete, change, alarm]

def name : Category → String
  | ready => "ready"
  | add => "add"
  | delete => "delete"
  | change => "change"
  | alarm => "alarm"

/-- How messages name a handler of the category. -/
def handlerLabel : Category → String
  | ready => "Handler::Ready"
  | add => "Handler::Add"
  | delete => "Handler::Delete"
  | change => "Handler::Change"
  | alarm => "Handler::Alarm"

end Category

inductive Event where
  /-- Everything on the fabric has been told. -/
  | ready
  | added (r : Resource)
  /-- A record is about to go. -/
  | deleted (r : Resource)
  /-- A record has been replaced by one that differs. -/
  | changed (old new : Resource)
  | alarm (a : Alarm)
deriving DecidableEq

def Event.category : Event → Category
  | ready => .ready
  | added _ => .add
  | deleted _ => .delete
  | changed _ _ => .change
  | alarm _ => .alarm

/-- Someone who is told of events. It answers with calls of the issuer, for which it
may look at the records as they are then. -/
structure Handler where
  label : Option String
  calls : Store → Event → List (Except ClientError Call)

/-- A handler that makes no calls. -/
def Handler.silent (label : Option String) : Handler := ⟨label, fun _ _ => []⟩

/-- The handler of each category. -/
def Handlers : Type := Category → Option Handler

namespace Handlers

def none : Handlers := fun _ => .none

def set (hs : Handlers) (c : Category) (h : Handler) : Handlers :=
  fun c' => if c' = c then some h else hs c'

end Handlers

/-- A handler was told of an event. -/
structure Delivery where
  label : Option String
  event : Event
  /-- The records that the handler saw. -/
  store : Store
  /-- What came of its calls. -/
  issues : List Issue
deriving DecidableEq

/-- What a client brings about, in order. -/
inductive Effect where
  | noted (n : Note)
  /-- The client itself issued a command. -/
  | issued (i : Issue)
  | delivered (d : Delivery)
deriving DecidableEq

namespace Effect

def delivery? : Effect → Option Delivery
  | delivered d => some d
  | _ => none

/-- The commands that were queued. -/
def commands : Effect → List Command
  | noted _ => []
  | issued i => i.queued?.toList
  | delivered d => d.issues.filterMap Issue.queued?

/-- The notes that were written. -/
def notes : Effect → List Note
  | noted n => [n]
  | issued i => i.notes
  | delivered d => d.issues.flatMap Issue.notes

end Effect

/-- Tells the handler of an event, if there is one. -/
def Handlers.deliver (hs : Handlers) (isOpen : Bool) (store : Store) (e : Event) : List Effect :=
  match hs e.category with
  | .none => []
  | some h => [.delivered ⟨h.label, e, store, (h.calls store e).map (Issue.attempt isOpen)⟩]

end Patchbay
