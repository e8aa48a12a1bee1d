-- The engine follows a controller: it takes frames one at a time, keeps the
-- records that they tell of, and lets handlers know. Handlers hear nothing
-- until the fabric is loaded.
import Patchbay.Event
import Patchbay.Frame.Decode
import Patchbay.Subscription

namespace Patchbay

structure Engine where
  store : Store
  subscription : Subscription
  handlers : Handlers
  /-- Whether commands can be queued. -/
  isOpen : Bool

/-- The engine after one step, with what the step brought about. -/
structure Turn where
  engine : Engine
  result : Except ClientError Unit
  effects : List Effect

namespace Engine

def new (handlers : Handlers) : Engine := ⟨.empty, .new, handlers, true⟩

/-- Whether the fabric is loaded. -/
def isReady (e : Engine) : Bool := e.subscription.isLoaded

def setHandler (e : Engine) (c : Category) (h : Handler) : Engine :=
  { e with handlers := e.handlers.set c h }

/-- The engine when nobody takes its commands any more. -/
def disconnect (e : Engine) : Engine := { e with isOpen := false }

/-- A step that fails and changes nothing. -/
def fail (e : Engine) (err : ClientError) : Turn := ⟨e, .error err, []⟩

/-- A step that succeeds and changes nothing. -/
def stay (e : Engine) (effects : List Effect) : Turn := ⟨e, .ok (), effects⟩

/-- Tells the handler of an event. -/
def deliver (e : Engine) (store : Store) (ev : Event) : List Effect :=
  e.handlers.deliver e.isOpen store ev

/-- Issues a subscription, after a note. -/
def subscribe (e : Engine) (note : Command → Note) (t : Topic) : Turn :=
  let issue := Issue.send e.isOpen (.subscribe t)
  ⟨e, issue.result, [.noted (note (.subscribe t)), .issued issue]⟩

/-- Begins the subscriptions, also when they were begun before. -/
def start (e : Engine) : Turn :=
  { e with subscription := .begun }.subscribe .starting Subscription.first

/-- Takes an acknowledgment. -/
def acknowledge (e : Engine) : Turn :=
  match e.subscription.acknowledge with
  | .error err => e.fail (.wire err)
  | .ok (s, step) =>
    let e := { e with subscription := s }
    match step with
    | .next t => e.subscribe (.acknowledged s.acks) t
    | .ready => e.stay (.noted (.fabricLoaded e.store.stats) :: e.deliver e.store .ready)
    | .absorbed => e.stay [.noted .commandAcknowledged]

/-- Puts a record into the store, over one with the same address. The handler is given
the record that is then stored. -/
def add (e : Engine) (k : Kind) (f : Frame) : Turn :=
  match f.decode k with
  | .error err => e.fail (.wire err)
  | .ok r =>
    let next := { e with store := (e.store.insert r).2 }
    if e.isReady then
      match next.store.get r.address with
      | .error err => next.fail (.fault err)
      | .ok stored => next.stay (next.deliver next.store (.added stored))
    else next.stay [.noted (.loaded r.address)]

/-- Takes a record out of the store. The handler sees it there for the last time. -/
def delete (e : Engine) (k : Kind) (f : Frame) : Turn :=
  match f.decodeAddress k with
  | .error err => e.fail (.wire err)
  | .ok a =>
    match e.store.get a with
    | .error err => e.fail (.fault err)
    | .ok r =>
      let told := if e.isReady then e.deliver e.store (.deleted r) else []
      match e.store.remove a with
      | .error err => ⟨e, .error (.fault err), told⟩
      | .ok (_, store) => ⟨{ e with store }, .ok (), told⟩

/-- Replaces a record that is in the store. A record that differs in nothing is no
event. -/
def update (e : Engine) (k : Kind) (f : Frame) : Turn :=
  match f.decode k with
  | .error err => e.fail (.wire err)
  | .ok r =>
    match e.store.replace r with
    | .error err => e.fail (.fault err)
    | .ok (old, store) =>
      let next := { e with store }
      if e.isReady then
        match store.get r.address with
        | .error err => next.fail (.fault err)
        | .ok stored =>
          next.stay (if stored ≠ old then next.deliver store (.changed old stored)
            else [.noted (.unchanged r.address)])
      else next.stay []

/-- Passes an alarm on. -/
def alarm (e : Engine) (f : Frame) : Turn :=
  match f.decodeAlarm with
  | .error err => e.fail (.wire err)
  | .ok a => e.stay (if e.isReady then e.deliver e.store (.alarm a) else [])

/-- Takes a refusal. Before the fabric is loaded it can only mean the subscription. -/
def reject (e : Engine) (f : Frame) : Turn :=
  if e.isReady then e.stay [.noted (.commandRejected f)]
  else e.fail (.wire (.refused e.subscription.acks))

/-- Takes one frame. -/
def dispatch (e : Engine) (f : Frame) : Turn :=
  match e.subscription.check f.type with
  | .error err => e.fail (.wire err)
  | .ok () =>
    match f.type with
    | .resource k .add => e.add k f
    | .resource k .delete => e.delete k f
    | .resource k .update => e.update k f
    | .alarm _ => e.alarm f
    | .ack => e.acknowledge
    | .pong => e.stay [.noted .pong]
    | .error => e.reject f
    | .unknown => e.stay [.noted (.unknownFrame f.token)]

/-- Takes frames until one fails. -/
def dispatchAll (e : Engine) : List Frame → Turn
  | [] => e.stay []
  | f :: fs =>
    let t := e.dispatch f
    match t.result with
    | .error _ => t
    | .ok () =>
      let rest := t.engine.dispatchAll fs
      { rest with effects := t.effects ++ rest.effects }

end Engine

end Patchbay
