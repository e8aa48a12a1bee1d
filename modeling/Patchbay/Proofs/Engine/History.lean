-- What can be done with an engine, one action after the other, whatever each
-- of them returns, and what the handlers were told meanwhile.
import Patchbay.Proofs.Engine.Outcome

namespace Patchbay

/-! ## What one turn tells and asks -/

/-- The commands that the engine queued of its own accord, not for a handler. -/
def Effect.ownCommands : Effect → List Command
  | issued i => i.queued?.toList
  | _ => []

namespace Turn

/-- What the handlers were told, in order. -/
def deliveries (t : Turn) : List Delivery := t.effects.filterMap Effect.delivery?

def events (t : Turn) : List Event := t.deliveries.map Delivery.event

/-- The commands that were queued, in order. -/
def commands (t : Turn) : List Command := t.effects.flatMap Effect.commands

/-- Those of them that are the engine's own. -/
def ownCommands (t : Turn) : List Command := t.effects.flatMap Effect.ownCommands

instance (t : Turn) : Decidable (t.result = .ok ()) :=
  match t.result with
  | .ok () => .isTrue rfl
  | .error _ => .isFalse nofun

end Turn

/-- There is a handler in each category. -/
def Handlers.Complete (hs : Handlers) : Prop := ∀ c, hs c ≠ .none

theorem Handlers.Complete.set {hs : Handlers} (h : hs.Complete) (c : Category) (x : Handler) :
    (hs.set c x).Complete := by
  intro c'
  unfold Handlers.set
  split
  · simp
  · exact h c'

namespace Engine

variable {e : Engine} {f : Frame}

@[simp] theorem stay_noted_events (e : Engine) (n : Note) (xs : List Effect) :
    (e.stay (.noted n :: xs)).events = (e.stay xs).events := rfl

/-- Where there is a handler it is told once. -/
theorem stay_deliver_events (h : e.handlers.Complete) (next : Engine) (s : Store) (ev : Event) :
    (next.stay (e.deliver s ev)).events = [ev] := by
  unfold deliver Handlers.deliver
  cases hh : e.handlers ev.category with
  | none => exact absurd hh (h _)
  | some x => rfl

/-- What is told is told by the handler, which is shown the records then. -/
theorem exists_handler_of_mem_deliver {s : Store} {ev : Event} {d : Delivery}
    (h : d ∈ (e.deliver s ev).filterMap Effect.delivery?) : ∃ x,
      e.handlers ev.category = some x ∧
      d = ⟨x.label, ev, s, (x.calls s ev).map (Issue.attempt e.isOpen)⟩ := by
  unfold deliver Handlers.deliver at h
  cases hh : e.handlers ev.category with
  | none => rw [hh] at h; cases h
  | some x =>
    rw [hh] at h
    exact ⟨x, rfl, List.mem_singleton.1 h⟩

theorem of_mem_deliver {s : Store} {ev : Event} {d : Delivery}
    (h : d ∈ (e.deliver s ev).filterMap Effect.delivery?) : d.event = ev ∧ d.store = s := by
  obtain ⟨x, -, rfl⟩ := exists_handler_of_mem_deliver h
  exact ⟨rfl, rfl⟩

/-- Where an event is told only at times, and nothing is told otherwise, it is what is told. -/
theorem mem_deliver_of_mem_ite {p : Prop} [Decidable p] {s : Store} {ev : Event}
    {xs : List Effect} {d : Delivery} (hxs : xs.filterMap Effect.delivery? = [])
    (h : d ∈ (if p then e.deliver s ev else xs).filterMap Effect.delivery?) :
    d ∈ (e.deliver s ev).filterMap Effect.delivery? := by
  split at h
  · exact h
  · rw [hxs] at h
    cases h

theorem of_mem_ite {p : Prop} [Decidable p] {s : Store} {ev : Event} {xs : List Effect}
    {d : Delivery} (hxs : xs.filterMap Effect.delivery? = [])
    (h : d ∈ (if p then e.deliver s ev else xs).filterMap Effect.delivery?) :
    d.event = ev ∧ d.store = s :=
  of_mem_deliver (mem_deliver_of_mem_ite hxs h)

/-! ## Actions -/

/-- What can be done with an engine. -/
inductive Action where
  | start
  | dispatch (f : Frame)
  | setHandler (c : Category) (h : Handler)
  /-- Nobody takes its commands any more. -/
  | disconnect

def act (e : Engine) : Action → Turn
  | .start => e.start
  | .dispatch f => e.dispatch f
  | .setHandler c h => (e.setHandler c h).stay []
  | .disconnect => e.disconnect.stay []

/-- The engine after actions. -/
def after (e : Engine) (as : List Action) : Engine := as.foldl (fun e a => (e.act a).engine) e

/-- What each of the actions brought about. -/
def turns (e : Engine) : List Action → List Turn
  | [] => []
  | a :: as => e.act a :: (e.act a).engine.turns as

/-- All that the handlers were told during actions, and what they saw and asked for then. -/
def deliveries (e : Engine) (as : List Action) : List Delivery :=
  (e.turns as).flatMap Turn.deliveries

/-- All that the handlers were told during actions. -/
def events (e : Engine) (as : List Action) : List Event := (e.turns as).flatMap Turn.events

/-- The commands that were queued during actions. -/
def commands (e : Engine) (as : List Action) : List Command :=
  (e.turns as).flatMap Turn.commands

def ownCommands (e : Engine) (as : List Action) : List Command :=
  (e.turns as).flatMap Turn.ownCommands

@[simp] theorem after_nil (e : Engine) : e.after [] = e := rfl

@[simp] theorem after_cons (e : Engine) (a : Action) (as : List Action) :
    e.after (a :: as) = (e.act a).engine.after as := rfl

theorem after_append (e : Engine) (as bs : List Action) :
    e.after (as ++ bs) = (e.after as).after bs := List.foldl_append

theorem turns_append (e : Engine) (as bs : List Action) :
    e.turns (as ++ bs) = e.turns as ++ (e.after as).turns bs := by
  induction as generalizing e with
  | nil => rfl
  | cons a as ih => exact congrArg (e.act a :: ·) (ih (e.act a).engine)

@[simp] theorem deliveries_cons (e : Engine) (a : Action) (as : List Action) :
    e.deliveries (a :: as) = (e.act a).deliveries ++ (e.act a).engine.deliveries as := by
  simp [deliveries, turns]

@[simp] theorem events_cons (e : Engine) (a : Action) (as : List Action) :
    e.events (a :: as) = (e.act a).events ++ (e.act a).engine.events as := by
  simp [events, turns]

@[simp] theorem commands_cons (e : Engine) (a : Action) (as : List Action) :
    e.commands (a :: as) = (e.act a).commands ++ (e.act a).engine.commands as := by
  simp [commands, turns]

@[simp] theorem ownCommands_cons (e : Engine) (a : Action) (as : List Action) :
    e.ownCommands (a :: as) = (e.act a).ownCommands ++ (e.act a).engine.ownCommands as := by
  simp [ownCommands, turns]

theorem deliveries_append (e : Engine) (as bs : List Action) :
    e.deliveries (as ++ bs) = e.deliveries as ++ (e.after as).deliveries bs := by
  unfold deliveries
  rw [turns_append, List.flatMap_append]

theorem ownCommands_append (e : Engine) (as bs : List Action) :
    e.ownCommands (as ++ bs) = e.ownCommands as ++ (e.after as).ownCommands bs := by
  unfold ownCommands
  rw [turns_append, List.flatMap_append]

/-- What each action keeps, a run of them keeps. -/
theorem after_induction {P : Engine → Prop} {as : List Action}
    (hstep : ∀ e, P e → ∀ a ∈ as, P (e.act a).engine) (h : P e) : P (e.after as) := by
  induction as generalizing e with
  | nil => exact h
  | cons a as ih =>
    refine ih (fun e he b hb => hstep e he b (List.mem_cons_of_mem _ hb)) ?_
    exact hstep e h a List.mem_cons_self

/-! ## What actions leave alone -/

theorem dispatch_handlers (e : Engine) (f : Frame) :
    (e.dispatch f).engine.handlers = e.handlers := by
  refine dispatch_induction e f fun t ht => ?_
  cases ht <;> rfl

theorem dispatch_isOpen (e : Engine) (f : Frame) : (e.dispatch f).engine.isOpen = e.isOpen := by
  refine dispatch_induction e f fun t ht => ?_
  cases ht <;> rfl

/-- A handler is shown the records before a frame or those after it. -/
theorem store_of_mem_deliveries {d : Delivery} (h : d ∈ (e.dispatch f).deliveries) :
    d.store = e.store ∨ d.store = (e.dispatch f).engine.store := by
  revert h
  refine dispatch_induction e f fun t ht => ?_
  intro h
  cases ht with
  | failed => cases h
  | remarked => cases h
  | added => exact Or.inr (of_mem_ite rfl h).2
  | deleted => exact Or.inl (of_mem_ite rfl h).2
  | updated =>
    unfold Turn.deliveries at h
    simp only [stay] at h
    split at h
    · cases h
    · exact Or.inr (of_mem_ite rfl h).2
  | alarm => exact Or.inl (of_mem_ite rfl h).2
  | next => cases h
  | loaded => exact Or.inl (of_mem_deliver h).2

theorem act_complete (h : e.handlers.Complete) (a : Action) :
    (e.act a).engine.handlers.Complete := by
  cases a with
  | start => exact h
  | dispatch f =>
    rw [act, dispatch_handlers]
    exact h
  | setHandler c x => exact h.set c x
  | disconnect => exact h

/-- Commands can be queued until nobody takes them any more. -/
theorem act_isOpen (h : e.isOpen = true) {a : Action} (ha : a ≠ .disconnect) :
    (e.act a).engine.isOpen = true := by
  cases a with
  | start => exact h
  | dispatch f => exact (dispatch_isOpen e f).trans h
  | setHandler c x => exact h
  | disconnect => exact absurd rfl ha

/-- A loaded engine stays loaded until it starts again. -/
theorem dispatch_isReady (h : e.isReady = true) (f : Frame) :
    (e.dispatch f).engine.isReady = true := by
  refine dispatch_induction e f fun t ht => ?_
  have hlater : Subscription.isLoaded ⟨true, e.subscription.acks + 1⟩ = true :=
    Subscription.isLoaded_iff.2 (Nat.le_succ_of_le (Subscription.isLoaded_iff.1 h))
  cases ht with
  | next => exact hlater
  | loaded => exact hlater
  | _ => exact h

theorem act_isReady (h : e.isReady = true) {a : Action} (ha : a ≠ .start) :
    (e.act a).engine.isReady = true := by
  cases a with
  | start => exact absurd rfl ha
  | dispatch f => exact dispatch_isReady h f
  | setHandler c x => exact h
  | disconnect => exact h

end Engine

end Patchbay
