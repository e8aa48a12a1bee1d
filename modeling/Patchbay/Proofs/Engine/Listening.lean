-- Handlers hear and change nothing. What a step does is settled without a look at them, and so
-- is the event that it tells of. Whoever was set last for the category of the event hears it
-- once, and nobody else does.
import Patchbay.Proofs.Engine.Readiness

namespace Patchbay

/-- The handler makes no call that would queue a command. -/
def Handler.Quiet (h : Handler) : Prop :=
  ∀ s ev, ∀ call ∈ h.calls s ev, (Issue.attempt true call).queued? = none

namespace Handlers

def Quiet (hs : Handlers) : Prop := ∀ c h, hs c = some h → h.Quiet

/-- Someone listens in every category, and never calls. -/
def listening : Handlers := fun _ => some (.silent .none)

/-- What is heard of an event that is told with the records as they are then. -/
def hear (hs : Handlers) (isOpen : Bool) (told : Event × Store) : List Delivery :=
  (hs told.1.category).toList.map fun h =>
    ⟨h.label, told.1, told.2, (h.calls told.2 told.1).map (Issue.attempt isOpen)⟩

variable {hs : Handlers}

theorem filterMap_deliver (hs : Handlers) (isOpen : Bool) (ev : Event) (s : Store) :
    (hs.deliver isOpen s ev).filterMap Effect.delivery? = hs.hear isOpen (ev, s) := by
  unfold deliver hear
  cases hs ev.category with
  | none => rfl
  | some h => rfl

theorem Quiet.set (hq : hs.Quiet) (c : Category) {h : Handler} (hh : h.Quiet) :
    (hs.set c h).Quiet := by
  intro c' h' hset
  unfold Handlers.set at hset
  split at hset
  · cases hset
    exact hh
  · exact hq c' h' hset

/-- Where the queue is closed no command gets into it, and where it is open no quiet handler
puts one there. -/
theorem Quiet.commands_deliver (hq : hs.Quiet) (isOpen : Bool) (s : Store) (ev : Event) :
    (hs.deliver isOpen s ev).flatMap Effect.commands = [] := by
  have hnone : ∀ call : Except ClientError Call, (Issue.attempt true call).queued? = .none →
      (Issue.attempt isOpen call).queued? = .none := by
    intro call hcall
    cases isOpen with
    | true => exact hcall
    | false =>
      unfold Issue.attempt
      split
      · rfl
      · split <;> rfl
  unfold deliver
  cases hh : hs ev.category with
  | none => rfl
  | some h =>
    simp only [List.flatMap_singleton, Effect.commands, List.filterMap_map,
      List.filterMap_eq_nil_iff, Function.comp_apply]
    intro call hcall
    exact hnone call (hq _ h hh s ev call hcall)

end Handlers

namespace Engine

variable {e : Engine} {a : Action} {as : List Action} {f : Frame}

/-! ## What is settled without handlers -/

/-- The engine with other handlers. -/
def under (e : Engine) (hs : Handlers) : Engine := { e with handlers := hs }

/-- What a step does, whoever listens. -/
structure Deed where
  store : Store
  subscription : Subscription
  isOpen : Bool
  result : Except ClientError Unit
  /-- What is noted and issued. -/
  own : List Effect
  own_silent : own.filterMap Effect.delivery? = []
  /-- The event that is told, if any, with the records as they are then. -/
  told : List (Event × Store)

namespace Deed

/-- The step when these handlers listen. -/
def turn (d : Deed) (hs : Handlers) : Turn where
  engine := ⟨d.store, d.subscription, hs, d.isOpen⟩
  result := d.result
  effects := d.own ++ d.told.flatMap fun p => hs.deliver d.isOpen p.2 p.1

variable (d : Deed) (hs : Handlers)

theorem deliveries_turn : (d.turn hs).deliveries = d.told.flatMap (hs.hear d.isOpen) := by
  unfold Turn.deliveries turn
  rw [List.filterMap_append, d.own_silent, List.nil_append, List.filterMap_flatMap]
  simp only [Handlers.filterMap_deliver]

theorem deliveries_listening :
    (d.turn .listening).deliveries.map (fun x => (x.event, x.store)) = d.told := by
  rw [deliveries_turn, List.map_flatMap]
  exact List.flatMap_singleton' d.told

theorem commands_turn {hs : Handlers} (hq : hs.Quiet) :
    (d.turn hs).commands = d.own.flatMap Effect.commands := by
  unfold Turn.commands turn
  rw [List.flatMap_append, List.flatMap_assoc]
  simp [hq.commands_deliver]

end Deed

/-- Handlers decide nothing about a step but who hears of what it tells. -/
def Blind (step : Handlers → Turn) : Prop := ∃ d : Deed, ∀ hs, step hs = d.turn hs

section

variable {step : Handlers → Turn}

/-- A step that tells of nothing. -/
theorem blind_silent (next : Engine) (result : Except ClientError Unit) (own : List Effect)
    (h : own.filterMap Effect.delivery? = [])
    (hstep : ∀ hs, step hs = ⟨next.under hs, result, own⟩) : Blind step := by
  refine ⟨⟨next.store, next.subscription, next.isOpen, result, own, h, []⟩, fun hs => ?_⟩
  rw [hstep, Deed.turn, List.flatMap_nil, List.append_nil]
  rfl

theorem blind_fail (e : Engine) (err : ClientError)
    (hstep : ∀ hs, step hs = (e.under hs).fail err) : Blind step :=
  blind_silent e (.error err) [] rfl hstep

/-- A step that tells of an event, after what it notes. -/
theorem blind_telling (next : Engine) (own : List Effect)
    (h : own.filterMap Effect.delivery? = []) (s : Store) (ev : Event)
    (hstep : ∀ hs, step hs = (next.under hs).stay (own ++ (next.under hs).deliver s ev)) :
    Blind step := by
  refine ⟨⟨next.store, next.subscription, next.isOpen, .ok (), own, h, [(ev, s)]⟩, fun hs => ?_⟩
  rw [hstep, Deed.turn, List.flatMap_singleton]
  rfl

/-- A step that tells of an event when there is something to tell, and else notes something. -/
theorem blind_ite (next : Engine) {p : Prop} [Decidable p] (s : Store) (ev : Event)
    (own : List Effect) (h : own.filterMap Effect.delivery? = [])
    (hstep : ∀ hs, step hs = (next.under hs).stay
      (if p then (next.under hs).deliver s ev else own)) : Blind step := by
  by_cases hp : p
  · exact blind_telling next [] rfl s ev fun hs => (hstep hs).trans (congrArg _ (if_pos hp))
  · exact blind_silent next (.ok ()) own h fun hs => (hstep hs).trans (congrArg _ (if_neg hp))

end

section

variable (e : Engine) (k : Kind) (f : Frame)

theorem blind_add : Blind fun hs => (e.under hs).add k f := by
  cases hd : f.decode k with
  | error err => exact blind_fail e (.wire err) fun hs => by simp only [add, hd]
  | ok r =>
    exact blind_ite { e with store := e.store.put r } (p := e.isReady = true)
      (e.store.put r) (.added r) [.noted (.loaded r.address)] rfl
      fun hs => add_of_decode (e := e.under hs) hd

theorem blind_delete : Blind fun hs => (e.under hs).delete k f := by
  cases hd : f.decodeAddress k with
  | error err => exact blind_fail e (.wire err) fun hs => by simp only [delete, hd]
  | ok a =>
    cases hr : e.store.get? a with
    | none => exact blind_fail e _ fun hs => delete_of_none (e := e.under hs) hd hr
    | some r =>
      exact blind_ite { e with store := e.store.erase a } (p := e.isReady = true)
        e.store (.deleted r) [] rfl fun hs => delete_of_get? (e := e.under hs) hd hr

theorem blind_update : Blind fun hs => (e.under hs).update k f := by
  cases hd : f.decode k with
  | error err => exact blind_fail e (.wire err) fun hs => by simp only [update, hd]
  | ok r =>
    cases hr : e.store.get? r.address with
    | none => exact blind_fail e _ fun hs => update_of_none (e := e.under hs) hd hr
    | some old =>
      have hupdate := fun hs => update_of_get? (e := e.under hs) hd hr
      let next := { e with store := e.store.put r }
      by_cases hr : (!e.isReady) = true
      · exact blind_silent next (.ok ()) [] rfl fun hs =>
          (hupdate hs).trans (congrArg _ (if_pos hr))
      · exact blind_ite next (p := r ≠ old) next.store (.changed old r)
          [.noted (.unchanged r.address)] rfl fun hs => (hupdate hs).trans (congrArg _ (if_neg hr))

theorem blind_alarm : Blind fun hs => (e.under hs).alarm f := by
  cases hd : f.decodeAlarm with
  | error err => exact blind_fail e (.wire err) fun hs => by simp only [alarm, hd]
  | ok a =>
    exact blind_ite e (p := e.isReady = true) e.store (.alarm a) [] rfl fun hs => by
      simp only [alarm, hd]
      rfl

theorem blind_reject : Blind fun hs => (e.under hs).reject f := by
  by_cases hr : e.isReady = true
  · exact blind_silent e (.ok ()) [.noted (.commandRejected f)] rfl fun hs => if_pos hr
  · exact blind_fail e (.wire (.refused e.subscription.acks)) fun hs => if_neg hr

theorem blind_acknowledge : Blind fun hs => (e.under hs).acknowledge := by
  cases hack : e.subscription.acknowledge with
  | error err =>
    exact blind_fail e (.wire err) fun hs => by simp only [acknowledge, under, hack]
  | ok p =>
    obtain ⟨s, step⟩ := p
    let next := { e with subscription := s }
    cases step with
    | next t =>
      let issue := Issue.send e.isOpen (.subscribe t)
      exact blind_silent next issue.result
        [.noted (.acknowledged s.acks (.subscribe t)), .issued issue] rfl fun hs => by
          simp only [acknowledge, under, hack]
          rfl
    | ready =>
      exact blind_telling next [.noted (.fabricLoaded e.store.stats)] rfl e.store .ready
        fun hs => by
          simp only [acknowledge, under, hack]
          rfl
    | absorbed =>
      exact blind_silent next (.ok ()) [.noted .commandAcknowledged] rfl fun hs => by
        simp only [acknowledge, under, hack]
        rfl

/-- A frame does the same whoever listens. -/
theorem blind_dispatch : Blind fun hs => (e.under hs).dispatch f := by
  cases hc : e.subscription.check f.type with
  | error err =>
    exact blind_fail e (.wire err) fun hs => dispatch_of_check_error (e := e.under hs) hc
  | ok _ =>
    have hcheck : ∀ hs, (e.under hs).subscription.check f.type = .ok () := fun _ => hc
    unfold dispatch
    simp only [hcheck]
    cases f.type with
    | resource k op =>
      cases op with
      | add => exact blind_add e k f
      | delete => exact blind_delete e k f
      | update => exact blind_update e k f
    | alarm => exact blind_alarm e f
    | ack => exact blind_acknowledge e
    | pong => exact blind_silent e (.ok ()) [.noted .pong] rfl fun _ => rfl
    | error => exact blind_reject e f
    | unknown =>
      exact blind_silent e (.ok ()) [.noted (.unknownFrame f.token)] rfl fun _ => rfl

end

/-! ## One action -/

def Action.isSetHandler : Action → Bool
  | .setHandler _ _ => true
  | _ => false

theorem blind_act (e : Engine) (ha : a.isSetHandler = false) :
    Blind fun hs => (e.under hs).act a := by
  cases a with
  | start =>
    let issue := Issue.send e.isOpen (.subscribe Subscription.first)
    exact blind_silent { e with subscription := .begun } issue.result
      [.noted (.starting (.subscribe Subscription.first)), .issued issue] rfl fun _ => rfl
  | dispatch f => exact blind_dispatch e f
  | setHandler => cases ha
  | disconnect => exact blind_silent e.disconnect (.ok ()) [] rfl fun _ => rfl

/-- The deed of an action, as it is with the handlers in place and with any others. -/
theorem exists_deed (e : Engine) (ha : a.isSetHandler = false) :
    ∃ d : Deed, e.act a = d.turn e.handlers ∧ ∀ hs, (e.under hs).act a = d.turn hs := by
  obtain ⟨d, hd⟩ := blind_act e ha
  exact ⟨d, hd e.handlers, hd⟩

/-- What comes of an action does not depend on the handlers. -/
theorem result_act_under (e : Engine) (hs : Handlers) (a : Action) :
    ((e.under hs).act a).result = (e.act a).result := by
  cases ha : a.isSetHandler with
  | true =>
    cases a with
    | setHandler => rfl
    | _ => cases ha
  | false =>
    obtain ⟨d, hsame, hd⟩ := exists_deed e ha
    rw [hd, hsame]
    rfl

/-- Nor does the engine that it leaves, apart from the handlers themselves. -/
theorem engine_act_under (e : Engine) (hs : Handlers) (ha : a.isSetHandler = false) :
    ((e.under hs).act a).engine = (e.act a).engine.under hs := by
  obtain ⟨d, hsame, hd⟩ := exists_deed e ha
  rw [hd, hsame]
  rfl

theorem commands_act_under {hs : Handlers} (he : e.handlers.Quiet) (hq : hs.Quiet)
    (ha : a.isSetHandler = false) : ((e.under hs).act a).commands = (e.act a).commands := by
  obtain ⟨d, hsame, hd⟩ := exists_deed e ha
  rw [hd, hsame, d.commands_turn hq, d.commands_turn he]

theorem quiet_act (he : e.handlers.Quiet) (ha : ∀ c h, a = .setHandler c h → h.Quiet) :
    (e.act a).engine.handlers.Quiet := by
  cases a with
  | start => exact he
  | dispatch f =>
    rw [act, dispatch_handlers]
    exact he
  | setHandler c h => exact he.set c (ha c h rfl)
  | disconnect => exact he

/-- The events that a frame causes, whether or not anyone hears of them, each with the records as
they are then: they are what someone hears who listens in every category. -/
def told (e : Engine) (f : Frame) : List (Event × Store) :=
  ((e.under .listening).dispatch f).deliveries.map fun d => (d.event, d.store)

/-- Those are the events: none when the frame fails, that the fabric is loaded when it becomes
so, and then what the frame tells. -/
def Causes (e : Engine) (f : Frame) (evs : List Event) : Prop :=
  match (e.dispatch f).result with
  | .error _ => evs = []
  | .ok () =>
    if e.isReady then f.Tells e.store.get? evs
    else evs = if (e.dispatch f).engine.isReady then [.ready] else []

theorem causes_told (e : Engine) (f : Frame) : e.Causes f ((e.told f).map Prod.fst) := by
  have hevents : (e.told f).map Prod.fst = ((e.under .listening).dispatch f).events := by
    rw [told, List.map_map]
    rfl
  have hresult : ((e.under .listening).dispatch f).result = (e.dispatch f).result :=
    result_act_under e .listening (.dispatch f)
  have hengine :
      ((e.under .listening).dispatch f).engine = (e.dispatch f).engine.under .listening :=
    engine_act_under (a := .dispatch f) e .listening rfl
  -- With a listener in each category, all that is told is heard, so the laws of events apply.
  have hall : (e.under .listening).handlers.Complete := fun _ => nofun
  rw [hevents]
  unfold Causes
  cases hres : (e.dispatch f).result with
  | error err => exact events_of_error _ f (hresult.trans hres)
  | ok _ =>
    by_cases hr : e.isReady = true
    · rw [if_pos hr]
      exact tells_dispatch (e := e.under .listening) hr hall f (hresult.trans hres)
    · have hloading : (e.under .listening).isReady = false := Bool.eq_false_iff.2 hr
      rw [if_neg hr, events_of_loading hloading hall, hengine]
      rfl

/-- The handlers in place hear of each event once, in its category. -/
theorem deliveries_dispatch (e : Engine) (f : Frame) :
    (e.dispatch f).deliveries = (e.told f).flatMap (e.handlers.hear e.isOpen) := by
  obtain ⟨d, hsame, hd⟩ := exists_deed (a := .dispatch f) e rfl
  simp only [act] at hsame hd
  have hopen : d.isOpen = e.isOpen := by
    rw [← dispatch_isOpen e f, hsame]
    rfl
  rw [told, hd, d.deliveries_listening, hsame, d.deliveries_turn, hopen]

theorem deliveries_act (ha : ∀ f, a ≠ .dispatch f) : (e.act a).deliveries = [] := by
  cases a with
  | dispatch f => exact absurd rfl (ha f)
  | _ => rfl

/-! ## A run -/

/-- The actions without those that set a handler. -/
def withoutHandlers (as : List Action) : List Action := as.filter (!·.isSetHandler)

def Action.handler? (c : Category) : Action → Option Handler
  | .setHandler c' h => if c' = c then some h else none
  | _ => none

/-- The handlers that were set last, each in its category. -/
def lastSet (as : List Action) : Handlers := fun c => (as.filterMap (Action.handler? c)).getLast?

theorem handlers_act (e : Engine) (a : Action) (c : Category) :
    (e.act a).engine.handlers c = (a.handler? c).or (e.handlers c) := by
  cases a with
  | start => rfl
  | dispatch f => exact congrFun (dispatch_handlers e f) c
  | setHandler c' h =>
    simp only [act, setHandler, stay, Handlers.set, Action.handler?, eq_comm (a := c)]
    split <;> rfl
  | disconnect => rfl

/-- In each category there is the handler that was set last, or else the one from before. -/
theorem handlers_after (e : Engine) (as : List Action) (c : Category) :
    (e.after as).handlers c = (lastSet as c).or (e.handlers c) := by
  induction as generalizing e with
  | nil => rfl
  | cons a as ih =>
    rw [after_cons, ih, handlers_act]
    unfold lastSet
    cases ha : a.handler? c with
    | none => simp [ha]
    | some h =>
      simp only [List.filterMap_cons, ha, List.getLast?_cons]
      cases (as.filterMap (Action.handler? c)).getLast? <;> rfl

/-- A run under other handlers is the run with the handlers exchanged at its end. -/
theorem after_under (e : Engine) (hs : Handlers) (as : List Action) :
    (e.after as).under hs = (e.under hs).after (withoutHandlers as) := by
  induction as generalizing e with
  | nil => rfl
  | cons a as ih =>
    rw [after_cons, ih]
    cases ha : a.isSetHandler with
    | true =>
      -- What was set is overwritten again by the other handlers.
      have hsame : (e.act a).engine.under hs = e.under hs := by
        cases a with
        | setHandler => rfl
        | _ => cases ha
      simp [withoutHandlers, ha, hsame]
    | false => simp [withoutHandlers, ha, engine_act_under e hs ha]

theorem commands_under {hs : Handlers} (he : e.handlers.Quiet) (hq : hs.Quiet)
    (has : ∀ c h, .setHandler c h ∈ as → h.Quiet) :
    e.commands as = (e.under hs).commands (withoutHandlers as) := by
  induction as generalizing e with
  | nil => rfl
  | cons a as ih =>
    have hrest : ∀ c h, .setHandler c h ∈ as → h.Quiet := fun c h hmem =>
      has c h (List.mem_cons_of_mem _ hmem)
    have hquiet := quiet_act he fun c h (ha : a = .setHandler c h) =>
      has c h (ha ▸ List.mem_cons_self)
    rw [commands_cons, ih hquiet hrest]
    cases ha : a.isSetHandler with
    | true =>
      cases a with
      | setHandler => rfl
      | _ => cases ha
    | false =>
      have hwithout : withoutHandlers (a :: as) = a :: withoutHandlers as := by
        simp [withoutHandlers, ha]
      rw [hwithout, commands_cons, commands_act_under he hq ha, engine_act_under e hs ha]

/-- However handlers are set between the other actions, these leave the same records and the same
subscriptions as without them, and each action has the same result. If no handler calls for a
command, the same commands are queued. The events that a frame causes are those that it causes
without handlers, and each one is heard once, by the handler that was set last in its category,
or by nobody if none was. Nothing but a frame is heard of. -/
theorem handlers_hear_each_event_once_and_change_nothing (as : List Action) :
    let e₀ := new Handlers.none
    let e := e₀.after as
    let bare := e₀.after (withoutHandlers as)
    (e.store = bare.store ∧ e.subscription = bare.subscription ∧ e.isOpen = bare.isOpen) ∧
    (∀ a, (e.act a).result = (bare.act a).result) ∧
    ((∀ c h, .setHandler c h ∈ as → h.Quiet) →
      e₀.commands as = e₀.commands (withoutHandlers as)) ∧
    (∀ f, bare.Causes f ((bare.told f).map Prod.fst) ∧
      e₀.deliveries (as ++ [.dispatch f]) =
        e₀.deliveries as ++ (bare.told f).flatMap ((lastSet as).hear bare.isOpen)) ∧
    ∀ a, (∀ f, a ≠ .dispatch f) → e₀.deliveries (as ++ [a]) = e₀.deliveries as := by
  intro e₀ e bare
  have hbare : bare = e.under Handlers.none := (after_under e₀ Handlers.none as).symm
  have hset : e.handlers = lastSet as := by
    funext c
    exact (handlers_after e₀ as c).trans (Option.or_none ..)
  refine ⟨?_, ?_, ?_, ?_, ?_⟩
  · rw [hbare]
    exact ⟨rfl, rfl, rfl⟩
  · intro a
    rw [hbare]
    exact (result_act_under e Handlers.none a).symm
  · intro hquiet
    have hnone : Handlers.none.Quiet := fun _ _ => nofun
    exact commands_under hnone hnone hquiet
  · intro f
    refine ⟨causes_told bare f, ?_⟩
    have hlast : e.deliveries [.dispatch f] = (e.told f).flatMap (e.handlers.hear e.isOpen) := by
      rw [deliveries_cons, act, deliveries_dispatch]
      exact List.append_nil _
    rw [deliveries_append, hlast, hset, hbare]
    rfl
  · intro a ha
    rw [deliveries_append, deliveries_cons, deliveries_act ha]
    exact List.append_nil _

/-- Two handlers are set for records that are added and one for those that go. They call for a
bit that no slot has, which queues nothing. When a node is added, the second hears of it. -/
theorem the_second_of_two_handlers_hears_of_a_node :
    let e₀ := new Handlers.none
    let h (label : String) : Handler :=
      ⟨some label, fun _ _ => [.ok (.setGpiBit ⟨"a", 0⟩ 7 true)]⟩
    let as := .start :: List.replicate 7 (.dispatch ⟨["ok"]⟩) ++
      [.setHandler .add (h "first"), .setHandler .add (h "second"), .setHandler .delete (h "third")]
    let f : Frame := ⟨["NODEADD", "a", "b", "c", "1", "2", "3", "4"]⟩
    let node : Resource := .node ⟨"a", "b", "c", 1, 2, 3, 4⟩
    (∀ c x, .setHandler c x ∈ as → x.Quiet) ∧
    e₀.commands as = e₀.commands (withoutHandlers as) ∧
    ((e₀.after as).act (.dispatch f)).result =
      ((e₀.after (withoutHandlers as)).act (.dispatch f)).result ∧
    e₀.deliveries (as ++ [.dispatch f]) =
      [⟨some "second", .added node, Store.empty.put node, [.refused (.badBit 7)]⟩] := by
  intro e₀ h as f node
  have hquiet : ∀ c x, .setHandler c x ∈ as → x.Quiet := by
    have hall : ∀ label, (h label).Quiet := by
      intro label s ev call hcall
      cases List.mem_singleton.1 hcall
      rfl
    intro c x hx
    simp only [as, List.mem_append, List.mem_cons, List.mem_replicate, Action.setHandler.injEq,
      reduceCtorEq, and_false, false_or, List.not_mem_nil, or_false] at hx
    rcases hx with ⟨-, rfl⟩ | ⟨-, rfl⟩ | ⟨-, rfl⟩ <;> exact hall _
  obtain ⟨-, hresult, hcommands, hheard, -⟩ := handlers_hear_each_event_once_and_change_nothing as
  refine ⟨hquiet, hcommands hquiet, hresult (.dispatch f), ?_⟩
  have hbefore : e₀.deliveries as = [] := by decide +kernel
  have htold : (e₀.after (withoutHandlers as)).told f = [(.added node, Store.empty.put node)] := by
    decide +kernel
  rw [(hheard f).2, hbefore, htold]
  rfl

end Engine

end Patchbay
