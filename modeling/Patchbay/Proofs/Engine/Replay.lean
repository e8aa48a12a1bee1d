-- Someone who has the records of the moment when the fabric is loaded, and from
-- then on does as the events say, always has the records of the engine. No
-- event is missing, none comes twice, and each one fits what is there.
import Patchbay.Proofs.Engine.History
import Patchbay.Proofs.Store

namespace Patchbay

/-! ## What an event means to a replica -/

/-- The replica after an event. -/
def Event.replay (m : Replica) : Event → Replica
  | ready | alarm _ => m
  | added r => m.put r
  | deleted r => m.erase r.address
  | changed _ new => m.put new

/-- The events that a frame must cause when it is taken, where `m` has the records before
it. An update is no event when it changes nothing. -/
def Frame.Tells (f : Frame) (m : Replica) (evs : List Event) : Prop :=
  match f.type with
  | .resource k .add => ∃ r, f.decode k = .ok r ∧ evs = [.added r]
  | .resource k .delete =>
    ∃ r, f.decodeAddress k = .ok r.address ∧ m r.address = some r ∧ evs = [.deleted r]
  | .resource k .update =>
    ∃ old new, f.decode k = .ok new ∧ m new.address = some old ∧
      evs = if new = old then [] else [.changed old new]
  | .alarm _ => ∃ a, f.decodeAlarm = .ok a ∧ evs = [.alarm a]
  | _ => evs = []

/-- A turn tells of a frame all that there is to tell, and nothing else, to someone with
replica `m`. -/
structure Turn.Reports (t : Turn) (f : Frame) (m : Replica) : Prop where
  at_most_one : t.events.length ≤ 1
  deleted_held : ∀ r, .deleted r ∈ t.events → m r.address = some r
  changed_held : ∀ old new, .changed old new ∈ t.events → m new.address = some old
  changed_same : ∀ old new, .changed old new ∈ t.events →
    old.kind = new.kind ∧ old.address = new.address ∧ new.kind ≠ .node
  changed_differs : ∀ old new, .changed old new ∈ t.events → old ≠ new
  failed : ∀ err, t.result = .error err → t.events = []
  taken : t.result = .ok () → f.Tells m t.events

namespace Frame.Tells

variable {f : Frame} {m : Replica} {evs : List Event}

/-- There is one event at most, and each kind of event comes from its own type of frame. -/
theorem shape (h : f.Tells m evs) : evs = [] ∨
    (∃ r, evs = [.added r]) ∨
    (∃ r, m r.address = some r ∧ evs = [.deleted r]) ∨
    (∃ k old new, f.type = .resource k .update ∧ f.decode k = .ok new ∧
      m new.address = some old ∧ old ≠ new ∧ evs = [.changed old new]) ∨
    (∃ a, evs = [.alarm a]) := by
  unfold Tells at h
  split at h
  · obtain ⟨r, -, h⟩ := h
    exact .inr (.inl ⟨r, h⟩)
  · obtain ⟨r, -, hm, h⟩ := h
    exact .inr (.inr (.inl ⟨r, hm, h⟩))
  · next k ht =>
    obtain ⟨old, new, hd, hm, h⟩ := h
    split at h
    · exact .inl h
    · next hne => exact .inr (.inr (.inr (.inl ⟨k, old, new, ht, hd, hm, Ne.symm hne, h⟩)))
  · obtain ⟨a, -, h⟩ := h
    exact .inr (.inr (.inr (.inr ⟨a, h⟩)))
  · exact .inl h

theorem length_le_one (h : f.Tells m evs) : evs.length ≤ 1 := by
  rcases h.shape with rfl | ⟨r, rfl⟩ | ⟨r, -, rfl⟩ | ⟨k, old, new, -, -, -, -, rfl⟩ | ⟨a, rfl⟩
  all_goals simp

theorem of_mem_deleted {r : Resource} (h : f.Tells m evs) (hr : .deleted r ∈ evs) :
    m r.address = some r := by
  rcases h.shape with rfl | ⟨r', rfl⟩ | ⟨r', hm, rfl⟩ | ⟨k, old, new, -, -, -, -, rfl⟩ | ⟨a, rfl⟩
  · simp at hr
  · simp at hr
  · simp only [List.mem_singleton, Event.deleted.injEq] at hr
    exact hr ▸ hm
  · simp at hr
  · simp at hr

theorem of_mem_changed {old new : Resource} (h : f.Tells m evs) (hc : .changed old new ∈ evs) :
    m new.address = some old ∧ old ≠ new ∧ new.kind ≠ .node := by
  rcases h.shape with rfl | ⟨r, rfl⟩ | ⟨r, -, rfl⟩ | ⟨k, old', new', ht, hd, hm, hne, rfl⟩ |
    ⟨a, rfl⟩
  · simp at hc
  · simp at hc
  · simp at hc
  · simp only [List.mem_singleton, Event.changed.injEq] at hc
    obtain ⟨rfl, rfl⟩ := hc
    refine ⟨hm, hne, ?_⟩
    rintro hnode
    rw [kind_of_decode hd] at hnode
    exact FrameType.ofToken_ne_node_update f.token (hnode ▸ ht)
  · simp at hc

end Frame.Tells

/-! ## One frame -/

namespace Engine

variable {e : Engine}

/-- A loaded engine tells of an update when it changes something. -/
theorem updated_events (hr : e.isReady = true) (hc : e.handlers.Complete) (next : Engine)
    (old new : Resource) (s : Store) (n : Note) :
    (next.stay (if !e.isReady then [] else if new ≠ old then e.deliver s (.changed old new)
      else [.noted n])).events = if new = old then [] else [.changed old new] := by
  rw [hr, Bool.not_true, if_neg Bool.false_ne_true]
  by_cases h : new = old
  · rw [if_neg (not_not.2 h), if_pos h]
    rfl
  · rw [if_pos h, if_neg h, stay_deliver_events hc]

/-- A loaded engine tells what the frame must cause. -/
theorem tells_dispatch (hr : e.isReady = true) (hc : e.handlers.Complete) (f : Frame) :
    (e.dispatch f).result = .ok () → f.Tells e.store.get? (e.dispatch f).events := by
  refine dispatch_induction e f fun t ht => ?_
  intro hok
  unfold Frame.Tells
  cases ht with
  | failed => cases hok
  | remarked h => cases h <;> simp only [*] <;> rfl
  | added _ ht hd =>
    simp only [ht, hr, if_true, stay_deliver_events hc]
    exact ⟨_, hd, rfl⟩
  | deleted _ ht hd hm =>
    have ha := Store.address_of_get? hm
    simp only [ht, hr, if_true, stay_deliver_events hc]
    exact ⟨_, ha ▸ hd, ha ▸ hm, rfl⟩
  | updated _ ht hd hm =>
    simp only [ht]
    exact ⟨_, _, hd, hm, updated_events hr hc ..⟩
  | alarm _ ht hd =>
    simp only [ht, hr, if_true, stay_deliver_events hc]
    exact ⟨_, hd, rfl⟩
  | next ht => simp only [ht]; rfl
  | loaded ht hs hl =>
    have hacks : Topic.all.length ≤ e.subscription.acks := Subscription.isLoaded_iff.1 hr
    omega

theorem events_of_error (e : Engine) (f : Frame) {err : ClientError}
    (h : (e.dispatch f).result = .error err) : (e.dispatch f).events = [] := by
  revert h
  refine dispatch_induction e f fun t ht => ?_
  intro h
  cases ht with
  | failed => rfl
  | next => rfl
  | _ => cases h

theorem reports_dispatch (hr : e.isReady = true) (hc : e.handlers.Complete) (f : Frame) :
    (e.dispatch f).Reports f e.store.get? := by
  have hfailed := fun err (h : (e.dispatch f).result = .error err) => events_of_error e f h
  have htaken := tells_dispatch hr hc f
  cases hres : (e.dispatch f).result with
  | error err =>
    have hnone := hfailed err hres
    refine ⟨?_, ?_, ?_, ?_, ?_, hfailed, htaken⟩ <;> simp [hnone]
  | ok _ =>
    have htells := htaken hres
    refine ⟨htells.length_le_one, fun r h => htells.of_mem_deleted h, ?_, ?_, ?_, hfailed, htaken⟩
    · intro old new h
      exact (htells.of_mem_changed h).1
    · intro old new h
      obtain ⟨hm, -, hnode⟩ := htells.of_mem_changed h
      have ha : old.address = new.address := Store.address_of_get? hm
      exact ⟨congrArg Address.kind ha, ha, hnode⟩
    · intro old new h
      exact (htells.of_mem_changed h).2.1

/-- The records that an engine is left with are those that its events tell of. -/
theorem replay_dispatch (hr : e.isReady = true) (hc : e.handlers.Complete) (f : Frame) :
    (e.dispatch f).engine.store.get? = (e.dispatch f).events.foldl Event.replay e.store.get? := by
  refine dispatch_induction e f fun t ht => ?_
  cases ht with
  | failed => rfl
  | remarked => rfl
  | added =>
    simp only [hr, if_true, stay_deliver_events hc]
    exact Store.get?_put_eq ..
  | deleted _ _ _ hm =>
    simp only [hr, if_true, stay_deliver_events hc]
    rw [← Store.address_of_get? hm]
    exact Store.get?_erase_eq ..
  | @updated _ r old _ _ _ hm =>
    rw [updated_events hr hc]
    refine (Store.get?_put_eq ..).trans ?_
    split
    · next heq => exact Replica.put_eq_self (heq ▸ hm)
    · rfl
  | alarm =>
    simp only [hr, if_true, stay_deliver_events hc]
    rfl
  | next => rfl
  | loaded =>
    simp only [stay_noted_events, stay_deliver_events hc]
    rfl

/-! ## A run -/

/-- A handler hears of ready when the fabric is loaded, and sees the records of that
moment. -/
theorem loaded_of_delivery {f : Frame} {d : Delivery} (h : d ∈ (e.dispatch f).deliveries)
    (hd : d.event = .ready) :
    (e.dispatch f).engine.isReady = true ∧ (e.dispatch f).engine.store = d.store := by
  revert h
  refine dispatch_induction e f fun t ht => ?_
  intro h
  cases ht with
  | failed => cases h
  | remarked => cases h
  | added => cases hd.symm.trans (of_mem_ite rfl h).1
  | deleted => cases hd.symm.trans (of_mem_ite rfl h).1
  | updated =>
    unfold Turn.deliveries at h
    simp only [stay] at h
    split at h
    · cases h
    · cases hd.symm.trans (of_mem_ite rfl h).1
  | alarm => cases hd.symm.trans (of_mem_ite rfl h).1
  | next => cases h
  | loaded ht hs hl =>
    obtain ⟨-, hstore⟩ := of_mem_deliver h
    have hready : Subscription.isLoaded ⟨true, e.subscription.acks + 1⟩ = true :=
      Subscription.isLoaded_iff.2 (Nat.le_of_eq hl.symm)
    exact ⟨hready, hstore.symm⟩

/-- What a loaded engine with all its handlers does, a listener's replica does too. -/
theorem replay_after (hr : e.isReady = true) (hc : e.handlers.Complete) {as : List Action}
    (hstart : ∀ a ∈ as, a ≠ .start) :
    (e.after as).store.get? = (e.events as).foldl Event.replay e.store.get? := by
  induction as generalizing e with
  | nil => rfl
  | cons a as ih =>
    have ha : a ≠ .start := hstart a List.mem_cons_self
    have hone : (e.act a).engine.store.get? =
        (e.act a).events.foldl Event.replay e.store.get? := by
      cases a with
      | start => exact absurd rfl ha
      | dispatch f => exact replay_dispatch hr hc f
      | setHandler => rfl
      | disconnect => rfl
    rw [after_cons, events_cons, List.foldl_append, ← hone]
    exact ih (act_isReady hr ha) (act_complete hc a)
      fun b hb => hstart b (List.mem_cons_of_mem _ hb)

theorem loaded_after (hr : e.isReady = true) (hc : e.handlers.Complete) {as : List Action}
    (hstart : ∀ a ∈ as, a ≠ .start) :
    (e.after as).isReady = true ∧ (e.after as).handlers.Complete := by
  refine after_induction (P := fun e => e.isReady = true ∧ e.handlers.Complete) ?_ ⟨hr, hc⟩
  intro e he a ha
  exact ⟨act_isReady he.1 (hstart a ha), act_complete he.2 a⟩

/-- Whoever has the records that the ready handler saw, and does as the events say, has the
records of the engine after each action. Each frame is told of once at most, and just as
it must be. -/
theorem the_events_since_ready_tell_the_records {hs : Handlers} (hall : hs.Complete)
    (before : List Action) (f₀ : Frame) (d : Delivery)
    (hd : d ∈ (((new hs).after before).dispatch f₀).deliveries) (hready : d.event = .ready)
    (as : List Action) (hstart : ∀ a ∈ as, a ≠ .start) :
    let e := (new hs).after (before ++ [.dispatch f₀])
    (∀ pre f post, as = pre ++ .dispatch f :: post →
      ((e.after pre).dispatch f).Reports f ((e.events pre).foldl Event.replay d.store.get?)) ∧
    (e.after as).store.get? = (e.events as).foldl Event.replay d.store.get? := by
  intro e
  have heq : e = (((new hs).after before).dispatch f₀).engine := by
    simp only [e, after_append, after_cons, after_nil, act]
  obtain ⟨hr, hstore⟩ := loaded_of_delivery hd hready
  rw [← heq] at hr hstore
  have hc : e.handlers.Complete :=
    after_induction (P := fun e => e.handlers.Complete) (fun e he a _ => act_complete he a) hall
  rw [← hstore]
  refine ⟨?_, replay_after hr hc hstart⟩
  intro pre f post has
  have hpre : ∀ a ∈ pre, a ≠ .start := fun a ha => hstart a (has ▸ List.mem_append_left _ ha)
  obtain ⟨hr', hc'⟩ := loaded_after hr hc hpre
  rw [← replay_after hr hc hpre]
  exact reports_dispatch hr' hc' f

/-- A node comes and goes while nobody takes commands any more. -/
theorem the_events_since_ready_tell_of_a_node :
    let hs : Handlers := fun _ => some (.silent none)
    let before := Action.start :: List.replicate 6 (.dispatch ⟨["ok"]⟩)
    let d : Delivery := ⟨none, .ready, .empty, []⟩
    let as := [Action.dispatch ⟨["NODEADD", "a", "b", "c", "1", "2", "3", "4"]⟩, .disconnect,
      .dispatch ⟨["NODEDEL", "a"]⟩]
    let e := (new hs).after (before ++ [.dispatch ⟨["ok"]⟩])
    d ∈ (((new hs).after before).dispatch ⟨["ok"]⟩).deliveries ∧ d.event = .ready ∧
    (∀ a ∈ as, a ≠ .start) ∧
    (∀ pre f post, as = pre ++ .dispatch f :: post →
      ((e.after pre).dispatch f).Reports f ((e.events pre).foldl Event.replay d.store.get?)) ∧
    (e.after as).store.get? = (e.events as).foldl Event.replay d.store.get? := by
  intro hs before d as e
  have hall : hs.Complete := fun _ => Option.some_ne_none _
  have hd : d ∈ (((new hs).after before).dispatch ⟨["ok"]⟩).deliveries := by decide
  have hstart : ∀ a ∈ as, a ≠ .start := by simp [as]
  exact ⟨hd, rfl, hstart,
    the_events_since_ready_tell_the_records hall before ⟨["ok"]⟩ d hd rfl as hstart⟩

end Engine

end Patchbay
