-- Handlers hear nothing while the fabric is loading. With the last
-- acknowledgment they hear that it is loaded, and they hear it once.
import Patchbay.Proofs.Engine.Admission
import Patchbay.Proofs.Engine.Replay

namespace Patchbay

namespace Engine

variable {e : Engine} {n : Nat}

/-! ## One action -/

/-- While the fabric is loading there is nothing to tell but that it is loaded, and this is
told when it becomes so. -/
theorem events_of_loading (hr : e.isReady = false) (hc : e.handlers.Complete) (f : Frame) :
    (e.dispatch f).events = if (e.dispatch f).engine.isReady then [.ready] else [] := by
  have hstill : ∀ {x : Engine}, x.subscription = e.subscription → ¬ x.isReady = true := by
    intro x hx
    rw [isReady, hx]
    exact Bool.eq_false_iff.1 hr
  refine dispatch_induction e f fun t ht => ?_
  cases ht with
  | failed => exact (if_neg (hstill rfl)).symm
  | remarked => exact (if_neg (hstill rfl)).symm
  | next _ _ hn =>
    -- The topic that is asked for now is still to be acknowledged.
    have hlt := (List.getElem?_eq_some_iff.1 hn).1
    refine (if_neg fun hnext => ?_).symm
    exact absurd (Subscription.isLoaded_iff.1 hnext) (by simpa [subscribe] using hlt)
  | loaded _ _ hl =>
    rw [stay_noted_events, stay_deliver_events hc, if_pos]
    exact Subscription.isLoaded_iff.2 (Nat.le_of_eq hl.symm)
  | _ =>
    simp only [hr]
    exact (if_neg (hstill rfl)).symm

/-- When the fabric is loaded, this is not told again. -/
theorem ready_not_mem_events (hr : e.isReady = true) (hc : e.handlers.Complete) (f : Frame) :
    .ready ∉ (e.dispatch f).events := by
  cases hres : (e.dispatch f).result with
  | error err => simp [events_of_error e f hres]
  | ok _ =>
    have htells := tells_dispatch hr hc f hres
    rcases htells.shape with h | ⟨r, h⟩ | ⟨r, -, h⟩ | ⟨k, old, new, -, -, -, -, h⟩ | ⟨a, h⟩
    all_goals simp [h]

/-- While some acknowledgments are missing, a frame tells nothing, unless it is the last of
them. -/
theorem events_dispatch_of_loading (h : e.subscription = .acked n) (hn : n < Topic.all.length)
    (hc : e.handlers.Complete) (f : Frame) :
    (e.dispatch f).events =
      if Topic.all.length ≤ n + (if f.token = "ok" then 1 else 0) then [.ready] else [] := by
  have hr : e.isReady = false := by
    rw [isReady, h, Bool.eq_false_iff, ne_eq, Subscription.isLoaded_acked]
    omega
  rw [events_of_loading hr hc]
  simp only [isReady, acked_dispatch h, Subscription.isLoaded_acked]

theorem events_act_of_loading (h : e.subscription = .acked n) (hn : n < Topic.all.length)
    (hc : e.handlers.Complete) {a : Action} (ha : a ≠ .start) :
    (e.act a).events =
      if Topic.all.length ≤ n + (if a.isAck then 1 else 0) then [.ready] else [] := by
  cases a with
  | start => exact absurd rfl ha
  | dispatch f =>
    simp only [act, Action.isAck, decide_eq_true_eq]
    exact events_dispatch_of_loading h hn hc f
  | setHandler => exact (if_neg (Nat.not_le.2 hn)).symm
  | disconnect => exact (if_neg (Nat.not_le.2 hn)).symm

theorem ready_not_mem_events_act (h : e.subscription = .acked n) (hn : Topic.all.length ≤ n)
    (hc : e.handlers.Complete) (a : Action) : .ready ∉ (e.act a).events := by
  cases a with
  | dispatch f =>
    have hr : e.isReady = true := by
      rw [isReady, h, Subscription.isLoaded_acked]
      exact hn
    exact ready_not_mem_events hr hc f
  | _ => exact List.not_mem_nil

theorem count_ready_events_act (h : e.subscription = .acked n) (hc : e.handlers.Complete)
    {a : Action} (ha : a ≠ .start) :
    (e.act a).events.count .ready = if n < Topic.all.length ∧
      Topic.all.length ≤ n + (if a.isAck then 1 else 0) then 1 else 0 := by
  rcases Nat.lt_or_ge n Topic.all.length with hn | hn
  · rw [events_act_of_loading h hn hc ha, apply_ite (List.count Event.ready)]
    simp only [hn, true_and]
    rfl
  · rw [if_neg (by omega)]
    exact List.count_eq_zero.2 (ready_not_mem_events_act h hn hc a)

/-! ## A run -/

theorem events_of_not_started (hs : e.subscription.started = false) {as : List Action}
    (hstart : .start ∉ as) : e.events as = [] := by
  induction as generalizing e with
  | nil => rfl
  | cons a as ih =>
    obtain ⟨ha, has⟩ := List.ne_and_not_mem_of_not_mem_cons hstart
    rw [events_cons, List.append_eq_nil_iff]
    cases a with
    | start => exact absurd rfl ha
    | dispatch f =>
      obtain ⟨hsame, hnone⟩ := dispatch_of_not_started hs f
      simp only [act, hsame]
      exact ⟨hnone, ih hs has⟩
    | setHandler => exact ⟨rfl, ih hs has⟩
    | disconnect => exact ⟨rfl, ih hs has⟩

theorem events_of_loading_after (h : e.subscription = .acked n) (hc : e.handlers.Complete)
    {as : List Action} (hstart : .start ∉ as) (hn : n + acks as < Topic.all.length) :
    e.events as = [] := by
  induction as generalizing e n with
  | nil => rfl
  | cons a as ih =>
    obtain ⟨ha, has⟩ := List.ne_and_not_mem_of_not_mem_cons hstart
    rw [acks_cons] at hn
    rw [events_cons, events_act_of_loading h (by omega) hc (Ne.symm ha), if_neg (by omega)]
    exact ih (subscription_act h (Ne.symm ha)) (act_complete hc a) has (by omega)

theorem count_ready_events (h : e.subscription = .acked n) (hc : e.handlers.Complete)
    {as : List Action} (hstart : .start ∉ as) :
    (e.events as).count .ready = if n < Topic.all.length ∧
      Topic.all.length ≤ n + acks as then 1 else 0 := by
  induction as generalizing e n with
  | nil =>
    rw [if_neg (by simp only [acks, List.countP_nil]; omega)]
    rfl
  | cons a as ih =>
    obtain ⟨ha, has⟩ := List.ne_and_not_mem_of_not_mem_cons hstart
    rw [events_cons, List.count_append, count_ready_events_act h hc (Ne.symm ha),
      ih (subscription_act h (Ne.symm ha)) (act_complete hc a) has, acks_cons]
    -- The seventh is either the one that this action takes or a later one, never both.
    generalize (if a.isAck then 1 else 0) = b
    grind

/-- Before the first start nothing is told. From one start to the next, nothing is told
before the seventh acknowledgment, which alone tells that the fabric is loaded, whatever
came of the other frames and whether or not commands can be queued. -/
theorem the_seventh_acknowledgment_alone_tells_ready {hs : Handlers} (hall : hs.Complete)
    (before as : List Action) (hstart : .start ∉ as) :
    let e := ((new hs).after before).start.engine
    (new hs).events as = [] ∧
    ((new hs).after before).start.events = [] ∧
    (acks as < 7 → e.events as = []) ∧
    (e.events as).count .ready = (if acks as < 7 then 0 else 1) ∧
    ∀ f, if f.token = "ok" ∧ acks as = 6 then ((e.after as).dispatch f).events = [.ready]
      else .ready ∉ ((e.after as).dispatch f).events := by
  intro e
  have hlen : Topic.all.length = 7 := rfl
  have hbegun : e.subscription = .acked 0 := rfl
  have hc : e.handlers.Complete :=
    after_induction (P := fun e => e.handlers.Complete) (fun e he a _ => act_complete he a) hall
  have hc' : (e.after as).handlers.Complete :=
    after_induction (P := fun e => e.handlers.Complete) (fun e he a _ => act_complete he a) hc
  have hsub := subscription_after hbegun hstart
  rw [Nat.zero_add] at hsub
  refine ⟨events_of_not_started rfl hstart, rfl, fun hfew => ?_, ?_, fun f => ?_⟩
  · refine events_of_loading_after hbegun hc hstart ?_
    rwa [Nat.zero_add]
  · rw [count_ready_events hbegun hc hstart, Nat.zero_add, hlen]
    grind
  · rcases Nat.lt_or_ge (acks as) 7 with hfew | hmany
    · rw [events_dispatch_of_loading hsub hfew hc', hlen]
      by_cases hlast : f.token = "ok" ∧ acks as = 6
      · rw [if_pos hlast, if_pos hlast.1, hlast.2]
        rfl
      · have hmissing : ¬ 7 ≤ acks as + if f.token = "ok" then 1 else 0 := by grind
        rw [if_neg hlast, if_neg hmissing]
        exact List.not_mem_nil
    · rw [if_neg (by omega)]
      exact ready_not_mem_events_act hsub hmany hc' (.dispatch f)

/-- Nobody takes commands any more after the second start, so that six acknowledgments fail.
The seventh one tells that the fabric is loaded. -/
theorem ready_is_told_while_nobody_takes_commands :
    let hs : Handlers := fun _ => some (.silent none)
    let ok : Action := .dispatch ⟨["ok"]⟩
    let before := [ok, .start, ok]
    let as := [.disconnect, ok, .dispatch ⟨["NODEADD", "a", "b", "c", "1", "2", "3", "4"]⟩, ok,
      ok, ok, .dispatch ⟨["error"]⟩, ok, ok]
    let e := ((new hs).after before).start.engine
    .start ∉ as ∧ acks as = 6 ∧ e.events as = [] ∧
    ((e.after as).dispatch ⟨["ok", "again"]⟩).events = [.ready] := by
  intro hs ok before as e
  have hall : hs.Complete := fun _ => Option.some_ne_none _
  have hstart : .start ∉ as := by simp [as, ok]
  have hacks : acks as = 6 := by decide
  obtain ⟨-, -, hquiet, -, hlast⟩ :=
    the_seventh_acknowledgment_alone_tells_ready hall before as hstart
  have hf := hlast ⟨["ok", "again"]⟩
  rw [if_pos ⟨rfl, hacks⟩] at hf
  exact ⟨hstart, hacks, hquiet (by omega), hf⟩

end Engine

end Patchbay
