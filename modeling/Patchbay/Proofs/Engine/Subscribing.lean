-- How far the subscriptions have come follows from the acknowledgments alone,
-- and what the engine has asked for follows from that: one topic at a time, in
-- order, each of them once.
import Mathlib.Data.List.Flatten
import Patchbay.Proofs.Engine.History

namespace Patchbay

/-! ## What has been sent -/

/-- The commands that ask for each topic, in order. -/
def Topic.requests : List Command := all.map .subscribe

namespace Subscription

/-- The commands that a session has sent when it has come so far. -/
def sent (s : Subscription) : List Command :=
  if s.started then Topic.requests.take (s.acks + 1) else []

/-- One more acknowledgment, and one more command is sent, if there is one left. -/
theorem sent_succ (n : Nat) :
    sent ⟨true, n + 1⟩ = sent ⟨true, n⟩ ++ Topic.requests[n + 1]?.toList := by
  simp only [sent, if_true]
  exact List.take_add_one

theorem eq_of_started {s : Subscription} (h : s.started = true) : s = ⟨true, s.acks⟩ := by
  rw [← h]

/-- A session that has taken so many acknowledgments since it began. -/
def acked (n : Nat) : Subscription := ⟨true, min n Topic.all.length⟩

theorem isLoaded_acked (n : Nat) : (acked n).isLoaded = true ↔ Topic.all.length ≤ n := by
  rw [isLoaded_iff]
  simp only [acked]
  omega

/-- Each acknowledgment lets one more topic be asked for, while there is one. -/
theorem sent_acked (n : Nat) : (acked n).sent = Topic.requests.take (n + 1) := by
  have hlen : Topic.requests.length = Topic.all.length := rfl
  simp only [acked, sent, if_true]
  rcases Nat.lt_or_ge n Topic.all.length with h | h
  · rw [Nat.min_eq_left (by omega)]
  · rw [List.take_of_length_le (by omega), List.take_of_length_le (by omega)]

end Subscription

namespace Engine

variable {e : Engine} {f : Frame}

/-! ## One frame -/

theorem subscription_acknowledge (e : Engine) :
    e.acknowledge.engine.subscription =
      if e.subscription.started = true ∧ e.isReady = false
      then ⟨true, e.subscription.acks + 1⟩ else e.subscription := by
  unfold acknowledge Subscription.acknowledge isReady
  cases hs : e.subscription.started with
  | false => simp [fail]
  | true =>
    cases hl : e.subscription.isLoaded with
    | true => simp [stay]
    | false =>
      cases hn : Topic.all[e.subscription.acks + 1]? <;> simp [hn, subscribe, stay]

/-- Only an acknowledgment moves the subscriptions on, and only while some are missing. -/
theorem subscription_dispatch (e : Engine) (f : Frame) :
    (e.dispatch f).engine.subscription =
      if f.token = "ok" ∧ e.subscription.started = true ∧ e.isReady = false
      then ⟨true, e.subscription.acks + 1⟩ else e.subscription := by
  by_cases hack : f.token = "ok"
  · have hd : e.dispatch f = e.acknowledge := by
      unfold dispatch
      rw [Frame.type_eq_ack_iff.2 hack]
      rfl
    rw [hd, subscription_acknowledge]
    simp only [hack, true_and]
  · rw [if_neg fun h => hack h.1]
    refine dispatch_induction e f fun t ht => ?_
    cases ht with
    | next ht => exact absurd (Frame.type_eq_ack_iff.1 ht) hack
    | loaded ht => exact absurd (Frame.type_eq_ack_iff.1 ht) hack
    | _ => rfl

/-- Each acknowledgment counts, until none is missing. -/
theorem acked_dispatch {n : Nat} (h : e.subscription = .acked n) (f : Frame) :
    (e.dispatch f).engine.subscription = .acked (n + if f.token = "ok" then 1 else 0) := by
  have hready : e.isReady = true ↔ Topic.all.length ≤ n := by
    rw [isReady, h, Subscription.isLoaded_acked]
  simp only [subscription_dispatch, h, Bool.eq_false_iff, ne_eq, hready]
  unfold Subscription.acked
  by_cases hack : f.token = "ok"
  · by_cases hn : Topic.all.length ≤ n
    · simp [hack, hn]
      omega
    · simp [hack, hn]
      omega
  · simp [hack]

theorem deliver_ownCommands (e : Engine) (s : Store) (ev : Event) :
    (e.deliver s ev).flatMap Effect.ownCommands = [] := by
  unfold deliver Handlers.deliver
  split <;> rfl

/-- A frame adds to what has been sent just what it makes the engine queue. -/
theorem sent_dispatch (ho : e.isOpen = true) (f : Frame) :
    (e.dispatch f).engine.subscription.sent =
      e.subscription.sent ++ (e.dispatch f).ownCommands := by
  refine dispatch_induction e f fun t ht => ?_
  unfold Turn.ownCommands
  cases ht with
  | failed => exact (List.append_nil _).symm
  | remarked => exact (List.append_nil _).symm
  | added =>
    simp only [stay]
    split <;> simp [deliver_ownCommands, Effect.ownCommands]
  | deleted =>
    simp only [stay]
    split <;> simp [deliver_ownCommands]
  | updated =>
    simp only [stay]
    split
    · simp
    · split <;> simp [deliver_ownCommands, Effect.ownCommands]
  | alarm =>
    simp only [stay]
    split <;> simp [deliver_ownCommands]
  | next _ hs hn =>
    -- The topic that is asked for now is the one behind those asked for so far.
    simp only [subscribe, ho]
    rw [Subscription.sent_succ, ← Subscription.eq_of_started hs, Topic.requests,
      List.getElem?_map, hn]
    rfl
  | loaded _ hs hl =>
    simp only [stay, List.flatMap_cons, deliver_ownCommands]
    rw [Subscription.sent_succ, ← Subscription.eq_of_started hs, hl]
    rfl

/-! ## A run -/

/-- An action that takes an acknowledgment, whatever comes of it. -/
def Action.isAck : Action → Bool
  | .dispatch f => f.token = "ok"
  | _ => false

/-- How many acknowledgments are taken in the course of actions. -/
def acks (as : List Action) : Nat := as.countP Action.isAck

theorem acks_cons (a : Action) (as : List Action) :
    acks (a :: as) = acks as + if a.isAck then 1 else 0 := List.countP_cons

theorem subscription_act {n : Nat} (h : e.subscription = .acked n) {a : Action}
    (ha : a ≠ .start) :
    (e.act a).engine.subscription = .acked (n + if a.isAck then 1 else 0) := by
  cases a with
  | start => exact absurd rfl ha
  | dispatch f =>
    simp only [act, Action.isAck, decide_eq_true_eq]
    exact acked_dispatch h f
  | setHandler => exact h
  | disconnect => exact h

/-- As long as the session does not begin again, all acknowledgments count. -/
theorem subscription_after {n : Nat} (h : e.subscription = .acked n) {as : List Action}
    (hstart : .start ∉ as) : (e.after as).subscription = .acked (n + acks as) := by
  induction as generalizing e n with
  | nil => exact h
  | cons a as ih =>
    obtain ⟨ha, has⟩ := List.ne_and_not_mem_of_not_mem_cons hstart
    rw [after_cons, ih (subscription_act h (Ne.symm ha)) has, acks_cons]
    congr 1
    omega

/-- The engine queues the next request when it takes an acknowledgment, and nothing when it
takes another frame. -/
theorem ownCommands_dispatch {n : Nat} (h : e.subscription = .acked n) (ho : e.isOpen = true)
    (f : Frame) : (e.dispatch f).ownCommands =
      if f.token = "ok" then Topic.requests[n + 1]?.toList else [] := by
  have hsent := sent_dispatch ho f
  rw [acked_dispatch h, h, Subscription.sent_acked, Subscription.sent_acked] at hsent
  split at hsent
  · next hack =>
    rw [List.take_add_one] at hsent
    rw [if_pos hack]
    exact (List.append_cancel_left hsent).symm
  · next hack =>
    rw [if_neg hack]
    exact List.self_eq_append_right.1 hsent

/-- Frames, one after the other. -/
def frames (fs : List Frame) : List Action := fs.map .dispatch

theorem start_not_mem_frames (fs : List Frame) : .start ∉ frames fs := by
  simp [frames]

theorem acks_frames (fs : List Frame) : acks (frames fs) = fs.countP (·.token = "ok") :=
  List.countP_map

/-- What each frame keeps, frames keep one after the other. -/
theorem after_frames_induction {P : Engine → Prop}
    (hstep : ∀ e, P e → ∀ f, P (e.dispatch f).engine) (h : P e) (fs : List Frame) :
    P (e.after (frames fs)) := by
  refine after_induction (fun e he a ha => ?_) h
  obtain ⟨f, -, rfl⟩ := List.mem_map.1 ha
  exact hstep e he f

theorem isOpen_after (ho : e.isOpen = true) (fs : List Frame) :
    (e.after (frames fs)).isOpen = true :=
  after_frames_induction (P := fun e => e.isOpen = true)
    (fun e he f => (dispatch_isOpen e f).trans he) ho fs

/-- What has been sent before frames and what they make the engine queue is what has been
sent after them. -/
theorem sent_after (ho : e.isOpen = true) (fs : List Frame) :
    (e.after (frames fs)).subscription.sent =
      e.subscription.sent ++ e.ownCommands (frames fs) := by
  induction fs generalizing e with
  | nil => exact (List.append_nil _).symm
  | cons f fs ih =>
    have hnext := ih (e := (e.dispatch f).engine) ((dispatch_isOpen e f).trans ho)
    rw [sent_dispatch ho f, List.append_assoc] at hnext
    exact hnext.trans (congrArg (_ ++ ·) (ownCommands_cons e (.dispatch f) (frames fs)).symm)

/-- What the engine queues of its own accord stands among all that is queued, in that
order. -/
theorem ownCommands_sublist (e : Engine) (as : List Action) :
    (e.ownCommands as).Sublist (e.commands as) := by
  refine List.Sublist.flatMap_right _ fun t _ => ?_
  refine List.Sublist.flatMap_right _ fun x _ => ?_
  cases x with
  | issued => exact List.Sublist.refl _
  | _ => exact List.nil_sublist _

/-! ## A session -/

/-- The engine starts, and then it takes frames. -/
def session (fs : List Frame) : List Action := .start :: frames fs

theorem subscription_session (e : Engine) (fs : List Frame) :
    (e.after (session fs)).subscription = .acked (fs.countP (·.token = "ok")) := by
  have hbegun : (e.act .start).engine.subscription = .acked 0 := rfl
  rw [session, after_cons, subscription_after hbegun (start_not_mem_frames fs), acks_frames,
    Nat.zero_add]

/-- All that the engine has queued of its own accord is what the session has sent. -/
theorem ownCommands_session (ho : e.isOpen = true) (fs : List Frame) :
    e.ownCommands (session fs) = (e.after (session fs)).subscription.sent := by
  have hstart : e.start.ownCommands = e.start.engine.subscription.sent := by
    simp only [start, subscribe, ho]
    rfl
  rw [session, ownCommands_cons, after_cons]
  simp only [act]
  rw [sent_after (e := e.start.engine) ho, hstart]

/-- With its start the engine asks for the first topic, and with each acknowledgment for the
next one. Nothing else makes it ask, so that no topic is asked for twice and only one waits
to be acknowledged. -/
theorem each_acknowledgment_asks_for_the_next_topic (hs : Handlers) (fs : List Frame) :
    let e := (new hs).after (session fs)
    let asked := (new hs).ownCommands (session fs)
    let k := fs.countP (·.token = "ok")
    asked = Topic.requests.take (min (k + 1) 7) ∧
    asked.Sublist ((new hs).commands (session fs)) ∧
    asked.Nodup ∧
    asked.length ≤ e.subscription.acks + 1 ∧
    e.subscription.acks = min k 7 ∧
    ∀ f, e.subscription.acks ≤ (e.dispatch f).engine.subscription.acks ∧
      (e.dispatch f).ownCommands =
        if f.token = "ok" then Topic.requests[k + 1]?.toList else [] := by
  intro e asked k
  have hsub : e.subscription = .acked k := subscription_session (new hs) fs
  have hasked : asked = Topic.requests.take (k + 1) :=
    (ownCommands_session rfl fs).trans (hsub ▸ Subscription.sent_acked k)
  have hlen : Topic.requests.length = 7 := rfl
  have hacks : e.subscription.acks = min k 7 := congrArg Subscription.acks hsub
  refine ⟨?_, ownCommands_sublist _ _, ?_, ?_, hacks, fun f => ⟨?_, ?_⟩⟩
  · rw [hasked, List.take_eq_take_min, hlen]
  · have hnodup : Topic.requests.Nodup := by decide
    rw [hasked]
    exact hnodup.sublist (List.take_sublist _ _)
  · rw [hasked, hacks, List.length_take, hlen]
    omega
  · rw [acked_dispatch hsub, hsub]
    simp only [Subscription.acked]
    omega
  · exact ownCommands_dispatch hsub (isOpen_after (e := (new hs).start.engine) rfl fs) f

end Engine

end Patchbay
