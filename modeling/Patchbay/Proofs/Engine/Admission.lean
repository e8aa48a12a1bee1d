-- A frame of a topic is let through when the topic has been asked for, and
-- only then. So nothing is ever kept of a kind that was not asked for.
import Patchbay.Proofs.Engine.Subscribing

namespace Patchbay

/-! ## What is let through -/

/-- The request for a topic is sent after those for the topics of a lower rank. -/
theorem Topic.mem_take_requests {t : Topic} {n : Nat} :
    Command.subscribe t ∈ requests.take n ↔ t.rank < n := by
  have hlen : requests.length = all.length := rfl
  -- The rank that the check looks at is the place in the order of the requests.
  have hrank : ∀ i (h : i < all.length), all[i].rank = i := by decide
  have hat : ∃ h : t.rank < requests.length, requests[t.rank] = .subscribe t := by
    cases t <;> exact ⟨by decide, rfl⟩
  rw [List.mem_take_iff_getElem]
  constructor
  · rintro ⟨i, hi, ht⟩
    have hi' : i < all.length := by omega
    have hsame : Command.subscribe all[i] = .subscribe t := (List.getElem_map _).symm.trans ht
    cases hsame
    rw [hrank i hi']
    omega
  · intro h
    obtain ⟨hlt, ht⟩ := hat
    exact ⟨t.rank, by omega, ht⟩

namespace Subscription

theorem check_eq_ok_iff {s : Subscription} {type : FrameType} {t : Topic}
    (h : type.topic? = some t) : s.check type = .ok () ↔ .subscribe t ∈ s.sent := by
  unfold check sent
  rw [h]
  cases hs : s.started with
  | false => simp
  | true =>
    simp only [true_and, if_true, Topic.mem_take_requests, Nat.lt_succ_iff]
    split <;> simp [*]

/-- Before a session begins, the frames of every topic are refused. -/
theorem check_of_not_started {s : Subscription} (hs : s.started = false) {type : FrameType}
    {t : Topic} (h : type.topic? = some t) : s.check type = .error (.unasked type t) := by
  unfold check
  rw [h]
  simp [hs]

/-- The frames of each topic are let through when the command that asks for it is among
those given, and are refused when it is not. -/
structure Admits (s : Subscription) (asked : List Command) : Prop where
  resource : ∀ k op, s.check (.resource k op) = .ok () ↔ .subscribe (.ofKind k) ∈ asked
  silence : s.check (.alarm .silence) = .ok () ↔ .subscribe .silences ∈ asked
  clip : s.check (.alarm .clip) = .ok () ↔ .subscribe .clips ∈ asked

theorem admits_sent (s : Subscription) : s.Admits s.sent where
  resource _ _ := check_eq_ok_iff rfl
  silence := check_eq_ok_iff rfl
  clip := check_eq_ok_iff rfl

end Subscription

namespace Engine

variable {e : Engine} {f : Frame}

/-! ## Before a session -/

/-- An engine that has not started can only refuse a frame or make a note of it. -/
theorem dispatch_of_not_started (hs : e.subscription.started = false) (f : Frame) :
    (e.dispatch f).engine = e ∧ (e.dispatch f).events = [] := by
  have hrefused : ∀ {t}, f.type.topic? = some t → e.subscription.check f.type ≠ .ok () := by
    intro t ht
    rw [Subscription.check_of_not_started hs ht]
    nofun
  refine dispatch_induction e f fun t ht => ?_
  cases ht with
  | failed => exact ⟨rfl, rfl⟩
  | remarked => exact ⟨rfl, rfl⟩
  | added hc ht => exact absurd hc (hrefused (by rw [ht]; rfl))
  | deleted hc ht => exact absurd hc (hrefused (by rw [ht]; rfl))
  | updated hc ht => exact absurd hc (hrefused (by rw [ht]; rfl))
  | @alarm k _ hc ht => cases k <;> exact absurd hc (hrefused (by rw [ht]; rfl))
  | next _ h => cases hs.symm.trans h
  | loaded _ h => cases hs.symm.trans h

theorem after_frames_of_not_started (hs : e.subscription.started = false) (fs : List Frame) :
    e.after (frames fs) = e := by
  refine after_frames_induction (P := (· = e)) (fun e' he f => ?_) rfl fs
  rw [he]
  exact (dispatch_of_not_started hs f).1

/-! ## What is kept -/

/-- Each record that is kept is of a kind that has been asked for. -/
def KeepsAsked (e : Engine) : Prop :=
  ∀ r ∈ e.store.records, .subscribe (.ofKind r.kind) ∈ e.subscription.sent

theorem KeepsAsked.put {r : Resource} (h : e.KeepsAsked)
    (hr : .subscribe (.ofKind r.kind) ∈ e.subscription.sent) :
    KeepsAsked { e with store := e.store.put r } := by
  intro x hx
  rcases Store.mem_records_of_put hx with rfl | hx
  · exact hr
  · exact h x hx

/-- The topics that were asked for stay asked for. -/
theorem KeepsAsked.succ (h : e.KeepsAsked) (hs : e.subscription.started = true) :
    KeepsAsked { e with subscription := ⟨true, e.subscription.acks + 1⟩ } := by
  intro r hr
  have hbefore := h r hr
  rw [Subscription.eq_of_started hs] at hbefore
  rw [Subscription.sent_succ]
  exact List.mem_append_left _ hbefore

theorem asked_of_decode {k : Kind} {op : Operation} {r : Resource}
    (hc : e.subscription.check f.type = .ok ()) (ht : f.type = .resource k op)
    (hd : f.decode k = .ok r) : .subscribe (.ofKind r.kind) ∈ e.subscription.sent := by
  rw [Frame.kind_of_decode hd]
  exact (Subscription.admits_sent _).resource k op |>.1 (ht ▸ hc)

theorem KeepsAsked.dispatch (h : e.KeepsAsked) (f : Frame) :
    (e.dispatch f).engine.KeepsAsked := by
  refine dispatch_induction e f fun t ht => ?_
  cases ht with
  | failed => exact h
  | remarked => exact h
  | added hc ht hd => exact h.put (asked_of_decode hc ht hd)
  | deleted => exact fun r hr => h r (Store.mem_records_of_erase hr)
  | updated hc ht hd => exact h.put (asked_of_decode hc ht hd)
  | alarm => exact h
  | next _ hs => exact h.succ hs
  | loaded _ hs => exact h.succ hs

theorem KeepsAsked.ofKind_eq_nil (h : e.KeepsAsked) {k : Kind}
    (hk : .subscribe (.ofKind k) ∉ e.subscription.sent) : e.store.ofKind k = [] := by
  apply List.eq_nil_iff_forall_not_mem.2
  intro r hr
  obtain ⟨hkind, hget⟩ := Store.mem_ofKind_iff.1 hr
  rw [← hkind] at hk
  exact hk (h r ((e.store.mem_records_iff r).2 hget))

theorem KeepsAsked.after_frames (h : e.KeepsAsked) (fs : List Frame) :
    (e.after (frames fs)).KeepsAsked :=
  after_frames_induction (fun _ he f => he.dispatch f) h fs

/-- Before the engine starts it lets no frame of any topic through and keeps nothing. In a
session it lets the frames of a topic through just when it has queued the command that asks
for the topic. A frame that is not let through changes nothing, so no record is kept of a
kind that has not been asked for. -/
theorem a_topic_is_let_through_once_it_is_asked_for (hs : Handlers) (before fs : List Frame) :
    let e₀ := (new hs).after (frames before)
    let e := (new hs).after (frames before ++ session fs)
    let asked := (new hs).ownCommands (frames before ++ session fs)
    e₀.subscription.Admits [] ∧ e₀.store = .empty ∧
    e.subscription.Admits asked ∧
    (∀ (x : Engine) f err, x.subscription.check f.type = .error err →
      x.dispatch f = x.fail (.wire err)) ∧
    ∀ k, .subscribe (.ofKind k) ∉ asked → e.store.ofKind k = [] := by
  intro e₀ e asked
  have hidle : e₀ = new hs := after_frames_of_not_started rfl before
  have hsession : e = (new hs).after (session fs) := by
    rw [← hidle]
    exact after_append ..
  have hquiet : (new hs).ownCommands (frames before) = [] := by
    have h := sent_after (e := new hs) rfl before
    rw [after_frames_of_not_started rfl before] at h
    exact List.self_eq_append_right.1 h
  have hasked : asked = e.subscription.sent := by
    rw [hsession, ← ownCommands_session rfl fs, ← hidle]
    exact (ownCommands_append ..).trans (congrArg (· ++ _) hquiet)
  have hkeeps : e.KeepsAsked := by
    rw [hsession]
    have hempty : ((new hs).act .start).engine.KeepsAsked := fun r hr => nomatch hr
    exact hempty.after_frames fs
  rw [hidle, hasked]
  exact ⟨(new hs).subscription.admits_sent, rfl, e.subscription.admits_sent,
    fun x f err h => dispatch_of_check_error h, fun k hk => hkeeps.ofKind_eq_nil hk⟩

/-- Sources have been asked for after one acknowledgment, and destinations have not. -/
theorem a_source_is_let_through_before_destinations_are_asked_for :
    let before : List Frame := [⟨["SRCDEL", "a", "0"]⟩, ⟨["ok"]⟩]
    let fs : List Frame := [⟨["NODEADD", "a", "b", "c", "1", "2", "3", "4"]⟩, ⟨["ok"]⟩]
    let f : Frame := ⟨["DSTDEL", "a", "0"]⟩
    let e := (new Handlers.none).after (frames before ++ session fs)
    let asked := (new Handlers.none).ownCommands (frames before ++ session fs)
    let err : WireError := .unasked (.resource .destination .delete) .destinations
    e.subscription.check (.resource .source .add) = .ok () ∧
    e.subscription.check f.type = .error err ∧ e.dispatch f = e.fail (.wire err) ∧
    .subscribe (.ofKind .destination) ∉ asked ∧ e.store.ofKind .destination = [] := by
  intro before fs f e asked err
  obtain ⟨-, -, hadmits, hrefused, hempty⟩ :=
    a_topic_is_let_through_once_it_is_asked_for Handlers.none before fs
  have hsource : Command.subscribe .sources ∈ asked := by decide
  have hdestination : Command.subscribe .destinations ∉ asked := by decide
  have herr : e.subscription.check f.type = .error err := rfl
  exact ⟨(hadmits.resource .source .add).2 hsource, herr, hrefused e f err herr,
    hdestination, hempty .destination hdestination⟩

end Engine

end Patchbay
