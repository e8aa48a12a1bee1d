-- All that one frame can bring about, said once: it is refused, it earns a
-- note, it does something to a record, it passes an alarm on, or it moves the
-- subscriptions on. Each law about frames is read off these cases.
import Patchbay.Engine.Basic
import Patchbay.Proofs.Frame.Acceptance
import Patchbay.Proofs.Store

namespace Patchbay

/-! ## What a frame is about -/

/-- A first field that means something stands in the vocabulary. -/
theorem FrameType.mem_vocabulary {token : String} (h : ofToken token ≠ unknown) :
    (token, ofToken token) ∈ vocabulary := by
  unfold ofToken at h ⊢
  cases hl : vocabulary.lookup token with
  | none => rw [hl] at h; exact absurd rfl h
  | some type =>
    obtain ⟨before, after, hmem, -⟩ := List.lookup_eq_some_iff.1 hl
    rw [hmem]
    simp

/-- A node is never updated. -/
theorem FrameType.ofToken_ne_node_update (token : String) :
    ofToken token ≠ resource .node .update := by
  have hall : ∀ p ∈ vocabulary, p.2 ≠ resource .node .update := by decide
  intro h
  have hmem := mem_vocabulary (h ▸ nofun : ofToken token ≠ unknown)
  exact hall _ hmem h

/-- Nothing but its first field makes a frame an acknowledgment. -/
theorem Frame.type_eq_ack_iff {f : Frame} : f.type = .ack ↔ f.token = "ok" := by
  have hall : ∀ p ∈ FrameType.vocabulary, p.2 = .ack → p.1 = "ok" := by decide
  constructor
  · intro h
    unfold Frame.type at h
    have hmem := FrameType.mem_vocabulary (h ▸ nofun : FrameType.ofToken f.token ≠ .unknown)
    exact hall _ hmem h
  · intro h
    unfold Frame.type
    rw [h]
    decide

/-- The word for a kind of alarm and the first field of its frames are the same. -/
theorem FrameType.ofToken_of_ofWord? {token : String} {k : AlarmKind}
    (h : AlarmKind.ofWord? token = .ok k) : ofToken token = alarm k := by
  unfold AlarmKind.ofWord? at h
  split at h
  · cases h
    decide
  · cases h
    decide
  · cases h

namespace Frame

/-- An alarm that is read is of the kind that its frame is about. -/
theorem type_of_decodeAlarm {f : Frame} {a : Alarm} (h : f.decodeAlarm = .ok a) :
    f.type = .alarm a.kind := by
  obtain ⟨_, -, h⟩ := bind_eq_ok h
  obtain ⟨k, hk, h⟩ := bind_eq_ok h
  have hkind : a.kind = k := by
    obtain ⟨_, -, h⟩ := bind_eq_ok h
    obtain ⟨_, -, h⟩ := bind_eq_ok h
    obtain ⟨_, -, h⟩ := bind_eq_ok h
    obtain ⟨_, -, h⟩ := bind_eq_ok h
    obtain ⟨_, -, h⟩ := bind_eq_ok h
    cases h
    rfl
  rw [hkind]
  cases hword : AlarmKind.ofWord? f.token with
  | error err =>
    rw [hword] at hk
    cases hk
  | ok k' =>
    rw [hword] at hk
    cases hk
    exact FrameType.ofToken_of_ofWord? hword

/-- A frame of a record, an address or an alarm that cannot be read, and why. -/
inductive Garbled (f : Frame) : WireError → Prop
  | record {k : Kind} {op : Operation} {err : WireError} (ht : f.type = .resource k op)
      (hop : op ≠ .delete) (hd : f.decode k = .error err) : Garbled f err
  | address {k : Kind} {err : WireError} (ht : f.type = .resource k .delete)
      (hd : f.decodeAddress k = .error err) : Garbled f err
  | alarm {k : AlarmKind} {err : WireError} (ht : f.type = .alarm k)
      (hd : f.decodeAlarm = .error err) : Garbled f err

/-- A frame that needs a record under an address, since it deletes or updates it. -/
inductive Needs (f : Frame) : Address → Prop
  | delete {k : Kind} {a : Address} (ht : f.type = .resource k .delete)
      (hd : f.decodeAddress k = .ok a) : Needs f a
  | update {k : Kind} {r : Resource} (ht : f.type = .resource k .update)
      (hd : f.decode k = .ok r) : Needs f r.address

end Frame

theorem Subscription.isLoaded_iff {s : Subscription} :
    s.isLoaded = true ↔ Topic.all.length ≤ s.acks := by
  simp [isLoaded]

/-! ## Looking up and changing records -/

namespace Engine

variable {e : Engine} {f : Frame} {k : Kind} {a : Address} {r old : Resource}

/-- A record that has just been put is found again, so an addition cannot fail late. -/
theorem add_of_decode (hd : f.decode k = .ok r) :
    e.add k f = { e with store := e.store.put r }.stay
      (if e.isReady then e.deliver (e.store.put r) (.added r)
        else [.noted (.loaded r.address)]) := by
  simp only [add, hd, Store.insert, Store.get_put_self]
  split <;> rfl

/-- A record that the handler has just seen can be taken out, so a deletion cannot fail
late. -/
theorem delete_of_get? (hd : f.decodeAddress k = .ok a) (hr : e.store.get? a = some r) :
    e.delete k f = { e with store := e.store.erase a }.stay
      (if e.isReady then e.deliver e.store (.deleted r) else []) := by
  simp only [delete, hd, Store.remove, Store.get_of_get? hr]
  rfl

theorem delete_of_none (hd : f.decodeAddress k = .ok a) (hr : e.store.get? a = none) :
    e.delete k f = e.fail (.fault (.notFound a)) := by
  simp only [delete, hd, Store.get_of_none hr]

theorem update_of_get? (hd : f.decode k = .ok r) (hr : e.store.get? r.address = some old) :
    e.update k f = { e with store := e.store.put r }.stay
      (if !e.isReady then []
        else if r ≠ old then e.deliver (e.store.put r) (.changed old r)
        else [.noted (.unchanged r.address)]) := by
  simp only [update, hd, Store.replace, Store.get_of_get? hr, bind, Except.bind, pure,
    Except.pure, Store.overwrite_eq_put hr, Store.get_put_self]
  cases e.isReady <;> rfl

theorem update_of_none (hd : f.decode k = .ok r) (hr : e.store.get? r.address = none) :
    e.update k f = e.fail (.fault (.notFound r.address)) := by
  simp only [update, hd, Store.replace, Store.get_of_none hr, bind, Except.bind]

/-! ## All that a frame can bring about -/

/-- Why a frame fails and changes nothing. -/
inductive Refusal (e : Engine) (f : Frame) : ClientError → Prop
  | unasked {err : WireError} (hc : e.subscription.check f.type = .error err) :
      Refusal e f (.wire err)
  | garbled {err : WireError} (hc : e.subscription.check f.type = .ok ())
      (hg : f.Garbled err) : Refusal e f (.wire err)
  | missing {a : Address} (hc : e.subscription.check f.type = .ok ()) (hn : f.Needs a)
      (hm : e.store.get? a = none) : Refusal e f (.fault (.notFound a))
  | unaskedAck (ht : f.type = .ack) (hs : e.subscription.started = false) :
      Refusal e f (.wire .unaskedAck)
  | refused (ht : f.type = .error) (hr : e.isReady = false) :
      Refusal e f (.wire (.refused e.subscription.acks))

/-- What is noted of a frame that changes nothing. -/
inductive Remark (e : Engine) (f : Frame) : Note → Prop
  | absorbed (ht : f.type = .ack) (hs : e.subscription.started = true) (hr : e.isReady = true) :
      Remark e f .commandAcknowledged
  | pong (ht : f.type = .pong) : Remark e f .pong
  | rejected (ht : f.type = .error) (hr : e.isReady = true) : Remark e f (.commandRejected f)
  | unknown (ht : f.type = .unknown) : Remark e f (.unknownFrame f.token)

/-- What a frame brings about. -/
inductive Outcome (e : Engine) (f : Frame) : Turn → Prop
  | failed {err : ClientError} (h : Refusal e f err) : Outcome e f (e.fail err)
  | remarked {n : Note} (h : Remark e f n) : Outcome e f (e.stay [.noted n])
  | added {k : Kind} {r : Resource} (hc : e.subscription.check f.type = .ok ())
      (ht : f.type = .resource k .add) (hd : f.decode k = .ok r) :
      Outcome e f ({ e with store := e.store.put r }.stay
        (if e.isReady then e.deliver (e.store.put r) (.added r) else [.noted (.loaded r.address)]))
  | deleted {k : Kind} {a : Address} {r : Resource} (hc : e.subscription.check f.type = .ok ())
      (ht : f.type = .resource k .delete) (hd : f.decodeAddress k = .ok a)
      (hr : e.store.get? a = some r) :
      Outcome e f ({ e with store := e.store.erase a }.stay
        (if e.isReady then e.deliver e.store (.deleted r) else []))
  | updated {k : Kind} {r old : Resource} (hc : e.subscription.check f.type = .ok ())
      (ht : f.type = .resource k .update) (hd : f.decode k = .ok r)
      (hr : e.store.get? r.address = some old) :
      Outcome e f ({ e with store := e.store.put r }.stay
        (if !e.isReady then []
          else if r ≠ old then e.deliver (e.store.put r) (.changed old r)
          else [.noted (.unchanged r.address)]))
  | alarm {k : AlarmKind} {a : Alarm} (hc : e.subscription.check f.type = .ok ())
      (ht : f.type = .alarm k) (hd : f.decodeAlarm = .ok a) :
      Outcome e f (e.stay (if e.isReady then e.deliver e.store (.alarm a) else []))
  | next {t : Topic} (ht : f.type = .ack) (hs : e.subscription.started = true)
      (hn : Topic.all[e.subscription.acks + 1]? = some t) :
      Outcome e f ({ e with subscription := ⟨true, e.subscription.acks + 1⟩ }.subscribe
        (.acknowledged (e.subscription.acks + 1)) t)
  | loaded (ht : f.type = .ack) (hs : e.subscription.started = true)
      (hl : e.subscription.acks + 1 = Topic.all.length) :
      Outcome e f ({ e with subscription := ⟨true, e.subscription.acks + 1⟩ }.stay
        (.noted (.fabricLoaded e.store.stats) :: e.deliver e.store .ready))

theorem outcome_acknowledge (ht : f.type = .ack) : Outcome e f e.acknowledge := by
  obtain ⟨store, ⟨started, acks⟩, handlers, isOpen⟩ := e
  cases started with
  | false => exact .failed (.unaskedAck ht rfl)
  | true =>
    by_cases hl : Topic.all.length ≤ acks
    · have hloaded : Subscription.isLoaded ⟨true, acks⟩ = true := Subscription.isLoaded_iff.2 hl
      simp only [acknowledge, Subscription.acknowledge, hloaded]
      exact .remarked (.absorbed ht rfl hloaded)
    · have hloaded : Subscription.isLoaded ⟨true, acks⟩ = false :=
        Bool.eq_false_iff.2 fun h => hl (Subscription.isLoaded_iff.1 h)
      simp only [acknowledge, Subscription.acknowledge, hloaded]
      cases hn : Topic.all[acks + 1]? with
      | some t => exact .next ht rfl hn
      | none =>
        have := List.getElem?_eq_none_iff.1 hn
        exact .loaded ht rfl (by simp only; omega)

theorem dispatch_outcome (e : Engine) (f : Frame) : Outcome e f (e.dispatch f) := by
  unfold dispatch
  cases hc : e.subscription.check f.type with
  | error err => exact .failed (.unasked hc)
  | ok _ =>
    cases ht : f.type with
    | resource k op =>
      cases op with
      | add =>
        cases hd : f.decode k with
        | error err =>
          simp only [add, hd]
          exact .failed (.garbled hc (.record ht (by decide) hd))
        | ok r =>
          simp only [add_of_decode hd]
          exact .added hc ht hd
      | delete =>
        cases hd : f.decodeAddress k with
        | error err =>
          simp only [delete, hd]
          exact .failed (.garbled hc (.address ht hd))
        | ok a =>
          cases hr : e.store.get? a with
          | none =>
            simp only [delete_of_none hd hr]
            exact .failed (.missing hc (.delete ht hd) hr)
          | some r =>
            simp only [delete_of_get? hd hr]
            exact .deleted hc ht hd hr
      | update =>
        cases hd : f.decode k with
        | error err =>
          simp only [update, hd]
          exact .failed (.garbled hc (.record ht (by decide) hd))
        | ok r =>
          cases hr : e.store.get? r.address with
          | none =>
            simp only [update_of_none hd hr]
            exact .failed (.missing hc (.update ht hd) hr)
          | some old =>
            simp only [update_of_get? hd hr]
            exact .updated hc ht hd hr
    | alarm k =>
      cases hd : f.decodeAlarm with
      | error err =>
        simp only [alarm, hd]
        exact .failed (.garbled hc (.alarm ht hd))
      | ok a =>
        simp only [alarm, hd]
        exact .alarm hc ht hd
    | ack => exact outcome_acknowledge ht
    | pong => exact .remarked (.pong ht)
    | error =>
      cases hr : e.isReady with
      | false =>
        simp only [reject, hr]
        exact .failed (.refused ht hr)
      | true =>
        simp only [reject, hr]
        exact .remarked (.rejected ht hr)
    | unknown => exact .remarked (.unknown ht)

theorem dispatch_of_check_error {err : WireError}
    (h : e.subscription.check f.type = .error err) : e.dispatch f = e.fail (.wire err) := by
  unfold dispatch
  rw [h]

theorem dispatch_resource {op : Operation} (hc : e.subscription.check f.type = .ok ())
    (ht : f.type = .resource k op) : e.dispatch f =
      match op with
      | .add => e.add k f
      | .delete => e.delete k f
      | .update => e.update k f := by
  unfold dispatch
  rw [hc]
  simp only [ht]
  cases op <;> rfl

/-- A frame that is refused fails with just the error it is refused with. -/
theorem Refusal.dispatch_eq {err : ClientError} (h : Refusal e f err) :
    e.dispatch f = e.fail err := by
  cases h with
  | unasked hc => exact dispatch_of_check_error hc
  | garbled hc hg =>
    cases hg with
    | @record k op _ ht hop hd =>
      rw [dispatch_resource hc ht]
      cases op with
      | delete => exact absurd rfl hop
      | add => simp only [add, hd]
      | update => simp only [update, hd]
    | address ht hd =>
      rw [dispatch_resource hc ht]
      simp only [delete, hd]
    | alarm ht hd =>
      unfold dispatch
      rw [hc]
      simp only [ht, alarm, hd]
  | missing hc hn hm =>
    cases hn with
    | delete ht hd => exact (dispatch_resource hc ht).trans (delete_of_none hd hm)
    | update ht hd => exact (dispatch_resource hc ht).trans (update_of_none hd hm)
  | unaskedAck ht hs =>
    unfold dispatch
    rw [ht]
    simp [Subscription.check, FrameType.topic?, acknowledge, Subscription.acknowledge, hs]
  | refused ht hr =>
    unfold dispatch
    rw [ht]
    simp [Subscription.check, FrameType.topic?, reject, hr]

/-- A law of one frame holds when it holds of all that the frame can bring about. -/
@[elab_as_elim]
theorem dispatch_induction {P : Turn → Prop} (e : Engine) (f : Frame)
    (h : ∀ t, Outcome e f t → P t) : P (e.dispatch f) := h _ (dispatch_outcome e f)

end Engine

end Patchbay
