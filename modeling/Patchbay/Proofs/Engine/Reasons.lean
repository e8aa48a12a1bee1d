-- Why a frame fails. There are six reasons, and each has an error of its own. Where several
-- things are wrong at once, the topic is looked at before the fields and the fields before
-- the records.
import Patchbay.Proofs.Engine.History

namespace Patchbay

/-- The controller and the session disagree on how far the subscriptions have come. -/
inductive WireError.Violation : WireError → Prop where
  | unaskedAck : Violation .unaskedAck
  | unasked (type : FrameType) (t : Topic) : Violation (.unasked type t)
  | refused (stage : Nat) : Violation (.refused stage)

theorem WireError.Violation.exists_message {w : WireError} (h : w.Violation) :
    ∃ why, w.message = "Handshake violation: " ++ why := by
  cases h with
  | unaskedAck => exact ⟨"ok received before any subscribe", by decide⟩
  | unasked type t =>
    have hmessage : (WireError.unasked type t).message = "Handshake violation: " ++ type.label ++
        " frame before " ++ (Command.subscribe t).name ++ " was sent" := rfl
    simp only [hmessage, String.append_assoc]
    exact ⟨_, rfl⟩
  | refused stage =>
    have hmessage : (WireError.refused stage).message = "Handshake violation: " ++
        "controller rejected subscribe at stage " ++ toString stage := rfl
    simp only [hmessage, String.append_assoc]
    exact ⟨_, rfl⟩

/-! ## What is said of a frame that cannot be read -/

namespace Frame

/-- Whatever goes wrong here lies in what the controller sent. -/
def BlamesFrame {α : Type} (x : Except WireError α) : Prop :=
  ∀ err, x = .error err → err.isParseError = true

section

variable {α β : Type} {f : Frame}

theorem blamesFrame_pure (a : α) : BlamesFrame (pure a) := fun _ h => nomatch h

theorem BlamesFrame.bind {x : Except WireError α} {next : α → Except WireError β}
    (hx : BlamesFrame x) (hnext : ∀ a, BlamesFrame (next a)) : BlamesFrame (x >>= next) := by
  intro err h
  cases x with
  | error err' =>
    cases h
    exact hx err rfl
  | ok a => exact hnext a err h

theorem blamesFrame_expect (f : Frame) (count : Nat) : BlamesFrame (f.expect count) := by
  intro err h
  unfold expect at h
  split at h
  · cases h
  · cases h
    rfl

theorem blamesFrame_field (f : Frame) (i : Nat) : BlamesFrame (f.field i) := by
  intro err h
  unfold field at h
  split at h
  · cases h
  · cases h
    rfl

theorem blamesFrame_number (f : Frame) (i : Nat) (q : Quantity) :
    BlamesFrame (f.number i q) := by
  refine (blamesFrame_field f i).bind fun value => ?_
  intro err h
  split at h
  · cases h
  · cases h
    rfl

theorem blamesFrame_flag (f : Frame) (i : Nat) : BlamesFrame (f.flag i) :=
  (blamesFrame_field f i).bind fun _ => blamesFrame_pure _

/-- A word that is none of a vocabulary is a fault of the frame. -/
theorem blamesFrame_mapError {read : Except Fault α} (place : Vocabulary) (s : String)
    (h : ∀ err, read = .error err → err = .badWord place s) :
    BlamesFrame (read.mapError .fault) := by
  intro err herr
  cases hread : read with
  | ok a =>
    rw [hread] at herr
    cases herr
  | error err' =>
    rw [hread] at herr
    cases herr
    rw [h err' hread]
    rfl

theorem blamesFrame_alarmKind (s : String) :
    BlamesFrame ((AlarmKind.ofWord? s).mapError .fault) := by
  refine blamesFrame_mapError .alarmKind s fun err h => ?_
  unfold AlarmKind.ofWord? at h
  split at h <;> cases h
  rfl

theorem blamesFrame_alarmPort (s : String) :
    BlamesFrame ((AlarmPort.ofWord? s).mapError .fault) := by
  refine blamesFrame_mapError .alarmPort s fun err h => ?_
  unfold AlarmPort.ofWord? at h
  split at h <;> cases h
  rfl

theorem blamesFrame_alarmChannel (s : String) :
    BlamesFrame ((AlarmChannel.ofWord? s).mapError .fault) := by
  refine blamesFrame_mapError .alarmChannel s fun err h => ?_
  unfold AlarmChannel.ofWord? at h
  split at h <;> cases h
  rfl

theorem blamesFrame_decodeAddress (f : Frame) (k : Kind) : BlamesFrame (f.decodeAddress k) := by
  have hkey : BlamesFrame f.slotKey :=
    (blamesFrame_field f 1).bind fun _ => (blamesFrame_number f 2 _).bind fun _ =>
      blamesFrame_pure _
  refine (blamesFrame_expect f _).bind fun _ => ?_
  cases k with
  | node => exact (blamesFrame_field f 1).bind fun _ => blamesFrame_pure _
  | _ => exact hkey.bind fun _ => blamesFrame_pure _

theorem blamesFrame_decodeAlarm (f : Frame) : BlamesFrame f.decodeAlarm := by
  refine (blamesFrame_expect f _).bind fun _ => ?_
  refine (blamesFrame_alarmKind f.token).bind fun _ => ?_
  refine (blamesFrame_field f 1).bind fun _ => ?_
  refine (blamesFrame_number f 2 _).bind fun _ => ?_
  refine ((blamesFrame_field f 3).bind blamesFrame_alarmPort).bind fun _ => ?_
  refine ((blamesFrame_field f 4).bind blamesFrame_alarmChannel).bind fun _ => ?_
  refine (blamesFrame_flag f 5).bind fun _ => ?_
  exact blamesFrame_pure _

end

theorem Garbled.isParseError {f : Frame} {err : WireError} (h : f.Garbled err) :
    err.isParseError = true := by
  cases h with
  | @record k _ _ _ _ hd =>
    rcases decode_eq_error_iff.1 hd with ⟨-, rfl⟩ | ⟨-, hrefused⟩
    · rfl
    · exact hrefused.isParseError
  | address _ hd => exact blamesFrame_decodeAddress f _ err hd
  | alarm _ hd => exact blamesFrame_decodeAlarm f err hd

/-- A frame that cannot be read belongs to a topic. -/
theorem Garbled.exists_topic {f : Frame} {err : WireError} (h : f.Garbled err) :
    ∃ t, f.type.topic? = some t := by
  cases h with
  | record ht => exact ⟨_, by rw [ht]; rfl⟩
  | address ht => exact ⟨_, by rw [ht]; rfl⟩
  | @alarm k _ ht =>
    rw [ht]
    cases k <;> exact ⟨_, rfl⟩

/-- A frame that needs a record is one of that kind of record. -/
theorem Needs.exists_type {f : Frame} {a : Address} (h : f.Needs a) :
    ∃ op, f.type = .resource a.kind op := by
  cases h with
  | delete ht hd => exact ⟨.delete, kind_of_decodeAddress hd ▸ ht⟩
  | @update k r ht hd =>
    have hkind : r.address.kind = k := kind_of_decode hd
    exact ⟨.update, hkind ▸ ht⟩

end Frame

/-! ## What has been asked for -/

namespace Subscription

/-- The topic has been asked for: a session has begun, and as many topics are acknowledged
as come before this one. -/
def Asked (s : Subscription) (t : Topic) : Prop := s.started = true ∧ t.rank ≤ s.acks

variable {s : Subscription} {type : FrameType} {t : Topic}

theorem check_of_asked (ht : type.topic? = some t) (h : s.Asked t) : s.check type = .ok () := by
  unfold check
  rw [ht]
  exact if_pos h

theorem check_of_not_asked (ht : type.topic? = some t) (h : ¬ s.Asked t) :
    s.check type = .error (.unasked type t) := by
  unfold check
  rw [ht]
  exact if_neg h

theorem asked_of_check (ht : type.topic? = some t) (h : s.check type = .ok ()) : s.Asked t := by
  by_contra hnot
  rw [check_of_not_asked ht hnot] at h
  cases h

/-- The check refuses a frame only for its topic. -/
theorem exists_not_asked {err : WireError} (h : s.check type = .error err) :
    ∃ t, type.topic? = some t ∧ ¬ s.Asked t ∧ err = .unasked type t := by
  cases ht : type.topic? with
  | none =>
    unfold check at h
    rw [ht] at h
    cases h
  | some t =>
    by_cases hasked : s.Asked t
    · rw [check_of_asked ht hasked] at h
      cases h
    · rw [check_of_not_asked ht hasked] at h
      cases h
      exact ⟨t, rfl, hasked, rfl⟩

end Subscription

namespace Engine

variable {e : Engine} {f : Frame} {err : ClientError}

/-! ## The reasons -/

/-- Why a frame fails, and with which error. -/
inductive Fails (e : Engine) (f : Frame) : ClientError → Prop
  /-- Its topic has not been asked for, whatever else is wrong with it. -/
  | unasked {t : Topic} (ht : f.type.topic? = some t) (hs : ¬ e.subscription.Asked t) :
      Fails e f (.wire (.unasked f.type t))
  /-- Its fields cannot be read. -/
  | garbled {t : Topic} {err : WireError} (ht : f.type.topic? = some t)
      (hs : e.subscription.Asked t) (hg : f.Garbled err) : Fails e f (.wire err)
  /-- It deletes or updates a record that is not there. -/
  | missing {a : Address} {op : Operation} (ht : f.type = .resource a.kind op)
      (hs : e.subscription.Asked (.ofKind a.kind)) (hn : f.Needs a)
      (hm : e.store.get? a = none) : Fails e f (.fault (.notFound a))
  /-- It acknowledges what nobody has asked for. -/
  | unaskedAck (ht : f.token = "ok") (hs : e.subscription.started = false) :
      Fails e f (.wire .unaskedAck)
  /-- It lets the next topic be asked for, and nobody takes commands any more. -/
  | unsent (ht : f.token = "ok") (hs : e.subscription.started = true)
      (hn : e.subscription.acks ≤ 5) (ho : e.isOpen = false) : Fails e f .disconnected
  /-- It refuses a command while the fabric is loading. -/
  | rejected (ht : f.type = .error) (hr : e.isReady = false) :
      Fails e f (.wire (.refused e.subscription.acks))

theorem Refusal.fails (h : Refusal e f err) : e.Fails f err := by
  cases h with
  | unasked hc =>
    obtain ⟨t, ht, hs, rfl⟩ := Subscription.exists_not_asked hc
    exact .unasked ht hs
  | garbled hc hg =>
    obtain ⟨t, ht⟩ := hg.exists_topic
    exact .garbled ht (Subscription.asked_of_check ht hc) hg
  | missing hc hn hm =>
    obtain ⟨op, ht⟩ := hn.exists_type
    exact .missing ht (Subscription.asked_of_check (by rw [ht]; rfl) hc) hn hm
  | unaskedAck ht hs => exact .unaskedAck (Frame.type_eq_ack_iff.1 ht) hs
  | refused ht hr => exact .rejected ht hr

/-- The next topic cannot be asked for when nobody takes commands any more. -/
theorem acknowledge_of_closed (hs : e.subscription.started = true)
    (hn : e.subscription.acks ≤ 5) (ho : e.isOpen = false) :
    e.acknowledge.result = .error .disconnected := by
  have hlen : Topic.all.length = 7 := rfl
  have hloading : e.subscription.isLoaded = false := by
    rw [Bool.eq_false_iff, ne_eq, Subscription.isLoaded_iff]
    omega
  have hnext := List.getElem?_eq_getElem (l := Topic.all) (i := e.subscription.acks + 1)
    (by omega)
  simp only [acknowledge, Subscription.acknowledge, hs, hloading, hnext]
  simp [subscribe, Issue.send, ho, Issue.result]

theorem Fails.result_eq (h : e.Fails f err) : (e.dispatch f).result = .error err := by
  cases h with
  | unasked ht hs =>
    rw [(Refusal.unasked (Subscription.check_of_not_asked ht hs)).dispatch_eq]
    rfl
  | garbled ht hs hg =>
    rw [(Refusal.garbled (Subscription.check_of_asked ht hs) hg).dispatch_eq]
    rfl
  | missing ht hs hn hm =>
    have hc : e.subscription.check f.type = .ok () :=
      Subscription.check_of_asked (by rw [ht]; rfl) hs
    rw [(Refusal.missing hc hn hm).dispatch_eq]
    rfl
  | unaskedAck ht hs =>
    rw [(Refusal.unaskedAck (Frame.type_eq_ack_iff.2 ht) hs).dispatch_eq]
    rfl
  | unsent ht hs hn ho =>
    unfold dispatch
    rw [Frame.type_eq_ack_iff.2 ht]
    exact acknowledge_of_closed hs hn ho
  | rejected ht hr =>
    rw [(Refusal.refused ht hr).dispatch_eq]
    rfl

theorem fails_of_error (h : (e.dispatch f).result = .error err) : e.Fails f err := by
  revert h
  refine dispatch_induction e f fun t ht => ?_
  intro h
  cases ht with
  | failed hr =>
    cases h
    exact hr.fails
  | next ht hs hn =>
    cases ho : e.isOpen with
    | true =>
      simp only [subscribe, Issue.send, ho] at h
      cases h
    | false =>
      simp only [subscribe, Issue.send, ho] at h
      cases h
      -- A topic is left to be asked for, so at most five are acknowledged.
      have hlt : e.subscription.acks + 1 < 7 := (List.getElem?_eq_some_iff.1 hn).1
      exact .unsent (Frame.type_eq_ack_iff.1 ht) hs (by omega) ho
  | _ => cases h

/-- An error of the wire is what is said of the fields, or the subscriptions have not come
as far as the controller takes them to be. -/
theorem Fails.garbled_or_violation {w : WireError} (h : e.Fails f (.wire w)) :
    f.Garbled w ∨ w.Violation := by
  cases h with
  | unasked => exact .inr (.unasked ..)
  | garbled _ _ hg => exact .inl hg
  | unaskedAck => exact .inr .unaskedAck
  | rejected => exact .inr (.refused _)

/-- A frame fails with an error just when there is that reason for it, in any state of the
engine. What is wrong on the wire is a fault of the controller, and it is said of the fields
or of the subscriptions. An alarm that is read is of the kind that its frame is about. A
frame that means nothing, and the answer to a ping, never fail and only earn a note. -/
theorem a_frame_fails_for_one_of_six_reasons (e : Engine) (f : Frame) :
    (∀ err, (e.dispatch f).result = .error err ↔ e.Fails f err) ∧
    (∀ w, (e.dispatch f).result = .error (.wire w) → w.isParseError = true ∧
      (f.Garbled w ∨ ∃ why, w.message = "Handshake violation: " ++ why)) ∧
    (∀ k a, f.type = .alarm k → f.decodeAlarm = .ok a → a.kind = k) ∧
    (f.type = .unknown ∨ f.type = .pong → ∃ n, e.dispatch f = ⟨e, .ok (), [.noted n]⟩) := by
  refine ⟨fun err => ⟨fails_of_error, Fails.result_eq⟩, ?_, ?_, ?_⟩
  · intro w h
    rcases (fails_of_error h).garbled_or_violation with hg | hv
    · exact ⟨hg.isParseError, .inl hg⟩
    · refine ⟨?_, .inr hv.exists_message⟩
      cases hv <;> rfl
  · intro k a ht hd
    cases ht.symm.trans (Frame.type_of_decodeAlarm hd)
    rfl
  · rintro (ht | ht)
    · exact ⟨.unknownFrame f.token, by unfold dispatch; rw [ht]; rfl⟩
    · exact ⟨.pong, by unfold dispatch; rw [ht]; rfl⟩

/-- Sources have been asked for and nobody takes commands any more. A source that is not there
is deleted, a topic is acknowledged, and an alarm comes too early. -/
theorem a_source_is_missing_when_the_queue_is_closed :
    let e := (new Handlers.none).after [.start, .dispatch ⟨["ok"]⟩, .disconnect]
    let clip : Frame := ⟨["CLIP", "a", "1", "INPUT", "LEFT", "1"]⟩
    let a : Alarm := ⟨.clip, "a", 1, .input, .left, true⟩
    (e.dispatch ⟨["SRCDEL", "a", "+07"]⟩).result =
      .error (.fault (.notFound (.source ⟨"a", 7⟩))) ∧
    (e.dispatch ⟨["ok"]⟩).result = .error .disconnected ∧
    (e.dispatch clip).result = .error (.wire (.unasked (.alarm .clip) .clips)) ∧
    (WireError.unasked (.alarm .clip) .clips).isParseError = true ∧
    clip.type = .alarm .clip ∧ clip.decodeAlarm = .ok a ∧ a.kind = .clip ∧
    ∃ n, e.dispatch ⟨["pong"]⟩ = ⟨e, .ok (), [.noted n]⟩ := by
  intro e clip a
  have hdelete : Frame.type ⟨["SRCDEL", "a", "+07"]⟩ = .resource .source .delete := by decide
  have hmissing : e.Fails ⟨["SRCDEL", "a", "+07"]⟩ (.fault (.notFound (.source ⟨"a", 7⟩))) :=
    .missing hdelete ⟨rfl, Nat.le_refl 1⟩ (.delete hdelete rfl) rfl
  have hunsent : e.Fails ⟨["ok"]⟩ .disconnected := .unsent rfl rfl (by decide) rfl
  have hunasked : e.Fails clip (.wire (.unasked (.alarm .clip) .clips)) :=
    .unasked (t := .clips) rfl (by rintro ⟨-, h⟩; exact absurd h (by decide))
  obtain ⟨hsource, -⟩ := a_frame_fails_for_one_of_six_reasons e ⟨["SRCDEL", "a", "+07"]⟩
  obtain ⟨hok, -⟩ := a_frame_fails_for_one_of_six_reasons e ⟨["ok"]⟩
  obtain ⟨hclip, hparse, hkind, -⟩ := a_frame_fails_for_one_of_six_reasons e clip
  obtain ⟨-, -, -, hpong⟩ := a_frame_fails_for_one_of_six_reasons e ⟨["pong"]⟩
  have htype : clip.type = .alarm .clip := by decide
  have hdecode : clip.decodeAlarm = .ok a := by rfl
  have herr := (hclip _).2 hunasked
  exact ⟨(hsource _).2 hmissing, (hok _).2 hunsent, herr, (hparse _ herr).1, htype, hdecode,
    hkind _ a htype hdecode, hpong (.inr (by decide))⟩

end Engine

end Patchbay
