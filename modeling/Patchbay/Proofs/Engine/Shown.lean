-- What a handler is shown. When a record comes or changes, the records are shown with the
-- new one in them, and when a record goes, they are shown with it still there. Nothing but
-- this record is touched.
import Patchbay.Proofs.Engine.History
import Patchbay.Proofs.Store

namespace Patchbay

/-! ## What belongs to an event -/

/-- The event that a frame causes and the records that are shown with it, when the frame
takes the records from `before` to `after`. -/
inductive Frame.Shows (f : Frame) (before after : Store) : Event → Store → Prop
  | added {k : Kind} {r : Resource} (ht : f.type = .resource k .add) (hk : r.kind = k)
      (hin : after.get? r.address = some r) (hrest : before.AgreeBut after r.address) :
      Shows f before after (.added r) after
  | changed {k : Kind} {old new : Resource} (ht : f.type = .resource k .update)
      (hk : old.kind = k ∧ new.kind = k) (ha : old.address = new.address) (hne : new ≠ old)
      (hwas : before.get? new.address = some old) (hin : after.get? new.address = some new)
      (hrest : before.AgreeBut after new.address) : Shows f before after (.changed old new) after
  | deleted {k : Kind} {r : Resource} (ht : f.type = .resource k .delete) (hk : r.kind = k)
      (hin : before.get? r.address = some r) (hout : after.get? r.address = none)
      (hrest : before.AgreeBut after r.address) : Shows f before after (.deleted r) before
  | alarm {a : Alarm} (ht : f.type = .alarm a.kind) (hsame : after = before) :
      Shows f before after (.alarm a) before
  | ready (ht : f.type = .ack) (hsame : after = before) : Shows f before after .ready before

/-- The handler of the event was told, and it asked for what it asks for when it is shown
these records. -/
def Delivery.From (d : Delivery) (e : Engine) : Prop :=
  ∃ h, e.handlers d.event.category = some h ∧ d.label = h.label ∧
    d.issues = (h.calls d.store d.event).map (Issue.attempt e.isOpen)

namespace Engine

variable {e : Engine} {f : Frame} {d : Delivery}

theorem from_of_mem_deliver {s : Store} {ev : Event}
    (h : d ∈ (e.deliver s ev).filterMap Effect.delivery?) : d.From e := by
  obtain ⟨x, hx, rfl⟩ := exists_handler_of_mem_deliver h
  exact ⟨x, hx, rfl, rfl⟩

/-! ## One frame -/

/-- Each event that a frame tells of is told with the records that belong to it. -/
theorem exists_shows (h : d ∈ (e.dispatch f).deliveries) :
    ∃ s ev, d ∈ (e.deliver s ev).filterMap Effect.delivery? ∧
      f.Shows e.store (e.dispatch f).engine.store ev s := by
  revert h
  refine dispatch_induction e f fun t ht => ?_
  intro h
  cases ht with
  | failed => cases h
  | remarked => cases h
  | @added k r _ ht hd =>
    refine ⟨_, _, mem_deliver_of_mem_ite rfl h, ?_⟩
    refine .added ht (Frame.kind_of_decode hd) ?_ (e.store.agreeBut_put r)
    exact (Store.get?_put ..).trans (if_pos rfl)
  | @deleted k a r _ ht hd hr =>
    have ha := Store.address_of_get? hr
    have hkind : r.kind = k := (congrArg Address.kind ha).trans (Frame.kind_of_decodeAddress hd)
    subst ha
    refine ⟨_, _, mem_deliver_of_mem_ite rfl h, ?_⟩
    refine .deleted ht hkind hr ?_ (e.store.agreeBut_erase _)
    exact (Store.get?_erase ..).trans (if_pos rfl)
  | @updated k r old _ ht hd hr =>
    unfold Turn.deliveries at h
    simp only [stay] at h
    split at h
    · cases h
    split at h
    · next hne =>
      have ha := Store.address_of_get? hr
      have hkind := Frame.kind_of_decode hd
      refine ⟨_, _, h, ?_⟩
      refine .changed ht ⟨(congrArg Address.kind ha).trans hkind, hkind⟩ ha hne hr ?_
        (e.store.agreeBut_put r)
      exact (Store.get?_put ..).trans (if_pos rfl)
    · cases h
  | alarm _ _ hd =>
    exact ⟨_, _, mem_deliver_of_mem_ite rfl h, .alarm (Frame.type_of_decodeAlarm hd) rfl⟩
  | next => cases h
  | loaded ht => exact ⟨_, _, h, .ready ht rfl⟩

theorem shows_of_mem_deliveries (h : d ∈ (e.dispatch f).deliveries) :
    f.Shows e.store (e.dispatch f).engine.store d.event d.store ∧ d.From e := by
  obtain ⟨s, ev, hd, hshows⟩ := exists_shows h
  obtain ⟨hev, hs⟩ := of_mem_deliver hd
  rw [hev, hs]
  exact ⟨hshows, from_of_mem_deliver hd⟩

/-! ## A run -/

/-- Only frames make handlers hear anything. -/
theorem exists_dispatch_of_mem_deliveries {as : List Action} (h : d ∈ e.deliveries as) :
    ∃ pre f post, as = pre ++ .dispatch f :: post ∧
      d ∈ ((e.after pre).dispatch f).deliveries := by
  induction as generalizing e with
  | nil => cases h
  | cons a as ih =>
    rw [deliveries_cons] at h
    rcases List.mem_append.1 h with h | h
    · cases a with
      | dispatch f => exact ⟨[], f, as, rfl, h⟩
      | start => cases h
      | setHandler => cases h
      | disconnect => cases h
    · obtain ⟨pre, f, post, rfl, hd⟩ := ih h
      exact ⟨a :: pre, f, post, rfl, hd⟩

/-- In every run, what handlers are told comes from frames, and each time with the records that
belong to it: with a record that was added or changed in its place, with a record that is
deleted still there, and else just as they are. No other record is touched, and the record is of
the kind that the frame is about. -/
theorem a_handler_is_shown_the_records_of_its_event (hs : Handlers) (as : List Action) :
    (∀ d ∈ (new hs).deliveries as, ∃ pre f post, as = pre ++ .dispatch f :: post ∧
      d ∈ (((new hs).after pre).dispatch f).deliveries) ∧
    ∀ pre f post e, as = pre ++ .dispatch f :: post → e = (new hs).after pre →
      ∀ d ∈ (e.dispatch f).deliveries,
        f.Shows e.store (e.dispatch f).engine.store d.event d.store ∧ d.From e := by
  refine ⟨fun _ h => exists_dispatch_of_mem_deliveries h, ?_⟩
  intro pre f post e _ _ d hd
  exact shows_of_mem_deliveries hd

/-- A handler asks for a ping when it is shown any record. So it does when the only record goes,
which is still there then. -/
theorem a_handler_is_shown_the_last_record_as_it_goes :
    let hs : Handlers := fun _ => some ⟨none, fun s _ => if s.isEmpty then [] else [.ok .ping]⟩
    let node : Resource := .node ⟨"a", "b", "c", 1, 2, 3, 4⟩
    let pre := .start :: List.replicate 7 (.dispatch ⟨["ok"]⟩) ++
      [.dispatch ⟨["NODEADD", "a", "b", "c", "1", "2", "3", "4"]⟩]
    let f : Frame := ⟨["NODEDEL", "a"]⟩
    let e := (new hs).after pre
    let d : Delivery := ⟨none, .deleted node, Store.empty.put node, [.sent .ping]⟩
    d ∈ (e.dispatch f).deliveries ∧
    f.Shows e.store (e.dispatch f).engine.store d.event d.store ∧ d.From e ∧
    (e.dispatch f).engine.store = .empty := by
  intro hs node pre f e d
  obtain ⟨-, hshown⟩ := a_handler_is_shown_the_records_of_its_event hs (pre ++ [.dispatch f])
  have hd : d ∈ (e.dispatch f).deliveries := by decide +kernel
  obtain ⟨hshows, hfrom⟩ := hshown pre f [] e rfl rfl d hd
  exact ⟨hd, hshows, hfrom, by decide +kernel⟩

end Engine

end Patchbay
