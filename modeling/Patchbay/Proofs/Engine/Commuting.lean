-- Frames of records that have nothing to do with each other can change places. What one of
-- them does is told by the record under its address, and it touches no other, so neither
-- sees whether the other came first.
import Patchbay.Proofs.Engine.Contents

namespace Patchbay

/-- The address that a frame of a record is about, if the frame can be read. -/
def Frame.address? (f : Frame) : Option Address :=
  match f.type with
  | .resource k .delete => (f.decodeAddress k).toOption
  | .resource k _ => (f.decode k).toOption.map Resource.address
  | _ => none

/-- Two turns come to the same for what a frame is about. -/
structure Turn.SameFor (t u : Turn) (f : Frame) : Prop where
  result : t.result = u.result
  events : t.events = u.events
  entry : ∀ a, f.address? = some a → t.engine.store.get? a = u.engine.store.get? a

namespace Frame

variable {f : Frame} {k : Kind}

theorem exists_type_of_isResource (h : f.isResource = true) : ∃ k op, f.type = .resource k op := by
  unfold isResource at h
  split at h
  · next k op ht => exact ⟨k, op, ht⟩
  · cases h

theorem address?_of_decode {op : Operation} {r : Resource} (ht : f.type = .resource k op)
    (hop : op ≠ .delete) (hd : f.decode k = .ok r) : f.address? = some r.address := by
  unfold address?
  cases op with
  | delete => exact absurd rfl hop
  | add => rw [ht]; simp only [hd]; rfl
  | update => rw [ht]; simp only [hd]; rfl

theorem address?_of_decodeAddress {a : Address} (ht : f.type = .resource k .delete)
    (hd : f.decodeAddress k = .ok a) : f.address? = some a := by
  unfold address?
  rw [ht]
  simp only [hd]
  rfl

theorem Needs.address?_eq {a : Address} (h : f.Needs a) : f.address? = some a := by
  cases h with
  | delete ht hd => exact address?_of_decodeAddress ht hd
  | update ht hd => exact address?_of_decode ht (by decide) hd

end Frame

namespace Engine

variable {e : Engine} {f g : Frame}

/-! ## What a frame leaves alone -/

/-- A frame of a record changes nothing but the store. -/
theorem dispatch_engine (hf : f.isResource = true) :
    (e.dispatch f).engine = { e with store := (e.dispatch f).engine.store } := by
  obtain ⟨k, op, htype⟩ := Frame.exists_type_of_isResource hf
  refine dispatch_induction e f fun t ht => ?_
  cases ht with
  | failed => rfl
  | remarked => rfl
  | added => rfl
  | deleted => rfl
  | updated => rfl
  | alarm => rfl
  | next ht => rw [htype] at ht; cases ht
  | loaded ht => rw [htype] at ht; cases ht

/-- It leaves the other records alone. -/
theorem dispatch_elsewhere {b : Address} (hb : f.address? ≠ some b) :
    (e.dispatch f).engine.store.get? b = e.store.get? b := by
  revert hb
  refine dispatch_induction e f fun t ht => ?_
  intro hb
  cases ht with
  | failed => rfl
  | remarked => rfl
  | added _ ht hd =>
    rw [Frame.address?_of_decode ht (by decide) hd] at hb
    exact e.store.agreeBut_put _ b fun h => hb (h ▸ rfl)
  | deleted _ ht hd hr =>
    rw [Frame.address?_of_decodeAddress ht hd] at hb
    exact e.store.agreeBut_erase _ b fun h => hb (h ▸ rfl)
  | updated _ ht hd hr =>
    rw [Frame.address?_of_decode ht (by decide) hd] at hb
    exact e.store.agreeBut_put _ b fun h => hb (h ▸ rfl)
  | alarm => rfl
  | next => rfl
  | loaded => rfl

/-! ## What a frame looks at -/

/-- Whether an event is told depends on the handlers alone. -/
theorem events_deliver_congr {d e next prev : Engine} (h : d.handlers = e.handlers) (s t : Store)
    (ev : Event) : (prev.stay (d.deliver s ev)).events = (next.stay (e.deliver t ev)).events := by
  unfold deliver Handlers.deliver
  rw [h]
  cases e.handlers ev.category <;> rfl

theorem events_ite_congr {p : Prop} [Decidable p] {next prev : Engine} {xs ys us vs : List Effect}
    (hxs : (prev.stay xs).events = (next.stay us).events)
    (hys : (prev.stay ys).events = (next.stay vs).events) :
    (prev.stay (if p then xs else ys)).events = (next.stay (if p then us else vs)).events := by
  split
  · exact hxs
  · exact hys

variable {s t : Store}

theorem Remark.type_ne_resource {n : Note} {k : Kind} {op : Operation} (h : Remark e f n) :
    f.type ≠ .resource k op := by
  cases h with
  | absorbed ht => simp [ht]
  | pong ht => simp [ht]
  | rejected ht => simp [ht]
  | unknown ht => simp [ht]

/-- A frame that is refused is refused wherever its record is missing just so. -/
theorem Refusal.congr {err : ClientError} (href : Refusal { e with store := s } f err)
    (h : ∀ a, f.address? = some a → s.get? a = t.get? a) :
    Refusal { e with store := t } f err := by
  cases href with
  | unasked hc => exact .unasked hc
  | garbled hc hg => exact .garbled hc hg
  | missing hc hn hm =>
    have ha := hn.address?_eq
    exact .missing hc hn ((h _ ha).symm.trans hm)
  | unaskedAck ht hs => exact .unaskedAck ht hs
  | refused ht hr => exact .refused ht hr

/-- Where stores agree on the record that a frame is about, the frame does the same. -/
theorem dispatch_congr (hf : f.isResource = true)
    (h : ∀ a, f.address? = some a → s.get? a = t.get? a) :
    ({ e with store := s }.dispatch f).SameFor ({ e with store := t }.dispatch f) f := by
  obtain ⟨k, op, htype⟩ := Frame.exists_type_of_isResource hf
  refine dispatch_induction { e with store := s } f fun u hu => ?_
  have hput : ∀ r a, f.address? = some a → (s.put r).get? a = (t.put r).get? a := by
    intro r a ha
    rw [Store.get?_put, Store.get?_put, h a ha]
  cases hu with
  | failed href =>
    rw [(href.congr h).dispatch_eq]
    exact ⟨rfl, rfl, h⟩
  | remarked hn => exact absurd htype hn.type_ne_resource
  | added hc ht hd =>
    rw [(dispatch_resource (e := { e with store := t }) hc ht).trans (add_of_decode hd)]
    exact ⟨rfl, events_ite_congr (events_deliver_congr rfl ..) rfl, hput _⟩
  | deleted hc ht hd hr =>
    have ha := Frame.address?_of_decodeAddress ht hd
    rw [(dispatch_resource (e := { e with store := t }) hc ht).trans
      (delete_of_get? hd ((h _ ha).symm.trans hr))]
    refine ⟨rfl, events_ite_congr (events_deliver_congr rfl ..) rfl, ?_⟩
    intro b hb
    exact (Store.get?_erase ..).trans (h b hb ▸ (Store.get?_erase ..).symm)
  | updated hc ht hd hr =>
    have ha := Frame.address?_of_decode ht (by decide) hd
    rw [(dispatch_resource (e := { e with store := t }) hc ht).trans
      (update_of_get? hd ((h _ ha).symm.trans hr))]
    exact ⟨rfl, events_ite_congr rfl (events_ite_congr (events_deliver_congr rfl ..) rfl), hput _⟩
  | alarm _ ht => rw [htype] at ht; cases ht
  | next ht => rw [htype] at ht; cases ht
  | loaded ht => rw [htype] at ht; cases ht

/-! ## Two frames -/

/-- A frame does the same when another has come before that is not about its record. -/
theorem dispatch_after (hf : f.isResource = true) (hg : g.isResource = true)
    (h : ∀ a, f.address? = some a → g.address? ≠ some a) :
    (e.dispatch f).SameFor ((e.dispatch g).engine.dispatch f) f := by
  rw [dispatch_engine hg]
  exact dispatch_congr hf fun a ha => (dispatch_elsewhere (h a ha)).symm

/-- Under each address there is in the end what the frame left that is about it. -/
theorem get?_dispatch_comm (hf : f.isResource = true) (hg : g.isResource = true)
    (h : ∀ a, f.address? = some a → g.address? ≠ some a) (b : Address) :
    ((e.dispatch f).engine.dispatch g).engine.store.get? b =
      ((e.dispatch g).engine.dispatch f).engine.store.get? b := by
  by_cases hb : f.address? = some b
  · calc ((e.dispatch f).engine.dispatch g).engine.store.get? b
      _ = (e.dispatch f).engine.store.get? b := dispatch_elsewhere (h b hb)
      _ = _ := (dispatch_after hf hg h).entry b hb
  by_cases hc : g.address? = some b
  · calc ((e.dispatch f).engine.dispatch g).engine.store.get? b
      _ = (e.dispatch g).engine.store.get? b :=
        ((dispatch_after hg hf fun a ha ha' => h a ha' ha).entry b hc).symm
      _ = _ := (dispatch_elsewhere hb).symm
  · rw [dispatch_elsewhere hc, dispatch_elsewhere hb, dispatch_elsewhere hb, dispatch_elsewhere hc]

theorem engine_dispatch_comm (hf : f.isResource = true) (hg : g.isResource = true)
    (h : ∀ a, f.address? = some a → g.address? ≠ some a) :
    ((e.dispatch f).engine.dispatch g).engine = ((e.dispatch g).engine.dispatch f).engine := by
  have hstore := Store.eq_of_get? (funext fun b => get?_dispatch_comm (e := e) hf hg h b)
  calc ((e.dispatch f).engine.dispatch g).engine
    _ = { (e.dispatch f).engine with store := ((e.dispatch f).engine.dispatch g).engine.store } :=
      dispatch_engine hg
    _ = { e with store := ((e.dispatch g).engine.dispatch f).engine.store } := by
      rw [hstore, dispatch_engine (e := e) hf]
    _ = { (e.dispatch g).engine with
          store := ((e.dispatch g).engine.dispatch f).engine.store } := by
      rw [dispatch_engine (e := e) hg]
    _ = ((e.dispatch g).engine.dispatch f).engine := (dispatch_engine hf).symm

/-- Two frames of records, of which one cannot be read or which are about different addresses,
leave the same engine in either order. Each of them has the same result and tells of the same
events, whether the other came first or not. -/
theorem frames_of_different_records_commute (e : Engine) (f g : Frame) (hf : f.isResource = true)
    (hg : g.isResource = true)
    (h : f.address? = none ∨ g.address? = none ∨ f.address? ≠ g.address?) :
    let fg := (e.dispatch f).engine.dispatch g
    let gf := (e.dispatch g).engine.dispatch f
    fg.engine = gf.engine ∧
    (e.dispatch f).result = gf.result ∧ (e.dispatch g).result = fg.result ∧
    (e.dispatch f).events = gf.events ∧ (e.dispatch g).events = fg.events := by
  intro fg gf
  have hapart : ∀ a, f.address? = some a → g.address? ≠ some a := by
    intro a ha hb
    simp [ha, hb] at h
  have hfirst : (e.dispatch f).SameFor gf f := dispatch_after hf hg hapart
  have hsecond : (e.dispatch g).SameFor fg g :=
    dispatch_after hg hf fun a ha hb => hapart a hb ha
  exact ⟨engine_dispatch_comm hf hg hapart, hfirst.result, hsecond.result, hfirst.events,
    hsecond.events⟩

/-- One node goes, and one that is not there is to go. Whichever comes first, the first frame is
told and the second fails. -/
theorem frames_of_two_nodes_commute :
    let hs : Handlers := fun _ => some (.silent none)
    let node : Resource := .node ⟨"a", "b", "c", 1, 2, 3, 4⟩
    let e := (new hs).after (.start :: List.replicate 7 (.dispatch ⟨["ok"]⟩) ++
      [.dispatch ⟨["NODEADD", "a", "b", "c", "1", "2", "3", "4"]⟩])
    let f : Frame := ⟨["NODEDEL", "a"]⟩
    let g : Frame := ⟨["NODEDEL", "b"]⟩
    let fg := (e.dispatch f).engine.dispatch g
    let gf := (e.dispatch g).engine.dispatch f
    f.isResource = true ∧ g.isResource = true ∧ f.address? ≠ g.address? ∧
    fg.engine = gf.engine ∧ (e.dispatch f).result = gf.result ∧
    (e.dispatch g).result = fg.result ∧ (e.dispatch f).events = gf.events ∧
    (e.dispatch g).events = fg.events ∧
    gf.events = [.deleted node] ∧ fg.result = .error (.fault (.notFound (.node "b"))) := by
  intro hs node e f g fg gf
  have hf : f.isResource = true := by decide
  have hg : g.isResource = true := by decide
  have hne : f.address? ≠ g.address? := by decide
  obtain ⟨hengine, hfirst, hsecond, htold, hnone⟩ :=
    frames_of_different_records_commute e f g hf hg (.inr (.inr hne))
  have hdeleted : (e.dispatch f).events = [.deleted node] := by decide +kernel
  have hmissing : (e.dispatch g).result = .error (.fault (.notFound (.node "b"))) := by
    decide +kernel
  exact ⟨hf, hg, hne, hengine, hfirst, hsecond, htold, hnone, htold.symm.trans hdeleted,
    hsecond.symm.trans hmissing⟩

end Engine

end Patchbay
