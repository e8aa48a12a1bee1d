-- What an engine holds after a run in which nothing failed: the frames of
-- records, taken in order, tell all of it. How they are mixed with other frames,
-- and which of them come before the fabric is loaded, makes no difference.
import Patchbay.Proofs.Engine.History
import Patchbay.Proofs.Store

namespace Patchbay

/-! ## The frames of records -/

/-- A record in the place of one with the same address. Where there is none, nothing is
put. -/
def Replica.overwrite (m : Replica) (r : Resource) : Replica :=
  Function.update m r.address ((m r.address).map fun _ => r)

theorem Replica.overwrite_eq_put {m : Replica} {r old : Resource} (h : m r.address = some old) :
    m.overwrite r = m.put r := by
  rw [overwrite, h, Option.map_some, put]

namespace Frame

/-- What a frame of a record does to a plain table. A frame that cannot be read does
nothing. -/
def enter (m : Replica) (f : Frame) : Replica :=
  match f.type with
  | .resource k .add => (f.decode k).toOption.elim m m.put
  | .resource k .update => (f.decode k).toOption.elim m m.overwrite
  | .resource k .delete => (f.decodeAddress k).toOption.elim m m.erase
  | _ => m

def isResource (f : Frame) : Bool :=
  match f.type with
  | .resource _ _ => true
  | _ => false

theorem enter_of_not_isResource {f : Frame} (h : f.isResource = false) (m : Replica) :
    f.enter m = m := by
  unfold isResource at h
  unfold enter
  split at h
  · cases h
  · next hother =>
    split
    · next ht => exact absurd ht (hother _ _)
    · next ht => exact absurd ht (hother _ _)
    · next ht => exact absurd ht (hother _ _)
    · rfl

end Frame

namespace Engine

/-- The frame that an action takes, if it is one of a record. -/
def Action.resourceFrame? : Action → Option Frame
  | .dispatch f => if f.isResource then some f else none
  | _ => none

/-- The frames of records among actions, in order. -/
def resourceFrames (as : List Action) : List Frame := as.filterMap Action.resourceFrame?

/-! ## What they tell -/

/-- A frame that is taken does to the store what it does to a plain table, whether the
fabric is loaded or not. -/
theorem enter_dispatch {e : Engine} {f : Frame} (h : (e.dispatch f).result = .ok ()) :
    (e.dispatch f).engine.store.get? = f.enter e.store.get? := by
  revert h
  refine dispatch_induction e f fun t ht => ?_
  intro h
  unfold Frame.enter
  cases ht with
  | failed => cases h
  | remarked hn =>
    cases hn with
    | absorbed ht => simp only [ht]; rfl
    | pong ht => simp only [ht]; rfl
    | rejected ht => simp only [ht]; rfl
    | unknown ht => simp only [ht]; rfl
  | added _ ht hd =>
    simp only [ht, hd]
    exact Store.get?_put_eq ..
  | deleted _ ht hd hm =>
    simp only [ht, hd]
    exact Store.get?_erase_eq ..
  | updated _ ht hd hm =>
    simp only [ht, hd]
    exact (Store.get?_put_eq ..).trans (Replica.overwrite_eq_put hm).symm
  | alarm _ ht => simp only [ht]; rfl
  | next ht => simp only [ht]; rfl
  | loaded ht => simp only [ht]; rfl

theorem contents_after {e : Engine} {as : List Action}
    (h : ∀ t ∈ e.turns as, t.result = .ok ()) :
    (e.after as).store.get? = (resourceFrames as).foldl Frame.enter e.store.get? := by
  induction as generalizing e with
  | nil => rfl
  | cons a as ih =>
    obtain ⟨hfirst, hrest⟩ := List.forall_mem_cons.1 h
    have hone : (e.act a).engine.store.get? =
        (a.resourceFrame?.toList).foldl Frame.enter e.store.get? := by
      cases a with
      | start => rfl
      | dispatch f =>
        refine (enter_dispatch hfirst).trans ?_
        cases hf : f.isResource with
        | true => simp only [Action.resourceFrame?, hf]; rfl
        | false =>
          simp only [Action.resourceFrame?, hf]
          exact Frame.enter_of_not_isResource hf _
      | setHandler => rfl
      | disconnect => rfl
    have hframes : resourceFrames (a :: as) = a.resourceFrame?.toList ++ resourceFrames as := by
      unfold resourceFrames
      cases hf : a.resourceFrame? <;> simp [hf]
    rw [after_cons, hframes, List.foldl_append, ← hone]
    exact ih hrest

/-- After any run of a new engine in which nothing failed, above all a start and then
frames, the store holds what the frames of records put, overwrite and erase in empty
tables. So two such runs with the same frames of records end with the same store. -/
theorem the_resource_frames_alone_tell_the_records (hs : Handlers) (as : List Action)
    (hok : ∀ t ∈ (new hs).turns as, t.result = .ok ()) :
    ((new hs).after as).store.get? = (resourceFrames as).foldl Frame.enter Replica.empty ∧
    ∀ (hs' : Handlers) (bs : List Action), (∀ t ∈ (new hs').turns bs, t.result = .ok ()) →
      resourceFrames as = resourceFrames bs →
      ((new hs).after as).store = ((new hs').after bs).store := by
  refine ⟨contents_after hok, ?_⟩
  intro hs' bs hok' hframes
  apply Store.eq_of_get?
  rw [contents_after hok, contents_after hok', hframes]
  rfl

/-- A node and a source come while the fabric is loading, or else after it is loaded and
between other frames. -/
theorem the_resource_frames_alone_tell_of_a_source :
    let hs : Handlers := Handlers.none
    let node : Action := .dispatch ⟨["NODEADD", "a", "b", "c", "1", "2", "3", "4"]⟩
    let source : Action := .dispatch ⟨["SRCADD", "a", "0", "b", "c", "d", "1", "2", "3"]⟩
    let ok : Action := .dispatch ⟨["ok"]⟩
    let as := [.start, node, ok, source]
    let bs := .start :: List.replicate 7 ok ++ [node, .dispatch ⟨["pong"]⟩, source,
      .dispatch ⟨["error"]⟩]
    (∀ t ∈ (new hs).turns as, t.result = .ok ()) ∧ (∀ t ∈ (new hs).turns bs, t.result = .ok ()) ∧
    resourceFrames as = resourceFrames bs ∧
    ((new hs).after as).store.get? = (resourceFrames as).foldl Frame.enter Replica.empty ∧
    ((new hs).after as).store = ((new hs).after bs).store := by
  intro hs node source ok as bs
  have has : ∀ t ∈ (new hs).turns as, t.result = .ok () := by decide
  have hbs : ∀ t ∈ (new hs).turns bs, t.result = .ok () := by decide
  have hframes : resourceFrames as = resourceFrames bs := by decide
  obtain ⟨hone, htwo⟩ := the_resource_frames_alone_tell_the_records hs as has
  exact ⟨has, hbs, hframes, hone, htwo hs bs hbs hframes⟩

end Engine

end Patchbay
