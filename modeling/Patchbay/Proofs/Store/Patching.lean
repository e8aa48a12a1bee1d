-- Which source a destination receives: of the stored sources that send to its stream, the one
-- with the least key. That is told by the sources that are stored alone, not by how they came
-- there.
import Mathlib.Data.List.Nodup
import Patchbay.Proofs.Store.Changes

namespace Patchbay

/-! ## Calls in any order -/

/-- What a call leaves under its address, where `old` was. -/
def Change.leaves (old : Option Resource) : Change → Option Resource
  | insert r => some r
  | replace r => old.map fun _ => r
  | remove _ => none

namespace Store

variable {c d : Change}

/-- A call looks at what is under its address and touches nothing else. -/
theorem get?_change (s : Store) (c : Change) : (s.change c).2.get? =
    Function.update s.get? c.address (c.leaves (s.get? c.address)) := by
  cases c with
  | insert r => exact s.get?_put_eq r
  | replace r =>
    rw [change_replace, contains]
    simp only [Change.address, Change.leaves]
    cases h : s.get? r.address with
    | none => exact (Function.update_eq_self_iff.2 h.symm).symm
    | some old => exact s.get?_put_eq r
  | remove a =>
    rw [change_remove, contains]
    simp only [Change.address, Change.leaves]
    cases h : s.get? a with
    | none => exact (Function.update_eq_self_iff.2 h.symm).symm
    | some old => exact s.get?_erase_eq a

theorem change_comm (s : Store) (h : c.address ≠ d.address) :
    ((s.change c).2.change d).2 = ((s.change d).2.change c).2 := by
  apply eq_of_get?
  rw [get?_change, get?_change, get?_change, get?_change, Function.update_of_ne h.symm,
    Function.update_of_ne h, Function.update_comm h]

/-- Calls about different addresses can be made in any order. -/
theorem after_perm (s : Store) {cs ds : List Change} (hperm : cs.Perm ds)
    (hn : (cs.map Change.address).Nodup) : s.after cs = s.after ds := by
  refine hperm.foldl_eq' (fun c hc d hd t => ?_) s
  by_cases heq : c.address = d.address
  · rw [List.inj_on_of_nodup_map hn hc hd heq]
  · exact t.change_comm heq

end Store

/-! ## The order of keys -/

/-- No key comes before another that comes before it. -/
theorem Address.KeyLt.asymm {a b : Address} (h : a.KeyLt b) : ¬ b.KeyLt a := by
  intro hba
  rcases h with hlt | ⟨hhost, m, n, ha, hb, hlt⟩
  · rcases hba with hgt | ⟨hhost, -⟩
    · exact List.lt_asymm hlt hgt
    · rw [hhost] at hlt
      exact List.lt_irrefl _ hlt
  · rcases hba with hgt | ⟨-, n', m', hb', ha', hgt⟩
    · rw [hhost] at hgt
      exact List.lt_irrefl _ hgt
    · cases ha.symm.trans ha'
      cases hb.symm.trans hb'
      exact Nat.lt_asymm hlt hgt

namespace Store

/-! ## The sources of a store -/

/-- The source is stored under its key, and it sends to the stream. -/
def Sends (s : Store) (x : Source) (stream : String) : Prop :=
  s.get? (Resource.source x).address = some (.source x) ∧ x.streamAddress = stream

variable {s t : Store} {d : Destination} {x : Source}

theorem source?_eq_some_iff {r : Resource} : r.source? = some x ↔ r = .source x := by
  cases r <;> simp [Resource.source?]

/-- The sources are read off their own table. -/
theorem sources_eq (s : Store) : s.sources = (s.ofKind .source).filterMap Resource.source? := by
  unfold sources records ofKind table
  rw [List.filterMap_map, List.filterMap_map, List.filterMap_filter]
  refine List.filterMap_congr fun x _ => ?_
  rw [← x.own, Function.comp_apply]
  cases x.record <;> rfl

theorem mem_sources_iff :
    x ∈ s.sources ↔ s.get? (Resource.source x).address = some (.source x) := by
  unfold sources
  rw [List.mem_filterMap, ← mem_records_iff]
  constructor
  · rintro ⟨r, hr, hx⟩
    rwa [source?_eq_some_iff.1 hx] at hr
  · intro h
    exact ⟨_, h, rfl⟩

theorem pairwise_sources (s : Store) : s.sources.Pairwise fun x y =>
    (Resource.source x).address.KeyLt (Resource.source y).address := by
  unfold sources
  rw [List.pairwise_filterMap]
  refine s.pairwise_records.imp fun {a b} hlt x hx y hy => ?_
  rw [source?_eq_some_iff.1 hx, source?_eq_some_iff.1 hy] at hlt
  exact Address.keyLt_of_lt rfl hlt

/-! ## The source of a destination -/

theorem isPatched_iff : d.isPatched = true ↔ d.streamAddress ≠ "" := by
  simp [Destination.isPatched]

theorem patchedSource?_eq_none_iff : s.patchedSource? d = none ↔
    d.streamAddress = "" ∨ ∀ x, ¬ s.Sends x d.streamAddress := by
  unfold patchedSource?
  by_cases hd : d.streamAddress = ""
  · simp [isPatched_iff, hd]
  · simp only [isPatched_iff.2 hd, if_true, List.find?_eq_none, mem_sources_iff, hd, false_or,
      Sends, decide_eq_true_eq, not_and]

/-- Before the one that is found no source sends to the stream, and behind it the keys are
greater. -/
theorem first_of_patchedSource? (h : s.patchedSource? d = some x) :
    d.streamAddress ≠ "" ∧ s.Sends x d.streamAddress ∧ ∀ y, s.Sends y d.streamAddress →
      y = x ∨ (Resource.source x).address.KeyLt (Resource.source y).address := by
  unfold patchedSource? at h
  split at h
  case isFalse => cases h
  case isTrue hd =>
    obtain ⟨hstream, before, after, hsources, hbefore⟩ := List.find?_eq_some_iff_append.1 h
    have hmem : x ∈ s.sources := List.mem_of_find?_eq_some h
    refine ⟨isPatched_iff.1 hd, ⟨mem_sources_iff.1 hmem, of_decide_eq_true hstream⟩, ?_⟩
    rintro y ⟨hget, hy⟩
    have hy' := mem_sources_iff.2 hget
    rw [hsources, List.mem_append, List.mem_cons] at hy'
    rcases hy' with hy' | rfl | hy'
    · simpa [hy] using hbefore y hy'
    · exact .inl rfl
    · have hsorted := s.pairwise_sources
      rw [hsources, List.pairwise_append] at hsorted
      exact .inr (List.rel_of_pairwise_cons hsorted.2.1 hy')

theorem patchedSource?_eq_some_iff : s.patchedSource? d = some x ↔
    d.streamAddress ≠ "" ∧ s.Sends x d.streamAddress ∧ ∀ y, s.Sends y d.streamAddress →
      y = x ∨ (Resource.source x).address.KeyLt (Resource.source y).address := by
  constructor
  · exact first_of_patchedSource?
  · rintro ⟨hd, hx, hfirst⟩
    cases h : s.patchedSource? d with
    | none =>
      rcases patchedSource?_eq_none_iff.1 h with hempty | hnone
      · exact absurd hempty hd
      · exact absurd hx (hnone x)
    | some y =>
      obtain ⟨-, hy, hfirst'⟩ := first_of_patchedSource? h
      -- Of two sources that are both least, neither comes before the other.
      rcases hfirst y hy with rfl | hlt
      · rfl
      rcases hfirst' x hx with rfl | hgt
      · rfl
      · exact absurd hgt hlt.asymm

/-- Nothing but the table of sources is looked at. -/
theorem patchedSource?_congr (h : t.ofKind .source = s.ofKind .source) :
    t.patchedSource? d = s.patchedSource? d := by
  unfold patchedSource?
  rw [sources_eq, sources_eq, h]

/-- Whatever calls have changed a store, a destination receives nothing when it has no stream or
no stored source sends to it. Otherwise it receives the stored source with the least key of those
that do. No other table is looked at, and calls about different records may have come in any
order. -/
theorem a_destination_receives_the_first_source_of_its_stream (cs : List Change)
    (d : Destination) :
    let s := empty.after cs
    (s.patchedSource? d = none ↔
      d.streamAddress = "" ∨ ∀ x, ¬ s.Sends x d.streamAddress) ∧
    (∀ x, s.patchedSource? d = some x ↔ d.streamAddress ≠ "" ∧ s.Sends x d.streamAddress ∧
      ∀ y, s.Sends y d.streamAddress →
        y = x ∨ (Resource.source x).address.KeyLt (Resource.source y).address) ∧
    (∀ t : Store, t.ofKind .source = s.ofKind .source →
      t.patchedSource? d = s.patchedSource? d) ∧
    ∀ ds es : List Change, ds.Perm es → (ds.map Change.address).Nodup →
      (s.after ds).patchedSource? d = (s.after es).patchedSource? d := by
  intro s
  refine ⟨patchedSource?_eq_none_iff, fun _ => patchedSource?_eq_some_iff,
    fun _ => patchedSource?_congr, ?_⟩
  intro ds es hperm hn
  rw [s.after_perm hperm hn]

/-- The eighth slot is moved off the stream. Of the others the ninth comes before the tenth, and
both before a host with an accent, in whichever order they came. A destination at the key of the
source that is received makes no difference. -/
theorem a_destination_receives_the_ninth_slot_before_the_tenth :
    let source (host : String) (slot : UInt32) (stream : String) : Source :=
      ⟨host, slot, "", stream, "", true, 2, 240⟩
    let insert (x : Source) : Change := .insert (.source x)
    let cs := [insert (source "b" 8 "m"), .replace (.source (source "b" 8 ""))]
    let ds := [insert (source "é" 0 "m"), insert (source "b" 10 "m"), insert (source "b" 9 "m")]
    let s := (empty.after cs).after ds
    let t := (s.change (.insert (.destination ⟨"b", 9, "", "m", "", 2⟩))).2
    let d : Destination := ⟨"c", 0, "", "m", "", 2⟩
    ds.Perm ds.reverse ∧ (ds.map Change.address).Nodup ∧
    (empty.after cs).patchedSource? d = none ∧
    s.patchedSource? d = some (source "b" 9 "m") ∧ s.Sends (source "b" 10 "m") d.streamAddress ∧
    (Address.source ⟨"b", 9⟩).KeyLt (.source ⟨"b", 10⟩) ∧
    s.patchedSource? d = ((empty.after cs).after ds.reverse).patchedSource? d ∧
    t.ofKind .source = s.ofKind .source ∧ t.patchedSource? d = s.patchedSource? d := by
  intro source insert cs ds s t d
  have hperm : ds.Perm ds.reverse := (List.reverse_perm ds).symm
  have hn : (ds.map Change.address).Nodup := by decide
  have hnone : (empty.after cs).patchedSource? d = none := by decide +kernel
  have hninth : s.patchedSource? d = some (source "b" 9 "m") := by decide +kernel
  have htenth : s.Sends (source "b" 10 "m") d.streamAddress := ⟨by decide +kernel, rfl⟩
  have hsources : t.ofKind .source = s.ofKind .source := by decide +kernel
  obtain ⟨-, hfirst, hothers, -⟩ :=
    a_destination_receives_the_first_source_of_its_stream (cs ++ ds) d
  obtain ⟨-, -, -, horder⟩ := a_destination_receives_the_first_source_of_its_stream cs d
  obtain ⟨-, -, hleast⟩ := (hfirst _).1 hninth
  have hne : source "b" 10 "m" ≠ source "b" 9 "m" := by decide
  exact ⟨hperm, hn, hnone, hninth, htenth, (hleast _ htenth).resolve_left hne,
    horder ds ds.reverse hperm hn, hsources, hothers t hsources⟩

end Store

end Patchbay
