-- A store is nothing but what it gives under each address: stores that give
-- the same record under every address are the same. So what a store holds can
-- be told by a plain function of addresses.
import Mathlib.Logic.Function.Basic
import Patchbay.Store

namespace Patchbay

theorem Address.ne_of_lt {a b : Address} (h : compare a b = .lt) : a ≠ b := by
  rintro rfl
  exact Std.OrientedCmp.not_lt_of_lt h h

/-- An entry is told by its record. -/
theorem Entry.record_inj {x y : Entry} : x.record = y.record ↔ x = y := by
  constructor
  · intro h
    have hkey : x.key = y.key := by rw [← x.own, ← y.own, h]
    exact Entry.ext hkey h
  · rintro rfl
    rfl

/-- Entries in order give each of them under its own key. -/
theorem find?_of_mem {xs : List Entry} {x : Entry} (ho : InOrder xs) (hx : x ∈ xs) :
    xs.find? (·.key = x.key) = some x := by
  induction xs with
  | nil => cases hx
  | cons y ys ih =>
    obtain ⟨hy, hys⟩ := List.pairwise_cons.1 ho
    rcases List.mem_cons.1 hx with rfl | hx
    · simp
    · have hne : y.key ≠ x.key := Address.ne_of_lt (hy x hx)
      rw [List.find?_cons_of_neg (by simpa using hne)]
      exact ih hys hx

theorem InOrder.nodup {xs : List Entry} (h : InOrder xs) : xs.Nodup := by
  refine h.imp fun {x y} hlt heq => ?_
  exact Address.ne_of_lt hlt (congrArg Entry.key heq)

/-- Which entries there are tells in what order they stand. -/
theorem InOrder.ext {xs ys : List Entry} (hx : InOrder xs) (hy : InOrder ys)
    (h : ∀ x, x ∈ xs ↔ x ∈ ys) : xs = ys := by
  have hperm : xs.Perm ys := (List.perm_ext_iff_of_nodup hx.nodup hy.nodup).2 h
  refine hperm.eq_of_pairwise (fun x y _ _ hxy hyx => ?_) hx hy
  exact absurd hxy (Std.OrientedCmp.not_lt_of_lt hyx)

namespace Store

theorem mem_entries_iff (s : Store) (x : Entry) :
    x ∈ s.entries ↔ s.get? x.key = some x.record := by
  unfold get?
  constructor
  · intro hx
    rw [find?_of_mem s.inOrder hx, Option.map_some]
  · intro h
    obtain ⟨y, hy, hrecord⟩ := Option.map_eq_some_iff.1 h
    rw [← Entry.record_inj.1 hrecord]
    exact List.mem_of_find?_eq_some hy

theorem mem_records_iff (s : Store) (r : Resource) :
    r ∈ s.records ↔ s.get? r.address = some r := by
  unfold records
  rw [List.mem_map]
  constructor
  · rintro ⟨x, hx, rfl⟩
    rw [x.own]
    exact (s.mem_entries_iff x).1 hx
  · intro h
    exact ⟨.of r, (s.mem_entries_iff (.of r)).2 h, rfl⟩

/-- The records stand in the order of their own addresses. -/
theorem pairwise_records (s : Store) :
    s.records.Pairwise (compare ·.address ·.address = .lt) := by
  apply List.pairwise_map.2
  simp only [Entry.own]
  exact s.inOrder

theorem mem_table_iff {s : Store} {k : Kind} {x : Entry} :
    x ∈ s.table k ↔ x.key.kind = k ∧ s.get? x.key = some x.record := by
  unfold table
  rw [List.mem_filter, mem_entries_iff, decide_eq_true_iff, and_comm]

theorem mem_ofKind_iff {s : Store} {k : Kind} {r : Resource} :
    r ∈ s.ofKind k ↔ r.kind = k ∧ s.get? r.address = some r := by
  unfold ofKind
  rw [List.mem_map]
  constructor
  · rintro ⟨x, hx, rfl⟩
    rw [Resource.kind, x.own]
    exact mem_table_iff.1 hx
  · intro h
    exact ⟨.of r, mem_table_iff.2 h, rfl⟩

/-- Stores that give the same record under every address are the same. -/
theorem eq_of_get? {s t : Store} (h : s.get? = t.get?) : s = t := by
  have hentries : s.entries = t.entries := by
    refine s.inOrder.ext t.inOrder fun x => ?_
    rw [mem_entries_iff, mem_entries_iff, h]
  cases s
  cases t
  cases hentries
  rfl

/-- Where there is a record to take the place of, it makes no difference whose key is kept. -/
theorem overwrite_eq_put {s : Store} {r old : Resource} (h : s.get? r.address = some old) :
    s.overwrite r = s.put r := by
  apply eq_of_get?
  funext a
  rw [get?_overwrite, get?_put]
  split
  case isTrue ha => rw [← ha, h, Option.map_some]
  case isFalse => rfl

theorem mem_records_of_put {s : Store} {r x : Resource} (hx : x ∈ (s.put r).records) :
    x = r ∨ x ∈ s.records := by
  rw [mem_records_iff, get?_put] at hx
  split at hx
  · exact .inl (Option.some.inj hx).symm
  · exact .inr ((s.mem_records_iff x).2 hx)

theorem mem_records_of_erase {s : Store} {a : Address} {x : Resource}
    (hx : x ∈ (s.erase a).records) : x ∈ s.records := by
  rw [mem_records_iff, get?_erase] at hx
  split at hx
  · cases hx
  · exact (s.mem_records_iff x).2 hx

theorem get_of_get? {s : Store} {a : Address} {r : Resource} (h : s.get? a = some r) :
    s.get a = .ok r := by
  rw [get, h]

theorem get_of_none {s : Store} {a : Address} (h : s.get? a = none) :
    s.get a = .error (.notFound a) := by
  rw [get, h]

theorem get_eq_error_iff {s : Store} {a : Address} {err : Fault} :
    s.get a = .error err ↔ s.get? a = none ∧ err = .notFound a := by
  constructor
  · intro h
    cases hget : s.get? a with
    | some r => cases (get_of_get? hget).symm.trans h
    | none =>
      cases (get_of_none hget).symm.trans h
      exact ⟨rfl, rfl⟩
  · rintro ⟨hget, rfl⟩
    exact get_of_none hget

@[simp] theorem get_put_self (s : Store) (r : Resource) : (s.put r).get r.address = .ok r :=
  get_of_get? (by rw [get?_put, if_pos rfl])

/-- The stores give the same under every address but one. -/
def AgreeBut (s t : Store) (a : Address) : Prop := ∀ b, b ≠ a → t.get? b = s.get? b

theorem agreeBut_put (s : Store) (r : Resource) : s.AgreeBut (s.put r) r.address := by
  intro b hb
  rw [get?_put, if_neg (Ne.symm hb)]

theorem agreeBut_erase (s : Store) (a : Address) : s.AgreeBut (s.erase a) a := by
  intro b hb
  rw [get?_erase, if_neg (Ne.symm hb)]

end Store

/-! ## Replicas -/

/-- Records under their addresses as someone keeps them who has no store: a table for each
kind, which holds nothing where it gives nothing. -/
abbrev Replica : Type := Address → Option Resource

namespace Replica

def empty : Replica := fun _ => none

/-- A record under its own address, whatever was there. -/
def put (m : Replica) (r : Resource) : Replica := Function.update m r.address (some r)

def erase (m : Replica) (a : Address) : Replica := Function.update m a none

/-- To put a record where it is already changes nothing. -/
theorem put_eq_self {m : Replica} {r : Resource} (h : m r.address = some r) : m.put r = m := by
  rw [put, ← h, Function.update_eq_self]

end Replica

namespace Store

theorem get?_put_eq (s : Store) (r : Resource) : (s.put r).get? = Replica.put s.get? r := by
  funext a
  rw [get?_put, Replica.put, Function.update_apply]
  simp only [eq_comm]

theorem get?_erase_eq (s : Store) (a : Address) : (s.erase a).get? = Replica.erase s.get? a := by
  funext b
  rw [get?_erase, Replica.erase, Function.update_apply]
  simp only [eq_comm]

end Store

end Patchbay
