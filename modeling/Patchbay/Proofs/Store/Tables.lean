-- The records of each kind are a table of their own. Its keys go up, hosts by their
-- bytes and then slots by their numbers, and they are just the keys that are found.
import Patchbay.Proofs.Store
import Patchbay.Proofs.Text.Order

namespace Patchbay

/-! ## The order of keys -/

namespace Address

variable {a b : Address}

/-- One key comes before another: by the bytes of the host, or on the same host by the number
of the slot. Nodes have no slots, so their hosts alone decide. -/
def KeyLt (a b : Address) : Prop :=
  Utf8.write a.host < Utf8.write b.host ∨
    a.host = b.host ∧ ∃ m n, a.slot? = some m ∧ b.slot? = some n ∧ m.toNat < n.toNat

theorem slot?_eq_none_iff : a.slot? = none ↔ a.kind = .node := by
  cases a <;> simp [slot?, kind]

/-- Within a kind, addresses stand in the order of their keys. -/
theorem keyLt_of_lt (hkind : a.kind = b.kind) (h : compare a b = .lt) : a.KeyLt b := by
  rcases Ordering.then_eq_lt.1 h with hrank | ⟨-, hkey⟩
  · have hlt : a.kind.rank < b.kind.rank := Nat.compare_eq_lt.1 hrank
    rw [hkind] at hlt
    omega
  rcases Ordering.then_eq_lt.1 hkey with hhost | ⟨hhost, hslot⟩
  · exact Or.inl (Utf8.write_lt_write (compareOfLessAndEq_eq_lt.1 hhost))
  · have hnone : a.slot? = none ↔ b.slot? = none := by
      rw [slot?_eq_none_iff, slot?_eq_none_iff, hkind]
    unfold compareOn at hslot
    cases ha : a.slot? with
    | none =>
      rw [ha, hnone.1 ha] at hslot
      cases hslot
    | some m =>
      cases hb : b.slot? with
      | none =>
        rw [hnone.2 hb] at ha
        cases ha
      | some n =>
        rw [ha, hb] at hslot
        have hlt : m < n := Std.compare_eq_lt.1 hslot
        exact Or.inr ⟨Std.LawfulEqOrd.eq_of_compare hhost, m, n, ha, hb, hlt⟩

end Address

/-! ## Keys -/

/-- How many records of one kind there are. -/
def Stats.of (s : Stats) : Kind → Nat
  | .node => s.nodes
  | .source => s.sources
  | .destination => s.destinations
  | .gpioInput => s.gpis
  | .gpioOutput => s.gpos

namespace Store

variable {s t : Store} {k : Kind} {a : Address} {r : Resource}

/-- The keys of one kind under which there are records, in their order. -/
def keys (s : Store) (k : Kind) : List Address := (s.table k).map Entry.key

/-- Each record stands under its own address, whatever has taken the place of what. -/
theorem keys_eq (s : Store) (k : Kind) : s.keys k = (s.ofKind k).map Resource.address := by
  unfold keys ofKind
  rw [List.map_map]
  exact List.map_congr_left fun x _ => x.own.symm

theorem mem_keys_iff : a ∈ s.keys k ↔ a.kind = k ∧ s.contains a = true := by
  rw [keys_eq, contains, List.mem_map, Option.isSome_iff_exists]
  constructor
  · rintro ⟨r, hr, rfl⟩
    obtain ⟨hkind, hget⟩ := mem_ofKind_iff.1 hr
    exact ⟨hkind, r, hget⟩
  · rintro ⟨hkind, r, hget⟩
    have haddress := address_of_get? hget
    subst haddress
    exact ⟨r, mem_ofKind_iff.2 ⟨hkind, hget⟩, rfl⟩

/-- The keys of a kind are in their order, no key twice. -/
theorem pairwise_keys (s : Store) (k : Kind) : (s.keys k).Pairwise (compare · · = .lt) := by
  apply List.pairwise_map.2
  exact s.inOrder.filter _

/-- What is found under the addresses of a kind tells the table of the kind. -/
theorem ofKind_eq_of_get? (h : ∀ a, a.kind = k → s.get? a = t.get? a) :
    s.ofKind k = t.ofKind k := by
  have htable : s.table k = t.table k := by
    refine InOrder.ext (s.inOrder.filter _) (t.inOrder.filter _) fun x => ?_
    show x ∈ s.table k ↔ x ∈ t.table k
    rw [mem_table_iff, mem_table_iff]
    apply and_congr_right
    intro hkind
    rw [h x.key hkind]
  unfold ofKind
  rw [htable]

theorem count_eq (s : Store) (k : Kind) : s.count k = (s.keys k).length := by
  rw [keys_eq, List.length_map]
  rfl

theorem stats_of (s : Store) (k : Kind) : s.stats.of k = s.count k := by
  cases k <;> rfl

theorem isEmpty_iff : s.isEmpty = true ↔ ∀ a, s.contains a = false := by
  have hcount : s.isEmpty = true ↔ ∀ k, s.keys k = [] := by
    unfold isEmpty
    simp only [List.all_eq_true, decide_eq_true_iff, count_eq, List.length_eq_zero_iff]
    constructor
    · intro h k
      exact h k (by cases k <;> decide)
    · intro h k _
      exact h k
  rw [hcount]
  constructor
  · intro h a
    by_contra hcontains
    have hmem : a ∈ s.keys a.kind := mem_keys_iff.2 ⟨rfl, by simpa using hcontains⟩
    rw [h] at hmem
    cases hmem
  · intro h k
    apply List.eq_nil_iff_forall_not_mem.2
    intro a ha
    have hcontains := (mem_keys_iff.1 ha).2
    rw [h a] at hcontains
    cases hcontains

/-- Each kind of record is a sorted table, and all ways to ask what is in it agree. -/
structure Tables (s : Store) : Prop where
  /-- A record is found under its own address and no other. -/
  own : ∀ a r, s.get? a = some r → r.address = a
  keys : ∀ k, s.keys k = (s.ofKind k).map Resource.address
  /-- A table has the records of its kind that are found. -/
  mem : ∀ k r, r ∈ s.ofKind k ↔ r.kind = k ∧ s.get? r.address = some r
  increasing : ∀ k, (s.keys k).Pairwise Address.KeyLt
  nodup : ∀ k, (s.keys k).Nodup
  present : ∀ k a, a ∈ s.keys k ↔ a.kind = k ∧ s.contains a = true
  contains : ∀ a, s.contains a = (s.get? a).isSome
  count : ∀ k, s.count k = (s.keys k).length
  stats : ∀ k, s.stats.of k = (s.keys k).length
  isEmpty : s.isEmpty = true ↔ ∀ a, s.contains a = false

theorem tables (s : Store) : s.Tables where
  own _ _ := address_of_get?
  keys := s.keys_eq
  mem _ _ := mem_ofKind_iff
  increasing k := (s.pairwise_keys k).imp_of_mem fun ha hb hlt =>
    Address.keyLt_of_lt ((mem_keys_iff.1 ha).1.trans (mem_keys_iff.1 hb).1.symm) hlt
  nodup k := (s.pairwise_keys k).imp Address.ne_of_lt
  present _ _ := mem_keys_iff
  contains _ := rfl
  count := s.count_eq
  stats k := (s.stats_of k).trans (s.count_eq k)
  isEmpty := isEmpty_iff

end Store

end Patchbay
