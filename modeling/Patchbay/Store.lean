-- The records known of a fabric, at most one under each address. They are kept
-- with their addresses as keys and in the order of these: kind by kind, and within
-- a kind by host and slot. So each kind reads as a table of its own.
import Patchbay.Resource.Records

namespace Patchbay

/-- A record and the key that it is kept under. A record that takes the place of another
comes in under the key that is there. -/
@[ext] structure Entry where
  key : Address
  record : Resource
  /-- No record is kept under a key that is not its own. -/
  own : record.address = key
deriving DecidableEq

namespace Entry

/-- The entry of a record under its own key. -/
def of (r : Resource) : Entry := ⟨r.address, r, rfl⟩

/-- The entry with a record in place of the one that it holds, if it is kept under the key of
that record. -/
def overwrite (r : Resource) (x : Entry) : Entry :=
  if h : r.address = x.key then ⟨x.key, r, h⟩ else x

@[simp] theorem key_of (r : Resource) : (of r).key = r.address := rfl

@[simp] theorem record_of (r : Resource) : (of r).record = r := rfl

@[simp] theorem key_overwrite (r : Resource) (x : Entry) : (x.overwrite r).key = x.key := by
  unfold overwrite
  split <;> rfl

theorem record_overwrite (r : Resource) (x : Entry) :
    (x.overwrite r).record = if r.address = x.key then r else x.record := by
  unfold overwrite
  split <;> rfl

end Entry

/-- Puts an entry in its place, over the one with the same key. -/
def putInOrder (x : Entry) : List Entry → List Entry
  | [] => [x]
  | y :: ys =>
    match compare x.key y.key with
    | .lt => x :: y :: ys
    | .eq => x :: ys
    | .gt => y :: putInOrder x ys

/-- Entries stand in the order of their keys, no key twice. -/
def InOrder (xs : List Entry) : Prop := xs.Pairwise fun x y => compare x.key y.key = .lt

theorem mem_putInOrder {x y : Entry} {xs : List Entry} (h : y ∈ putInOrder x xs) :
    y = x ∨ y ∈ xs := by
  induction xs with
  | nil => simpa [putInOrder] using h
  | cons z zs ih =>
    rw [putInOrder] at h
    split at h
    · simpa using h
    · rcases List.mem_cons.1 h with h | h
      · exact Or.inl h
      · exact Or.inr (List.mem_cons_of_mem _ h)
    · rcases List.mem_cons.1 h with h | h
      · exact Or.inr (h ▸ List.mem_cons_self)
      · exact (ih h).imp_right (List.mem_cons_of_mem _)

theorem inOrder_putInOrder {x : Entry} {xs : List Entry} (h : InOrder xs) :
    InOrder (putInOrder x xs) := by
  induction xs with
  | nil => simp [putInOrder, InOrder]
  | cons y ys ih =>
    obtain ⟨hy, hys⟩ := List.pairwise_cons.1 h
    rw [putInOrder]
    split
    · next hlt =>
      refine List.pairwise_cons.2 ⟨fun z hz => ?_, h⟩
      rcases List.mem_cons.1 hz with rfl | hz
      · exact hlt
      · exact Std.TransCmp.lt_trans hlt (hy z hz)
    · next heq =>
      rw [← Std.LawfulEqOrd.eq_of_compare heq] at hy
      exact List.pairwise_cons.2 ⟨hy, hys⟩
    · next hgt =>
      refine List.pairwise_cons.2 ⟨fun z hz => ?_, ih hys⟩
      rcases mem_putInOrder hz with rfl | hz
      · exact Std.OrientedCmp.lt_of_gt hgt
      · exact hy z hz

theorem find?_putInOrder (a : Address) (x : Entry) (xs : List Entry) :
    (putInOrder x xs).find? (·.key = a) =
      if x.key = a then some x else xs.find? (·.key = a) := by
  induction xs with
  | nil => by_cases h : x.key = a <;> simp [putInOrder, h]
  | cons y ys ih =>
    rw [putInOrder]
    split
    · by_cases h : x.key = a <;> simp [h]
    · next heq =>
      have := Std.LawfulEqOrd.eq_of_compare heq
      by_cases h : x.key = a <;> simp_all
    · next hgt =>
      have hne : x.key ≠ y.key := by
        intro h
        have heq : compare y.key y.key = .eq := Std.ReflCmp.compare_self
        rw [h, heq] at hgt
        cases hgt
      by_cases hy : y.key = a
      · have : x.key ≠ a := hy ▸ hne
        simp [hy, this]
      · simp [hy, ih]

structure Store where
  entries : List Entry
  inOrder : InOrder entries
deriving DecidableEq

/-- How many records there are of each kind. -/
structure Stats where
  nodes : Nat
  sources : Nat
  destinations : Nat
  gpis : Nat
  gpos : Nat
deriving DecidableEq

namespace Store

def empty : Store := ⟨[], List.Pairwise.nil⟩

/-- The records, in the order of their keys. -/
def records (s : Store) : List Resource := s.entries.map Entry.record

/-- The record under an address. -/
def get? (s : Store) (a : Address) : Option Resource :=
  (s.entries.find? (·.key = a)).map Entry.record

/-- The store with a record under its address, whatever was there. -/
def put (s : Store) (r : Resource) : Store :=
  ⟨putInOrder (.of r) s.entries, inOrder_putInOrder s.inOrder⟩

/-- The store with a record in place of the one that has its address. No key changes. -/
def overwrite (s : Store) (r : Resource) : Store where
  entries := s.entries.map (Entry.overwrite r)
  inOrder := by
    apply List.pairwise_map.2
    simp only [Entry.key_overwrite]
    exact s.inOrder

/-- The store without the record under an address. -/
def erase (s : Store) (a : Address) : Store :=
  ⟨s.entries.filter (·.key ≠ a), s.inOrder.filter _⟩

@[simp] theorem get?_empty (a : Address) : empty.get? a = none := rfl

theorem get?_put (s : Store) (r : Resource) (a : Address) :
    (s.put r).get? a = if r.address = a then some r else s.get? a := by
  unfold get? put
  rw [find?_putInOrder, Entry.key_of]
  split <;> rfl

theorem get?_overwrite (s : Store) (r : Resource) (a : Address) :
    (s.overwrite r).get? a = if r.address = a then (s.get? a).map fun _ => r else s.get? a := by
  have hkey : (fun x : Entry => decide (x.key = a)) ∘ Entry.overwrite r =
      fun x => decide (x.key = a) := by
    funext x
    simp
  unfold get? overwrite
  rw [List.find?_map, hkey]
  cases hfind : s.entries.find? (·.key = a) with
  | none => simp
  | some x =>
    have hx : x.key = a := by simpa using List.find?_some hfind
    subst hx
    simp only [Option.map_some, Entry.record_overwrite]
    split <;> rfl

theorem get?_erase (s : Store) (a b : Address) :
    (s.erase a).get? b = if a = b then none else s.get? b := by
  simp only [get?, erase, List.find?_filter]
  by_cases h : a = b
  · subst h; simp
  · simp only [h, if_false]
    congr 2; funext x
    by_cases hx : x.key = b <;> simp_all [Ne.symm]

theorem address_of_get? {s : Store} {a : Address} {r : Resource} (h : s.get? a = some r) :
    r.address = a := by
  obtain ⟨x, hx, rfl⟩ := Option.map_eq_some_iff.1 h
  have hkey : x.key = a := by simpa using List.find?_some hx
  exact x.own.trans hkey

/-- The record under an address, or the fault that there is none. -/
def get (s : Store) (a : Address) : Except Fault Resource :=
  match s.get? a with
  | some r => .ok r
  | none => .error (.notFound a)

/-- Puts a record under its address and hands out the one that it displaces. -/
def insert (s : Store) (r : Resource) : Option Resource × Store :=
  (s.get? r.address, s.put r)

/-- Puts a record in the place of one with the same address, which it hands out. Where
there is none, nothing is put. -/
def replace (s : Store) (r : Resource) : Except Fault (Resource × Store) := do
  let old ← s.get r.address
  return (old, s.overwrite r)

/-- Takes the record under an address away and hands it out. -/
def remove (s : Store) (a : Address) : Except Fault (Resource × Store) := do
  let old ← s.get a
  return (old, s.erase a)

def contains (s : Store) (a : Address) : Bool := (s.get? a).isSome

/-- The table of one kind. -/
def table (s : Store) (k : Kind) : List Entry := s.entries.filter (·.key.kind = k)

/-- The records of one kind, in the order of their keys. -/
def ofKind (s : Store) (k : Kind) : List Resource := (s.table k).map Entry.record

def count (s : Store) (k : Kind) : Nat := (s.ofKind k).length

def isEmpty (s : Store) : Bool := Kind.all.all fun k => s.count k = 0

def stats (s : Store) : Stats where
  nodes := s.count .node
  sources := s.count .source
  destinations := s.count .destination
  gpis := s.count .gpioInput
  gpos := s.count .gpioOutput

/-- The sources, in the order of their keys. -/
def sources (s : Store) : List Source := s.records.filterMap Resource.source?

/-- The source whose stream a destination receives. Of several that send to the same
address it is the first. -/
def patchedSource? (s : Store) (d : Destination) : Option Source :=
  if d.isPatched then s.sources.find? (·.streamAddress = d.streamAddress) else none

end Store

end Patchbay
