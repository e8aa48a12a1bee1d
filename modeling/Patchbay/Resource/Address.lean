-- What a resource is known by. A node is known by its host, every other
-- resource by its kind, its host and the slot that it fills there.
import Patchbay.Resource.Kind
import Patchbay.Text.Numeral

namespace Patchbay

/-- A slot on a host, counted from zero. -/
@[ext] structure SlotKey where
  host : String
  slot : UInt32
deriving DecidableEq

namespace SlotKey

/-- Slots are ordered by host, then by number. -/
instance : Ord SlotKey where
  compare := compareLex (compareOn host) (compareOn slot)

/-- The host, a slash and the slot. -/
def text (k : SlotKey) : String := s!"{k.host}/{Numeral.ofWord k.slot}"

/-- Slots in their order. -/
def sort (keys : List SlotKey) : List SlotKey :=
  keys.mergeSort fun a b => (compare a b).isLE

end SlotKey

/-- The identity of a resource: one kind, and the key that is proper to it. -/
inductive Address where
  | node (host : String)
  | source (key : SlotKey)
  | destination (key : SlotKey)
  | gpioInput (key : SlotKey)
  | gpioOutput (key : SlotKey)
deriving DecidableEq

/-- The address of a kind at a slot. A node fills no slot and keeps the host alone. -/
def Kind.at : Kind → SlotKey → Address
  | .node, k => .node k.host
  | .source, k => .source k
  | .destination, k => .destination k
  | .gpioInput, k => .gpioInput k
  | .gpioOutput, k => .gpioOutput k

namespace Address

def kind : Address → Kind
  | node _ => .node
  | source _ => .source
  | destination _ => .destination
  | gpioInput _ => .gpioInput
  | gpioOutput _ => .gpioOutput

def host : Address → String
  | node h => h
  | source k | destination k | gpioInput k | gpioOutput k => k.host

/-- The slot, where there is one. -/
def slot? : Address → Option UInt32
  | node _ => none
  | source k | destination k | gpioInput k | gpioOutput k => some k.slot

/-- The key in words, without the kind. -/
def keyText : Address → String
  | node h => h
  | source k | destination k | gpioInput k | gpioOutput k => k.text

/-- Addresses are ordered by kind, then by host, then by slot. -/
def order : Address → Address → Ordering :=
  compareLex (compareOn (·.kind.rank)) (compareLex (compareOn host) (compareOn slot?))

instance : Ord Address := ⟨order⟩

instance : Std.TransOrd Address :=
  inferInstanceAs (Std.TransCmp
    (compareLex (compareOn (·.kind.rank)) (compareLex (compareOn host) (compareOn slot?))))

theorem ext_parts {a b : Address} (hk : a.kind = b.kind) (hh : a.host = b.host)
    (hs : a.slot? = b.slot?) : a = b := by
  cases a <;> cases b <;> simp_all [kind, host, slot?, SlotKey.ext_iff]

instance : Std.LawfulEqOrd Address where
  eq_of_compare {a b} h := by
    obtain ⟨hk, hrest⟩ := compareLex_eq_eq.1 h
    obtain ⟨hh, hs⟩ := compareLex_eq_eq.1 hrest
    exact ext_parts (Kind.rank_inj.1 (Std.LawfulEqOrd.eq_of_compare hk))
      (Std.LawfulEqOrd.eq_of_compare hh) (Std.LawfulEqOrd.eq_of_compare hs)

end Address

end Patchbay
