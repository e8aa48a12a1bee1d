-- The five kinds of resource on an audio fabric, in the order in which a
-- controller streams them.

namespace Patchbay

/-- What a resource is. -/
inductive Kind where
  | node
  | source
  | destination
  | gpioInput
  | gpioOutput
deriving DecidableEq, Repr

namespace Kind

/-- Every kind, in order. -/
def all : List Kind := [node, source, destination, gpioInput, gpioOutput]

/-- The place of a kind in the order. -/
def rank : Kind → Nat
  | node => 0
  | source => 1
  | destination => 2
  | gpioInput => 3
  | gpioOutput => 4

/-- The short tag that frames carry. -/
def tag : Kind → String
  | node => "NODE"
  | source => "SRC"
  | destination => "DST"
  | gpioInput => "GPI"
  | gpioOutput => "GPO"

/-- The kind in words. -/
def text : Kind → String
  | node => "node"
  | source => "source"
  | destination => "destination"
  | gpioInput => "gpio input"
  | gpioOutput => "gpio output"

/-- The name of a kind in JSON. -/
def name : Kind → String
  | node => "node"
  | source => "source"
  | destination => "destination"
  | gpioInput => "gpio-input"
  | gpioOutput => "gpio-output"

/-- The kind with a JSON name. -/
def ofName? (s : String) : Option Kind := all.find? (·.name = s)

/-- Kinds in their order. -/
def sort (kinds : List Kind) : List Kind :=
  kinds.mergeSort fun a b => a.rank ≤ b.rank

@[simp] theorem rank_inj {a b : Kind} : a.rank = b.rank ↔ a = b := by
  cases a <;> cases b <;> simp [rank]

end Kind

end Patchbay
