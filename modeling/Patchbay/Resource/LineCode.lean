-- The state of the five lines of a GPIO slot, one character a line, the first
-- line first. In a reported state l means asserted. In a state to be written
-- l asserts a line, h releases it and x leaves it as it is.
import Patchbay.Fault

namespace Patchbay

/-- A character with a mark of its own: any of the ASCII characters after the blank. -/
def isGraphic (c : Char) : Bool := '\x21' ≤ c && c ≤ '\x7e'

theorem isGraphic_of_isDigit {c : Char} (h : c.isDigit) : isGraphic c := by
  simp only [Char.isDigit, Bool.and_eq_true, decide_eq_true_eq] at h
  simp only [isGraphic, Bool.and_eq_true, decide_eq_true_eq]
  exact ⟨Char.le_trans (by decide) h.1, Char.le_trans h.2 (by decide)⟩

/-- Five characters, one for each line. -/
structure LineCode where
  text : String
  length_eq : text.toList.length = 5
  graphic : ∀ c ∈ text.toList, isGraphic c
deriving DecidableEq

namespace LineCode

/-- How many lines a slot has. -/
def lines : Nat := 5

/-- Reads a code of any characters that have a mark of their own. -/
def ofText? (s : String) : Except Fault LineCode :=
  if h : s.toList.length = 5 ∧ s.toList.all isGraphic then .ok ⟨s, h.1, List.all_eq_true.1 h.2⟩
  else .error (.badCode s)

theorem ofText?_text (c : LineCode) : ofText? c.text = .ok c := by
  rw [ofText?, dif_pos ⟨c.length_eq, List.all_eq_true.2 c.graphic⟩]

/-- Whether a character says what to do with a line. -/
def isOrder (c : Char) : Bool := c == 'l' || c == 'h' || c == 'x'

/-- Whether the code can be written to a slot. -/
def isMask (c : LineCode) : Bool := c.text.toList.all isOrder

/-- Reads a code that can be written to a slot. -/
def mask? (s : String) : Except Fault LineCode := do
  let c ← ofText? s
  if c.isMask then pure c else throw (.badCode s)

/-- What a code that moves one line holds at line `i`. -/
def orderAt (bit : Nat) (state : Bool) (i : Nat) : Char :=
  if i = bit then (if state then 'l' else 'h') else 'x'

theorem isOrder_orderAt (bit : Nat) (state : Bool) (i : Nat) :
    isOrder (orderAt bit state i) = true := by
  unfold orderAt; split <;> cases state <;> rfl

theorem isGraphic_of_isOrder {c : Char} (h : isOrder c = true) : isGraphic c = true := by
  simp only [isOrder, Bool.or_eq_true, beq_iff_eq] at h
  rcases h with (rfl | rfl) | rfl <;> rfl

/-- The code that moves one line and leaves the other four. -/
def moving (bit : Nat) (state : Bool) : LineCode where
  text := String.ofList ((List.range 5).map (orderAt bit state))
  length_eq := by simp
  graphic := by
    intro c hc
    rw [String.toList_ofList, List.mem_map] at hc
    obtain ⟨i, -, rfl⟩ := hc
    exact isGraphic_of_isOrder (isOrder_orderAt ..)

/-- The code that moves line `bit`, when there is such a line. -/
def bitMask? (bit : Nat) (state : Bool) : Except Fault LineCode :=
  if bit < lines then .ok (moving bit state) else .error (.badBit bit)

/-- Whether line `bit` is asserted. A capital L counts too. -/
def bitState? (c : LineCode) (bit : Nat) : Except Fault Bool :=
  match c.text.toList[bit]? with
  | some ch => .ok (ch == 'l' || ch == 'L')
  | none => .error (.badBit bit)

end LineCode

end Patchbay
