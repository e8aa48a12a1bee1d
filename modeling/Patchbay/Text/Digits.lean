-- Digits of a base of at most sixteen, as they stand in numbers and escapes. A
-- number that may not pass a limit is read no further than the digit with which
-- it does, so however long it is it never grows.

namespace Patchbay.Text

/-- The value of a hexadecimal digit, in either case. -/
def hexDigit? (c : Char) : Option Nat :=
  if '0' ≤ c ∧ c ≤ '9' then some (c.toNat - '0'.toNat)
  else if 'a' ≤ c ∧ c ≤ 'f' then some (c.toNat - 'a'.toNat + 10)
  else if 'A' ≤ c ∧ c ≤ 'F' then some (c.toNat - 'A'.toNat + 10)
  else none

/-- The value of hexadecimal digits, the first being the highest. -/
def hexValue? (cs : List Char) : Option Nat :=
  cs.foldlM (fun n c => (hexDigit? c).map (16 * n + ·)) 0

/-- The character of a number, which may be out of range or belong to a surrogate. -/
def charOf? (n : Nat) : Option Char :=
  if n.isValidChar then some (Char.ofNat n) else none

/-! ## Numbers with a limit -/

/-- The value of a digit of a base. -/
def digit? (base : Nat) (c : Char) : Option Nat := (hexDigit? c).filter (· < base)

/-- The value of digits that come after others of value `n`, when it is at most `limit`. -/
def upToFrom? (base limit n : Nat) : List Char → Option Nat
  | [] => some n
  | c :: cs => do
    let d ← digit? base c
    if base * n + d ≤ limit then upToFrom? base limit (base * n + d) cs else none

/-- The value of digits, the first being the highest, when it is at most `limit`. -/
def upTo? (base limit : Nat) (cs : List Char) : Option Nat := upToFrom? base limit 0 cs

theorem digit?_ten (c : Char) :
    digit? 10 c = if c.isDigit then some (c.toNat - '0'.toNat) else none := by
  have hc : c.isDigit = true ↔ '0' ≤ c ∧ c ≤ '9' := by
    simp only [Char.isDigit, Bool.and_eq_true, decide_eq_true_eq, ge_iff_le]
    exact Iff.rfl
  unfold digit? hexDigit?
  by_cases h : '0' ≤ c ∧ c ≤ '9'
  · have h9 : c.toNat ≤ 57 := h.2
    have : c.toNat - 48 < 10 := by omega
    simp [h, hc.2 h, Option.filter, this]
  · have hn : c.isDigit = false := by
      cases hd : c.isDigit
      · rfl
      · exact absurd (hc.1 hd) h
    simp only [h, hn, if_false]
    split
    · simp [Option.filter]
    · split <;> simp [Option.filter]

theorem le_ofDigitChars (cs : List Char) (n : Nat) : n ≤ Nat.ofDigitChars 10 cs n := by
  induction cs generalizing n with
  | nil => simp
  | cons c cs ih =>
    rw [Nat.ofDigitChars_cons]
    have := ih (10 * n + (c.toNat - '0'.toNat))
    omega

theorem upToFrom?_ten {limit n : Nat} (cs : List Char) (h : n ≤ limit) :
    upToFrom? 10 limit n cs =
      if cs.all Char.isDigit ∧ Nat.ofDigitChars 10 cs n ≤ limit
      then some (Nat.ofDigitChars 10 cs n) else none := by
  induction cs generalizing n with
  | nil => simp [upToFrom?, h]
  | cons c cs ih =>
    simp only [upToFrom?, digit?_ten]
    by_cases hc : c.isDigit
    · simp only [hc, if_true, bind, Option.bind_some]
      by_cases hl : 10 * n + (c.toNat - '0'.toNat) ≤ limit
      · rw [if_pos hl, ih hl]
        simp [hc, Nat.ofDigitChars_cons]
      · have := le_ofDigitChars cs (10 * n + (c.toNat - '0'.toNat))
        rw [if_neg hl, if_neg]
        rw [Nat.ofDigitChars_cons]
        omega
    · simp [hc]

/-- Of decimal digits the number up to a limit is their number, if that is no greater. -/
theorem upTo?_ten (limit : Nat) (cs : List Char) :
    upTo? 10 limit cs =
      if cs.all Char.isDigit ∧ Nat.ofDigitChars 10 cs 0 ≤ limit
      then some (Nat.ofDigitChars 10 cs 0) else none :=
  upToFrom?_ten cs (Nat.zero_le limit)

end Patchbay.Text
