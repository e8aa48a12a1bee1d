-- The numerals that are read, and the words that they denote. The numeral written for a
-- word reads as that word, up to the greatest one, and is made of digits alone.
import Patchbay.Text.Numeral

namespace Patchbay.Numeral

theorem isDigit_of_mem_toDigits {n : Nat} {c : Char} (h : c ∈ Nat.toDigits 10 n) : c.isDigit :=
  Nat.isDigit_of_mem_toDigits (by decide) (by decide) h

theorem isDigit_of_mem_ofWord {n : UInt32} {c : Char} (h : c ∈ (ofWord n).toList) : c.isDigit := by
  rw [ofWord, write, String.toList_ofList] at h
  exact isDigit_of_mem_toDigits h

theorem unsigned_of_isDigit {cs : List Char} (h : ∀ c ∈ cs, c.isDigit) : unsigned cs = cs := by
  unfold unsigned
  split
  · exact absurd (h '+' List.mem_cons_self) (by decide)
  · rfl

theorem upTo?_write {n limit : Nat} (h : n ≤ limit) : upTo? limit (write n) = some n := by
  have hdigit : ∀ c ∈ Nat.toDigits 10 n, c.isDigit := fun _ => isDigit_of_mem_toDigits
  rw [upTo?, write, String.toList_ofList, unsigned_of_isDigit hdigit, if_neg Nat.toDigits_ne_nil,
    Text.upTo?_ten, Nat.ofDigitChars_ten_toDigits, if_pos ⟨List.all_eq_true.2 hdigit, h⟩]

/-- The numeral written for a number tells the number. -/
theorem write_inj {m n : Nat} : write m = write n ↔ m = n := by
  constructor
  · intro h
    have hread := congrArg (upTo? (m + n)) h
    rw [upTo?_write (Nat.le_add_right m n), upTo?_write (Nat.le_add_left n m)] at hread
    exact Option.some.inj hread
  · rintro rfl
    rfl

theorem word?_ofWord (n : UInt32) : word? (ofWord n) = some n := by
  have hle : n.toNat ≤ UInt32.size - 1 := Nat.le_sub_one_of_lt n.toNat_lt_size
  rw [word?, ofWord, upTo?_write hle, Option.map_some, UInt32.ofNat_toNat]

/-- The numeral written for a word tells the word. -/
theorem ofWord_inj {m n : UInt32} : ofWord m = ofWord n ↔ m = n := by
  constructor
  · intro h
    have hread := congrArg word? h
    rw [word?_ofWord, word?_ofWord] at hread
    exact Option.some.inj hread
  · rintro rfl
    rfl

/-- A numeral begins with a digit. -/
theorem exists_toDigits_cons (n : Nat) : ∃ d ds, Nat.toDigits 10 n = d :: ds ∧ d.isDigit := by
  obtain ⟨d, ds, hds⟩ := List.exists_cons_of_ne_nil (Nat.toDigits_ne_nil (n := n) (b := 10))
  have hd : d ∈ Nat.toDigits 10 n := hds ▸ List.mem_cons_self
  exact ⟨d, ds, hds, isDigit_of_mem_toDigits hd⟩

/-- The numeral written for a number other than 0 begins with no 0. -/
theorem toDigits_ne_zero_cons {n : Nat} (h : 0 < n) (cs : List Char) :
    Nat.toDigits 10 n ≠ '0' :: cs := by
  induction n using Nat.strongRecOn generalizing cs with
  | ind n ih =>
    by_cases hlt : n < 10
    · have hall : ∀ d < 10, 0 < d → Nat.digitChar d ≠ '0' := by decide
      rw [Nat.toDigits_of_lt_base hlt]
      intro heq
      exact hall n hlt h (List.cons.inj heq).1
    · have hle : 10 ≤ n := Nat.le_of_not_lt hlt
      obtain ⟨d, ds, hds, -⟩ := exists_toDigits_cons (n / 10)
      rw [Nat.toDigits_of_base_le (by decide) hle, hds]
      intro heq
      rw [(List.cons.inj heq).1] at hds
      exact ih (n / 10) (by omega) (by omega) ds hds

/-! ## What is read -/

/-- The text is a numeral of the number: digits, with at most one plus sign before them. -/
def Denotes (s : String) (n : Nat) : Prop :=
  ∃ digits, (s.toList = digits ∨ s.toList = '+' :: digits) ∧ digits ≠ [] ∧
    (∀ c ∈ digits, c.isDigit) ∧ Nat.ofDigitChars 10 digits 0 = n

theorem unsigned_eq_iff {cs digits : List Char} (h : ∀ c ∈ digits, c.isDigit) :
    unsigned cs = digits ↔ cs = digits ∨ cs = '+' :: digits := by
  constructor
  · intro heq
    unfold unsigned at heq
    split at heq
    · exact .inr (congrArg _ heq)
    · exact .inl heq
  · rintro (rfl | rfl)
    · exact unsigned_of_isDigit h
    · rfl

theorem upTo?_eq_some_iff {limit n : Nat} {s : String} :
    upTo? limit s = some n ↔ Denotes s n ∧ n ≤ limit := by
  have hread : upTo? limit s = some n ↔ unsigned s.toList ≠ [] ∧
      (∀ c ∈ unsigned s.toList, c.isDigit) ∧
      Nat.ofDigitChars 10 (unsigned s.toList) 0 = n ∧ n ≤ limit := by
    simp only [upTo?, Text.upTo?_ten, Option.ite_none_left_eq_some,
      Option.ite_none_right_eq_some, Option.some.injEq, List.all_eq_true]
    constructor
    · rintro ⟨hne, ⟨hdigit, hle⟩, rfl⟩
      exact ⟨hne, hdigit, rfl, hle⟩
    · rintro ⟨hne, hdigit, rfl, hle⟩
      exact ⟨hne, ⟨hdigit, hle⟩, rfl⟩
  rw [hread]
  constructor
  · rintro ⟨hne, hdigit, hvalue, hle⟩
    exact ⟨⟨_, (unsigned_eq_iff hdigit).1 rfl, hne, hdigit, hvalue⟩, hle⟩
  · rintro ⟨⟨digits, hs, hne, hdigit, hvalue⟩, hle⟩
    rw [(unsigned_eq_iff hdigit).2 hs]
    exact ⟨hne, hdigit, hvalue, hle⟩

/-- A text is a numeral of one number at most. -/
theorem Denotes.unique {s : String} {m n : Nat} (hm : Denotes s m) (hn : Denotes s n) : m = n := by
  have hm' := upTo?_eq_some_iff.2 ⟨hm, Nat.le_max_left m n⟩
  have hn' := upTo?_eq_some_iff.2 ⟨hn, Nat.le_max_right m n⟩
  exact Option.some.inj (hm'.symm.trans hn')

theorem word?_eq_some_iff {s : String} {n : UInt32} : word? s = some n ↔ Denotes s n.toNat := by
  unfold word?
  rw [Option.map_eq_some_iff]
  constructor
  · rintro ⟨m, hm, rfl⟩
    obtain ⟨hdenotes, hle⟩ := upTo?_eq_some_iff.1 hm
    rw [UInt32.toNat_ofNat_of_lt' (Nat.lt_of_le_of_lt hle (by decide))]
    exact hdenotes
  · intro h
    have hle : n.toNat ≤ UInt32.size - 1 := Nat.le_sub_one_of_lt n.toNat_lt_size
    exact ⟨n.toNat, upTo?_eq_some_iff.2 ⟨h, hle⟩, UInt32.ofNat_toNat⟩

/-- The text is a numeral of some word. -/
def IsWord (s : String) : Prop := ∃ n ≤ 4294967295, Denotes s n

theorem word?_cases (s : String) :
    (∃ n, word? s = some n ∧ IsWord s) ∨ (word? s = none ∧ ¬ IsWord s) := by
  cases h : word? s with
  | some n =>
    exact .inl ⟨n, rfl, n.toNat, Nat.le_sub_one_of_lt n.toNat_lt_size, word?_eq_some_iff.1 h⟩
  | none =>
    refine .inr ⟨rfl, ?_⟩
    rintro ⟨n, hle, hn⟩
    have hword : word? s = some (UInt32.ofNat n) := by
      rw [word?_eq_some_iff, UInt32.toNat_ofNat_of_lt' (Nat.lt_of_le_of_lt hle (by decide))]
      exact hn
    cases h.symm.trans hword

theorem not_denotes_minus (n : Nat) : ¬ Denotes "-1" n := by
  rintro ⟨digits, hs, -, hdigit, -⟩
  rcases hs with rfl | hs
  · exact absurd (hdigit '-' (by decide)) (by decide)
  · exact absurd (List.cons.inj hs).1 (by decide)

end Patchbay.Numeral
