-- Texts stand in the order of their bytes. The bytes of a character tell its number
-- from the highest digit down, and the first of them how many there are.
import Patchbay.Proofs.Text.Utf8

namespace Patchbay.Utf8

/-! ## One character -/

theorem cons_lt_of_lt {m n : Nat} (h : m < n) (hn : n < 0x100) (xs ys : List UInt8) :
    UInt8.ofNat m :: xs < UInt8.ofNat n :: ys := by
  apply List.cons_lt_cons_iff.2
  left
  rw [UInt8.lt_iff_toNat_lt, UInt8.toNat_ofNat_of_lt' (Nat.lt_trans h hn),
    UInt8.toNat_ofNat_of_lt' hn]
  exact h

/-- Where the first bytes are the same, the rest decides. -/
theorem cons_lt_of_le {m n : Nat} {xs ys : List UInt8} (h : m ≤ n) (hn : n < 0x100)
    (hrest : m = n → xs < ys) : UInt8.ofNat m :: xs < UInt8.ofNat n :: ys := by
  by_cases heq : m = n
  · subst heq
    exact List.cons_lt_cons_iff.2 (Or.inr ⟨rfl, hrest rfl⟩)
  · exact cons_lt_of_lt (by omega) hn xs ys

/-- The bytes of a lesser character come first, whatever follows them. -/
theorem utf8EncodeChar_append_lt {c d : Char} (h : c < d) (xs ys : List UInt8) :
    String.utf8EncodeChar c ++ xs < String.utf8EncodeChar d ++ ys := by
  have hlt : c.val.toNat < d.val.toNat := h
  have hbound : d.val.toNat < 0x110000 := by
    have hvalid := d.valid
    simp only [UInt32.isValidChar, Nat.isValidChar] at hvalid
    omega
  unfold String.utf8EncodeChar
  generalize c.val.toNat = m at hlt ⊢
  generalize d.val.toNat = n at hlt hbound ⊢
  -- When the greater number has more bytes, the first of them is greater. Else the digits are
  -- compared in turn, and the last ones differ when all before them are the same.
  by_cases hn1 : n ≤ 0x7f
  · simp only [hn1, (by omega : m ≤ 0x7f), if_true]
    exact cons_lt_of_lt (by omega) (by omega) ..
  by_cases hn2 : n ≤ 0x7ff
  · simp only [hn1, hn2, if_true, if_false]
    split
    · exact cons_lt_of_lt (by omega) (by omega) ..
    · simp only [(by omega : m ≤ 0x7ff), if_true]
      apply cons_lt_of_le (by omega) (by omega)
      intro h1
      exact cons_lt_of_lt (by omega) (by omega) ..
  by_cases hn3 : n ≤ 0xffff
  · simp only [hn1, hn2, hn3, if_true, if_false]
    split
    · exact cons_lt_of_lt (by omega) (by omega) ..
    split
    · exact cons_lt_of_lt (by omega) (by omega) ..
    · simp only [(by omega : m ≤ 0xffff), if_true]
      apply cons_lt_of_le (by omega) (by omega)
      intro h1
      apply cons_lt_of_le (by omega) (by omega)
      intro h2
      exact cons_lt_of_lt (by omega) (by omega) ..
  · simp only [hn1, hn2, hn3, if_false]
    split
    · exact cons_lt_of_lt (by omega) (by omega) ..
    split
    · exact cons_lt_of_lt (by omega) (by omega) ..
    split
    · exact cons_lt_of_lt (by omega) (by omega) ..
    · apply cons_lt_of_le (by omega) (by omega)
      intro h1
      apply cons_lt_of_le (by omega) (by omega)
      intro h2
      apply cons_lt_of_le (by omega) (by omega)
      intro h3
      exact cons_lt_of_lt (by omega) (by omega) ..

/-! ## Texts -/

theorem flatMap_utf8EncodeChar_lt {cs ds : List Char} (h : cs < ds) :
    cs.flatMap String.utf8EncodeChar < ds.flatMap String.utf8EncodeChar := by
  induction cs generalizing ds with
  | nil =>
    cases ds with
    | nil => exact absurd h (List.lt_irrefl _)
    | cons d ds =>
      rw [List.flatMap_nil, List.flatMap_cons]
      obtain ⟨b, bs, hbytes⟩ := List.exists_cons_of_ne_nil (String.utf8EncodeChar_ne_nil (c := d))
      rw [hbytes]
      exact List.nil_lt_cons ..
  | cons c cs ih =>
    cases ds with
    | nil => cases h
    | cons d ds =>
      rw [List.flatMap_cons, List.flatMap_cons]
      rcases List.cons_lt_cons_iff.1 h with hlt | ⟨rfl, hlt⟩
      · exact utf8EncodeChar_append_lt hlt _ _
      · exact List.append_left_lt (ih hlt)

/-- A lesser text has lesser bytes. -/
theorem write_lt_write {s t : String} (h : s < t) : write s < write t := by
  rw [write_eq_flatMap, write_eq_flatMap]
  exact flatMap_utf8EncodeChar_lt (String.lt_iff.1 h)

end Patchbay.Utf8
