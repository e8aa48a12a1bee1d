-- Bytes are text up to the place of their flaw and no further: that place is
-- the length of their longest beginning that is text. A byte below 128
-- is a character of its own, never a part of a longer one.
import Patchbay.Text.Utf8

namespace Patchbay.Utf8

/-- Bytes are those of a text. -/
def IsText (bytes : List UInt8) : Prop := ∃ s : String, write s = bytes

theorem isText_iff (bytes : ByteArray) : IsText bytes.data.toList ↔ bytes.IsValidUTF8 := by
  constructor
  · rintro ⟨s, hs⟩
    have heq : s.toByteArray = bytes := by
      cases h : s.toByteArray
      cases bytes
      simp only [write, h] at hs
      rw [Array.toList_inj.1 hs]
    exact heq ▸ s.isValidUTF8
  · intro h
    exact ⟨String.fromUTF8 bytes h, rfl⟩

/-- The longest beginning of bytes that is text has length `n`. -/
structure TextEnds (bytes : List UInt8) (n : Nat) : Prop where
  le_length : n ≤ bytes.length
  isText : IsText (bytes.take n)
  longest : ∀ m ≤ bytes.length, IsText (bytes.take m) → m ≤ n

/-! ## One character -/

/-- The bytes of the character that starts at byte `i`. -/
theorem extract_of_decode {bytes : ByteArray} {i : Nat} {c : Char}
    (h : bytes.utf8DecodeChar? i = some c) : bytes.extract i (i + c.utf8Size) = [c].utf8Encode := by
  have hle := ByteArray.le_size_of_utf8DecodeChar?_eq_some h
  rw [ByteArray.utf8DecodeChar?_eq_utf8DecodeChar?_extract] at h
  have := String.toByteArray_utf8EncodeChar_of_utf8DecodeChar?_eq_some h
  rw [List.utf8Encode_singleton, this, ByteArray.extract_extract]
  congr 1
  omega

/-- A text of some bytes starts with the character that is read there, and what follows is
text again. -/
theorem decode_of_extract {bytes : ByteArray} {i j : Nat} (hij : i < j) (hj : j ≤ bytes.size)
    (h : (bytes.extract i j).IsValidUTF8) :
    ∃ c, bytes.utf8DecodeChar? i = some c ∧ i + c.utf8Size ≤ j ∧
      (bytes.extract (i + c.utf8Size) j).IsValidUTF8 := by
  obtain ⟨cs, hcs⟩ := h
  cases cs with
  | nil =>
    have hsize := congrArg ByteArray.size hcs
    simp only [ByteArray.size_extract, List.utf8Encode_nil, ByteArray.size_empty] at hsize
    omega
  | cons c cs =>
    have hpart : (bytes.extract i j).utf8DecodeChar? 0 = some c := by
      rw [hcs, List.utf8DecodeChar?_utf8Encode_cons]
    have hread : bytes.utf8DecodeChar? i = some c := by
      rw [ByteArray.utf8DecodeChar?_eq_utf8DecodeChar?_extract,
        ByteArray.extract_eq_extract_append_extract j (Nat.le_of_lt hij) hj]
      exact ByteArray.utf8DecodeChar?_append_eq_some hpart _
    have hle : i + c.utf8Size ≤ j := by
      have := ByteArray.le_size_of_utf8DecodeChar?_eq_some hpart
      simp only [ByteArray.size_extract] at this
      omega
    refine ⟨c, hread, hle, ?_⟩
    rw [← List.singleton_append, List.utf8Encode_append,
      ByteArray.extract_eq_extract_append_extract (i + c.utf8Size) (by omega) hle,
      extract_of_decode hread, ByteArray.append_right_inj] at hcs
    rw [hcs]
    exact ByteArray.isValidUTF8_utf8Encode

/-! ## The end of the text -/

theorem textEnd_isText {bytes : ByteArray} {i : Nat} (hi : i ≤ bytes.size) :
    i ≤ textEnd bytes i ∧ textEnd bytes i ≤ bytes.size ∧
      (bytes.extract i (textEnd bytes i)).IsValidUTF8 := by
  fun_induction textEnd bytes i with
  | case1 i c h ih =>
    have hc := ByteArray.le_size_of_utf8DecodeChar?_eq_some h
    obtain ⟨hle, hsize, hvalid⟩ := ih hc
    refine ⟨by omega, hsize, ?_⟩
    rw [ByteArray.extract_eq_extract_append_extract (i + c.utf8Size) (by omega) hle,
      extract_of_decode h]
    exact ByteArray.isValidUTF8_utf8Encode.append hvalid
  | case2 i h =>
    refine ⟨Nat.le_refl i, hi, ?_⟩
    rw [ByteArray.extract_same]
    exact ByteArray.isValidUTF8_empty

theorem le_textEnd {bytes : ByteArray} {i j : Nat} (hij : i ≤ j) (hj : j ≤ bytes.size)
    (h : (bytes.extract i j).IsValidUTF8) : j ≤ textEnd bytes i := by
  fun_induction textEnd bytes i with
  | case1 i c hc ih =>
    rcases Nat.eq_or_lt_of_le hij with rfl | hij
    · have := (textEnd_isText (ByteArray.le_size_of_utf8DecodeChar?_eq_some hc)).1
      omega
    · obtain ⟨c', hc', hle, hrest⟩ := decode_of_extract hij hj h
      rw [hc] at hc'
      cases hc'
      exact ih hle hrest
  | case2 i hnone =>
    rcases Nat.eq_or_lt_of_le hij with rfl | hij
    · exact Nat.le_refl _
    · obtain ⟨c, hc, -⟩ := decode_of_extract hij hj h
      rw [hnone] at hc
      cases hc

/-! ## Reading -/

theorem isText_take_iff (bytes : ByteArray) (n : Nat) :
    IsText (bytes.data.toList.take n) ↔ (bytes.extract 0 n).IsValidUTF8 := by
  rw [← isText_iff, ByteArray.data_extract, Array.toList_extract, List.extract_eq_take_drop,
    List.drop_zero, Nat.sub_zero]

theorem flaw_index (bytes : ByteArray) : (flaw bytes).index = textEnd bytes 0 := by
  simp only [flaw]
  split <;> rfl

theorem textEnds_flaw (bytes : ByteArray) : TextEnds bytes.data.toList (flaw bytes).index := by
  obtain ⟨-, hsize, hvalid⟩ := textEnd_isText (Nat.zero_le bytes.size)
  rw [flaw_index]
  refine ⟨hsize, (isText_take_iff ..).2 hvalid, ?_⟩
  intro m hm htext
  exact le_textEnd (Nat.zero_le m) hm ((isText_take_iff ..).1 htext)

theorem read_of_write {s : String} {bytes : ByteArray} (h : write s = bytes.data.toList) :
    read bytes = .ok s := by
  have heq : s.toByteArray = bytes := ByteArray.ext (Array.toList_inj.1 h)
  rw [← heq, read_toByteArray]

theorem read_of_not_isText {bytes : ByteArray} (h : ¬ IsText bytes.data.toList) :
    read bytes = .error (flaw bytes) := by
  have hinvalid : ¬ bytes.IsValidUTF8 := fun hv => h ((isText_iff bytes).2 hv)
  simp only [read, String.fromUTF8?, hinvalid, dif_neg, not_false_eq_true]

theorem write_of_read {s : String} {bytes : ByteArray} (h : read bytes = .ok s) :
    write s = bytes.data.toList := by
  by_cases htext : IsText bytes.data.toList
  · obtain ⟨t, ht⟩ := htext
    rw [read_of_write ht] at h
    cases h
    exact ht
  · rw [read_of_not_isText htext] at h
    cases h

/-- What is wrong with bytes is told with the place. -/
theorem Flaw.message_index (f : Flaw) :
    ∃ what, f.message = what ++ s!" from index {f.index}" := by
  obtain ⟨index, length⟩ := f
  cases length with
  | some n =>
    refine ⟨s!"invalid utf-8 sequence of {n} bytes", ?_⟩
    have hsplit : " bytes from index " = " bytes" ++ " from index " := by decide
    simp only [message, toString, hsplit, String.append_assoc]
  | none =>
    refine ⟨"incomplete utf-8 byte sequence", ?_⟩
    have hsplit : "incomplete utf-8 byte sequence from index " =
        "incomplete utf-8 byte sequence" ++ " from index " := by decide
    simp only [message, toString, hsplit, String.append_assoc]

/-! ## Single bytes -/

/-- A text is written character by character. -/
theorem write_eq_flatMap (s : String) : write s = s.toList.flatMap String.utf8EncodeChar := by
  rw [write, ← String.utf8Encode_toList, List.utf8Encode, List.data_toByteArray]

theorem write_append (s t : String) : write (s ++ t) = write s ++ write t := by
  simp [write_eq_flatMap]

theorem write_inj {s t : String} (h : write s = write t) : s = t := by
  apply String.toByteArray_inj.1
  exact ByteArray.ext (Array.toList_inj.1 h)

theorem mem_write {s : String} {b : UInt8} :
    b ∈ write s ↔ ∃ c ∈ s.toList, b ∈ String.utf8EncodeChar c := by
  rw [write_eq_flatMap, List.mem_flatMap]

/-- A byte below 128 stands for itself, wherever it stands. -/
theorem toNat_of_mem_utf8EncodeChar {c : Char} {b : UInt8} (h : b ∈ String.utf8EncodeChar c)
    (hb : b.toNat < 0x80) : c.toNat = b.toNat := by
  -- The bytes of a longer character are all a rest above a mark of at least 128.
  have hlong : ∀ n mark, 0x80 ≤ mark → n + mark < 0x100 → b ≠ UInt8.ofNat (n + mark) := by
    rintro n mark hmark hlt rfl
    rw [UInt8.toNat_ofNat_of_lt' hlt] at hb
    omega
  simp only [String.utf8EncodeChar] at h
  split at h
  · next hc =>
    rw [List.mem_singleton.1 h, UInt8.toNat_ofNat_of_lt' (Nat.lt_of_le_of_lt hc (by decide))]
    rfl
  split at h
  · simp only [List.mem_cons, List.not_mem_nil, or_false] at h
    rcases h with h | h <;> exact absurd h (hlong _ _ (by decide) (by omega))
  split at h
  · simp only [List.mem_cons, List.not_mem_nil, or_false] at h
    rcases h with h | h | h <;> exact absurd h (hlong _ _ (by decide) (by omega))
  · simp only [List.mem_cons, List.not_mem_nil, or_false] at h
    rcases h with h | h | h | h <;> exact absurd h (hlong _ _ (by decide) (by omega))

theorem utf8EncodeChar_of_lt {c : Char} (h : c.toNat < 0x80) :
    String.utf8EncodeChar c = [UInt8.ofNat c.toNat] := by
  have hle : c.val.toNat ≤ 0x7f := Nat.le_of_lt_succ h
  simp only [String.utf8EncodeChar, hle, if_true]
  rfl

theorem write_of_lt {s : String} (h : ∀ c ∈ s.toList, c.toNat < 0x80) :
    write s = s.toList.map fun c => UInt8.ofNat c.toNat := by
  have heach : s.toList.map String.utf8EncodeChar = s.toList.map fun c => [UInt8.ofNat c.toNat] :=
    List.map_congr_left fun c hc => utf8EncodeChar_of_lt (h c hc)
  rw [write_eq_flatMap, List.map_eq_flatMap, List.flatMap_def, List.flatMap_def, heach]

theorem not_mem_write {s : String} {c : Char} {b : UInt8} (hb : b.toNat < 0x80)
    (hc : c.toNat = b.toNat) (h : c ∉ s.toList) : b ∉ write s := by
  intro hmem
  obtain ⟨c', hc', hb'⟩ := mem_write.1 hmem
  have heq : c' = c := Char.toNat_inj.1 ((toNat_of_mem_utf8EncodeChar hb' hb).trans hc.symm)
  exact h (heq ▸ hc')

end Patchbay.Utf8
