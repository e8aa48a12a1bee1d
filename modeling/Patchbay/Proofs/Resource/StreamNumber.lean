-- Which addresses have a stream number. The last two of four parts decide it, and the first
-- two are not looked at. So the rule that all four must be numerals fails just for the addresses
-- that have other words in front of two good numerals, where these do not come to 0 anyway.
import Patchbay.Proofs.Text.Fields
import Patchbay.Proofs.Text.Numeral
import Patchbay.Resource.StreamNumber

namespace Patchbay.StreamAddress

/-- The address is four parts with dots between them, and its last two parts are numerals that
can go into a stream number. -/
structure Parts (address a b c d : String) (third fourth : Nat) : Prop where
  address_eq : ".".intercalate [a, b, c, d] = address
  dotless : ∀ p ∈ [a, b, c, d], '.' ∉ p.toList
  denotes_third : Numeral.Denotes c third
  third_le : third ≤ 127
  denotes_fourth : Numeral.Denotes d fourth
  fourth_le : fourth ≤ 4294967295

/-- The address ends in numerals of the two numbers. -/
def EndsIn (address : String) (third fourth : Nat) : Prop :=
  ∃ a b c d, Parts address a b c d third fourth

/-- The address ends in numerals of the two numbers, and begins with two numerals. -/
def Numeric (address : String) (third fourth : Nat) : Prop :=
  ∃ a b c d, Parts address a b c d third fourth ∧ Numeral.IsWord a ∧ Numeral.IsWord b

/-- The numbers that the address ends in make up a word. -/
def Fits (address : String) : Prop :=
  ∀ third fourth, EndsIn address third fourth → 256 * third + fourth ≤ 4294967295

/-- The rule that four numerals have a number, and no other address has one. -/
def Ruled (address : String) (n : Nat) : Prop :=
  (∀ third fourth, Numeric address third fourth → n = 256 * third + fourth) ∧
  ((∀ third fourth, ¬ Numeric address third fourth) → n = 0)

variable {address : String} {third fourth : Nat}

theorem Numeric.endsIn (h : Numeric address third fourth) : EndsIn address third fourth := by
  obtain ⟨a, b, c, d, hparts, -, -⟩ := h
  exact ⟨a, b, c, d, hparts⟩

/-! ## What is read -/

theorem fields_eq_iff {a b c d : String} : Text.fields '.' address = [a, b, c, d] ↔
    ".".intercalate [a, b, c, d] = address ∧ ∀ p ∈ [a, b, c, d], '.' ∉ p.toList := by
  rw [Text.fields_eq_iff]
  constructor
  · rintro ⟨-, hdotless, haddress⟩
    exact ⟨haddress, hdotless⟩
  · rintro ⟨haddress, hdotless⟩
    exact ⟨List.cons_ne_nil _ _, hdotless, haddress⟩

theorem endsIn_iff : EndsIn address third fourth ↔ ∃ a b c d t f,
    Text.fields '.' address = [a, b, c, d] ∧ Numeral.word? c = some t ∧
      Numeral.word? d = some f ∧ t ≤ 127 ∧ t.toNat = third ∧ f.toNat = fourth := by
  constructor
  · rintro ⟨a, b, c, d, h⟩
    have hthird : (UInt32.ofNat third).toNat = third :=
      UInt32.toNat_ofNat_of_lt' (Nat.lt_of_le_of_lt h.third_le (by decide))
    have hfourth : (UInt32.ofNat fourth).toNat = fourth :=
      UInt32.toNat_ofNat_of_lt' (Nat.lt_succ_of_le h.fourth_le)
    refine ⟨a, b, c, d, .ofNat third, .ofNat fourth, fields_eq_iff.2 ⟨h.address_eq, h.dotless⟩,
      Numeral.word?_eq_some_iff.2 ?_, Numeral.word?_eq_some_iff.2 ?_, ?_, hthird, hfourth⟩
    · rw [hthird]
      exact h.denotes_third
    · rw [hfourth]
      exact h.denotes_fourth
    · rw [UInt32.le_iff_toNat_le, hthird]
      exact h.third_le
  · rintro ⟨a, b, c, d, t, f, hfields, ht, hf, hle, rfl, rfl⟩
    obtain ⟨haddress, hdotless⟩ := fields_eq_iff.1 hfields
    exact ⟨a, b, c, d, {
      address_eq := haddress
      dotless := hdotless
      denotes_third := Numeral.word?_eq_some_iff.1 ht
      third_le := UInt32.le_iff_toNat_le.1 hle
      denotes_fourth := Numeral.word?_eq_some_iff.1 hf
      fourth_le := Nat.le_of_lt_succ f.toNat_lt_size }⟩

/-- An address ends in two numbers at most. -/
theorem EndsIn.unique {third' fourth' : Nat} (h : EndsIn address third fourth)
    (h' : EndsIn address third' fourth') : third = third' ∧ fourth = fourth' := by
  obtain ⟨a, b, c, d, t, f, hfields, ht, hf, -, rfl, rfl⟩ := endsIn_iff.1 h
  obtain ⟨a', b', c', d', t', f', hfields', ht', hf', -, rfl, rfl⟩ := endsIn_iff.1 h'
  cases hfields.symm.trans hfields'
  cases ht.symm.trans ht'
  cases hf.symm.trans hf'
  exact ⟨rfl, rfl⟩

theorem fits_of_endsIn (h : EndsIn address third fourth)
    (hle : 256 * third + fourth ≤ 4294967295) : Fits address := by
  intro third' fourth' h'
  obtain ⟨rfl, rfl⟩ := h.unique h'
  exact hle

/-! ## The number -/

theorem toNat_streamNumber (h : EndsIn address third fourth)
    (hle : 256 * third + fourth ≤ 4294967295) :
    (streamNumber address).toNat = 256 * third + fourth := by
  obtain ⟨a, b, c, d, t, f, hfields, ht, hf, htle, rfl, rfl⟩ := endsIn_iff.1 h
  have hnumber : streamNumber address = 256 * t + f := by
    simp only [streamNumber, hfields, ht, hf, if_pos htle]
  rw [hnumber, UInt32.toNat_add, UInt32.toNat_mul, Nat.mod_add_mod]
  exact Nat.mod_eq_of_lt (Nat.lt_succ_of_le hle)

theorem exists_endsIn (h : streamNumber address ≠ 0) :
    ∃ third fourth, EndsIn address third fourth := by
  unfold streamNumber at h
  split at h
  case h_2 => exact absurd rfl h
  next a b c d hfields =>
    split at h
    case h_2 => exact absurd rfl h
    next t f ht hf =>
      split at h
      case isFalse => exact absurd rfl h
      next hle =>
        exact ⟨_, _, endsIn_iff.2 ⟨a, b, c, d, t, f, hfields, ht, hf, hle, rfl, rfl⟩⟩

/-- The last two of four parts make the stream number, whatever stands before them, and all other
addresses have the number 0. The rule that asks for four numerals holds of an address exactly when
it has them, or has the number 0 anyway. -/
theorem the_last_two_of_four_parts_make_the_stream_number (address : String)
    (hfits : Fits address) :
    (∀ third fourth, EndsIn address third fourth →
      (streamNumber address).toNat = 256 * third + fourth) ∧
    ((∀ third fourth, ¬ EndsIn address third fourth) → streamNumber address = 0) ∧
    (Ruled address (streamNumber address).toNat ↔
      (∃ third fourth, Numeric address third fourth) ∨ streamNumber address = 0) := by
  have hnumber : ∀ third fourth, EndsIn address third fourth →
      (streamNumber address).toNat = 256 * third + fourth :=
    fun third fourth h => toNat_streamNumber h (hfits third fourth h)
  refine ⟨hnumber, ?_, ?_⟩
  · intro hnone
    rcases Decidable.em (streamNumber address = 0) with hzero | hne
    · exact hzero
    · obtain ⟨third, fourth, h⟩ := exists_endsIn hne
      exact absurd h (hnone third fourth)
  constructor
  · rintro ⟨-, hzero⟩
    by_cases hsome : ∃ third fourth, Numeric address third fourth
    · exact .inl hsome
    · have hnone : ∀ third fourth, ¬ Numeric address third fourth :=
        fun third fourth h => hsome ⟨third, fourth, h⟩
      exact .inr (UInt32.toNat_inj.1 (hzero hnone))
  · intro h
    refine ⟨fun third fourth hnumeric => hnumber third fourth hnumeric.endsIn, ?_⟩
    intro hnone
    rcases h with ⟨third, fourth, hnumeric⟩ | hzero
    · exact absurd hnumeric (hnone third fourth)
    · exact congrArg UInt32.toNat hzero

/-- Plus signs and leading zeros may stand in the numerals. -/
theorem four_numerals_with_signs_and_zeros_make_a_stream_number :
    let address := "+239.0192.+127.0255"
    Fits address ∧ Numeric address 127 255 ∧ (streamNumber address).toNat = 32767 ∧
    Ruled address 32767 := by
  intro address
  have hparts : Parts address "+239" "0192" "+127" "0255" 127 255 := {
    address_eq := by decide
    dotless := by decide
    denotes_third := Numeral.word?_eq_some_iff (n := 127).1 (by decide)
    third_le := by decide
    denotes_fourth := Numeral.word?_eq_some_iff (n := 255).1 (by decide)
    fourth_le := by decide }
  have hfirst : Numeral.IsWord "+239" :=
    ⟨239, by decide, Numeral.word?_eq_some_iff (n := 239).1 (by decide)⟩
  have hsecond : Numeral.IsWord "0192" :=
    ⟨192, by decide, Numeral.word?_eq_some_iff (n := 192).1 (by decide)⟩
  have hnumeric : Numeric address 127 255 := ⟨_, _, _, _, hparts, hfirst, hsecond⟩
  have hfits : Fits address := fits_of_endsIn hnumeric.endsIn (by decide)
  obtain ⟨hnumber, -, hruled⟩ :=
    the_last_two_of_four_parts_make_the_stream_number address hfits
  have hmade : (streamNumber address).toNat = 32767 := hnumber 127 255 hnumeric.endsIn
  exact ⟨hfits, hnumeric, hmade, hmade ▸ hruled.2 (.inl ⟨127, 255, hnumeric⟩)⟩

/-- The rule fails for an address that has a word for its second part. -/
theorem a_word_before_two_numerals_leaves_the_stream_number :
    let address := "239.x.1.2"
    Fits address ∧ (∀ third fourth, ¬ Numeric address third fourth) ∧
    streamNumber address = 258 ∧ ¬ Ruled address (streamNumber address).toNat := by
  intro address
  have hfields : Text.fields '.' address = ["239", "x", "1", "2"] := by decide
  have hends : EndsIn address 1 2 :=
    endsIn_iff.2 ⟨_, _, _, _, 1, 2, hfields, by decide, by decide, by decide, rfl, rfl⟩
  have hnumber : streamNumber address = 258 := by decide
  have hword : Numeral.word? "x" = none := by decide
  have hnone : ∀ third fourth, ¬ Numeric address third fourth := by
    rintro third fourth ⟨a, b, c, d, hparts, -, hsecond⟩
    cases hfields.symm.trans (fields_eq_iff.2 ⟨hparts.address_eq, hparts.dotless⟩)
    rcases Numeral.word?_cases "x" with ⟨n, hn, -⟩ | ⟨-, hnot⟩
    · cases hword.symm.trans hn
    · exact hnot hsecond
  refine ⟨fits_of_endsIn hends (by decide), hnone, hnumber, ?_⟩
  rw [hnumber]
  rintro ⟨-, hzero⟩
  exact absurd (hzero hnone) (by decide)

end Patchbay.StreamAddress
