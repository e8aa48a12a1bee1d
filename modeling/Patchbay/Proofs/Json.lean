-- The text of a JSON value reads back as that value, whatever follows it that could not
-- belong to a number. So two values with the same text are the same. No control character
-- stands in the text, so it is one line.
import Mathlib.Data.List.TakeDrop
import Patchbay.Json
import Patchbay.Json.Document
import Patchbay.Proofs.Text.Numeral

namespace Patchbay.Json

open Document

/-! ## The document of a value -/

mutual

/-- What the text of a value reads as. -/
def document : Json → Document
  | null => .null
  | bool b => .bool b
  | number n => .number (some (Nat.toDigits 10 n))
  | string s => .string (some s)
  | array items => .array (itemDocuments items)
  | object members => .object (memberDocuments members)

def itemDocuments : List Json → List Document
  | [] => []
  | v :: vs => v.document :: itemDocuments vs

def memberDocuments : List (String × Json) → List (Option String × Document)
  | [] => []
  | (k, v) :: ms => (some k, v.document) :: memberDocuments ms

end

/-! ## Strings -/

theorem units?_letter {letter c : Char} (cs : List Char) (h : escape? letter = some c) :
    units? ('\\' :: letter :: cs) =
      (units? cs).map fun (ns, rest) => (c.toNat :: ns, rest) := by
  have hu : letter ≠ 'u' := by
    rintro rfl
    cases h
  rw [units?.eq_4 _ _ fun _ _ _ _ _ hletter => absurd hletter hu, h]
  cases units? cs <;> rfl

theorem units?_plain {c : Char} (cs : List Char) (hquote : c ≠ '"') (hslash : c ≠ '\\')
    (hlt : ¬ c < ' ') :
    units? (c :: cs) = (units? cs).map fun (ns, rest) => (c.toNat :: ns, rest) := by
  rw [units?.eq_5 _ _ hquote (fun _ _ _ _ _ h => absurd h hslash) fun _ _ h => absurd h hslash,
    if_neg hlt]
  cases units? cs <;> rfl

theorem hexValue?_control : ∀ n < 32,
    Text.hexValue? ['0', '0', Nat.digitChar (n / 16), Nat.digitChar (n % 16)] = some n := by
  decide

theorem units?_control {c : Char} (cs : List Char) (hlt : c < ' ') :
    units? (['\\', 'u', '0', '0', Nat.digitChar (c.toNat / 16), Nat.digitChar (c.toNat % 16)] ++
        cs) = (units? cs).map fun (ns, rest) => (c.toNat :: ns, rest) := by
  have hvalue := hexValue?_control c.toNat hlt
  simp only [List.cons_append, List.nil_append, units?, hvalue]
  cases units? cs <;> rfl

/-- However a character is written, it is read. -/
theorem units?_escaped (c : Char) (cs : List Char) :
    units? (escaped c ++ cs) = (units? cs).map fun (ns, rest) => (c.toNat :: ns, rest) := by
  unfold escaped
  split
  case h_8 hquote hslash _ _ _ _ _ =>
    split
    · next hlt => exact units?_control cs hlt
    · next hlt => exact units?_plain cs hquote hslash hlt
  all_goals exact units?_letter cs rfl

theorem units?_flatMap_escaped (cs rest : List Char) :
    units? (cs.flatMap escaped ++ '"' :: rest) = some (cs.map Char.toNat, rest) := by
  induction cs with
  | nil => rfl
  | cons c cs ih =>
    rw [List.flatMap_cons, List.append_assoc, units?_escaped, ih]
    rfl

theorem charOf?_toNat (c : Char) : Text.charOf? c.toNat = some c := by
  have hvalid : c.toNat.isValidChar := c.valid
  rw [Text.charOf?, if_pos hvalid, Char.ofNat_toNat]

/-- No character is half a surrogate pair. -/
theorem isHigh_toNat (c : Char) : isHigh c.toNat = false := by
  have hvalid : c.toNat.isValidChar := c.valid
  unfold Nat.isValidChar at hvalid
  simp only [isHigh, Bool.and_eq_false_imp, decide_eq_true_eq, decide_eq_false_iff_not]
  omega

theorem textOf?_map_toNat (cs : List Char) : textOf? (cs.map Char.toNat) = some cs := by
  induction cs with
  | nil => rfl
  | cons c cs ih =>
    cases cs with
    | nil => simp only [List.map_cons, List.map_nil, textOf?, charOf?_toNat, Option.map_some]
    | cons d ds =>
      simp only [List.map_cons] at ih ⊢
      rw [textOf?, isHigh_toNat, Bool.false_and, if_neg Bool.false_ne_true, charOf?_toNat, ih]
      rfl

theorem string?_flatMap_escaped (s : String) (rest : List Char) :
    string? (s.toList.flatMap escaped ++ '"' :: rest) = some (some s, rest) := by
  simp only [string?, units?_flatMap_escaped, Option.map_some, textOf?_map_toNat,
    String.ofList_toList]

/-! ## Numbers -/

/-- What could not belong to a number that stands before it. -/
def Ends (rest : List Char) : Prop :=
  ∀ c ∈ rest.head?, c.isDigit = false ∧ c ≠ '.' ∧ c ≠ 'e' ∧ c ≠ 'E'

section

variable {rest : List Char} (hends : Ends rest)

include hends

theorem endsWhole_of_ends : endsWhole rest = true := by
  cases rest with
  | nil => rfl
  | cons c rest =>
    obtain ⟨-, hdot, he, hE⟩ := hends c rfl
    unfold endsWhole
    split <;> simp_all

theorem skipFraction?_of_ends : skipFraction? rest = some rest := by
  apply skipFraction?.eq_2
  rintro r rfl
  exact (hends '.' rfl).2.1 rfl

theorem skipExponent?_of_ends : skipExponent? rest = some rest := by
  cases rest with
  | nil => rfl
  | cons c rest =>
    obtain ⟨-, -, he, hE⟩ := hends c rfl
    simp only [skipExponent?, he, hE, or_self, if_false]

theorem span_of_ends {digits : List Char} (h : ∀ c ∈ digits, c.isDigit) :
    (digits ++ rest).span Char.isDigit = (digits, rest) := by
  have hrest : rest.takeWhile Char.isDigit = [] ∧ rest.dropWhile Char.isDigit = rest := by
    cases rest with
    | nil => exact ⟨rfl, rfl⟩
    | cons c rest => simp [(hends c rfl).1]
  rw [List.span_eq_takeWhile_dropWhile, List.takeWhile_append_of_pos h,
    List.dropWhile_append_of_pos h, hrest.1, hrest.2, List.append_nil]

theorem whole?_toDigits (n : Nat) :
    whole? (Nat.toDigits 10 n ++ rest) = some (Nat.toDigits 10 n, rest) := by
  rcases Nat.eq_zero_or_pos n with rfl | hpos
  · rfl
  have hdigit : ∀ c ∈ Nat.toDigits 10 n, c.isDigit := fun _ => Numeral.isDigit_of_mem_toDigits
  obtain ⟨d, ds, hds, -⟩ := Numeral.exists_toDigits_cons n
  have hzero : ∀ r, Nat.toDigits 10 n ++ rest ≠ '0' :: r := by
    intro r hr
    rw [hds] at hr
    rw [(List.cons.inj hr).1] at hds
    exact Numeral.toDigits_ne_zero_cons hpos ds hds
  rw [whole?.eq_2 _ hzero, span_of_ends hends hdigit]
  exact if_neg Nat.toDigits_ne_nil

theorem number?_toDigits (n : Nat) :
    number? (Nat.toDigits 10 n ++ rest) = some (some (Nat.toDigits 10 n), rest) := by
  have hminus : ∀ r, Nat.toDigits 10 n ++ rest ≠ '-' :: r := by
    obtain ⟨d, ds, hds, hd⟩ := Numeral.exists_toDigits_cons n
    intro r hr
    rw [hds] at hr
    rw [(List.cons.inj hr).1] at hd
    cases hd
  rw [number?.eq_2 _ hminus, whole?_toDigits hends]
  simp [skipFraction?_of_ends hends, skipExponent?_of_ends hends, endsWhole_of_ends hends]

end

/-! ## Values -/

theorem skipSpace_cons {c : Char} (cs : List Char) (h : isSpace c = false) :
    skipSpace (c :: cs) = c :: cs := by
  simp [skipSpace, h]

theorem of_isDigit {c : Char} (h : c.isDigit) : isSpace c = false ∧ c ≠ ']' := by
  constructor
  · cases hspace : isSpace c with
    | false => rfl
    | true =>
      simp only [isSpace, Bool.or_eq_true, beq_iff_eq] at hspace
      rcases hspace with ((rfl | rfl) | rfl) | rfl <;> cases h
  · rintro rfl
    cases h

/-- A text begins with a character that is no blank and closes no array. -/
theorem exists_chars_cons (v : Json) :
    ∃ c cs, v.chars = c :: cs ∧ isSpace c = false ∧ c ≠ ']' := by
  cases v with
  | null => exact ⟨_, _, rfl, rfl, by decide⟩
  | bool b => cases b <;> exact ⟨_, _, rfl, rfl, by decide⟩
  | number n =>
    obtain ⟨d, ds, hds, hd⟩ := Numeral.exists_toDigits_cons n
    exact ⟨d, ds, hds, of_isDigit hd⟩
  | string s => exact ⟨_, _, rfl, rfl, by decide⟩
  | array items => exact ⟨_, _, by rw [chars]; rfl, rfl, by decide⟩
  | object members => exact ⟨_, _, by rw [chars]; rfl, rfl, by decide⟩

theorem value?_number (n fuel : Nat) {rest : List Char} (hends : Ends rest) :
    value? (fuel + 1) (Nat.toDigits 10 n ++ rest) =
      some (.number (some (Nat.toDigits 10 n)), rest) := by
  obtain ⟨d, ds, hds, hd⟩ := Numeral.exists_toDigits_cons n
  have hnumber := number?_toDigits hends n
  rw [hds] at hnumber ⊢
  rw [List.cons_append] at hnumber ⊢
  unfold value?
  rw [skipSpace_cons _ (of_isDigit hd).1]
  split
  -- None of the other values begins with a digit.
  case h_7 => rw [hnumber]; rfl
  all_goals
    next heq =>
      rw [(List.cons.inj heq).1] at hd
      cases hd

theorem exists_itemChars_cons (v : Json) (vs : List Json) :
    ∃ c cs, itemChars (v :: vs) = c :: cs ∧ isSpace c = false ∧ c ≠ ']' := by
  obtain ⟨c, cs, hcs, hc⟩ := exists_chars_cons v
  cases vs with
  | nil => exact ⟨c, cs, hcs, hc⟩
  | cons w ws => exact ⟨c, _, by rw [itemChars, hcs]; rfl, hc⟩

theorem exists_memberChars_cons (m : String × Json) (ms : List (String × Json)) :
    ∃ cs, memberChars (m :: ms) = '"' :: cs := by
  cases ms <;> exact ⟨_, by rw [memberChars]; rfl⟩

theorem value?_array {fuel : Nat} {cs rest : List Char} {vs : List Document} {c : Char}
    (hspace : isSpace c = false) (hclose : c ≠ ']') (h : items? fuel (c :: cs) = some (vs, rest)) :
    value? (fuel + 1) ('[' :: c :: cs) = some (.array vs, rest) := by
  unfold value?
  rw [skipSpace_cons _ rfl]
  simp only [skipSpace_cons _ hspace]
  split
  · next heq => exact absurd (List.cons.inj heq).1 hclose
  · rw [h]
    rfl

theorem value?_object {fuel : Nat} {cs rest : List Char} {ms : List (Option String × Document)}
    (h : members? fuel ('"' :: cs) = some (ms, rest)) :
    value? (fuel + 1) ('\x7b' :: '"' :: cs) = some (.object ms, rest) := by
  unfold value?
  rw [skipSpace_cons _ rfl]
  simp only [skipSpace_cons _ (rfl : isSpace '"' = false)]
  split
  · next heq => exact absurd (List.cons.inj heq).1 (by decide)
  · rw [h]
    rfl

theorem ends_close {c : Char} (rest : List Char) (h : c = ',' ∨ c = ']' ∨ c = '\x7d') :
    Ends (c :: rest) := by
  intro x hx
  cases hx
  rcases h with rfl | rfl | rfl <;> decide

/-- Fuel for each character is enough to read values, and with one more to read the items of
an array and the members of an object. -/
structure Suffices (fuel : Nat) : Prop where
  value : ∀ (v : Json) (rest : List Char), v.chars.length ≤ fuel → Ends rest →
    value? fuel (v.chars ++ rest) = some (v.document, rest)
  items : ∀ v vs rest, (itemChars (v :: vs)).length < fuel →
    items? fuel (itemChars (v :: vs) ++ ']' :: rest) = some (itemDocuments (v :: vs), rest)
  members : ∀ m ms rest, (memberChars (m :: ms)).length < fuel →
    members? fuel (memberChars (m :: ms) ++ '\x7d' :: rest) =
      some (memberDocuments (m :: ms), rest)

namespace Suffices

variable {fuel : Nat} (h : Suffices fuel)

include h

theorem value_succ (v : Json) (rest : List Char) (hfuel : v.chars.length ≤ fuel + 1)
    (hends : Ends rest) : value? (fuel + 1) (v.chars ++ rest) = some (v.document, rest) := by
  cases v with
  | null => rfl
  | bool b => cases b <;> rfl
  | number n => exact value?_number n fuel hends
  | string s =>
    have hread := string?_flatMap_escaped s rest
    simp only [chars, stringText, document, List.cons_append, List.append_assoc, List.nil_append]
    unfold value?
    rw [skipSpace_cons _ rfl]
    simp only [hread]
    rfl
  | array items =>
    cases items with
    | nil => rfl
    | cons v vs =>
      simp only [chars, List.cons_append, List.length_cons, List.length_append] at hfuel
      have hread := h.items v vs rest (by omega)
      obtain ⟨c, cs, hcs, hspace, hclose⟩ := exists_itemChars_cons v vs
      simp only [chars, document, List.cons_append, List.append_assoc, List.nil_append]
      rw [hcs] at hread ⊢
      exact value?_array hspace hclose hread
  | object members =>
    cases members with
    | nil => rfl
    | cons m ms =>
      simp only [chars, List.cons_append, List.length_cons, List.length_append] at hfuel
      have hread := h.members m ms rest (by omega)
      obtain ⟨cs, hcs⟩ := exists_memberChars_cons m ms
      simp only [chars, document, List.cons_append, List.append_assoc, List.nil_append]
      rw [hcs] at hread ⊢
      exact value?_object hread

theorem items_succ (v : Json) (vs : List Json) (rest : List Char)
    (hfuel : (itemChars (v :: vs)).length < fuel + 1) :
    items? (fuel + 1) (itemChars (v :: vs) ++ ']' :: rest) =
      some (itemDocuments (v :: vs), rest) := by
  unfold items?
  cases vs with
  | nil =>
    rw [itemChars] at hfuel ⊢
    rw [h.value v _ (by omega) (ends_close _ (by simp))]
    rfl
  | cons w ws =>
    obtain ⟨c, cs, hcs, -⟩ := exists_chars_cons v
    rw [itemChars] at hfuel ⊢
    simp only [hcs, List.length_append, List.length_cons] at hfuel
    have hv : v.chars.length ≤ fuel := by
      rw [hcs, List.length_cons]
      omega
    rw [List.append_assoc, List.cons_append, h.value v _ hv (ends_close _ (by simp))]
    simp only [bind, Option.bind, skipSpace_cons _ (rfl : isSpace ',' = false),
      h.items w ws rest (by omega)]
    rfl

theorem members_succ (m : String × Json) (ms : List (String × Json)) (rest : List Char)
    (hfuel : (memberChars (m :: ms)).length < fuel + 1) :
    members? (fuel + 1) (memberChars (m :: ms) ++ '\x7d' :: rest) =
      some (memberDocuments (m :: ms), rest) := by
  obtain ⟨k, v⟩ := m
  have hkey := string?_flatMap_escaped k
  unfold members?
  cases ms with
  | nil =>
    simp only [memberChars, stringText, List.cons_append, List.append_assoc, List.length_cons,
      List.length_append, List.nil_append] at hfuel ⊢
    rw [skipSpace_cons _ rfl]
    simp only [bind, Option.bind, hkey, skipSpace_cons _ (rfl : isSpace ':' = false)]
    rw [h.value v _ (by omega) (ends_close _ (by simp))]
    rfl
  | cons m' ms =>
    simp only [memberChars, stringText, List.cons_append, List.append_assoc, List.length_cons,
      List.length_append, List.nil_append] at hfuel ⊢
    rw [skipSpace_cons _ rfl]
    simp only [bind, Option.bind, hkey, skipSpace_cons _ (rfl : isSpace ':' = false)]
    rw [h.value v _ (by omega) (ends_close _ (by simp))]
    simp only [skipSpace_cons _ (rfl : isSpace ',' = false), h.members m' ms rest (by omega)]
    rfl

end Suffices

theorem suffices_all (fuel : Nat) : Suffices fuel := by
  induction fuel with
  | zero =>
    refine ⟨?_, nofun, nofun⟩
    intro v rest hfuel
    obtain ⟨c, cs, hcs, -⟩ := exists_chars_cons v
    rw [hcs] at hfuel
    cases hfuel
  | succ fuel h => exact ⟨h.value_succ, h.items_succ, h.members_succ⟩

/-- The text of a value reads as its document. -/
theorem ofText?_text (v : Json) : Document.ofText? v.text = some v.document := by
  have hread := (suffices_all (v.chars.length + 1)).value v [] (Nat.le_succ _) nofun
  rw [List.append_nil] at hread
  simp only [Document.ofText?, text, String.toList_ofList, hread]
  rfl

/-! ## Values with the same text -/

mutual

theorem document_inj (v w : Json) (h : v.document = w.document) : v = w := by
  cases v with
  | null => cases w <;> simp [document] at h ⊢
  | bool b => cases w <;> simp [document] at h ⊢; exact h
  | number n =>
    cases w <;> simp only [document, Document.number.injEq, Option.some.injEq, reduceCtorEq] at h
    rw [← Nat.ofDigitChars_ten_toDigits (n := n), h, Nat.ofDigitChars_ten_toDigits]
  | string s => cases w <;> simp [document] at h ⊢; exact h
  | array vs =>
    cases w <;> simp only [document, Document.array.injEq, reduceCtorEq] at h
    rw [itemDocuments_inj vs _ h]
  | object ms =>
    cases w <;> simp only [document, Document.object.injEq, reduceCtorEq] at h
    rw [memberDocuments_inj ms _ h]

theorem itemDocuments_inj (vs ws : List Json) (h : itemDocuments vs = itemDocuments ws) :
    vs = ws := by
  match vs, ws with
  | [], [] => rfl
  | [], w :: ws => simp [itemDocuments] at h
  | v :: vs, [] => simp [itemDocuments] at h
  | v :: vs, w :: ws =>
    simp only [itemDocuments, List.cons.injEq] at h
    rw [document_inj v w h.1, itemDocuments_inj vs ws h.2]

theorem memberDocuments_inj (ms ns : List (String × Json))
    (h : memberDocuments ms = memberDocuments ns) : ms = ns := by
  match ms, ns with
  | [], [] => rfl
  | [], n :: ns => simp [memberDocuments] at h
  | m :: ms, [] => simp [memberDocuments] at h
  | (k, v) :: ms, (l, w) :: ns =>
    simp only [memberDocuments, List.cons.injEq, Prod.mk.injEq, Option.some.injEq] at h
    rw [h.1.1, document_inj v w h.1.2, memberDocuments_inj ms ns h.2]

end

theorem text_inj {v w : Json} (h : v.text = w.text) : v = w := by
  apply document_inj
  have hread := ofText?_text v
  rw [h, ofText?_text w] at hread
  exact (Option.some.inj hread).symm

/-! ## Control characters -/

theorem le_hexDigits : ∀ n < 32,
    ' ' ≤ Nat.digitChar (n / 16) ∧ ' ' ≤ Nat.digitChar (n % 16) := by
  decide

theorem visible_of_mem_escaped {c x : Char} (h : x ∈ escaped c) : ' ' ≤ x := by
  unfold escaped at h
  split at h
  case h_8 =>
    split at h
    · next hlt =>
      obtain ⟨hhigh, hlow⟩ := le_hexDigits c.toNat hlt
      simp only [List.mem_cons, List.not_mem_nil, or_false] at h
      rcases h with rfl | rfl | rfl | rfl | rfl | rfl
      case inr.inr.inr.inr.inl => exact hhigh
      case inr.inr.inr.inr.inr => exact hlow
      all_goals decide
    · next hlt =>
      rw [List.mem_singleton.1 h]
      exact Char.not_lt.1 hlt
  all_goals
    simp only [List.mem_cons, List.not_mem_nil, or_false] at h
    rcases h with rfl | rfl <;> decide

theorem visible_stringText (s : String) : ∀ c ∈ stringText s, ' ' ≤ c := by
  have hinside : ∀ c ∈ s.toList.flatMap escaped, ' ' ≤ c := by
    intro c hc
    obtain ⟨d, -, hc⟩ := List.mem_flatMap.1 hc
    exact visible_of_mem_escaped hc
  simpa [stringText, or_imp, forall_and] using hinside

mutual

/-- No control character stands in the text of a value. -/
theorem visible_chars (v : Json) : ∀ c ∈ v.chars, ' ' ≤ c := by
  cases v with
  | null => simp [chars]
  | bool b => cases b <;> simp [chars]
  | number n =>
    intro c hc
    have hdigit : c.isDigit := Numeral.isDigit_of_mem_toDigits hc
    simp only [Char.isDigit, Bool.and_eq_true, decide_eq_true_eq] at hdigit
    exact Char.le_trans (by decide) hdigit.1
  | string s => exact visible_stringText s
  | array vs => simpa [chars, or_imp, forall_and] using visible_itemChars vs
  | object ms => simpa [chars, or_imp, forall_and] using visible_memberChars ms

theorem visible_itemChars (vs : List Json) : ∀ c ∈ itemChars vs, ' ' ≤ c := by
  match vs with
  | [] => exact List.forall_mem_nil _
  | [v] => simpa [itemChars] using visible_chars v
  | v :: w :: vs =>
    have hv := visible_chars v
    have hvs := visible_itemChars (w :: vs)
    simpa [itemChars, or_imp, forall_and] using ⟨hv, hvs⟩

theorem visible_memberChars (ms : List (String × Json)) : ∀ c ∈ memberChars ms, ' ' ≤ c := by
  match ms with
  | [] => exact List.forall_mem_nil _
  | [(k, v)] =>
    have hk := visible_stringText k
    have hv := visible_chars v
    simpa [memberChars, or_imp, forall_and] using ⟨hk, hv⟩
  | (k, v) :: m :: ms =>
    have hk := visible_stringText k
    have hv := visible_chars v
    have hms := visible_memberChars (m :: ms)
    simpa [memberChars, or_imp, forall_and] using ⟨hk, hv, hms⟩

end

end Patchbay.Json
