-- What is shown of a record or an alarm. In JSON it is told from every other. In text it is one
-- line, since no line end gets into it, except in names, where it would be written out.
import Patchbay.Proofs.Frame.RoundTrip
import Patchbay.Resource.Display
import Patchbay.Resource.Json

namespace Patchbay

/-! ## JSON -/

@[simp]
theorem Json.word_inj {m n : UInt32} : Json.word m = Json.word n ↔ m = n := by
  simp [Json.word, UInt32.toNat_inj]

@[simp]
theorem Json.word_ne_null (n : UInt32) : Json.word n ≠ .null := nofun

@[simp]
theorem Json.null_ne_word (n : UInt32) : Json.null ≠ .word n := nofun

@[simp]
theorem LineCode.text_inj {c d : LineCode} : c.text = d.text ↔ c = d := by
  cases c
  cases d
  simp

theorem Kind.name_inj {k l : Kind} (h : k.name = l.name) : k = l := by
  revert h
  cases k <;> cases l <;> decide

theorem Node.toJson_inj {r r' : Node} (h : r.toJson = r'.toJson) : r = r' := by
  cases r
  cases r'
  simp_all [toJson]

theorem Source.toJson_inj {r r' : Source} (h : r.toJson = r'.toJson) : r = r' := by
  cases r
  cases r'
  simp_all [toJson]

theorem Destination.toJson_inj {r r' : Destination} (h : r.toJson = r'.toJson) : r = r' := by
  cases r
  cases r'
  simp_all [toJson]

theorem GpioInput.toJson_inj {r r' : GpioInput} (h : r.toJson = r'.toJson) : r = r' := by
  cases r
  cases r'
  simp_all [toJson]

theorem GpioOutput.toJson_inj {r r' : GpioOutput} (h : r.toJson = r'.toJson) : r = r' := by
  obtain ⟨_, _, _, _, _, _, slot⟩ := r
  obtain ⟨_, _, _, _, _, _, slot'⟩ := r'
  -- A number is never null, so the slot that is followed is told from none.
  cases slot <;> cases slot' <;> simp_all [toJson]

/-- A record can be told from its JSON, with its kind. -/
theorem Resource.toJson_inj {r r' : Resource} (h : r.toJson = r'.toJson) : r = r' := by
  simp only [toJson, Json.object.injEq, List.cons.injEq, Prod.mk.injEq, true_and, and_true,
    Json.string.injEq] at h
  obtain ⟨hname, hplain⟩ := h
  have hkind := Kind.name_inj hname
  cases r <;> cases r' <;> try cases hkind
  · exact congrArg _ (Node.toJson_inj hplain)
  · exact congrArg _ (Source.toJson_inj hplain)
  · exact congrArg _ (Destination.toJson_inj hplain)
  · exact congrArg _ (GpioInput.toJson_inj hplain)
  · exact congrArg _ (GpioOutput.toJson_inj hplain)

theorem AlarmKind.text_inj {k l : AlarmKind} (h : k.text = l.text) : k = l := by
  revert h
  cases k <;> cases l <;> decide

theorem AlarmPort.text_inj {p q : AlarmPort} (h : p.text = q.text) : p = q := by
  revert h
  cases p <;> cases q <;> decide

theorem AlarmChannel.text_inj {c d : AlarmChannel} (h : c.text = d.text) : c = d := by
  revert h
  cases c <;> cases d <;> decide

/-- An alarm can be told from its JSON. -/
theorem Alarm.toJson_inj {a a' : Alarm} (h : a.toJson = a'.toJson) : a = a' := by
  cases a
  cases a'
  simp only [toJson, Json.object.injEq, List.cons.injEq, Prod.mk.injEq, Json.bool.injEq,
    Json.string.injEq, Json.word_inj, true_and, and_true] at h
  obtain ⟨rfl, hchannel, rfl, hkind, hport, rfl⟩ := h
  rw [AlarmKind.text_inj hkind, AlarmPort.text_inj hport, AlarmChannel.text_inj hchannel]

/-! ## Text -/

namespace Text

@[simp]
theorem plain_append {s t : String} : Plain (s ++ t) ↔ Plain s ∧ Plain t := by
  unfold Plain
  rw [String.toList_append, List.forall_mem_append]

theorem exists_digitChar_of_mem {c : Char} {n : Nat} (h : c ∈ Nat.toDigits 16 n) :
    ∃ d < 16, c = Nat.digitChar d := by
  induction n using Nat.strongRecOn with
  | ind n ih =>
    by_cases hlt : n < 16
    · rw [Nat.toDigits_of_lt_base hlt, List.mem_singleton] at h
      exact ⟨n, hlt, h⟩
    · rw [Nat.toDigits_of_base_le (by decide) (Nat.le_of_not_lt hlt)] at h
      rcases List.mem_append.1 h with h | h
      · exact ih (n / 16) (by omega) h
      · exact ⟨n % 16, Nat.mod_lt n (by decide), List.mem_singleton.1 h⟩

theorem of_mem_byNumber {c x : Char} (h : x ∈ byNumber c) : x ≠ '\t' ∧ x ≠ '\r' ∧ x ≠ '\n' := by
  have hdigit : ∀ d < 16,
      Nat.digitChar d ≠ '\t' ∧ Nat.digitChar d ≠ '\r' ∧ Nat.digitChar d ≠ '\n' := by
    decide
  simp only [byNumber, List.cons_append, List.nil_append, List.mem_cons, List.mem_append,
    List.not_mem_nil, or_false] at h
  rcases h with rfl | rfl | rfl | h | rfl
  case inr.inr.inr.inl =>
    obtain ⟨d, hd, rfl⟩ := exists_digitChar_of_mem h
    exact hdigit d hd
  all_goals decide

/-- Whatever a character is, none that ends a line or a column is written for it. -/
theorem of_mem_escaped {c x : Char} (h : x ∈ escaped c) : x ≠ '\t' ∧ x ≠ '\r' ∧ x ≠ '\n' := by
  unfold escaped at h
  split at h
  case h_7 htab hlf hcr _ _ =>
    split at h
    · rw [List.mem_singleton.1 h]
      exact ⟨htab, hcr, hlf⟩
    split at h
    · exact of_mem_byNumber h
    · rw [List.mem_singleton.1 h]
      exact ⟨htab, hcr, hlf⟩
  all_goals
    simp only [List.mem_cons, List.not_mem_nil, or_false] at h
    rcases h with rfl | rfl <;> decide

/-- A text in quotation marks is on one line, whatever stands in it. -/
@[simp]
theorem plain_quoted (s : String) : Plain (quoted s) := by
  have hinside : ∀ c ∈ s.toList.flatMap escaped, c ≠ '\t' ∧ c ≠ '\r' ∧ c ≠ '\n' := by
    intro c hc
    obtain ⟨d, -, hc⟩ := List.mem_flatMap.1 hc
    exact of_mem_escaped hc
  unfold Plain quoted
  rw [String.toList_ofList, List.cons_append, List.forall_mem_cons, List.forall_mem_append]
  exact ⟨by decide, hinside, by simp⟩

end Text

section

open Text (Plain)

/-- A record is shown on one line. -/
theorem Resource.plain_text {r : Resource} (h : ∀ s ∈ r.texts, Plain s) : Plain r.text := by
  cases r with
  | node r =>
    simp only [texts, List.forall_mem_cons] at h
    obtain ⟨hhost, hhostName, hdevice, -⟩ := h
    simp +decide [text, Node.text, toString, hhost, hhostName, hdevice]
  | source r =>
    simp only [texts, List.forall_mem_cons] at h
    obtain ⟨hhost, hhostName, hstream, -⟩ := h
    cases henabled : r.enabled <;>
      simp +decide [text, Source.text, toString, hhost, hhostName, hstream, henabled]
  | destination r =>
    simp only [texts, List.forall_mem_cons] at h
    obtain ⟨hhost, hhostName, hstream, -⟩ := h
    simp +decide [text, Destination.text, toString, hhost, hhostName, hstream]
  | gpioInput r =>
    simp only [texts, List.forall_mem_cons] at h
    obtain ⟨hhost, hhostName, -⟩ := h
    simp +decide [text, GpioInput.text, toString, hhost, hhostName]
  | gpioOutput r =>
    simp only [texts, List.forall_mem_cons] at h
    obtain ⟨hhost, hhostName, -, hsource, -⟩ := h
    cases hslot : r.sourceSlot <;>
      simp +decide [text, GpioOutput.text, GpioOutput.sourceText, toString, hhost, hhostName,
        hsource, hslot]

theorem Alarm.plain_text {a : Alarm} (h : Plain a.host) : Plain a.text := by
  cases hactive : a.active <;> simp +decide [text, toString, h, hactive]

end

end Patchbay
