-- What is said of a record that is missing. A host may hold any characters, slashes and digits
-- among them, but the number of a slot has no slash in it. So the last slash of a key in words
-- is where the host ends, and whoever reads which kind and key were missed knows the address.
import Patchbay.Proofs.Store
import Patchbay.Proofs.Text.Fields
import Patchbay.Proofs.Text.Numeral

namespace Patchbay

/-! ## Keys in words -/

namespace SlotKey

/-- The last part between slashes is the number of the slot, whatever the host is. -/
theorem fields_text (k : SlotKey) :
    Text.fields '/' k.text = Text.fields '/' k.host ++ [Numeral.ofWord k.slot] := by
  have hslot : '/' ∉ (Numeral.ofWord k.slot).toList := by
    intro hmem
    exact absurd (Numeral.isDigit_of_mem_ofWord hmem) (by decide)
  have htext : k.text = k.host ++ String.singleton '/' ++ Numeral.ofWord k.slot := rfl
  rw [htext, Text.fields_append, Text.fields_of_not_mem hslot]

theorem text_inj {k l : SlotKey} : k.text = l.text ↔ k = l := by
  constructor
  · intro h
    have hparts := congrArg (Text.fields '/') h
    rw [fields_text, fields_text] at hparts
    obtain ⟨hhost, hslot⟩ := List.append_singleton_inj.1 hparts
    exact SlotKey.ext (Text.fields_inj.1 hhost) (Numeral.ofWord_inj.1 hslot)
  · rintro rfl
    rfl

end SlotKey

/-- Within a kind, the key in words tells the address. -/
theorem Address.keyText_inj {a b : Address} (h : a.kind = b.kind) :
    a.keyText = b.keyText ↔ a = b := by
  constructor
  · intro htext
    cases a <;> cases b <;> cases h
    case node.node.refl => exact congrArg node htext
    all_goals exact congrArg _ (SlotKey.text_inj.1 htext)
  · rintro rfl
    rfl

namespace Kind

theorem keyText_at {k : Kind} {x : SlotKey} (hk : k ≠ .node) : (k.at x).keyText = x.text := by
  cases k with
  | node => exact absurd rfl hk
  | _ => rfl

/-- How a message begins tells the kind. -/
theorem eq_of_heading {k l : Kind} {s t : String}
    (h : k.text ++ " not found: " ++ s = l.text ++ " not found: " ++ t) : k = l := by
  -- No two kinds share the first six characters, and every message has so many before the key.
  have hlong : ∀ k : Kind, 6 ≤ (k.text ++ " not found: ").toList.length := by
    intro k
    cases k <;> decide
  have hstart : ∀ (k : Kind) (s : String), (k.text ++ " not found: " ++ s).toList.take 6 =
      (k.text ++ " not found: ").toList.take 6 := by
    intro k s
    rw [String.toList_append, List.take_append_of_le_length (hlong k)]
  have htold : ∀ k l : Kind, (k.text ++ " not found: ").toList.take 6 =
      (l.text ++ " not found: ").toList.take 6 → k = l := by
    intro k l
    cases k <;> cases l <;> decide
  apply htold
  rw [← hstart k s, h, hstart l t]

end Kind

/-! ## Faults -/

/-- The key that a fault names. -/
def Fault.keyText? : Fault → Option String
  | notFound a => some a.keyText
  | _ => none

/-- The message of a record that is missing tells its address. -/
theorem Fault.message_notFound_inj {a b : Address} :
    (notFound a).message = (notFound b).message ↔ a = b := by
  constructor
  · intro h
    have hmessage : ∀ a, (notFound a).message = a.kind.text ++ " not found: " ++ a.keyText :=
      fun _ => rfl
    rw [hmessage, hmessage] at h
    have hkind : a.kind = b.kind := Kind.eq_of_heading h
    rw [hkind, String.append_right_inj] at h
    exact (Address.keyText_inj hkind).1 h
  · rintro rfl
    rfl

namespace Store

/-- A call that needs the record under an address fails. -/
inductive Misses (s : Store) : Address → Fault → Prop where
  | get {a : Address} {err : Fault} (failed : s.get a = .error err) : Misses s a err
  | replace {r : Resource} {err : Fault} (failed : s.replace r = .error err) :
      Misses s r.address err
  | remove {a : Address} {err : Fault} (failed : s.remove a = .error err) : Misses s a err

variable {s : Store} {a : Address} {err : Fault}

/-- What is done with a record once it is there cannot fail. -/
theorem error_of_bind_pure {β : Type} {x : Except Fault Resource} {g : Resource → β}
    (h : (x >>= fun r => pure (g r)) = .error err) : x = .error err := by
  cases x with
  | error err => cases h; rfl
  | ok r => cases h

/-- Each call fails just where there is no record, and the fault names the address. -/
theorem misses_iff : s.Misses a err ↔ s.get? a = none ∧ err = .notFound a := by
  constructor
  · intro h
    cases h with
    | get failed => exact get_eq_error_iff.1 failed
    | replace failed => exact get_eq_error_iff.1 (error_of_bind_pure failed)
    | remove failed => exact get_eq_error_iff.1 (error_of_bind_pure failed)
  · intro h
    exact .get (get_eq_error_iff.2 h)

/-- A slot is told by its text, whatever its host is. So when slots of one kind are missed, in any
two stores, the faults name the same key just if it was one slot. Whatever is missed, the messages
are the same just if the addresses are. -/
theorem a_missing_slot_is_told_by_its_text (x y : SlotKey) :
    (x.text = y.text ↔ x = y) ∧
    (∀ kind, kind ≠ Kind.node → ∀ (s t : Store) (err err' : Fault),
      s.Misses (kind.at x) err → t.Misses (kind.at y) err' →
      err.keyText? = some x.text ∧ err'.keyText? = some y.text ∧
      (err.keyText? = err'.keyText? ↔ x = y)) ∧
    ∀ (s t : Store) (a b : Address) (err err' : Fault), s.Misses a err → t.Misses b err' →
      (err.message = err'.message ↔ a = b) := by
  refine ⟨SlotKey.text_inj, ?_, ?_⟩
  · intro kind hkind s t err err' hx hy
    obtain ⟨-, rfl⟩ := misses_iff.1 hx
    obtain ⟨-, rfl⟩ := misses_iff.1 hy
    simp only [Fault.keyText?, Kind.keyText_at hkind, Option.some.injEq, SlotKey.text_inj,
      true_and]
  · intro s t a b err err' ha hb
    obtain ⟨-, rfl⟩ := misses_iff.1 ha
    obtain ⟨-, rfl⟩ := misses_iff.1 hb
    exact Fault.message_notFound_inj

/-- Slot 2 of a host that ends in a 1 and slot 12 of the host without a name are told apart. -/
theorem a_slash_in_a_host_hides_no_slot :
    let x : SlotKey := ⟨"/1", 2⟩
    let y : SlotKey := ⟨"", 12⟩
    let s := empty.put (.gpioInput ⟨"/1", 2, "", ⟨"hhhhh", rfl, List.all_eq_true.1 rfl⟩⟩)
    let err := Fault.notFound (.gpioOutput x)
    let err' := Fault.notFound (.gpioOutput y)
    s.Misses (Kind.gpioOutput.at x) err ∧ s.Misses (Kind.gpioOutput.at y) err' ∧
    err.keyText? = some "/1/2" ∧ err'.keyText? = some "/12" ∧ err.keyText? ≠ err'.keyText? ∧
    err.message ≠ err'.message := by
  intro x y s err err'
  have hx : s.Misses (Kind.gpioOutput.at x) err := misses_iff.2 ⟨by decide, rfl⟩
  have hy : s.Misses (Kind.gpioOutput.at y) err' := misses_iff.2 ⟨by decide, rfl⟩
  have hxtext : x.text = "/1/2" := by decide
  have hytext : y.text = "/12" := by decide
  have hne : x ≠ y := by decide
  have hneat : Kind.gpioOutput.at x ≠ Kind.gpioOutput.at y := by decide
  obtain ⟨-, hkeys, hmessages⟩ := a_missing_slot_is_told_by_its_text x y
  obtain ⟨hkey, hkey', htold⟩ := hkeys .gpioOutput (by decide) s s err err' hx hy
  rw [hxtext] at hkey
  rw [hytext] at hkey'
  exact ⟨hx, hy, hkey, hkey', mt htold.1 hne, mt (hmessages s s _ _ err err' hx hy).1 hneat⟩

/-- A node can go by the text of a slot, so the key alone does not tell the kind. -/
example : (Address.node "/1/2").keyText = (Address.gpioOutput ⟨"/1", 2⟩).keyText := by
  decide

end Store

end Patchbay
