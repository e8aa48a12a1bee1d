-- A record written in a frame reads back as that record, and so does an alarm.
-- Where no text of theirs holds a tab or a line end, the line of the frame cuts
-- into the same fields again.
import Patchbay.Frame.Render
import Patchbay.Proofs.Frame.Acceptance
import Patchbay.Proofs.Text.Fields

namespace Patchbay

/-- A text without tabs and line ends. -/
def Text.Plain (s : String) : Prop := ∀ c ∈ s.toList, c ≠ '\t' ∧ c ≠ '\r' ∧ c ≠ '\n'

/-- The texts in a record that can be any. -/
def Resource.texts : Resource → List String
  | node r => [r.host, r.hostName, r.deviceName]
  | source r => [r.host, r.hostName, r.streamAddress, r.name]
  | destination r => [r.host, r.hostName, r.streamAddress, r.name]
  | gpioInput r => [r.host, r.hostName]
  | gpioOutput r => [r.host, r.hostName, r.name, r.sourceHost]

/-- What a controller tells: a record with what becomes of it, or an alarm. -/
inductive Message where
  | record (op : Operation) (r : Resource)
  | alarm (a : Alarm)

namespace Message

def frame : Message → Frame
  | record op r => r.frame (r.kind.token op)
  | alarm a => a.frame

/-- The texts in a message that can be any. -/
def texts : Message → List String
  | record _ r => r.texts
  | alarm a => [a.host]

/-- The frame reads back as the message. -/
def Carries (f : Frame) : Message → Prop
  | record op r => f.token = r.kind.token op ∧ f.decode r.kind = .ok r
  | alarm a => f.token = a.kind.text ∧ f.decodeAlarm = .ok a

end Message

namespace Frame

/-! ## Single fields -/

section

variable {f : Frame} {i : Nat}

theorem number_of_getElem? {n : UInt32} (q : Quantity)
    (h : f.fields[i]? = some (Numeral.ofWord n)) : f.number i q = .ok n := by
  unfold number
  rw [field_of_getElem? h]
  simp only [bind, Except.bind, Numeral.word?_ofWord]
  rfl

theorem flag_of_getElem? {b : Bool} (h : f.fields[i]? = some (flagField b)) :
    f.flag i = .ok b := by
  unfold flag
  rw [field_of_getElem? h]
  cases b <;> rfl

end

/-! ## Records and alarms -/

/-- A record is read back whatever the token. -/
theorem decode_frame (r : Resource) (token : String) : (r.frame token).decode r.kind = .ok r := by
  refine decode_eq_ok_iff.2 ⟨rfl, by cases r <;> rfl, ?_⟩
  have hword : ∀ n : UInt32, Numeral.Denotes (Numeral.ofWord n) n.toNat := fun n =>
    Numeral.word?_eq_some_iff.1 (Numeral.word?_ofWord n)
  have hflag : ∀ b, b = true ↔ flagField b = "1" := by
    intro b
    cases b <;> decide
  cases r with
  | gpioOutput r =>
    have hslot :
        Form.sourceSlot.Says (sourceSlotField r.sourceSlot) (.sourceSlot r.sourceSlot) := by
      cases r.sourceSlot with
      | none => rfl
      | some n => exact hword n
    simpa [parts, Resource.frame, Resource.fields, Kind.forms, Resource.values, Resource.kind,
      Resource.address, Address.kind, Form.Says, hword] using hslot
  | _ =>
    simp [parts, Resource.frame, Resource.fields, Kind.forms, Resource.values, Resource.kind,
      Resource.address, Address.kind, Form.Says, hword, hflag]

theorem decodeAlarm_frame (a : Alarm) : a.frame.decodeAlarm = .ok a := by
  unfold decodeAlarm
  rw [number_of_getElem? (n := a.slot) _ rfl, flag_of_getElem? (b := a.active) rfl]
  obtain ⟨kind, host, slot, port, channel, active⟩ := a
  cases kind <;> cases port <;> cases channel <;> rfl

end Frame

theorem Message.carries_frame (m : Message) : m.Carries m.frame := by
  cases m with
  | record op r => exact ⟨rfl, Frame.decode_frame r _⟩
  | alarm a => exact ⟨rfl, Frame.decodeAlarm_frame a⟩

/-! ## Plain texts -/

namespace Text

instance (s : String) : Decidable (Plain s) := List.decidableBAll _ s.toList

theorem plain_of_isGraphic {s : String} (h : ∀ c ∈ s.toList, isGraphic c) : Plain s := by
  intro c hc
  have hgraphic := h c hc
  refine ⟨?_, ?_, ?_⟩
  all_goals
    rintro rfl
    revert hgraphic
    decide

@[simp]
theorem plain_ofWord (n : UInt32) : Plain (Numeral.ofWord n) :=
  plain_of_isGraphic fun _ hc => isGraphic_of_isDigit (Numeral.isDigit_of_mem_ofWord hc)

@[simp]
theorem plain_code (c : LineCode) : Plain c.text := plain_of_isGraphic c.graphic

@[simp]
theorem plain_flagField (b : Bool) : Plain (flagField b) := by
  cases b <;> decide

@[simp]
theorem plain_sourceSlotField (n : Option UInt32) : Plain (sourceSlotField n) := by
  cases n with
  | none => decide
  | some n => exact plain_ofWord n

@[simp]
theorem plain_token (k : Kind) (op : Operation) : Plain (k.token op) := by
  cases k <;> cases op <;> decide

@[simp]
theorem plain_alarmKind (k : AlarmKind) : Plain k.text := by
  cases k <;> decide

@[simp]
theorem plain_alarmPort (p : AlarmPort) : Plain p.text := by
  cases p <;> decide

@[simp]
theorem plain_alarmChannel (c : AlarmChannel) : Plain c.text := by
  cases c <;> decide

end Text

theorem Resource.plain_fields {r : Resource} (h : ∀ s ∈ r.texts, Text.Plain s) :
    ∀ s ∈ r.fields, Text.Plain s := by
  cases r <;> simpa [fields, texts] using h

theorem Message.plain_fields {m : Message} (h : ∀ s ∈ m.texts, Text.Plain s) :
    ∀ s ∈ m.frame.fields, Text.Plain s := by
  cases m with
  | record op r =>
    intro s hs
    rcases List.mem_cons.1 hs with rfl | hs
    · exact Text.plain_token r.kind op
    · exact r.plain_fields h s hs
  | alarm a =>
    have hhost : Text.Plain a.host := h a.host List.mem_cons_self
    simp [frame, Alarm.frame, hhost]

/-! ## Lines -/

namespace Frame

theorem ofLine_line {f : Frame} (h : ∀ s ∈ f.fields, Text.Plain s) (hne : f.fields ≠ []) :
    ofLine f.line = f := by
  have htab : ∀ s ∈ f.fields, '\t' ∉ s.toList := fun s hs hc => (h s hs _ hc).1 rfl
  exact congrArg Frame.mk (Text.fields_intercalate htab hne)

theorem of_mem_line {f : Frame} {c : Char} (h : ∀ s ∈ f.fields, Text.Plain s)
    (hc : c ∈ f.line.toList) : c ≠ '\r' ∧ c ≠ '\n' := by
  rw [line, String.toList_intercalate] at hc
  rcases Text.mem_intercalate hc with hc | ⟨cs, hcs, hc⟩
  · rw [List.mem_singleton.1 hc]
    decide
  · obtain ⟨s, hs, rfl⟩ := List.mem_map.1 hcs
    exact (h s hs c hc).2

end Frame

end Patchbay
