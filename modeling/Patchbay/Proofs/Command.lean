-- Commands can be told from the bytes that are sent. Each is a line of words, so
-- whoever cuts the bytes into lines and each line into words reads the same
-- commands again, as long as no host brings a blank or the end of a line with it.
import Patchbay.Command
import Patchbay.Proofs.Text.Fields
import Patchbay.Proofs.Text.Numeral
import Patchbay.Proofs.Text.Utf8

namespace Patchbay

/-- The host has no blank and no end of a line in it. -/
def SlotKey.Clear (k : SlotKey) : Prop := ∀ x ∈ k.host.toList, x ≠ ' ' ∧ x ≠ '\r' ∧ x ≠ '\n'

instance (k : SlotKey) : Decidable k.Clear := List.decidableBAll _ k.host.toList

namespace Command

/-! ## Words -/

/-- The slots that a command names. -/
def keys : Command → List SlotKey
  | subscribe _ | ping => []
  | clearCrosspoint k | clearGpioCrosspoint k | setGpoState k _ | setGpiState k _ => [k]
  | setCrosspoint k l | setGpioCrosspoint k l => [k, l]

def words (c : Command) : List String := c.name :: c.arguments

/-- The slot that two words name. -/
def key? (host slot : String) : Option SlotKey := (Numeral.word? slot).map (SlotKey.mk host)

/-- The command of some words. How many there are tells which commands it can be. -/
def ofWords? : List String → Option Command
  | [name] => (ping :: Topic.all.map subscribe).find? (·.name = name)
  | [name, h, s] => do
    let k ← key? h s
    [clearCrosspoint k, clearGpioCrosspoint k].find? (·.name = name)
  | [name, h, s, t] => do
    let k ← key? h s
    let c ← (LineCode.ofText? t).toOption
    [setGpoState k c, setGpiState k c].find? (·.name = name)
  | [name, h, s, h', s'] => do
    let k ← key? h s
    let l ← key? h' s'
    [setCrosspoint k l, setGpioCrosspoint k l].find? (·.name = name)
  | _ => none

theorem key?_ofWord (k : SlotKey) : key? k.host (Numeral.ofWord k.slot) = some k := by
  unfold key?
  rw [Numeral.word?_ofWord, Option.map_some]

theorem ofWords?_words (c : Command) : ofWords? c.words = some c := by
  have hcode : ∀ c : LineCode, (LineCode.ofText? c.text).toOption = some c := by
    intro c
    rw [LineCode.ofText?_text]
    rfl
  cases c with
  | subscribe t => cases t <;> decide
  | ping => decide
  | clearCrosspoint k => simp [words, arguments, slotWords, ofWords?, key?_ofWord, name]
  | clearGpioCrosspoint k => simp [words, arguments, slotWords, ofWords?, key?_ofWord, name]
  | setCrosspoint k l => simp [words, arguments, slotWords, ofWords?, key?_ofWord, name]
  | setGpioCrosspoint k l => simp [words, arguments, slotWords, ofWords?, key?_ofWord, name]
  | setGpoState k c => simp [words, arguments, slotWords, ofWords?, key?_ofWord, hcode, name]
  | setGpiState k c => simp [words, arguments, slotWords, ofWords?, key?_ofWord, hcode, name]

/-! ## What stands in a line -/

theorem graphic_name (c : Command) : ∀ x ∈ c.name.toList, isGraphic x = true := by
  apply List.all_eq_true.1
  cases c with
  | subscribe t => cases t <;> decide
  | _ =>
    simp only [name]
    decide

/-- Apart from the hosts, nothing but characters with a mark stands in the words. -/
theorem mem_words {c : Command} {w : String} (hw : w ∈ c.words) :
    (∃ k ∈ c.keys, w = k.host) ∨ ∀ x ∈ w.toList, isGraphic x = true := by
  have hslot : ∀ n : UInt32, ∀ x ∈ (Numeral.ofWord n).toList, isGraphic x = true := by
    intro n x hx
    exact isGraphic_of_isDigit (Numeral.isDigit_of_mem_ofWord hx)
  rcases List.mem_cons.1 hw with rfl | hw
  · exact Or.inr (graphic_name c)
  have hkey : ∀ k ∈ c.keys, w ∈ slotWords k →
      (∃ k ∈ c.keys, w = k.host) ∨ ∀ x ∈ w.toList, isGraphic x = true := by
    intro k hk hw
    simp only [slotWords, List.mem_cons, List.not_mem_nil, or_false] at hw
    rcases hw with rfl | rfl
    · exact Or.inl ⟨k, hk, rfl⟩
    · exact Or.inr (hslot k.slot)
  cases c with
  | subscribe | ping => cases hw
  | clearCrosspoint k | clearGpioCrosspoint k => exact hkey k List.mem_cons_self hw
  | setCrosspoint k l | setGpioCrosspoint k l =>
    rcases List.mem_append.1 hw with hw | hw
    · exact hkey k List.mem_cons_self hw
    · exact hkey l (List.mem_cons_of_mem _ List.mem_cons_self) hw
  | setGpoState k c | setGpiState k c =>
    rcases List.mem_append.1 hw with hw | hw
    · exact hkey k List.mem_cons_self hw
    · rw [List.mem_singleton.1 hw]
      exact Or.inr c.graphic

/-- A character without a mark gets into a word only with a host. -/
theorem not_mem_words {c : Command} {x : Char} (hx : isGraphic x = false)
    (h : ∀ k ∈ c.keys, x ∉ k.host.toList) : ∀ w ∈ c.words, x ∉ w.toList := by
  intro w hw hmem
  rcases mem_words hw with ⟨k, hk, rfl⟩ | hall
  · exact h k hk hmem
  · exact absurd (hall x hmem) (by simp [hx])

theorem not_mem_line {c : Command} {x : Char} (hx : isGraphic x = false) (hblank : x ≠ ' ')
    (h : ∀ k ∈ c.keys, x ∉ k.host.toList) : x ∉ c.line := by
  have hwords := not_mem_words hx h
  intro hmem
  rcases List.mem_append.1 hmem with hmem | hmem
  · exact hwords c.name List.mem_cons_self hmem
  · obtain ⟨w, hw, hmem⟩ := List.mem_flatMap.1 hmem
    rcases List.mem_cons.1 hmem with hmem | hmem
    · exact hblank hmem
    · exact hwords w (List.mem_cons_of_mem _ hw) hmem

theorem line_eq (c : Command) :
    c.line = c.name.toList ++ (c.arguments.map String.toList).flatMap fun w => ' ' :: w := by
  rw [line, List.flatMap_map]

/-- The hosts of all slots that the command names are so. -/
def Clear (c : Command) : Prop := ∀ k ∈ c.keys, k.Clear

instance (c : Command) : Decidable c.Clear := List.decidableBAll _ c.keys

/-- The command of a line. -/
def ofLine? (line : List Char) : Option Command :=
  ofWords? ((line.splitOn ' ').map String.ofList)

theorem ofLine?_line {c : Command} (h : c.Clear) : ofLine? c.line = some c := by
  have hwords := not_mem_words (c := c) (x := ' ') rfl fun k hk hx => (h k hk _ hx).1 rfl
  obtain ⟨hname, harguments⟩ := List.forall_mem_cons.1 hwords
  unfold ofLine?
  rw [line_eq, Text.splitOn_append_flatMap hname (by simpa using harguments)]
  simpa [words] using ofWords?_words c

/-! ## Bytes -/

/-- A line and its end, written. -/
theorem bytes_eq (c : Command) :
    c.bytes = Utf8.write (String.ofList c.line) ++ [0x0d, 0x0a] := by
  unfold bytes text
  rw [String.ofList_append, Utf8.write_append]
  rfl

/-- Up to its first blank, a line is the name of the command. -/
theorem name_of_line (c : Command) :
    (Utf8.write (String.ofList c.line)).takeWhile (· ≠ 0x20) = Utf8.write c.name := by
  have hblank : 0x20 ∉ Utf8.write c.name := by
    apply Utf8.not_mem_write (c := ' ') (by decide) rfl
    intro hx
    exact absurd (graphic_name c _ hx) (by decide)
  have hname : ∀ b ∈ Utf8.write c.name, decide (b ≠ 0x20) = true := by
    intro b hb
    apply decide_eq_true
    rintro rfl
    exact hblank hb
  rw [line, String.ofList_append, Utf8.write_append, String.ofList_toList,
    List.takeWhile_append_of_pos hname]
  cases c.arguments with
  | nil => exact List.append_nil _
  | cons w ws =>
    have hrest : ∀ cs, Utf8.write (String.ofList (' ' :: cs)) =
        0x20 :: cs.flatMap String.utf8EncodeChar := by
      intro cs
      rw [Utf8.write_eq_flatMap, String.toList_ofList]
      rfl
    rw [List.flatMap_cons, List.cons_append, hrest]
    simp

/-- Where no host brings the end of a line with it, a line has no end in it. -/
theorem one_line {c : Command} (h : ∀ k ∈ c.keys, ∀ x ∈ k.host.toList, x ≠ '\r' ∧ x ≠ '\n') :
    0x0d ∉ Utf8.write (String.ofList c.line) ∧ 0x0a ∉ Utf8.write (String.ofList c.line) := by
  constructor
  · apply Utf8.not_mem_write (c := '\r') (by decide) rfl
    rw [String.toList_ofList]
    exact not_mem_line rfl (by decide) fun k hk hx => (h k hk _ hx).1 rfl
  · apply Utf8.not_mem_write (c := '\n') (by decide) rfl
    rw [String.toList_ofList]
    exact not_mem_line rfl (by decide) fun k hk hx => (h k hk _ hx).2 rfl

theorem batch_eq (cs : List Command) :
    batch cs = Utf8.write (String.ofList (cs.flatMap fun c => c.line ++ ['\r', '\n'])) := by
  induction cs with
  | nil => rfl
  | cons c cs ih =>
    rw [List.flatMap_cons, String.ofList_append, Utf8.write_append, ← ih]
    rfl

/-- The lines of commands can be cut apart again. -/
theorem lines_of_batch {cs : List Command} (h : ∀ c ∈ cs, c.Clear) :
    (cs.flatMap fun c => c.line ++ ['\r', '\n']).splitOn '\n' =
      (cs.map fun c => c.line ++ ['\r']) ++ [[]] := by
  have hlines : ∀ l ∈ cs.map fun c => c.line ++ ['\r'], '\n' ∉ l := by
    intro l hl
    obtain ⟨c, hc, rfl⟩ := List.mem_map.1 hl
    have hline := not_mem_line (c := c) (x := '\n') rfl (by decide)
      fun k hk hx => (h c hc k hk _ hx).2.2 rfl
    simpa using hline
  rw [← Text.splitOn_flatMap hlines, List.flatMap_map]
  simp

/-- Commands whose hosts are clear are read back from their bytes. -/
theorem commands_of_lines {cs : List Command} (h : ∀ c ∈ cs, c.Clear) :
    (cs.map fun c => c.line ++ ['\r']).map (fun l => ofLine? l.dropLast) = cs.map some := by
  rw [List.map_map]
  refine List.map_congr_left fun c hc => ?_
  simpa using ofLine?_line (h c hc)

theorem data_arguments (ws : List String) (buf : ByteArray) :
    (ws.foldl (fun buf w => buf.push 0x20 ++ w.toByteArray) buf).data.toList =
      buf.data.toList ++ (ws.flatMap fun w => ' ' :: w.toList).flatMap String.utf8EncodeChar := by
  induction ws generalizing buf with
  | nil => exact (List.append_nil _).symm
  | cons w ws ih =>
    have hw : w.toByteArray.data.toList = w.toList.flatMap String.utf8EncodeChar :=
      Utf8.write_eq_flatMap w
    have hblank : String.utf8EncodeChar ' ' = [0x20] := by decide
    rw [List.foldl_cons, ih, List.flatMap_cons, List.flatMap_append, List.flatMap_cons, hblank,
      ← hw]
    simp [ByteArray.data_push]

theorem data_writeInto (buf : ByteArray) (c : Command) :
    (writeInto buf c).data.toList = buf.data.toList ++ c.bytes := by
  have hname : c.name.toByteArray.data.toList = c.name.toList.flatMap String.utf8EncodeChar :=
    Utf8.write_eq_flatMap c.name
  have hend : "\r\n".toByteArray.data.toList = [0x0d, 0x0a] := by decide
  unfold writeInto
  rw [bytes_eq, Utf8.write_eq_flatMap, String.toList_ofList, line, List.flatMap_append, ← hname]
  simp only [ByteArray.data_append, Array.toList_append, data_arguments, hend, List.append_assoc]

theorem foldl_writeInto (cs : List Command) (buf : ByteArray) :
    (cs.foldl writeInto buf).data.toList = buf.data.toList ++ batch cs := by
  induction cs generalizing buf with
  | nil => exact (List.append_nil _).symm
  | cons c cs ih =>
    rw [List.foldl_cons, ih, data_writeInto, List.append_assoc]
    rfl

/-- Commands whose hosts have no blanks and no line ends in them are told by their bytes: when
two lists of them come to the same in a buffer, they are the same list. Each gives one line,
whose end is the only one in it. Whatever a buffer holds, a command is put behind it. -/
theorem commands_are_told_by_their_bytes (cs ds : List Command) (hcs : ∀ c ∈ cs, c.Clear)
    (hds : ∀ d ∈ ds, d.Clear) :
    (∀ buf, cs.foldl writeInto buf = ds.foldl writeInto buf → cs = ds) ∧
    (∀ c ∈ cs, ∃ line, c.bytes = line ++ [0x0d, 0x0a] ∧ 0x0d ∉ line ∧ 0x0a ∉ line) ∧
    ∀ buf c, writeInto buf c = buf ++ writeInto .empty c ∧
      (writeInto .empty c).data.toList = c.bytes := by
  refine ⟨?_, ?_, ?_⟩
  · intro buf h
    have hbytes := congrArg (fun b => b.data.toList) h
    simp only [foldl_writeInto] at hbytes
    have hbatch := List.append_cancel_left hbytes
    rw [batch_eq, batch_eq] at hbatch
    have hchars := String.ofList_injective (Utf8.write_inj hbatch)
    have hlines := congrArg (List.splitOn '\n') hchars
    rw [lines_of_batch hcs, lines_of_batch hds] at hlines
    have hread := congrArg (List.map fun l => ofLine? l.dropLast) (List.append_cancel_right hlines)
    rw [commands_of_lines hcs, commands_of_lines hds] at hread
    exact (List.map_inj_right fun _ _ => Option.some.inj).1 hread
  · intro c hc
    exact ⟨_, bytes_eq c, one_line fun k hk x hx => (hcs c hc k hk x hx).2⟩
  · intro buf c
    have hempty := data_writeInto .empty c
    refine ⟨?_, hempty⟩
    apply ByteArray.ext
    apply Array.toList_inj.1
    rw [data_writeInto, ByteArray.data_append, Array.toList_append, hempty]
    rfl

/-- A command that names two slots is told from two commands that name one of them each. -/
theorem a_crosspoint_is_told_from_a_state :
    let source : SlotKey := ⟨"", 4294967295⟩
    let cs : List Command := [.setCrosspoint ⟨"é", 0⟩ source, .ping]
    let ds : List Command := [.clearCrosspoint ⟨"é", 0⟩,
      .setGpiState source ⟨"hlhlh", rfl, List.all_eq_true.1 rfl⟩, .ping]
    (∀ c ∈ cs, c.Clear) ∧ (∀ d ∈ ds, d.Clear) ∧
    (∀ buf, cs.foldl writeInto buf ≠ ds.foldl writeInto buf) ∧
    ∃ line, (setCrosspoint ⟨"é", 0⟩ source).bytes = line ++ [0x0d, 0x0a] ∧ 0x0d ∉ line ∧
      0x0a ∉ line := by
  intro source cs ds
  have hcs : ∀ c ∈ cs, c.Clear := by decide
  have hds : ∀ d ∈ ds, d.Clear := by decide
  obtain ⟨htold, hlines, -⟩ := commands_are_told_by_their_bytes cs ds hcs hds
  have hne : cs ≠ ds := by decide
  exact ⟨hcs, hds, fun buf h => hne (htold buf h), hlines _ List.mem_cons_self⟩

/-- Where hosts bring blanks with them, two commands can look the same. -/
example : (setCrosspoint ⟨"a 0 b", 1⟩ ⟨"c", 2⟩).bytes =
    (setCrosspoint ⟨"a", 0⟩ ⟨"b 1 c", 2⟩).bytes := by
  decide

end Command

end Patchbay
