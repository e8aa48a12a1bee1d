-- What the lines of text tell of events. A line begins with a word for its category, and a
-- record stands in it with its kind and its text, whatever characters are in that text and
-- whatever the colours do to it. So the lines of some events tell the events as far as texts
-- of records do.
import Patchbay.Proofs.Resource
import Patchbay.Proofs.Store.Missing
import Patchbay.Watch.Lines

namespace Patchbay

/-! ## What an event tells -/

/-- An event with all that there is to tell of it. -/
inductive Told where
  | ready (stats : Stats)
  | added (r : Resource)
  | deleted (r : Resource)
  | changed (old new : Resource)
  | alarm (a : Alarm)

/-- What a handler is told, with the counts of what it sees when it is told that all is there. -/
def Delivery.told (d : Delivery) : Told :=
  match d.event with
  | .ready => .ready d.store.stats
  | .added r => .added r
  | .deleted r => .deleted r
  | .changed old new => .changed old new
  | .alarm a => .alarm a

namespace Alarm

/-- The word for whether an alarm is active. -/
def stateText (active : Bool) : String := if active then "active" else "clear"

theorem text_eq (a : Alarm) : a.text =
    a.kind.text ++ String.singleton ' ' ++ SlotKey.text ⟨a.host, a.slot⟩ ++
      String.singleton ' ' ++ a.port.text ++ String.singleton ' ' ++ a.channel.text ++
      String.singleton ' ' ++ stateText a.active := by
  simp [text, stateText, SlotKey.text, toString, String.append_assoc]

theorem space_not_mem_kind (k : AlarmKind) : ' ' ∉ k.text.toList := by
  cases k <;> decide

theorem space_not_mem_port (p : AlarmPort) : ' ' ∉ p.text.toList := by
  cases p <;> decide

theorem space_not_mem_channel (c : AlarmChannel) : ' ' ∉ c.text.toList := by
  cases c <;> decide

theorem space_not_mem_state (active : Bool) : ' ' ∉ (stateText active).toList := by
  cases active <;> decide

theorem stateText_inj {x y : Bool} (h : stateText x = stateText y) : x = y := by
  revert h
  cases x <;> cases y <;> decide

/-- Whatever the host is, the slot and all that is behind it are told from the end. -/
theorem text_inj {a b : Alarm} (h : a.text = b.text) : a = b := by
  rw [text_eq, text_eq] at h
  obtain ⟨h, hactive⟩ := Text.last_part_inj (space_not_mem_state _) (space_not_mem_state _) h
  obtain ⟨h, hchannel⟩ :=
    Text.last_part_inj (space_not_mem_channel _) (space_not_mem_channel _) h
  obtain ⟨h, hport⟩ := Text.last_part_inj (space_not_mem_port _) (space_not_mem_port _) h
  obtain ⟨hkind, hkey⟩ := Text.first_part_inj (space_not_mem_kind _) (space_not_mem_kind _) h
  obtain ⟨kind, host, slot, port, channel, active⟩ := a
  obtain ⟨kind', host', slot', port', channel', active'⟩ := b
  cases SlotKey.text_inj.1 hkey
  cases AlarmKind.text_inj hkind
  cases AlarmPort.text_inj hport
  cases AlarmChannel.text_inj hchannel
  cases stateText_inj hactive
  rfl

end Alarm

namespace Watch

/-- What is told in text: of a record its kind and its text. -/
inductive Spelled where
  | ready (stats : Stats)
  | added (k : Kind) (text : String)
  | deleted (k : Kind) (text : String)
  | changed (k : Kind) (old new : String)
  | alarm (a : Alarm)

/-- What is told in text of an event. -/
def spelled : Told → Spelled
  | .ready s => .ready s
  | .added r => .added r.kind r.text
  | .deleted r => .deleted r.kind r.text
  | .changed old new => .changed new.kind old.text new.text
  | .alarm a => .alarm a

namespace Style

variable {s : Style} {cs ds rest : List Char}

/-- A character that begins no switch stays where it is. -/
theorem of_kept_eq_cons {c : Char} (hc : c ≠ '\x1b') (h : s.kept cs = c :: rest) :
    ∃ r, cs = c :: r ∧ s.kept r = rest := by
  unfold kept at h
  split at h
  · obtain ⟨hc', -⟩ := List.cons.inj h
    exact absurd hc'.symm hc
  · obtain ⟨rfl, hrest⟩ := List.cons.inj h
    exact ⟨_, rfl, hrest⟩
  · cases h

/-- Where the style is switched off, the text itself switches it off. -/
theorem of_kept_eq_off (h : s.kept cs = off ++ rest) :
    ∃ r, cs = off ++ r ∧ rest = s.on ++ s.kept r := by
  unfold kept at h
  split at h
  · rw [List.append_assoc] at h
    exact ⟨_, rfl, (List.append_cancel_left h).symm⟩
  · obtain ⟨rfl, hrest⟩ := List.cons.inj h
    obtain ⟨r₁, rfl, h₁⟩ := of_kept_eq_cons (by decide) hrest
    obtain ⟨r₂, rfl, h₂⟩ := of_kept_eq_cons (by decide) h₁
    obtain ⟨r₃, rfl, -⟩ := of_kept_eq_cons (by decide) h₂
    next hother => exact (hother r₃ rfl rfl).elim
  · cases h

/-- A text in a style tells the text, since something is put in only where the text switches the
style off. -/
theorem kept_inj (h : s.kept cs = s.kept ds) : cs = ds := by
  fun_induction kept s cs generalizing ds with
  | case1 r ih =>
    rw [List.append_assoc] at h
    obtain ⟨r', rfl, hrest⟩ := of_kept_eq_off h.symm
    rw [ih (List.append_cancel_left hrest)]
    rfl
  | case2 c r hother ih =>
    have hkept : s.kept (c :: r) = s.kept ds := by rw [kept.eq_2 s c r hother, h]
    fun_cases kept s ds with
    | case1 r' =>
      rw [kept, List.append_assoc] at hkept
      obtain ⟨r₁, hoff, -⟩ := of_kept_eq_off hkept
      obtain ⟨rfl, hr⟩ := List.cons.inj hoff
      exact (hother r₁ rfl hr).elim
    | case2 d r' hother' =>
      rw [kept.eq_2 s d r' hother'] at h
      obtain ⟨rfl, hrest⟩ := List.cons.inj h
      rw [ih hrest]
    | case3 => cases h
  | case3 =>
    fun_cases kept s ds with
    | case1 r' => cases h
    | case2 d r' hother' =>
      rw [kept.eq_2 s d r' hother'] at h
      cases h
    | case3 => rfl

end Style

namespace Format

variable {f : Format}

theorem paint_inj {s : Style} {a b : String} (h : f.paint s a = f.paint s b) : a = b := by
  unfold paint at h
  split at h
  · have hkept := List.append_cancel_left (List.append_cancel_right (String.ofList_injective h))
    exact String.toList_inj.1 (Style.kept_inj hkept)
  · exact h

/-! ## One event -/

/-- The category of an event with the word that it begins with and its style. -/
def mark : Spelled → Category × Style × String
  | .ready _ => (.ready, .boldGreen, "READY")
  | .added .. => (.add, .green, "ADD")
  | .deleted .. => (.delete, .red, "DEL")
  | .changed .. => (.change, .yellow, "CHG")
  | .alarm a => (.alarm, if a.active then .boldRed else .dimmed, "ALM")

def word (f : Format) (x : Spelled) : String := f.paint (mark x).2.1 (mark x).2.2

/-- A kind in its column. -/
def column (f : Format) (k : Kind) : String := f.paint .cyan (padded k.text)

def counts (s : Stats) : String :=
  s!"{s.nodes} nodes, {s.sources} sources, {s.destinations} destinations, " ++
    s!"{s.gpis} gpis, {s.gpos} gpos"

/-- What stands behind the word in the first line. -/
def body (f : Format) : Spelled → String
  | .ready s => counts s
  | .added k text | .deleted k text => f.column k ++ " " ++ text
  | .changed k old _ => f.column k ++ " " ++ f.paint .dimmed old
  | .alarm a => a.text

/-- The lines behind the first. -/
def more : Spelled → List String
  | .changed _ _ new => ["    " ++ padded "" ++ " " ++ new]
  | _ => []

/-- The lines that tell of an event. -/
def spell (f : Format) (x : Spelled) : List String := (f.word x ++ " " ++ f.body x) :: more x

theorem textLines_eq (f : Format) (d : Delivery) :
    f.textLines d.store d.event = f.spell (spelled d.told) := by
  unfold Delivery.told
  cases d.event <;>
    simp [textLines, spelled, spell, word, mark, body, more, column, counts, kindColumn,
      toString, String.append_assoc]

/-- A line of an input is asserted, and there are no colours. -/
example :
    let high : LineCode := ⟨"hhhhh", rfl, List.all_eq_true.1 rfl⟩
    let low : LineCode := ⟨"lhhhh", rfl, List.all_eq_true.1 rfl⟩
    (Format.mk false false).textLines .empty
        (.changed (.gpioInput ⟨"a", 1, "b", high⟩) (.gpioInput ⟨"a", 1, "b", low⟩)) =
      ["CHG gpio input   a/1 (b) code=hhhhh", "                 a/1 (b) code=lhhhh"] := by
  decide

/-- All words that an event can begin with. -/
def marks : List (Category × Style × String) := [
  (.ready, .boldGreen, "READY"), (.add, .green, "ADD"), (.delete, .red, "DEL"),
  (.change, .yellow, "CHG"), (.alarm, .boldRed, "ALM"), (.alarm, .dimmed, "ALM")]

theorem mark_mem (x : Spelled) : mark x ∈ marks := by
  unfold mark marks
  cases x with
  | alarm a => cases a.active <;> simp
  | _ => simp

theorem space_not_mem_word (f : Format) (x : Spelled) : ' ' ∉ (f.word x).toList := by
  have hmarks : ∀ m ∈ marks, ' ' ∉ (f.paint m.2.1 m.2.2).toList := by
    obtain ⟨json, color⟩ := f
    cases json <;> cases color <;> decide
  exact hmarks _ (mark_mem x)

/-- The word in its style tells the category. -/
theorem category_of_word {x y : Spelled} (h : f.word x = f.word y) : (mark x).1 = (mark y).1 := by
  have hmarks : ∀ m ∈ marks, ∀ n ∈ marks,
      f.paint m.2.1 m.2.2 = f.paint n.2.1 n.2.2 → m.1 = n.1 := by
    obtain ⟨json, color⟩ := f
    cases json <;> cases color <;> decide
  exact hmarks _ (mark_mem x) _ (mark_mem y) h

/-- The column of a kind is as wide as that of any other, so it tells the kind. -/
theorem column_append_inj {k l : Kind} {s t : String}
    (h : f.column k ++ " " ++ s = f.column l ++ " " ++ t) : k = l ∧ s = t := by
  have hwidth : (f.column k ++ " ").toList.length = (f.column l ++ " ").toList.length := by
    obtain ⟨json, color⟩ := f
    cases json <;> cases color <;> cases k <;> cases l <;> decide
  have hchars : (f.column k ++ " ").toList ++ s.toList =
      (f.column l ++ " ").toList ++ t.toList := by
    rw [← String.toList_append, ← String.toList_append, h]
  obtain ⟨hcolumn, hrest⟩ := List.append_inj hchars hwidth
  refine ⟨?_, String.toList_inj.1 hrest⟩
  have hkinds : padded k.text = padded l.text := by
    rw [String.toList_inj, String.append_left_inj] at hcolumn
    exact paint_inj hcolumn
  revert hkinds
  cases k <;> cases l <;> decide

/-- The words of a line of counts. -/
def countWords (s : Stats) : List String := [
  Numeral.write s.nodes, "nodes,", Numeral.write s.sources, "sources,",
  Numeral.write s.destinations, "destinations,", Numeral.write s.gpis, "gpis,",
  Numeral.write s.gpos, "gpos"]

theorem fields_counts (s : Stats) : Text.fields ' ' (counts s) = countWords s := by
  have hnumeral : ∀ n, ' ' ∉ (Numeral.write n).toList := by
    intro n hmem
    rw [Numeral.write, String.toList_ofList] at hmem
    exact absurd (Numeral.isDigit_of_mem_toDigits hmem) (by decide)
  apply Text.fields_eq_iff.2
  refine ⟨by simp [countWords], ?_, ?_⟩
  · simp +decide [countWords, hnumeral]
  · apply String.toList_inj.1
    simp [counts, countWords, toString, Numeral.write, Nat.repr]

theorem counts_inj {s t : Stats} (h : counts s = counts t) : s = t := by
  have hwords := congrArg (Text.fields ' ') h
  rw [fields_counts, fields_counts] at hwords
  cases s
  cases t
  simpa [countWords, Numeral.write_inj] using hwords

/-- The lines of one event tell the event, and where they end. -/
theorem spell_append_inj {x y : Spelled} {us vs : List String}
    (h : f.spell x ++ us = f.spell y ++ vs) : x = y ∧ us = vs := by
  obtain ⟨hline, hmore⟩ := List.cons.inj h
  obtain ⟨hword, hbody⟩ :=
    Text.first_part_inj (f.space_not_mem_word x) (f.space_not_mem_word y) hline
  have hcategory := category_of_word hword
  cases x <;> cases y <;> cases hcategory
  case ready.ready => exact ⟨congrArg _ (counts_inj hbody), hmore⟩
  case added.added =>
    obtain ⟨rfl, rfl⟩ := column_append_inj hbody
    exact ⟨rfl, hmore⟩
  case deleted.deleted =>
    obtain ⟨rfl, rfl⟩ := column_append_inj hbody
    exact ⟨rfl, hmore⟩
  case changed.changed =>
    obtain ⟨rfl, hold⟩ := column_append_inj hbody
    obtain ⟨hnew, hrest⟩ := List.cons.inj hmore
    rw [paint_inj hold, (String.append_right_inj _).1 hnew]
    exact ⟨rfl, hrest⟩
  case alarm.alarm => exact ⟨congrArg _ (Alarm.text_inj hbody), hmore⟩

/-! ## All events -/

/-- The lines of some events tell how many there are and what is told of each. -/
theorem spell_inj {xs ys : List Spelled} (h : xs.flatMap f.spell = ys.flatMap f.spell) :
    xs = ys := by
  induction xs generalizing ys with
  | nil =>
    cases ys with
    | nil => rfl
    | cons y ys => cases h
  | cons x xs ih =>
    cases ys with
    | nil => cases h
    | cons y ys =>
      rw [List.flatMap_cons, List.flatMap_cons] at h
      obtain ⟨hx, hxs⟩ := spell_append_inj h
      rw [hx, ih hxs]

end Format

end Watch

end Patchbay
