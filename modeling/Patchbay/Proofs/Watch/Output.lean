-- What the watcher writes. Each event is one line, or two when a record changes and the lines
-- are in text, and nothing in a record breaks a line. In JSON each line is a document from
-- which the event can be told. In text it can be told as far as the texts of records tell it.
import Patchbay.Proofs.Engine.Plainness
import Patchbay.Proofs.Json
import Patchbay.Proofs.Watch.Text
import Patchbay.Watch.Basic

namespace Patchbay.Watch

/-! ## Lines of JSON -/

/-- What is told, in JSON. -/
def toldJson : Told → Json
  | .ready s => .object [("event", .string "ready"), ("stats", statsJson s)]
  | .added r => .object [("event", .string "add"), ("resource", r.toJson)]
  | .deleted r => .object [("event", .string "delete"), ("resource", r.toJson)]
  | .changed old new =>
    .object [("event", .string "change"), ("new", new.toJson), ("old", old.toJson)]
  | .alarm a => .object [("alarm", a.toJson), ("event", .string "alarm")]

theorem eventJson_eq (d : Delivery) : eventJson d.store d.event = toldJson d.told := by
  unfold Delivery.told
  cases d.event <;> rfl

theorem statsJson_inj {s t : Stats} (h : statsJson s = statsJson t) : s = t := by
  cases s
  cases t
  simp_all [statsJson]

theorem toldJson_inj {a b : Told} (h : toldJson a = toldJson b) : a = b := by
  cases a <;> cases b <;> simp [toldJson] at h
  case ready.ready => rw [statsJson_inj h]
  case added.added => rw [Resource.toJson_inj h]
  case deleted.deleted => rw [Resource.toJson_inj h]
  case changed.changed => rw [Resource.toJson_inj h.1, Resource.toJson_inj h.2]
  case alarm.alarm => rw [Alarm.toJson_inj h]

/-! ## Lines of text -/

open Text (Plain)

theorem plain_ofList {cs : List Char} :
    Plain (String.ofList cs) ↔ ∀ c ∈ cs, c ≠ '\t' ∧ c ≠ '\r' ∧ c ≠ '\n' := by
  rw [Plain, String.toList_ofList]

theorem Style.plain_on (s : Style) : Plain (String.ofList s.on) := by
  cases s <;> decide

theorem Style.plain_kept (s : Style) {cs : List Char} (h : Plain (String.ofList cs)) :
    Plain (String.ofList (s.kept cs)) := by
  have hoff : Plain (String.ofList off) := by decide
  fun_induction kept s cs with
  | case1 cs ih =>
    have hcs : Plain (String.ofList cs) := by
      simp only [plain_ofList, List.forall_mem_cons] at h ⊢
      exact h.2.2.2.2
    simp only [String.ofList_append, Text.plain_append]
    exact ⟨⟨hoff, s.plain_on⟩, ih hcs⟩
  | case2 c cs _ ih =>
    simp only [plain_ofList, List.forall_mem_cons] at h ih ⊢
    exact ⟨h.1, ih h.2⟩
  | case3 => exact h

namespace Format

variable {text : String}

theorem plain_paint (f : Format) (s : Style) (h : Plain text) : Plain (f.paint s text) := by
  have hoff : Plain (String.ofList Style.off) := by decide
  have hkept : Plain (String.ofList (s.kept text.toList)) := by
    apply Style.plain_kept
    rw [String.ofList_toList]
    exact h
  unfold paint
  split
  · simp only [String.ofList_append, Text.plain_append]
    exact ⟨⟨s.plain_on, hkept⟩, hoff⟩
  · exact h

theorem plain_padded (h : Plain text) : Plain (padded text) := by
  unfold padded
  rw [plain_ofList, List.forall_mem_append]
  refine ⟨h, ?_⟩
  intro c hc
  rw [List.eq_of_mem_replicate hc]
  decide

theorem plain_kindColumn (f : Format) (r : Resource) : Plain (f.kindColumn r) := by
  apply plain_paint
  apply plain_padded
  cases r.kind <;> decide

theorem plain_repr (n : Nat) : Plain n.repr := by
  apply Text.plain_of_isGraphic
  intro c hc
  rw [Nat.repr, String.toList_ofList] at hc
  exact isGraphic_of_isDigit (Numeral.isDigit_of_mem_toDigits hc)

theorem plain_textLines (f : Format) (store : Store) {e : Event} (h : e.Plain) :
    ∀ line ∈ f.textLines store e, Plain line := by
  have hlabel : ∀ s label, Plain label → Plain (f.paint s label) := fun s _ => f.plain_paint s
  have hcolumn := f.plain_kindColumn
  cases e with
  | ready => simp +decide [textLines, toString, hlabel, plain_repr]
  | added r =>
    have hr := Resource.plain_text (List.forall_mem_append.1 h).1
    simp +decide [textLines, toString, hlabel, hcolumn, hr]
  | deleted r =>
    have hr := Resource.plain_text (List.forall_mem_append.1 h).1
    simp +decide [textLines, toString, hlabel, hcolumn, hr]
  | changed old new =>
    have hold := Resource.plain_text (List.forall_mem_append.1 h.1).1
    have hnew := Resource.plain_text (List.forall_mem_append.1 h.2).1
    simp +decide [textLines, toString, hlabel, hcolumn, hold, hnew]
  | alarm a =>
    have ha := Alarm.plain_text h
    simp +decide [textLines, toString, hlabel, ha]

theorem length_textLines (f : Format) (store : Store) (e : Event) :
    (f.textLines store e).length = if e.category = .change then 2 else 1 := by
  cases e <;> rfl

/-- No line holds a tab or a line end, in JSON because they are written out there. -/
theorem plain_lines (f : Format) {d : Delivery} (h : d.event.Plain) :
    ∀ line ∈ f.lines d.store d.event, Plain line := by
  unfold lines
  split
  · intro line hline
    rw [List.mem_singleton.1 hline, Json.text, plain_ofList]
    intro c hc
    have hvisible := Json.visible_chars _ c hc
    refine ⟨?_, ?_, ?_⟩
    all_goals
      rintro rfl
      revert hvisible
      decide
  · exact f.plain_textLines d.store h

end Format

/-! ## All that is written -/

/-- What stands in the output when lines are written to it, each with its end. -/
def written (lines : List String) : List Char := lines.flatMap fun line => line.toList ++ ['\n']

theorem splitOn_written {lines : List String} (h : ∀ line ∈ lines, Plain line) :
    (written lines).splitOn '\n' = lines.map String.toList ++ [[]] := by
  have hparts : ∀ part ∈ lines.map String.toList, '\n' ∉ part := by
    intro part hpart hmem
    obtain ⟨line, hline, rfl⟩ := List.mem_map.1 hpart
    exact (h line hline '\n' hmem).2.2 rfl
  rw [← Text.splitOn_flatMap hparts, List.flatMap_map]
  rfl

/-- Output of plain lines is cut into the same lines again. -/
theorem written_inj {ls ls' : List String} (h : ∀ line ∈ ls, Plain line)
    (h' : ∀ line ∈ ls', Plain line) (heq : written ls = written ls') : ls = ls' := by
  have hsplit := splitOn_written h
  rw [heq, splitOn_written h'] at hsplit
  exact (List.map_injective_iff.2 (fun _ _ => String.toList_inj.1)
    (List.append_cancel_right hsplit)).symm

/-- The events of which a watcher is told. There are none when it does not get as far as to
a controller. -/
def deliveries (o : Options) (w : Surroundings) : List Delivery :=
  match prepare o w with
  | .error _ => []
  | .ok c =>
    match Session.connect c w.dial with
    | .error _ => []
    | .ok source => (engine.run c.frameLimit source).deliveries

variable {o : Options} {w : Surroundings}

theorem output_of_readLogFilter {env : String → Option String} {out : Outcome}
    (h : readLogFilter o env = .error out) : out.output = [] := by
  unfold readLogFilter at h
  split at h
  · next level _ =>
    cases hread : LogFilter.read level with
    | ok u =>
      rw [hread] at h
      cases h
    | error flaw =>
      rw [hread] at h
      cases flaw <;> cases h <;> rfl
  · split at h
    · cases h
      rfl
    · cases h

/-- A watcher that is not prepared writes nothing. -/
theorem output_of_prepare {out : Outcome} (h : prepare o w = .error out) : out.output = [] := by
  unfold prepare at h
  cases hfilter : readLogFilter o w.env with
  | error out' =>
    rw [hfilter] at h
    cases h
    exact output_of_readLogFilter hfilter
  | ok u =>
    rw [hfilter] at h
    cases hconfig : o.configuration fun path => Config.load path (w.file path) with
    | ok c =>
      simp only [hconfig] at h
      cases h
    | error p =>
      simp only [hconfig] at h
      cases h
      rfl

theorem watch_output (o : Options) (w : Surroundings) :
    (watch o w).output = (deliveries o w).flatMap fun d => (o.format w).lines d.store d.event := by
  unfold watch deliveries
  cases hprepare : prepare o w with
  | error out => exact output_of_prepare hprepare
  | ok c =>
    cases hconnect : Session.connect c w.dial with
    | error e => simp only [hconnect]; rfl
    | ok source => simp only [hconnect]; rfl

theorem plain_deliveries (o : Options) (w : Surroundings) :
    ∀ d ∈ deliveries o w, d.event.Plain := by
  unfold deliveries
  split
  · exact List.forall_mem_nil _
  split
  · exact List.forall_mem_nil _
  · exact Engine.plain_events _ _ _

theorem plain_output (o : Options) (w : Surroundings) :
    ∀ line ∈ (watch o w).output, Plain line := by
  rw [watch_output]
  intro line hline
  obtain ⟨d, hd, hline⟩ := List.mem_flatMap.1 hline
  exact (o.format w).plain_lines (plain_deliveries o w d hd) line hline

/-- In JSON the output is one line for each event. -/
theorem watch_output_json (h : o.json = true) :
    (watch o w).output = (deliveries o w).map fun d => (toldJson d.told).text := by
  have hone : ∀ d : Delivery, (o.format w).lines d.store d.event = [(toldJson d.told).text] := by
    intro d
    have hjson : (o.format w).json = true := h
    rw [Format.lines, if_pos hjson, eventJson_eq]
  simp only [watch_output, hone, List.map_eq_flatMap]

theorem toldText_injective : Function.Injective fun t => (toldJson t).text :=
  fun _ _ h => toldJson_inj (Json.text_inj h)

/-- The event that a line of JSON tells, if it tells one. -/
noncomputable def reading : String → Option Told :=
  Function.partialInv fun t => (toldJson t).text

theorem map_reading (h : o.json = true) :
    (watch o w).output.map reading = ((deliveries o w).map Delivery.told).map some := by
  rw [watch_output_json h, List.map_map, List.map_map]
  apply List.map_congr_left
  intro d _
  exact Function.partialInv_left toldText_injective d.told

theorem document_of_line (h : o.json = true) {line : String} (hline : line ∈ (watch o w).output) :
    ∃ v, Json.Document.ofText? line = some v := by
  rw [watch_output_json h] at hline
  obtain ⟨d, -, rfl⟩ := List.mem_map.1 hline
  exact ⟨_, Json.ofText?_text _⟩

/-- Watchers that write JSON write the same only of the same events. -/
theorem told_of_written {o' : Options} {w' : Surroundings} (h : o.json = true)
    (h' : o'.json = true)
    (hwritten : written (watch o' w').output = written (watch o w).output) :
    (deliveries o' w').map Delivery.told = (deliveries o w).map Delivery.told := by
  have hout := written_inj (plain_output o' w') (plain_output o w) hwritten
  have htold := map_reading (w := w') h'
  rw [hout, map_reading h] at htold
  exact (List.map_injective_iff.2 (fun _ _ => Option.some.inj) htold).symm

theorem lines_of_text (h : o.json = false) (d : Delivery) :
    (o.format w).lines d.store d.event = (o.format w).textLines d.store d.event := by
  have hjson : (o.format w).json ≠ true := by
    simp [Options.format, h]
  rw [Format.lines, if_neg hjson]

/-- In text the output is what spells the events, one after the other. -/
theorem watch_output_text (h : o.json = false) : (watch o w).output =
    ((deliveries o w).map fun d => spelled d.told).flatMap (o.format w).spell := by
  rw [watch_output, List.flatMap_map]
  apply List.flatMap_congr
  intro d _
  rw [lines_of_text h, Format.textLines_eq]

/-- Watchers that write text in the same colours write the same only of events that are spelled
the same. -/
theorem spelled_of_written {o' : Options} {w' : Surroundings} (h : o.json = false)
    (h' : o'.json = false) (hcolor : (o'.format w').color = (o.format w).color)
    (hwritten : written (watch o' w').output = written (watch o w).output) :
    ((deliveries o' w').map fun d => spelled d.told) =
      (deliveries o w).map fun d => spelled d.told := by
  have hformat : o'.format w' = o.format w := by
    have hjson : (o'.format w').json = (o.format w).json := h'.trans h.symm
    rw [Format.mk.injEq]
    exact ⟨hjson, hcolor⟩
  have hout := written_inj (plain_output o' w') (plain_output o w) hwritten
  rw [watch_output_text h, watch_output_text h', hformat] at hout
  exact Format.spell_inj hout

/-- In text the lines of an event are two when a record changes, and otherwise there is one. -/
theorem length_lines_text (h : o.json = false) (d : Delivery) :
    ((o.format w).lines d.store d.event).length = if d.event.category = .change then 2 else 1 := by
  rw [lines_of_text h, Format.length_textLines]

/-- Line by line the output of a watcher tells the events, and nothing in a record breaks a line.
In JSON each event is one line, which is a document and from which the event can be read, so
different events make different output. In text a change is two lines and any other event one,
and events of which something different is told in text make different output: other counts, an
alarm that is not the same, a record of another kind or with another text. -/
theorem the_lines_tell_the_events :
    ∃ reading : String → Option Told, ∀ (o : Options) (w : Surroundings),
      let told := (deliveries o w).map Delivery.told
      let out := (watch o w).output
      (written out).splitOn '\n' = out.map String.toList ++ [[]] ∧
      (o.json = true →
        out.map reading = told.map some ∧
        (∀ line ∈ out, ∃ v, Json.Document.ofText? line = some v) ∧
        ∀ (o' : Options) (w' : Surroundings), o'.json = true →
          written (watch o' w').output = written out →
          (deliveries o' w').map Delivery.told = told) ∧
      (o.json = false →
        out = (deliveries o w).flatMap (fun d => (o.format w).lines d.store d.event) ∧
        (∀ d ∈ deliveries o w, ((o.format w).lines d.store d.event).length =
          if d.event.category = .change then 2 else 1) ∧
        ∀ (o' : Options) (w' : Surroundings), o'.json = false →
          (o'.format w').color = (o.format w).color →
          written (watch o' w').output = written out →
          ((deliveries o' w').map Delivery.told).map spelled = told.map spelled) := by
  refine ⟨reading, ?_⟩
  intro o w told out
  refine ⟨splitOn_written (plain_output o w), ?_, ?_⟩
  · intro hjson
    refine ⟨map_reading hjson, fun line => document_of_line hjson, ?_⟩
    intro o' w' hjson' hwritten
    exact told_of_written hjson hjson' hwritten
  · intro htext
    refine ⟨watch_output o w, fun d _ => length_lines_text htext d, ?_⟩
    intro o' w' htext' hcolor hwritten
    rw [List.map_map, List.map_map]
    exact spelled_of_written htext htext' hcolor hwritten

end Patchbay.Watch
