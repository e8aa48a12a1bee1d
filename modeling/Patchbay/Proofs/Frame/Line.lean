-- A line and the fields of its frame tell each other. Nothing of a line is lost when it is
-- cut, empty fields included, and fields without tabs are cut apart just as they were.
import Patchbay.Frame.Render
import Patchbay.Proofs.Text.Fields

namespace Patchbay.Frame

theorem ofLine_eq_iff {line : String} {f : Frame} : ofLine line = f ↔
    f.fields ≠ [] ∧ (∀ s ∈ f.fields, '\t' ∉ s.toList) ∧ f.line = line := by
  obtain ⟨fields⟩ := f
  rw [ofLine, mk.injEq, Text.fields_eq_iff]
  exact Iff.rfl

/-- Cutting a line and joining the fields gives the line back. There is one field more than
there are tabs, and no tab in a field. A frame comes back from its line if it has a field and
none of its fields holds a tab, and otherwise no line gives it. -/
theorem a_line_and_its_fields_tell_each_other (line : String) (f : Frame) :
    (ofLine line).line = line ∧
    (ofLine line).fields.length = line.toList.count '\t' + 1 ∧
    (∀ s ∈ (ofLine line).fields, '\t' ∉ s.toList) ∧
    (f.fields ≠ [] → (∀ s ∈ f.fields, '\t' ∉ s.toList) → ofLine f.line = f) ∧
    ((∃ line, ofLine line = f) → f.fields ≠ [] ∧ ∀ s ∈ f.fields, '\t' ∉ s.toList) := by
  obtain ⟨-, htab, hline⟩ := ofLine_eq_iff.1 (Eq.refl (ofLine line))
  refine ⟨hline, Text.length_fields '\t' line, htab, ?_, ?_⟩
  · intro hne hsep
    exact ofLine_eq_iff.2 ⟨hne, hsep, rfl⟩
  · rintro ⟨other, hother⟩
    obtain ⟨hne, hsep, -⟩ := ofLine_eq_iff.1 hother
    exact ⟨hne, hsep⟩

/-- Fields that are empty, before, between and after others, are kept. -/
theorem a_line_keeps_its_empty_fields :
    let line := "\tDST\t\tPGM\t"
    let f : Frame := ⟨["", "DST", "", "PGM", ""]⟩
    f.fields ≠ [] ∧ (∀ s ∈ f.fields, '\t' ∉ s.toList) ∧ f.line = line ∧ ofLine line = f ∧
    (ofLine line).fields.length = 5 := by
  intro line f
  have hne : f.fields ≠ [] := by decide
  have hsep : ∀ s ∈ f.fields, '\t' ∉ s.toList := by decide
  have hline : f.line = line := by decide
  obtain ⟨-, hlength, -, hback, -⟩ := a_line_and_its_fields_tell_each_other line f
  have htabs : line.toList.count '\t' = 4 := by decide
  exact ⟨hne, hsep, hline, hline ▸ hback hne hsep, hlength.trans (by rw [htabs])⟩

end Patchbay.Frame
