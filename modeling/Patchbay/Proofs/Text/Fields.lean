-- Cutting a text at a separator and joining the parts undo each other, as long
-- as no part holds the separator.
import Patchbay.Text.Fields

namespace Patchbay.Text

theorem splitAtEach_eq_splitOn (sep : Char) (cs : List Char) :
    splitAtEach sep cs = cs.splitOn sep := by
  induction cs with
  | nil => rfl
  | cons c cs ih =>
    rw [splitAtEach, ih, List.splitOn_cons_eq_if_modifyHead]
    by_cases h : c = sep
    · simp [h]
    · cases hs : cs.splitOn sep with
      | nil => exact absurd hs (List.splitOn_ne_nil sep cs)
      | cons part parts => simp [h]

theorem toList_fields (sep : Char) (s : String) :
    (fields sep s).map String.toList = s.toList.splitOn sep := by
  rw [fields, splitAtEach_eq_splitOn, List.map_map]
  simp

theorem fields_intercalate {sep : Char} {parts : List String} (h : ∀ p ∈ parts, sep ∉ p.toList)
    (hne : parts ≠ []) : fields sep ((String.singleton sep).intercalate parts) = parts := by
  rw [fields, splitAtEach_eq_splitOn, String.toList_intercalate, String.toList_singleton,
    List.splitOn_intercalate]
  · simp
  · simpa using h
  · simpa using hne

/-- A part has the separator nowhere, and nothing that was not there before. -/
theorem of_mem_splitOn {α : Type} [BEq α] [LawfulBEq α] {sep : α} {xs part : List α}
    (h : part ∈ xs.splitOn sep) : sep ∉ part ∧ part ⊆ xs := by
  induction xs generalizing part with
  | nil =>
    rw [List.splitOn_nil, List.mem_singleton] at h
    simp [h]
  | cons x xs ih =>
    rw [List.splitOn_cons_eq_if_modifyHead] at h
    split at h
    · rcases List.mem_cons.1 h with rfl | h
      · simp
      · exact ⟨(ih h).1, List.subset_cons_of_subset x (ih h).2⟩
    · next hx =>
      cases hparts : xs.splitOn sep with
      | nil => exact absurd hparts (List.splitOn_ne_nil sep xs)
      | cons first parts =>
        rw [hparts, List.modifyHead_cons] at h
        rw [hparts] at ih
        rcases List.mem_cons.1 h with rfl | h
        · obtain ⟨hsep, hsub⟩ := ih List.mem_cons_self
          have hne : sep ≠ x := fun heq => hx (by simp [heq])
          exact ⟨by simp [hne, hsep], List.cons_subset_cons x hsub⟩
        · obtain ⟨hsep, hsub⟩ := ih (List.mem_cons_of_mem _ h)
          exact ⟨hsep, List.subset_cons_of_subset x hsub⟩

theorem length_splitOn {α : Type} [BEq α] [LawfulBEq α] (sep : α) (xs : List α) :
    (xs.splitOn sep).length = xs.count sep + 1 := by
  induction xs with
  | nil => rfl
  | cons x xs ih =>
    rw [List.splitOn_cons_eq_if_modifyHead, List.count_cons]
    split
    · rw [List.length_cons, ih]
    · rw [List.length_modifyHead, ih]

/-! ## The fields of a text -/

theorem fields_ne_nil (sep : Char) (s : String) : fields sep s ≠ [] := by
  rw [fields, splitAtEach_eq_splitOn, ne_eq, List.map_eq_nil_iff]
  exact List.splitOn_ne_nil sep s.toList

/-- There is one part more than there are separators. -/
theorem length_fields (sep : Char) (s : String) :
    (fields sep s).length = s.toList.count sep + 1 := by
  rw [fields, splitAtEach_eq_splitOn, List.length_map, length_splitOn]

theorem of_mem_fields {sep : Char} {s p : String} (h : p ∈ fields sep s) :
    sep ∉ p.toList ∧ p.toList ⊆ s.toList := by
  apply of_mem_splitOn
  rw [← toList_fields]
  exact List.mem_map_of_mem h

theorem intercalate_fields (sep : Char) (s : String) :
    (String.singleton sep).intercalate (fields sep s) = s := by
  rw [← String.toList_inj, String.toList_intercalate, toList_fields, String.toList_singleton,
    List.intercalate_splitOn]

/-- The parts of a text are the only ones without the separator that make it up. -/
theorem fields_eq_iff {sep : Char} {s : String} {parts : List String} :
    fields sep s = parts ↔ parts ≠ [] ∧ (∀ p ∈ parts, sep ∉ p.toList) ∧
      (String.singleton sep).intercalate parts = s := by
  constructor
  · rintro rfl
    exact ⟨fields_ne_nil sep s, fun p hp => (of_mem_fields hp).1, intercalate_fields sep s⟩
  · rintro ⟨hne, hsep, rfl⟩
    exact fields_intercalate hsep hne

/-- The parts of a text tell the text. -/
theorem fields_inj {sep : Char} {s t : String} : fields sep s = fields sep t ↔ s = t := by
  constructor
  · intro h
    rw [← intercalate_fields sep s, h, intercalate_fields]
  · rintro rfl
    rfl

theorem fields_of_not_mem {sep : Char} {s : String} (h : sep ∉ s.toList) : fields sep s = [s] :=
  fields_eq_iff.2 ⟨List.cons_ne_nil s [], by simpa using h, by simp⟩

/-- Two texts with a separator between them are cut one after the other. -/
theorem fields_append (sep : Char) (s t : String) :
    fields sep (s ++ String.singleton sep ++ t) = fields sep s ++ fields sep t := by
  have hchars : (s ++ String.singleton sep ++ t).toList = s.toList ++ sep :: t.toList := by simp
  simp only [fields, splitAtEach_eq_splitOn, hchars, List.splitOn_append_cons_self,
    List.map_append]

/-- The first separator ends the first part, whatever comes behind it. -/
theorem first_part_inj {sep : Char} {s t u v : String} (hs : sep ∉ s.toList) (ht : sep ∉ t.toList)
    (h : s ++ String.singleton sep ++ u = t ++ String.singleton sep ++ v) : s = t ∧ u = v := by
  have hparts := congrArg (fields sep) h
  rw [fields_append, fields_append, fields_of_not_mem hs, fields_of_not_mem ht] at hparts
  obtain ⟨hfirst, hrest⟩ := List.cons.inj hparts
  exact ⟨hfirst, fields_inj.1 hrest⟩

/-- The last separator begins the last part, whatever comes before it. -/
theorem last_part_inj {sep : Char} {s t u v : String} (hu : sep ∉ u.toList) (hv : sep ∉ v.toList)
    (h : s ++ String.singleton sep ++ u = t ++ String.singleton sep ++ v) : s = t ∧ u = v := by
  have hparts := congrArg (fields sep) h
  rw [fields_append, fields_append, fields_of_not_mem hu, fields_of_not_mem hv] at hparts
  obtain ⟨hrest, hlast⟩ := List.append_singleton_inj.1 hparts
  exact ⟨fields_inj.1 hrest, hlast⟩

/-! ## Parts in a row -/

/-- Parts with the separator behind each of them are cut apart by it, and nothing is left. -/
theorem splitOn_flatMap {sep : Char} {parts : List (List Char)} (h : ∀ p ∈ parts, sep ∉ p) :
    (parts.flatMap fun p => p ++ [sep]).splitOn sep = parts ++ [[]] := by
  induction parts with
  | nil => rfl
  | cons p parts ih =>
    obtain ⟨hp, hparts⟩ := List.forall_mem_cons.1 h
    rw [List.flatMap_cons, List.append_assoc, List.singleton_append,
      List.splitOn_append_cons_self_of_not_mem hp, ih hparts, List.cons_append]

/-- Parts with the separator before each but the first are cut apart by it. -/
theorem splitOn_append_flatMap {sep : Char} {p : List Char} {parts : List (List Char)}
    (hp : sep ∉ p) (h : ∀ q ∈ parts, sep ∉ q) :
    (p ++ parts.flatMap fun q => sep :: q).splitOn sep = p :: parts := by
  induction parts generalizing p with
  | nil => simpa using List.splitOn_eq_singleton hp
  | cons q parts ih =>
    obtain ⟨hq, hparts⟩ := List.forall_mem_cons.1 h
    rw [List.flatMap_cons, List.cons_append, List.splitOn_append_cons_self_of_not_mem hp,
      ih hq hparts]

theorem mem_intercalate {sep : List Char} {parts : List (List Char)} {c : Char}
    (h : c ∈ sep.intercalate parts) : c ∈ sep ∨ ∃ p ∈ parts, c ∈ p := by
  induction parts with
  | nil => cases h
  | cons p parts ih =>
    by_cases hparts : parts = []
    · rw [hparts, List.intercalate_singleton] at h
      exact Or.inr ⟨p, List.mem_cons_self, h⟩
    · rw [List.intercalate_cons_of_ne_nil hparts, List.append_assoc] at h
      rcases List.mem_append.1 h with h | h
      · exact Or.inr ⟨p, List.mem_cons_self, h⟩
      rcases List.mem_append.1 h with h | h
      · exact Or.inl h
      rcases ih h with h | ⟨q, hq, hc⟩
      · exact Or.inl h
      · exact Or.inr ⟨q, List.mem_cons_of_mem p hq, hc⟩

end Patchbay.Text
