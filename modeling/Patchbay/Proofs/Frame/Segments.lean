-- What a reader answers, byte for byte. The bytes are cut at each carriage return,
-- and what is held of a segment that has not ended comes from its own bytes alone.
import Mathlib.Data.List.Induction
import Patchbay.Frame.Reader
import Patchbay.Proofs.Text.Fields
import Patchbay.Proofs.Text.Utf8

namespace Patchbay

namespace Reader

/-- The byte that ends a segment. -/
abbrev cr : UInt8 := 0x0d

/-- The byte that counts for nothing. -/
abbrev lf : UInt8 := 0x0a

/-- The reader once it has taken bytes. -/
def after (r : Reader) (bytes : List UInt8) : Reader := bytes.foldl (fun r b => (r.push b).1) r

/-- The answers to bytes, one for each. -/
def verdicts (r : Reader) : List UInt8 → List Verdict
  | [] => []
  | b :: bs => (r.push b).2 :: (r.push b).1.verdicts bs

/-- The bytes that count. -/
def kept (bytes : List UInt8) : List UInt8 := bytes.filter (· ≠ lf)

/-- The answers to the bytes that count. -/
def keptVerdicts (r : Reader) (bytes : List UInt8) : List Verdict :=
  ((bytes.zip (r.verdicts bytes)).filter fun p => p.1 ≠ lf).map Prod.snd

/-- A segment starts after these bytes: there are none, or a segment has just ended. -/
def SegmentStart (before : List UInt8) : Prop := before = [] ∨ before.getLast? = some cr

/-! ## One byte -/

theorem push_cr (r : Reader) : r.push cr = (.empty r.limit, complete r.held) := rfl

theorem push_lf (r : Reader) : r.push lf = (r, .more) := rfl

theorem push_room {r : Reader} {b : UInt8} (hcr : b ≠ cr) (hlf : b ≠ lf)
    (h : r.pending < r.limit) : r.push b = ({ r with held := r.held.push b }, .more) := by
  rw [push, if_neg hcr, if_neg hlf, if_neg (Nat.not_le.2 h)]

theorem push_full {r : Reader} {b : UInt8} (hcr : b ≠ cr) (hlf : b ≠ lf)
    (h : r.limit ≤ r.pending) : r.push b = (r, .refused (.tooLarge (r.pending + 1) r.limit)) := by
  rw [push, if_neg hcr, if_neg hlf, if_pos h]

theorem push_limit (r : Reader) (b : UInt8) : (r.push b).1.limit = r.limit := by
  unfold push
  split
  · rfl
  split
  · rfl
  split
  · rfl
  · rfl

/-! ## Many bytes -/

@[simp]
theorem after_append (r : Reader) (as bs : List UInt8) :
    r.after (as ++ bs) = (r.after as).after bs := by
  unfold after
  rw [List.foldl_append]

theorem after_limit (r : Reader) (bytes : List UInt8) : (r.after bytes).limit = r.limit := by
  induction bytes generalizing r with
  | nil => rfl
  | cons b bs ih => exact (ih _).trans (push_limit r b)

theorem length_verdicts (r : Reader) (bytes : List UInt8) :
    (r.verdicts bytes).length = bytes.length := by
  induction bytes generalizing r with
  | nil => rfl
  | cons b bs ih => rw [verdicts, List.length_cons, ih, List.length_cons]

theorem verdicts_append (r : Reader) (as bs : List UInt8) :
    r.verdicts (as ++ bs) = r.verdicts as ++ (r.after as).verdicts bs := by
  induction as generalizing r with
  | nil => rfl
  | cons a as ih =>
    rw [List.cons_append, verdicts, verdicts, ih, List.cons_append]
    rfl

theorem kept_append (as bs : List UInt8) : kept (as ++ bs) = kept as ++ kept bs :=
  List.filter_append as bs

theorem kept_lf : kept [lf] = [] := by decide

theorem kept_of_ne {b : UInt8} (h : b ≠ lf) : kept [b] = [b] := by
  simp [kept, h]

/-- A byte that counts stands somewhere, with the others that count before and behind it. -/
theorem split_of_kept {bytes xs ys : List UInt8} {x : UInt8} (h : kept bytes = xs ++ x :: ys) :
    ∃ pre post, bytes = pre ++ x :: post ∧ x ≠ lf ∧ kept pre = xs ∧ kept post = ys := by
  obtain ⟨body, tail, rfl, hbody, htail⟩ := List.filter_eq_append_iff.1 h
  obtain ⟨feeds, post, rfl, hfeeds, hx, hpost⟩ := List.filter_eq_cons_iff.1 htail
  refine ⟨body ++ feeds, post, (List.append_assoc ..).symm, by simpa using hx, ?_, hpost⟩
  have hnone : kept feeds = [] := List.filter_eq_nil_iff.2 hfeeds
  rw [kept_append, hnone, List.append_nil]
  exact hbody

theorem keptVerdicts_append (r : Reader) (as bs : List UInt8) :
    r.keptVerdicts (as ++ bs) = r.keptVerdicts as ++ (r.after as).keptVerdicts bs := by
  unfold keptVerdicts
  rw [verdicts_append, List.zip_append (length_verdicts r as).symm, List.filter_append,
    List.map_append]

theorem keptVerdicts_lf (r : Reader) : r.keptVerdicts [lf] = [] := by
  simp [keptVerdicts, verdicts]

theorem keptVerdicts_of_ne (r : Reader) {b : UInt8} (h : b ≠ lf) :
    r.keptVerdicts [b] = [(r.push b).2] := by
  simp [keptVerdicts, verdicts, h]

/-- All bytes are segments that have ended and then one that has not. -/
theorem exists_segment (bytes : List UInt8) :
    ∃ before seg, bytes = before ++ seg ∧ SegmentStart before ∧ cr ∉ seg := by
  induction bytes using List.reverseRecOn with
  | nil => exact ⟨[], [], rfl, Or.inl rfl, List.not_mem_nil⟩
  | append_singleton bytes b ih =>
    by_cases hb : b = cr
    · refine ⟨bytes ++ [b], [], (List.append_nil _).symm, Or.inr ?_, List.not_mem_nil⟩
      rw [List.getLast?_concat, hb]
    · obtain ⟨before, seg, rfl, hstart, hseg⟩ := ih
      refine ⟨before, seg ++ [b], List.append_assoc .., hstart, ?_⟩
      intro hmem
      rcases List.mem_append.1 hmem with hmem | hmem
      · exact hseg hmem
      · exact hb (List.mem_singleton.1 hmem).symm

/-- A reader after a carriage return is a new one. -/
theorem after_segmentStart {limit : Nat} {before : List UInt8} (h : SegmentStart before) :
    (empty limit).after before = empty limit := by
  rcases h with rfl | hlast
  · rfl
  · obtain ⟨init, rfl⟩ := List.getLast?_eq_some_iff.1 hlast
    rw [after_append]
    change ((empty limit).after init |>.push cr).1 = empty limit
    rw [push_cr, after_limit]
    rfl

/-! ## A segment that has not ended -/

/-- The reader that has taken the bytes of a segment, told from these bytes alone. -/
def holding (limit : Nat) (seg : List UInt8) : Reader :=
  ⟨limit, ((kept seg).take limit).toByteArray⟩

theorem pending_holding (limit : Nat) (seg : List UInt8) :
    (holding limit seg).pending = min limit (kept seg).length := by
  rw [pending, holding, List.size_toByteArray, List.length_take]

/-- A byte that ends no segment: what it does to the reader, and how it is answered. -/
theorem push_holding (limit : Nat) (seg : List UInt8) {b : UInt8} (hcr : b ≠ cr) :
    (holding limit seg).push b = (holding limit (seg ++ [b]),
      if b = lf ∨ (kept seg).length < limit then .more
      else .refused (.tooLarge (limit + 1) limit)) := by
  have hpending := pending_holding limit seg
  by_cases hlf : b = lf
  · subst hlf
    rw [push_lf, if_pos (Or.inl rfl), holding, holding, kept_append, kept_lf, List.append_nil]
  have hkept : kept (seg ++ [b]) = kept seg ++ [b] := by rw [kept_append, kept_of_ne hlf]
  by_cases hroom : (kept seg).length < limit
  · have hfits : (kept seg ++ [b]).length ≤ limit := by
      rw [List.length_append]
      exact hroom
    have hlt : (holding limit seg).pending < limit := by omega
    rw [push_room hcr hlf hlt, if_pos (Or.inr hroom), holding, holding, hkept,
      List.take_of_length_le (Nat.le_of_lt hroom), List.take_of_length_le hfits,
      List.toByteArray_append, ByteArray.append_toByteArray_singleton]
  · have hle : limit ≤ (kept seg).length := Nat.not_lt.1 hroom
    have hfull : (holding limit seg).pending = limit := by omega
    have hor : ¬ (b = lf ∨ (kept seg).length < limit) := not_or.2 ⟨hlf, hroom⟩
    rw [push_full hcr hlf (Nat.le_of_eq hfull.symm), if_neg hor, hfull, holding, holding, hkept,
      List.take_append_of_le_length hle]

theorem not_mem_concat {seg : List UInt8} {b : UInt8} (h : cr ∉ seg ++ [b]) :
    cr ∉ seg ∧ b ≠ cr := by
  refine ⟨fun hseg => h (List.mem_append_left _ hseg), ?_⟩
  rintro rfl
  exact h List.mem_concat_self

theorem after_segment (limit : Nat) {seg : List UInt8} (h : cr ∉ seg) :
    (empty limit).after seg = holding limit seg := by
  induction seg using List.reverseRecOn with
  | nil => simp [after, holding, kept, empty]
  | append_singleton seg b ih =>
    obtain ⟨hseg, hb⟩ := not_mem_concat h
    rw [after_append, ih hseg]
    exact congrArg Prod.fst (push_holding limit seg hb)

theorem pending_after_le (limit : Nat) (bytes : List UInt8) :
    ((empty limit).after bytes).pending ≤ limit := by
  obtain ⟨before, seg, rfl, hstart, hseg⟩ := exists_segment bytes
  rw [after_append, after_segmentStart hstart, after_segment limit hseg, pending_holding]
  exact Nat.min_le_left ..

/-- The answers to the bytes of a segment that count: nothing up to the limit, and a
refusal for each byte past it. -/
theorem keptVerdicts_segment (limit : Nat) {seg : List UInt8} (h : cr ∉ seg) :
    (empty limit).keptVerdicts seg =
      List.replicate (min (kept seg).length limit) .more ++
      List.replicate ((kept seg).length - limit) (.refused (.tooLarge (limit + 1) limit)) := by
  induction seg using List.reverseRecOn with
  | nil => simp [keptVerdicts, verdicts, kept]
  | append_singleton seg b ih =>
    obtain ⟨hseg, hb⟩ := not_mem_concat h
    rw [keptVerdicts_append, ih hseg, after_segment limit hseg]
    by_cases hlf : b = lf
    · rw [hlf, keptVerdicts_lf, kept_append, kept_lf, List.append_nil, List.append_nil]
    rw [keptVerdicts_of_ne _ hlf, push_holding limit seg hb, kept_append, kept_of_ne hlf,
      List.length_append, List.length_singleton]
    generalize (kept seg).length = n
    by_cases hroom : n < limit
    · rw [if_pos (Or.inr hroom), Nat.min_eq_left (Nat.le_of_lt hroom), Nat.min_eq_left hroom,
        Nat.sub_eq_zero_of_le (Nat.le_of_lt hroom), Nat.sub_eq_zero_of_le hroom]
      rw [List.replicate_zero, List.append_nil, List.append_nil, ← List.replicate_succ']
    · have hle : limit ≤ n := Nat.not_lt.1 hroom
      have hor : ¬ (b = lf ∨ n < limit) := not_or.2 ⟨hlf, hroom⟩
      rw [if_neg hor, Nat.min_eq_right hle, Nat.min_eq_right (Nat.le_succ_of_le hle),
        Nat.succ_sub hle, List.append_assoc, ← List.replicate_succ']

/-- Within the limit, the bytes of a segment are all taken without a word. -/
theorem verdicts_segment {limit : Nat} {seg : List UInt8} (h : cr ∉ seg)
    (hfits : (kept seg).length ≤ limit) :
    (empty limit).verdicts seg = List.replicate seg.length .more := by
  induction seg using List.reverseRecOn with
  | nil => rfl
  | append_singleton seg b ih =>
    obtain ⟨hseg, hb⟩ := not_mem_concat h
    rw [kept_append, List.length_append] at hfits
    have hpush : ((holding limit seg).push b).2 = .more := by
      rw [push_holding limit seg hb]
      apply if_pos
      by_cases hlf : b = lf
      · exact Or.inl hlf
      · rw [kept_of_ne hlf, List.length_singleton] at hfits
        exact Or.inr hfits
    rw [verdicts_append, ih hseg (by omega), after_segment limit hseg, List.length_append,
      List.length_singleton, List.replicate_succ', verdicts, hpush]
    rfl

/-! ## A segment that has ended -/

/-- How a segment within the limit is answered: with the frame of its text, or, when it
is no text, with the place up to which it is one. -/
inductive Ends (bytes : List UInt8) : Verdict → Prop where
  | frame {line : String} {f : Frame} (htext : Utf8.write line = bytes)
      (hfields : f.fields.map String.toList = line.toList.splitOn '\t') : Ends bytes (.frame f)
  | flawed {flaw : Utf8.Flaw} {what : String} (htext : ¬ Utf8.IsText bytes)
      (hends : Utf8.TextEnds bytes flaw.index)
      (hmessage : (WireError.notText flaw).message =
        "Parse error: frame is not valid UTF-8: " ++ what ++ s!" from index {flaw.index}") :
      Ends bytes (.refused (.notText flaw))

theorem notText_message (flaw : Utf8.Flaw) : ∃ what, (WireError.notText flaw).message =
    "Parse error: frame is not valid UTF-8: " ++ what ++ s!" from index {flaw.index}" := by
  obtain ⟨what, hwhat⟩ := flaw.message_index
  have hmessage : (WireError.notText flaw).message =
      "Parse error: frame is not valid UTF-8: " ++ flaw.message := rfl
  refine ⟨what, ?_⟩
  rw [hmessage, hwhat, String.append_assoc]

theorem complete_of_write {line : String} {bytes : ByteArray}
    (h : Utf8.write line = bytes.data.toList) : complete bytes = .frame (.ofLine line) := by
  rw [complete, Utf8.read_of_write h]

theorem ends_complete (bytes : ByteArray) : Ends bytes.data.toList (complete bytes) := by
  by_cases htext : Utf8.IsText bytes.data.toList
  · obtain ⟨line, hline⟩ := htext
    rw [complete_of_write hline]
    exact .frame hline (Text.toList_fields '\t' line)
  · obtain ⟨what, hwhat⟩ := notText_message (Utf8.flaw bytes)
    have hflawed : complete bytes = .refused (.notText (Utf8.flaw bytes)) := by
      rw [complete, Utf8.read_of_not_isText htext]
    rw [hflawed]
    exact .flawed htext (Utf8.textEnds_flaw bytes) hwhat

theorem held_holding {limit : Nat} {seg : List UInt8} (hfits : (kept seg).length ≤ limit) :
    (holding limit seg).held.data.toList = kept seg := by
  rw [holding, List.take_of_length_le hfits, List.data_toByteArray]

theorem verdicts_ended {limit : Nat} {seg : List UInt8} (h : cr ∉ seg)
    (hfits : (kept seg).length ≤ limit) (rest : List UInt8) :
    (empty limit).verdicts (seg ++ cr :: rest) = List.replicate seg.length .more ++
      complete (holding limit seg).held :: (empty limit).verdicts rest := by
  rw [verdicts_append, verdicts_segment h hfits, after_segment limit h, verdicts, push_cr]
  rfl

/-- For every limit, bytes are answered segment by segment, each as if the reader were
new. A segment within the limit has one answer, at its end. In a longer one each byte past
the limit is refused. Line feeds are never answered, and no more bytes are held than the
limit allows. -/
theorem a_reader_answers_segment_by_segment (limit : Nat) (before seg : List UInt8)
    (hstart : SegmentStart before) (hseg : cr ∉ seg) :
    let r := empty limit
    let n := (kept seg).length
    (n ≤ limit → ∃ v, Ends (kept seg) v ∧ ∀ rest, r.verdicts (before ++ seg ++ cr :: rest) =
      r.verdicts before ++ List.replicate seg.length .more ++ v :: r.verdicts rest) ∧
    (∀ rest, r.verdicts (before ++ seg ++ rest) =
      r.verdicts before ++ r.verdicts seg ++ (r.after seg).verdicts rest) ∧
    r.keptVerdicts seg = List.replicate (min n limit) .more ++
      List.replicate (n - limit) (.refused (.tooLarge (limit + 1) limit)) ∧
    (∀ bytes, (r.after bytes).push lf = (r.after bytes, .more)) ∧
    (∀ bytes, (r.after bytes).pending ≤ limit) ∧
    (r.after (before ++ seg)).pending = min limit n ∧
    r.after before = r := by
  intro r n
  have hnew : r.after before = r := after_segmentStart hstart
  have hcut : ∀ rest, r.verdicts (before ++ seg ++ rest) =
      r.verdicts before ++ r.verdicts seg ++ (r.after seg).verdicts rest := by
    intro rest
    rw [List.append_assoc, verdicts_append, hnew, verdicts_append, List.append_assoc]
  refine ⟨?_, hcut, keptVerdicts_segment limit hseg, ?_, pending_after_le limit, ?_, hnew⟩
  · intro hfits
    refine ⟨complete (holding limit seg).held, held_holding hfits ▸ ends_complete _, ?_⟩
    intro rest
    rw [List.append_assoc, verdicts_append, hnew, verdicts_ended hseg hfits, List.append_assoc]
  · intro bytes
    exact push_lf _
  · rw [after_append, hnew, after_segment limit hseg]
    exact pending_holding limit seg

/-- After another segment comes one that is no text, with a line feed in it and as long as
the limit allows. -/
theorem a_reader_answers_a_flawed_segment :
    let r := empty 2
    let before := [0x61, cr]
    let seg := [0x62, lf, 0xff]
    SegmentStart before ∧ cr ∉ seg ∧ kept seg = [0x62, 0xff] ∧
    (∃ v, Ends (kept seg) v ∧ ∀ rest, r.verdicts (before ++ seg ++ cr :: rest) =
      r.verdicts before ++ [.more, .more, .more] ++ v :: r.verdicts rest) ∧
    (r.after (before ++ seg)).pending = 2 := by
  intro r before seg
  have hstart : SegmentStart before := Or.inr rfl
  have hseg : cr ∉ seg := by decide
  obtain ⟨hone, -, -, -, -, hpending, -⟩ :=
    a_reader_answers_segment_by_segment 2 before seg hstart hseg
  exact ⟨hstart, hseg, by decide, hone (by decide), hpending⟩

end Reader

end Patchbay
