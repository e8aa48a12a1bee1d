-- Bytes that come to a reader in pieces. Where they are cut, and where line feeds
-- stand among them, makes no difference to the frames, so what a controller tells
-- comes back in order, with nothing lost or doubled.
import Mathlib.Data.List.Forall2
import Patchbay.Proofs.Frame.RoundTrip
import Patchbay.Proofs.Frame.Segments

namespace Patchbay

/-- The answers hold no refusal, and these are the frames among them. -/
inductive Verdict.Tell : List Verdict → List Frame → Prop where
  | nil : Tell [] []
  | more {vs fs} : Tell vs fs → Tell (.more :: vs) fs
  | frame {f vs fs} : Tell vs fs → Tell (.frame f :: vs) (f :: fs)

namespace Reader

open Verdict (Tell)

/-- The bytes with line feeds put in, anywhere. -/
inductive Strewn : List UInt8 → List UInt8 → Prop where
  | nil : Strewn [] []
  | byte {b bytes strewn} : Strewn bytes strewn → Strewn (b :: bytes) (b :: strewn)
  | lineFeed {bytes strewn} : Strewn bytes strewn → Strewn bytes (lf :: strewn)

/-- What each of some pieces brings, one fed after the other. -/
def feeds (r : Reader) : List (List UInt8) → List (Except WireError (List Frame))
  | [] => []
  | c :: cs => (r.feed c).2 :: (r.feed c).1.feeds cs

/-! ## Pieces -/

theorem tell_more (n : Nat) {vs : List Verdict} {fs : List Frame} (h : Tell vs fs) :
    Tell (List.replicate n .more ++ vs) fs := by
  induction n with
  | zero => exact h
  | succ n ih => exact .more ih

theorem tell_of_append {vs ws : List Verdict} {fs : List Frame} (h : Tell (vs ++ ws) fs) :
    ∃ as bs, fs = as ++ bs ∧ Tell vs as ∧ Tell ws bs := by
  induction vs generalizing fs with
  | nil => exact ⟨[], fs, rfl, .nil, h⟩
  | cons v vs ih =>
    cases h with
    | more h =>
      obtain ⟨as, bs, rfl, has, hbs⟩ := ih h
      exact ⟨as, bs, rfl, .more has, hbs⟩
    | frame h =>
      obtain ⟨as, bs, rfl, has, hbs⟩ := ih h
      exact ⟨_ :: as, bs, rfl, .frame has, hbs⟩

theorem feed_of_tell {r : Reader} {bytes : List UInt8} {fs : List Frame}
    (h : Tell (r.verdicts bytes) fs) : r.feed bytes = (r.after bytes, .ok fs) := by
  induction bytes generalizing r fs with
  | nil =>
    cases h
    rfl
  | cons b bytes ih =>
    rcases hpush : r.push b with ⟨r', v⟩
    have hafter : r.after (b :: bytes) = r'.after bytes := by
      unfold after
      rw [List.foldl_cons, hpush]
    rw [verdicts, hpush] at h
    cases h with
    | more h =>
      rw [feed, hpush, hafter]
      exact ih h
    | @frame f _ fs h =>
      have hrest : r'.feed bytes = (r'.after bytes, .ok fs) := ih h
      rw [feed, hpush, hafter]
      simp only [hrest]
      rfl

theorem feeds_of_tell {r : Reader} {chunks : List (List UInt8)} {fs : List Frame}
    (h : Tell (r.verdicts chunks.flatten) fs) :
    ∃ parts : List (List Frame), r.feeds chunks = parts.map .ok ∧ parts.flatten = fs := by
  induction chunks generalizing r fs with
  | nil =>
    cases h
    exact ⟨[], rfl, rfl⟩
  | cons c chunks ih =>
    rw [List.flatten_cons, verdicts_append] at h
    obtain ⟨as, bs, rfl, has, hbs⟩ := tell_of_append h
    obtain ⟨parts, hparts, rfl⟩ := ih hbs
    refine ⟨as :: parts, ?_, rfl⟩
    rw [feeds, feed_of_tell has, hparts, List.map_cons]

/-! ## Lines -/

theorem kept_of_not_mem {bytes : List UInt8} (h : lf ∉ bytes) : kept bytes = bytes := by
  unfold kept
  rw [List.filter_eq_self]
  intro b hb
  have hne : b ≠ lf := fun heq => h (heq ▸ hb)
  simpa using hne

theorem kept_strewn {bytes strewn : List UInt8} (h : Strewn bytes strewn) :
    kept strewn = kept bytes := by
  induction h with
  | nil => rfl
  | @byte b bytes strewn _ ih =>
    rw [← List.singleton_append, kept_append, ih, ← kept_append, List.singleton_append]
  | @lineFeed bytes strewn _ ih =>
    rw [← List.singleton_append, kept_append, kept_lf, ih, List.nil_append]

theorem strewn_kept (bytes : List UInt8) : Strewn (kept bytes) bytes := by
  induction bytes with
  | nil => exact .nil
  | cons b bytes ih =>
    rw [← List.singleton_append, kept_append]
    by_cases hlf : b = lf
    · rw [hlf, kept_lf]
      exact .lineFeed ih
    · rw [kept_of_ne hlf]
      exact .byte ih

theorem cr_not_mem_of_kept {bytes : List UInt8} (h : cr ∉ kept bytes) : cr ∉ bytes := by
  intro hcr
  exact h (List.mem_filter.2 ⟨hcr, by decide⟩)

/-- Bytes that start with a line and its end, up to line feeds, start with a segment that
holds the line. -/
theorem segment_of_kept {bytes line rest : List UInt8} (hline : cr ∉ line)
    (h : kept bytes = line ++ cr :: rest) :
    ∃ seg tail, bytes = seg ++ cr :: tail ∧ kept seg = line ∧ cr ∉ seg ∧ kept tail = rest := by
  obtain ⟨seg, tail, hbytes, -, hseg, htail⟩ := split_of_kept h
  refine ⟨seg, tail, hbytes, hseg, ?_, htail⟩
  apply cr_not_mem_of_kept
  rw [hseg]
  exact hline

/-- Lines that fit come back as frames, one for each. -/
theorem tell_lines {limit : Nat} {lines : List String} {bytes : List UInt8}
    (hcr : ∀ l ∈ lines, cr ∉ Utf8.write l) (hfits : ∀ l ∈ lines, (Utf8.write l).length ≤ limit)
    (h : kept bytes = lines.flatMap fun l => Utf8.write l ++ [cr]) :
    Tell ((empty limit).verdicts bytes) (lines.map Frame.ofLine) := by
  induction lines generalizing bytes with
  | nil =>
    have hnone : kept bytes = [] := h
    have hbytes : cr ∉ bytes := cr_not_mem_of_kept (by simp [hnone])
    rw [verdicts_segment hbytes (by simp [hnone]), ← List.append_nil (List.replicate ..)]
    exact tell_more _ .nil
  | cons line lines ih =>
    rw [List.flatMap_cons, List.append_assoc, List.singleton_append] at h
    obtain ⟨hline, hlines⟩ := List.forall_mem_cons.1 hcr
    obtain ⟨hfit, hfits⟩ := List.forall_mem_cons.1 hfits
    obtain ⟨seg, tail, rfl, hseg, hnot, htail⟩ := segment_of_kept hline h
    rw [← hseg] at hfit
    have hframe := complete_of_write (hseg.symm.trans (held_holding hfit).symm)
    rw [verdicts_ended hnot hfit, hframe, List.map_cons]
    exact tell_more _ (.frame (ih hlines hfits htail))

end Reader

/-! ## Messages -/

namespace Message

theorem ofLine_line {m : Message} (h : ∀ s ∈ m.texts, Text.Plain s) :
    Frame.ofLine m.frame.line = m.frame := by
  apply Frame.ofLine_line (m.plain_fields h)
  cases m <;> exact List.cons_ne_nil _ _

theorem cr_not_mem_line {m : Message} (h : ∀ s ∈ m.texts, Text.Plain s) :
    Reader.cr ∉ Utf8.write m.frame.line := by
  refine Utf8.not_mem_write (c := '\r') (by decide) rfl fun hc => ?_
  exact (Frame.of_mem_line (m.plain_fields h) hc).1 rfl

theorem lf_not_mem_bytes {m : Message} (h : ∀ s ∈ m.texts, Text.Plain s) :
    Reader.lf ∉ m.frame.bytes := by
  have hline : Reader.lf ∉ Utf8.write m.frame.line := by
    refine Utf8.not_mem_write (c := '\n') (by decide) rfl fun hc => ?_
    exact (Frame.of_mem_line (m.plain_fields h) hc).2 rfl
  intro hmem
  rcases List.mem_append.1 hmem with hmem | hmem
  · exact hline hmem
  · exact absurd hmem (by decide)

/-- Whatever a controller tells, in texts without tabs and line ends, comes back in order
when each line fits: with line feeds put in anywhere and the bytes cut anywhere, there is
one frame for each record and each alarm, and it reads back as that. -/
theorem messages_come_back_in_order (limit : Nat) (ms : List Message)
    (hplain : ∀ m ∈ ms, ∀ s ∈ m.texts, Text.Plain s)
    (hfits : ∀ m ∈ ms, (Utf8.write m.frame.line).length ≤ limit) (chunks : List (List UInt8))
    (hstrewn : Reader.Strewn (ms.flatMap fun m => m.frame.bytes) chunks.flatten) :
    ∃ parts : List (List Frame), (Reader.empty limit).feeds chunks = parts.map .ok ∧
      List.Forall₂ (fun m f => m.Carries f) ms parts.flatten := by
  have hlf : Reader.lf ∉ ms.flatMap fun m => m.frame.bytes := by
    intro hmem
    obtain ⟨m, hm, hmem⟩ := List.mem_flatMap.1 hmem
    exact lf_not_mem_bytes (hplain m hm) hmem
  have hkept : Reader.kept chunks.flatten =
      (ms.map fun m => m.frame.line).flatMap fun l => Utf8.write l ++ [Reader.cr] := by
    rw [Reader.kept_strewn hstrewn, Reader.kept_of_not_mem hlf, List.flatMap_map]
    rfl
  have htell : Verdict.Tell ((Reader.empty limit).verdicts chunks.flatten)
      ((ms.map fun m => m.frame.line).map Frame.ofLine) := by
    apply Reader.tell_lines ?_ ?_ hkept
    · intro l hl
      obtain ⟨m, hm, rfl⟩ := List.mem_map.1 hl
      exact cr_not_mem_line (hplain m hm)
    · intro l hl
      obtain ⟨m, hm, rfl⟩ := List.mem_map.1 hl
      exact hfits m hm
  obtain ⟨parts, hparts, hflat⟩ := Reader.feeds_of_tell htell
  refine ⟨parts, hparts, ?_⟩
  rw [hflat, List.map_map, List.forall₂_map_right_iff, List.forall₂_same]
  intro m hm
  rw [Function.comp_apply, ofLine_line (hplain m hm)]
  exact m.carries_frame

/-- An output that follows nothing and an alarm of the greatest slot come back. A line feed
stands inside a character, and the bytes are cut there and inside a number. -/
theorem an_output_and_an_alarm_come_back :
    let output : Message := .record .update <| .gpioOutput {
      host := "é", slot := 0, hostName := "", code := ⟨"hlhlh", rfl, List.all_eq_true.1 rfl⟩,
      name := "", sourceHost := "", sourceSlot := none }
    let alarm : Message := .alarm {
      kind := .clip, host := "h", slot := 4294967295, port := .input, channel := .left,
      active := true }
    let chunks : List (List UInt8) := [
      [71, 80, 79, 9, 0xc3, 0x0a],
      [0xa9, 9, 48, 9, 9, 104, 108, 104, 108, 104, 9, 9, 9, 45],
      [49, 13, 67, 76, 73, 80, 9, 104, 9, 52, 50, 57, 52, 57, 54, 55, 50],
      [57, 53, 9, 73, 78, 80, 85, 84, 9, 76, 69, 70, 84, 9, 49, 13, 0x0a]]
    ∃ parts : List (List Frame), (Reader.empty 30).feeds chunks = parts.map .ok ∧
      List.Forall₂ (fun m f => m.Carries f) [output, alarm] parts.flatten := by
  intro output alarm chunks
  have hplain : ∀ m ∈ [output, alarm], ∀ s ∈ m.texts, Text.Plain s := by decide
  have hfits : ∀ m ∈ [output, alarm], (Utf8.write m.frame.line).length ≤ 30 := by decide +kernel
  have hbytes : ([output, alarm].flatMap fun m => m.frame.bytes) =
      Reader.kept chunks.flatten := by decide +kernel
  have hstrewn : Reader.Strewn ([output, alarm].flatMap fun m => m.frame.bytes)
      chunks.flatten := by
    rw [hbytes]
    exact Reader.strewn_kept _
  exact messages_come_back_in_order 30 [output, alarm] hplain hfits chunks hstrewn

end Message

end Patchbay
