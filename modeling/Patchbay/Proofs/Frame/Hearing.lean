-- What is heard of a stream of bytes. Its segments are read one after the other,
-- and the first that grows too long or is no text ends the hearing, as a source
-- that fails does. The reader takes bytes one by one and comes to the same.
import Patchbay.Frame.Stream
import Patchbay.Proofs.Frame.Segments

namespace Patchbay

/-- The frames of a stream, and what ends them other than the end of the stream. -/
structure Heard where
  frames : List Frame
  failure : Option WireError

/-- What is heard of segments, of which the last has not ended. -/
def Heard.ofSegments (limit : Nat) (ending : Ending) : List (List UInt8) → Heard
  | [] => ⟨[], ending.failure⟩
  | seg :: segs =>
    if limit < (Reader.kept seg).length then ⟨[], some (.tooLarge (limit + 1) limit)⟩
    else if segs = [] then ⟨[], ending.failure⟩
    else match Utf8.read (Reader.kept seg).toByteArray with
      | .error flaw => ⟨[], some (.notText flaw)⟩
      | .ok line =>
        let rest := ofSegments limit ending segs
        ⟨.ofLine line :: rest.frames, rest.failure⟩

/-- What is heard of a source. Each carriage return ends a segment. -/
def ByteSource.heard (s : ByteSource) (limit : Nat) : Heard :=
  .ofSegments limit s.ending (s.bytes.splitOn Reader.cr)

namespace FrameStream

open Reader (cr lf kept holding)

variable {limit : Nat} {ending : Ending} {seg : List UInt8}

/-! ## One segment -/

theorem framesFrom_of_more {r : Reader} {bytes : List UInt8}
    (h : r.verdicts bytes = List.replicate bytes.length .more) (rest : List UInt8) :
    framesFrom r ending (bytes ++ rest) = framesFrom (r.after bytes) ending rest := by
  induction bytes generalizing r with
  | nil => rfl
  | cons b bytes ih =>
    rcases hpush : r.push b with ⟨r', v⟩
    rw [Reader.verdicts, hpush, List.length_cons, List.replicate_succ] at h
    obtain ⟨rfl, hrest⟩ := List.cons.inj h
    have hafter : r.after (b :: bytes) = r'.after bytes := by
      unfold Reader.after
      rw [List.foldl_cons, hpush]
    rw [List.cons_append, framesFrom, hpush, hafter]
    exact ih hrest

/-- A segment that fits says nothing before it ends. -/
theorem framesFrom_segment (ending : Ending) (hseg : cr ∉ seg)
    (hfits : (kept seg).length ≤ limit) (rest : List UInt8) :
    framesFrom (.empty limit) ending (seg ++ rest) =
      framesFrom (holding limit seg) ending rest := by
  rw [framesFrom_of_more (Reader.verdicts_segment hseg hfits), Reader.after_segment limit hseg]

theorem framesFrom_ended (hseg : cr ∉ seg) (hfits : (kept seg).length ≤ limit)
    (rest : List UInt8) : framesFrom (.empty limit) ending (seg ++ cr :: rest) =
      match Utf8.read (kept seg).toByteArray with
      | .error flaw => ([], some (.notText flaw))
      | .ok line =>
        let (fs, err) := framesFrom (.empty limit) ending rest
        (.ofLine line :: fs, err) := by
  have hheld : (holding limit seg).held = (kept seg).toByteArray := by
    unfold holding
    rw [List.take_of_length_le hfits]
  rw [framesFrom_segment ending hseg hfits, framesFrom, Reader.push_cr, hheld]
  unfold Reader.complete
  cases Utf8.read (kept seg).toByteArray <;> rfl

/-- The byte of a segment that is one too many. -/
theorem exists_overflow (h : limit < (kept seg).length) :
    ∃ pre b post, seg = pre ++ b :: post ∧ b ≠ lf ∧ (kept pre).length = limit := by
  have hcut := (List.take_append_drop limit (kept seg)).symm
  rw [List.drop_eq_getElem_cons h] at hcut
  obtain ⟨pre, post, hseg, hb, hpre, -⟩ := Reader.split_of_kept hcut
  refine ⟨pre, _, post, hseg, hb, ?_⟩
  rw [hpre, List.length_take_of_le (Nat.le_of_lt h)]

/-- A segment that grows too long ends the frames there, whether it ends itself or not. -/
theorem framesFrom_overflow (ending : Ending) (hseg : cr ∉ seg)
    (h : limit < (kept seg).length) (rest : List UInt8) :
    framesFrom (.empty limit) ending (seg ++ rest) =
      ([], some (.tooLarge (limit + 1) limit)) := by
  obtain ⟨pre, b, post, rfl, hlf, hfull⟩ := exists_overflow h
  have hpre : cr ∉ pre := fun hmem => hseg (List.mem_append_left _ hmem)
  have hcr : b ≠ cr := by
    rintro rfl
    exact hseg (List.mem_append_right _ List.mem_cons_self)
  have hover : ¬ (b = lf ∨ (kept pre).length < limit) := by
    rintro (hb | hlt)
    · exact hlf hb
    · omega
  rw [List.append_assoc, List.cons_append, framesFrom_segment ending hpre
    (Nat.le_of_eq hfull), framesFrom, Reader.push_holding limit pre hcr, if_neg hover]

/-! ## All segments -/

theorem framesFrom_segments (limit : Nat) (ending : Ending) {segs : List (List UInt8)}
    (hne : segs ≠ []) (hsegs : ∀ s ∈ segs, cr ∉ s) :
    let heard := Heard.ofSegments limit ending segs
    framesFrom (.empty limit) ending ([cr].intercalate segs) = (heard.frames, heard.failure) := by
  induction segs with
  | nil => exact absurd rfl hne
  | cons seg segs ih =>
    obtain ⟨hseg, hsegs⟩ := List.forall_mem_cons.1 hsegs
    unfold Heard.ofSegments
    by_cases hlong : limit < (kept seg).length
    · rw [if_pos hlong]
      by_cases hlast : segs = []
      · subst hlast
        simpa using framesFrom_overflow ending hseg hlong []
      · rw [List.intercalate_cons_of_ne_nil hlast, List.append_assoc]
        exact framesFrom_overflow ending hseg hlong _
    have hfits : (kept seg).length ≤ limit := Nat.not_lt.1 hlong
    rw [if_neg hlong]
    by_cases hlast : segs = []
    · subst hlast
      simp only [List.intercalate_singleton, if_true]
      have h := framesFrom_segment ending hseg hfits []
      rw [List.append_nil] at h
      rw [h, framesFrom]
    · rw [if_neg hlast, List.intercalate_cons_of_ne_nil hlast, List.append_assoc,
        List.singleton_append, framesFrom_ended hseg hfits]
      cases Utf8.read (kept seg).toByteArray with
      | error flaw => rfl
      | ok line => rw [ih hlast hsegs]

/-- Byte by byte there are the same frames as segment by segment, and they end alike. -/
theorem frames_eq_heard (limit : Nat) (source : ByteSource) :
    FrameStream.frames ⟨.empty limit, source⟩ =
      ((source.heard limit).frames, (source.heard limit).failure) := by
  have h := framesFrom_segments limit source.ending
    (List.splitOn_ne_nil cr source.bytes) fun _ hs => (Text.of_mem_splitOn hs).1
  rw [List.intercalate_splitOn] at h
  exact h

end FrameStream

end Patchbay
