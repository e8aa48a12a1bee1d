-- What becomes of a segment that is too long. Each byte past the limit is refused, and
-- the bytes before it stay, so that the end of the segment makes a frame of them. Only
-- who stops at the first refusal takes no frame that is cut.
import Patchbay.Proofs.Frame.Drawing

namespace Patchbay

namespace Reader

/-- The segments that have ended. -/
def endedSegments (bytes : List UInt8) : List (List UInt8) := (bytes.splitOn cr).dropLast

/-- The segment that has not ended. -/
def openSegment (bytes : List UInt8) : List UInt8 :=
  (bytes.splitOn cr).getLast (List.splitOn_ne_nil cr bytes)

/-- The refusals in a segment, one for each byte past the limit. -/
def refusals (limit : Nat) (seg : List UInt8) : List (Except WireError Frame) :=
  List.replicate ((kept seg).length - limit) (.error (.tooLarge (limit + 1) limit))

/-- What the end of a segment brings about: as much of it is read as the limit allows. -/
def endVerdict (limit : Nat) (seg : List UInt8) : Verdict :=
  complete ((kept seg).take limit).toByteArray

/-- The frame is made of a segment within the limit, and of all of it. -/
def MadeOfWhole (limit : Nat) (bytes : List UInt8) (f : Frame) : Prop :=
  ∃ seg ∈ endedSegments bytes, (kept seg).length ≤ limit ∧ Ends (kept seg) (.frame f)

/-- The frame is made of the beginning of a segment that is too long. -/
def MadeOfCut (limit : Nat) (bytes : List UInt8) (f : Frame) : Prop :=
  ∃ seg ∈ endedSegments bytes, limit < (kept seg).length ∧
    Ends ((kept seg).take limit) (.frame f)

variable {limit : Nat} {bytes seg : List UInt8} {f : Frame}

/-! ## One segment -/

theorem ends_endVerdict (limit : Nat) (seg : List UInt8) :
    Ends ((kept seg).take limit) (endVerdict limit seg) := by
  have h := ends_complete ((kept seg).take limit).toByteArray
  rwa [List.data_toByteArray] at h

theorem endVerdict_eq_frame_iff :
    endVerdict limit seg = .frame f ↔ Ends ((kept seg).take limit) (.frame f) := by
  constructor
  · intro h
    exact h ▸ ends_endVerdict limit seg
  · generalize hv : Verdict.frame f = v
    rintro (⟨htext, hfields⟩ | _)
    · cases hv
      rw [endVerdict, complete_of_write (by rwa [List.data_toByteArray])]
      have hsame := (Text.toList_fields '\t' _).trans hfields.symm
      rw [Frame.ofLine, (List.map_inj_right fun _ _ => String.toList_inj.1).1 hsame]
    · cases hv

/-- A segment has no answers but its refusals before it ends. -/
theorem answers_segment (limit : Nat) (h : cr ∉ seg) :
    ((empty limit).answers seg).2 = refusals limit seg := by
  induction seg using List.reverseRecOn with
  | nil => simp [answers, refusals, kept]
  | append_singleton seg b ih =>
    obtain ⟨hseg, hb⟩ := not_mem_concat h
    rw [answers_append, ih hseg, after_segment limit hseg, answers_cons, push_holding limit seg hb]
    unfold refusals
    by_cases hlf : b = lf
    · rw [if_pos (Or.inl hlf), hlf, kept_append, kept_lf, List.append_nil]
      exact List.append_nil _
    rw [kept_append, kept_of_ne hlf, List.length_append, List.length_singleton]
    generalize (kept seg).length = n
    by_cases hroom : n < limit
    · rw [if_pos (Or.inr hroom), Nat.sub_eq_zero_of_le (Nat.le_of_lt hroom),
        Nat.sub_eq_zero_of_le hroom]
      rfl
    · rw [if_neg (not_or.2 ⟨hlf, hroom⟩), Nat.succ_sub (Nat.not_lt.1 hroom),
        List.replicate_succ']
      rfl

theorem answers_ended (h : cr ∉ seg) (rest : List UInt8) :
    ((empty limit).answers (seg ++ cr :: rest)).2 =
      refusals limit seg ++ (endVerdict limit seg).answer?.toList ++
        ((empty limit).answers rest).2 := by
  rw [answers_append, answers_segment limit h, after_segment limit h, answers_cons, push_cr,
    List.append_assoc]
  rfl

/-! ## All segments -/

theorem answers_segments (limit : Nat) {segs : List (List UInt8)} (hne : segs ≠ [])
    (hsegs : ∀ s ∈ segs, cr ∉ s) :
    ((empty limit).answers ([cr].intercalate segs)).2 =
      segs.dropLast.flatMap (fun s => refusals limit s ++ (endVerdict limit s).answer?.toList) ++
        refusals limit (segs.getLast hne) := by
  induction segs with
  | nil => exact absurd rfl hne
  | cons seg segs ih =>
    obtain ⟨hseg, hsegs⟩ := List.forall_mem_cons.1 hsegs
    by_cases hlast : segs = []
    · subst hlast
      simpa using answers_segment limit hseg
    · rw [List.intercalate_cons_of_ne_nil hlast, List.append_assoc, List.singleton_append,
        answers_ended hseg, ih hlast hsegs, List.dropLast_cons_of_ne_nil hlast,
        List.flatMap_cons, List.getLast_cons hlast, List.append_assoc _ _ (refusals ..)]

/-- The answers to bytes are told from their segments. -/
theorem answers_eq (limit : Nat) (bytes : List UInt8) :
    ((empty limit).answers bytes).2 =
      (endedSegments bytes).flatMap
        (fun s => refusals limit s ++ (endVerdict limit s).answer?.toList) ++
      refusals limit (openSegment bytes) := by
  have h := answers_segments limit (List.splitOn_ne_nil cr bytes)
    fun _ hs => (Text.of_mem_splitOn hs).1
  rw [List.intercalate_splitOn] at h
  exact h

theorem ok_not_mem_refusals : .ok f ∉ refusals limit seg := by
  intro h
  cases List.eq_of_mem_replicate h

theorem ok_mem_answer?_iff {v : Verdict} : .ok f ∈ v.answer?.toList ↔ v = .frame f := by
  cases v <;> simp [Verdict.answer?, eq_comm]

theorem ok_mem_answers_iff : .ok f ∈ ((empty limit).answers bytes).2 ↔
    ∃ seg ∈ endedSegments bytes, Ends ((kept seg).take limit) (.frame f) := by
  simp only [answers_eq, List.mem_append, List.mem_flatMap, ok_not_mem_refusals, false_or,
    or_false, ok_mem_answer?_iff, endVerdict_eq_frame_iff]

theorem ok_mem_answers_iff_madeOf : .ok f ∈ ((empty limit).answers bytes).2 ↔
    MadeOfWhole limit bytes f ∨ MadeOfCut limit bytes f := by
  rw [ok_mem_answers_iff]
  constructor
  · rintro ⟨seg, hseg, hends⟩
    rcases Nat.lt_or_ge limit (kept seg).length with hlong | hfits
    · exact .inr ⟨seg, hseg, hlong, hends⟩
    · exact .inl ⟨seg, hseg, hfits, List.take_of_length_le hfits ▸ hends⟩
  · rintro (⟨seg, hseg, hfits, hends⟩ | ⟨seg, hseg, -, hends⟩)
    · exact ⟨seg, hseg, (List.take_of_length_le hfits).symm ▸ hends⟩
    · exact ⟨seg, hseg, hends⟩

theorem tooLarge_mem_answers (hcut : MadeOfCut limit bytes f) :
    .error (.tooLarge (limit + 1) limit) ∈ ((empty limit).answers bytes).2 := by
  obtain ⟨seg, hseg, hlong, -⟩ := hcut
  rw [answers_eq]
  refine List.mem_append_left _ (List.mem_flatMap.2 ⟨seg, hseg, List.mem_append_left _ ?_⟩)
  exact List.mem_replicate.2 ⟨Nat.sub_ne_zero_of_lt hlong, rfl⟩

/-! ## Up to the first refusal -/

theorem madeOfWhole_of_feed {fs : List Frame} (h : ((empty limit).feed bytes).2 = .ok fs)
    (hf : f ∈ fs) : MadeOfWhole limit bytes f := by
  rcases (empty limit).exists_first_refusal bytes with
    ⟨gs, hgs⟩ | ⟨before, b, after, gs, err, rfl, hgs, herr⟩
  · rw [feed_of_answers hgs] at h
    cases h
    have hmem : .ok f ∈ ((empty limit).answers bytes).2 := hgs ▸ List.mem_map_of_mem hf
    refine (ok_mem_answers_iff_madeOf.1 hmem).resolve_right fun hcut => ?_
    have hrefused := tooLarge_mem_answers hcut
    rw [hgs] at hrefused
    obtain ⟨_, -, heq⟩ := List.mem_map.1 hrefused
    cases heq
  · rw [feed_of_refused hgs herr] at h
    cases h

end Reader

open Reader

variable {limit : Nat} {f : Frame}

theorem Heard.whole_of_mem_frames {ending : Ending} {segs : List (List UInt8)}
    (h : f ∈ (Heard.ofSegments limit ending segs).frames) :
    ∃ seg ∈ segs.dropLast, (kept seg).length ≤ limit ∧ Ends (kept seg) (.frame f) := by
  induction segs with
  | nil => cases h
  | cons seg segs ih =>
    unfold Heard.ofSegments at h
    split at h
    · cases h
    next hfits =>
    split at h
    · cases h
    next hne =>
    rw [List.dropLast_cons_of_ne_nil hne]
    split at h
    · cases h
    next line hline =>
    rcases List.mem_cons.1 h with rfl | h
    · refine ⟨seg, List.mem_cons_self, Nat.not_lt.1 hfits, ?_⟩
      have hread : complete (kept seg).toByteArray = .frame (.ofLine line) := by
        rw [complete, hline]
      have hends := ends_complete (kept seg).toByteArray
      rwa [hread, List.data_toByteArray] at hends
    · obtain ⟨s, hs, hwhole⟩ := ih h
      exact ⟨s, List.mem_cons_of_mem _ hs, hwhole⟩

namespace FrameStream

theorem madeOfWhole_of_mem_frames {source : ByteSource}
    (h : f ∈ (frames ⟨.empty limit, source⟩).1) : MadeOfWhole limit source.bytes f := by
  rw [frames_eq_heard] at h
  exact Heard.whole_of_mem_frames h

/-- A stream that is asked again and again gives just the frames that pushing gives. -/
theorem exists_next_iff (s : FrameStream) : (∃ n, (s.again n).next.2 = .ok (some f)) ↔
    .ok f ∈ (s.reader.answers s.source.bytes).2 := by
  have htold : .ok f ∈ s.told ↔ .ok f ∈ (s.reader.answers s.source.bytes).2 := by
    simp [told]
  rw [← htold, List.mem_iff_getElem?]
  refine exists_congr fun n => ?_
  rw [next_again]
  rcases s.told[n]? with _ | _ | g
  · simp
  · simp [Except.map]
  · simp [Except.map]

end FrameStream

namespace Reader

/-- Bytes are answered segment by segment. Each byte past the limit is refused, and at the end
of the segment the bytes within the limit are read as if they were all. So a frame comes from a
whole segment or from one that was refused and cut, and a stream that is asked again and again
gives both. Bytes fed at once, and frames taken up to the first refusal, give whole ones only. -/
theorem a_refused_segment_is_read_up_to_the_limit (limit : Nat) (bytes : List UInt8) :
    let answers := ((empty limit).answers bytes).2
    answers = (endedSegments bytes).flatMap
        (fun seg => refusals limit seg ++ (endVerdict limit seg).answer?.toList) ++
      refusals limit (openSegment bytes) ∧
    (∀ seg, Ends ((kept seg).take limit) (endVerdict limit seg)) ∧
    (∀ f, .ok f ∈ answers ↔ MadeOfWhole limit bytes f ∨ MadeOfCut limit bytes f) ∧
    (∀ ending f, (∃ n, (FrameStream.again ⟨empty limit, bytes, ending⟩ n).next.2 = .ok (some f)) ↔
      .ok f ∈ answers) ∧
    (∀ ending, ∀ f ∈ (FrameStream.frames ⟨empty limit, bytes, ending⟩).1,
      MadeOfWhole limit bytes f) ∧
    ∀ fs, ((empty limit).feed bytes).2 = .ok fs → ∀ f ∈ fs, MadeOfWhole limit bytes f :=
  ⟨answers_eq limit bytes, ends_endVerdict limit, fun _ => ok_mem_answers_iff_madeOf,
    fun _ _ => FrameStream.exists_next_iff _, fun _ _ h => FrameStream.madeOfWhole_of_mem_frames h,
    fun _ h _ hf => madeOfWhole_of_feed h hf⟩

/-- A frame with a line feed in it fits just so. It is given alone, and also before one that does
not fit. -/
theorem a_frame_that_fits_is_whole :
    let line := [0x6f, lf, 0x6b, cr]
    let bytes := line ++ [0x6f, 0x6b, 0x21, cr]
    let f : Frame := ⟨["ok"]⟩
    f ∈ (FrameStream.frames ⟨empty 2, bytes, .closed⟩).1 ∧ MadeOfWhole 2 bytes f ∧
    ((empty 2).feed line).2 = .ok [f] ∧ MadeOfWhole 2 line f := by
  intro line bytes f
  obtain ⟨-, -, -, -, hframes, -⟩ := a_refused_segment_is_read_up_to_the_limit 2 bytes
  obtain ⟨-, -, -, -, -, hfeed⟩ := a_refused_segment_is_read_up_to_the_limit 2 line
  have htaken : f ∈ (FrameStream.frames ⟨empty 2, bytes, .closed⟩).1 := by decide
  have hfed : ((empty 2).feed line).2 = .ok [f] := by rfl
  exact ⟨htaken, hframes _ f htaken, hfed, hfeed _ hfed f (List.mem_singleton.2 rfl)⟩

/-- A line that is one byte too long is refused, and then there is a frame all the same, which
names another node than the line. -/
theorem a_line_that_was_refused_names_another_node :
    let bytes := Utf8.write "NODEDEL\t10.0.0.12" ++ [cr]
    let f : Frame := ⟨["NODEDEL", "10.0.0.1"]⟩
    ((empty 16).answers bytes).2 = [.error (.tooLarge 17 16), .ok f] ∧
    (FrameStream.again ⟨empty 16, bytes, .closed⟩ 1).next.2 = .ok (some f) ∧
    ¬ MadeOfWhole 16 bytes f := by
  intro bytes f
  have hlong : ∀ seg ∈ endedSegments bytes, ¬ (kept seg).length ≤ 16 := by decide
  refine ⟨by rfl, by decide +kernel, ?_⟩
  rintro ⟨seg, hseg, hfits, -⟩
  exact hlong seg hseg hfits

end Reader

end Patchbay
