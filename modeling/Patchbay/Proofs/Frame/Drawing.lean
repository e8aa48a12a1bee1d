-- The ways to take frames from bytes. Whoever pushes bytes one by one, feeds them in
-- pieces, asks a stream for one frame after the other or takes its frames to the end is
-- told the same, up to where each of them stops.
import Patchbay.Proofs.Frame.Hearing

namespace Patchbay

/-- What is said, if anything is. -/
def Verdict.answer? : Verdict → Option (Except WireError Frame)
  | more => none
  | frame f => some (.ok f)
  | refused err => some (.error err)

/-! ## Bytes pushed -/

namespace Reader

variable {r : Reader} {fs : List Frame} {err : WireError}

theorem after_cons (r : Reader) (b : UInt8) (bs : List UInt8) :
    r.after (b :: bs) = (r.push b).1.after bs := rfl

theorem answers_cons (r : Reader) (b : UInt8) (bs : List UInt8) :
    (r.answers (b :: bs)).2 = (r.push b).2.answer?.toList ++ ((r.push b).1.answers bs).2 := by
  rcases hpush : r.push b with ⟨r', v⟩
  cases v <;> simp [answers, hpush, Verdict.answer?]

theorem answers_append (r : Reader) (as bs : List UInt8) :
    (r.answers (as ++ bs)).2 = (r.answers as).2 ++ ((r.after as).answers bs).2 := by
  induction as generalizing r with
  | nil => rfl
  | cons a as ih =>
    rw [List.cons_append, answers_cons, answers_cons, ih, after_cons, List.append_assoc]

/-- Either nothing is refused, or there is a byte that is refused first. -/
theorem exists_first_refusal (r : Reader) (bytes : List UInt8) :
    (∃ fs : List Frame, (r.answers bytes).2 = fs.map .ok) ∨
      ∃ before b after, ∃ fs : List Frame, ∃ err, bytes = before ++ b :: after ∧
        (r.answers before).2 = fs.map .ok ∧ ((r.after before).push b).2 = .refused err := by
  induction bytes using List.reverseRecOn with
  | nil => exact .inl ⟨[], rfl⟩
  | append_singleton bytes b ih =>
    rcases ih with ⟨fs, hfs⟩ | ⟨before, c, after, fs, err, rfl, hfs, herr⟩
    · have hone : (r.answers (bytes ++ [b])).2 =
          fs.map .ok ++ ((r.after bytes).push b).2.answer?.toList := by
        rw [answers_append, hfs, answers_cons]
        simp [answers]
      cases hv : ((r.after bytes).push b).2 with
      | more => exact .inl ⟨fs, by simp [hone, hv, Verdict.answer?]⟩
      | frame f => exact .inl ⟨fs ++ [f], by simp [hone, hv, Verdict.answer?]⟩
      | refused err => exact .inr ⟨bytes, b, [], fs, err, rfl, hfs, hv⟩
    · exact .inr ⟨before, c, after ++ [b], fs, err, by simp, hfs, herr⟩

/-! ## Bytes fed -/

theorem feed_of_answers {bytes : List UInt8} (h : (r.answers bytes).2 = fs.map .ok) :
    r.feed bytes = (r.after bytes, .ok fs) := by
  induction bytes generalizing r fs with
  | nil =>
    rw [List.map_eq_nil_iff.1 h.symm]
    rfl
  | cons b bytes ih =>
    rcases hpush : r.push b with ⟨r', v⟩
    rw [answers_cons, hpush] at h
    rw [after_cons, feed, hpush]
    cases v with
    | more => exact ih h
    | frame f =>
      obtain ⟨g, gs, rfl, hg, hgs⟩ := List.map_eq_cons_iff.1 h.symm
      cases hg
      simp only [ih hgs.symm]
      rfl
    | refused err =>
      obtain ⟨g, gs, -, hg, -⟩ := List.map_eq_cons_iff.1 h.symm
      cases hg

theorem feed_append {r' : Reader} {front : List UInt8} (h : r.feed front = (r', .ok fs))
    (rest : List UInt8) :
    r.feed (front ++ rest) = ((r'.feed rest).1, (r'.feed rest).2.map (fs ++ ·)) := by
  induction front generalizing r fs with
  | nil =>
    cases h
    rcases hrest : r'.feed rest with ⟨r'', _ | gs⟩ <;> exact hrest
  | cons b front ih =>
    rcases hpush : r.push b with ⟨r₁, v⟩
    rw [feed, hpush] at h
    rw [List.cons_append, feed, hpush]
    cases v with
    | more => exact ih h
    | frame f =>
      rcases hfront : r₁.feed front with ⟨r₂, res⟩
      simp only [hfront] at h
      cases res with
      | error err => cases h
      | ok gs =>
        cases h
        simp only [ih hfront]
        cases (r'.feed rest).2 <;> rfl
    | refused err => cases h

theorem feed_of_refused {before after : List UInt8} {b : UInt8}
    (hbefore : (r.answers before).2 = fs.map .ok)
    (hpush : ((r.after before).push b).2 = .refused err) :
    r.feed (before ++ b :: after) = (r.after (before ++ [b]), .error err) := by
  rw [feed_append (feed_of_answers hbefore), feed, after_append, after_cons]
  rcases hb : (r.after before).push b with ⟨r', v⟩
  rw [hb] at hpush
  cases hpush
  rfl

end Reader

/-! ## Frames drawn -/

/-- The answers up to the first refusal, with that refusal. -/
def untilRefusal {ε α : Type} : List (Except ε α) → List (Except ε α)
  | [] => []
  | .ok a :: answers => .ok a :: untilRefusal answers
  | .error err :: _ => [.error err]

namespace FrameStream

/-- All that a stream has to tell: what pushing its bytes would tell, and how reading fails in
the end if it does. -/
def told (s : FrameStream) : List (Except WireError Frame) :=
  (s.reader.answers s.source.bytes).2 ++ (s.source.ending.failure.map .error).toList

/-- The stream after it was asked for a frame `n` times. -/
def again (s : FrameStream) : Nat → FrameStream
  | 0 => s
  | n + 1 => s.next.1.again n

theorem told_cons (r : Reader) (b : UInt8) (bs : List UInt8) (ending : Ending) :
    told ⟨r, b :: bs, ending⟩ =
      (r.push b).2.answer?.toList ++ told ⟨(r.push b).1, bs, ending⟩ := by
  simp only [told, Reader.answers_cons, List.append_assoc]

theorem next_told (s : FrameStream) :
    match s.told with
    | [] => s.next.2 = .ok none ∧ s.next.1.told = []
    | a :: rest => s.next.2 = a.map some ∧ s.next.1.told = rest := by
  obtain ⟨r, bytes, ending⟩ := s
  unfold next
  simp only
  induction bytes generalizing r with
  | nil =>
    unfold told nextFrom
    cases ending.failure <;> exact ⟨rfl, rfl⟩
  | cons b bytes ih =>
    rw [told_cons]
    rcases hpush : r.push b with ⟨r', v⟩
    cases v with
    | more =>
      simp only [nextFrom, hpush]
      exact ih r'
    | frame f =>
      simp only [nextFrom, hpush]
      exact ⟨rfl, rfl⟩
    | refused err =>
      simp only [nextFrom, hpush]
      exact ⟨rfl, rfl⟩

theorem again_told (s : FrameStream) (n : Nat) : (s.again n).told = s.told.drop n := by
  induction n generalizing s with
  | zero => rfl
  | succ n ih =>
    have hnext := s.next_told
    rw [again, ih]
    cases htold : s.told with
    | nil =>
      rw [htold] at hnext
      rw [hnext.2]
      simp
    | cons a rest =>
      rw [htold] at hnext
      rw [hnext.2, List.drop_succ_cons]

/-- Each time that a stream is asked, it gives the next thing it has to tell, and nothing when
all is told. -/
theorem next_again (s : FrameStream) (n : Nat) :
    (s.again n).next.2 = s.told[n]?.elim (.ok none) (Except.map some) := by
  have hnext := (s.again n).next_told
  rw [again_told] at hnext
  rw [← List.head?_drop]
  cases hrest : s.told.drop n with
  | nil =>
    rw [hrest] at hnext
    exact hnext.1
  | cons a rest =>
    rw [hrest] at hnext
    exact hnext.1

theorem draw_eq (s : FrameStream) (n : Nat) :
    s.draw n = (s.told.map (Except.map some) ++ [Except.ok none]).take n := by
  induction n generalizing s with
  | zero => rfl
  | succ n ih =>
    have hnext := s.next_told
    rcases hs : s.next with ⟨s', answer⟩
    rw [hs] at hnext
    rw [draw, hs]
    cases htold : s.told with
    | nil =>
      rw [htold] at hnext
      obtain ⟨rfl, -⟩ := hnext
      simp
    | cons a rest =>
      rw [htold] at hnext
      obtain ⟨rfl, hrest⟩ := hnext
      cases a <;> simp [Except.map, ih, hrest]

theorem frames_untilRefusal (s : FrameStream) :
    s.frames.1.map .ok ++ (s.frames.2.map .error).toList = untilRefusal s.told := by
  obtain ⟨r, bytes, ending⟩ := s
  unfold frames
  simp only
  induction bytes generalizing r with
  | nil =>
    unfold told framesFrom
    cases ending.failure <;> rfl
  | cons b bytes ih =>
    rw [told_cons]
    rcases hpush : r.push b with ⟨r', v⟩
    cases v with
    | more =>
      simp only [framesFrom, hpush]
      exact ih r'
    | frame f =>
      simp only [framesFrom, hpush]
      exact congrArg (Except.ok f :: ·) (ih r')
    | refused err =>
      simp only [framesFrom, hpush]
      rfl

/-- Whatever a reader holds and whatever comes, pushing the bytes one by one tells all there is
to tell of them. A stream that is asked again and again tells just that, then once how reading
failed if it did, and from then on nothing. Its frames taken to the end are that up to the
first refusal. Bytes that are fed give all their frames, or the first refusal, and then the
reader is where that refusal left it. In two pieces they give the same frames as in one. -/
theorem pushing_feeding_and_drawing_agree (s : FrameStream) :
    let r := s.reader
    let bytes := s.source.bytes
    let told := (r.answers bytes).2 ++ (s.source.ending.failure.map .error).toList
    (∀ n, (s.again n).next.2 = told[n]?.elim (.ok none) (Except.map some)) ∧
    (∀ n, s.draw n = (told.map (Except.map some) ++ [Except.ok none]).take n) ∧
    s.frames.1.map .ok ++ (s.frames.2.map .error).toList = untilRefusal told ∧
    ((∃ fs : List Frame, (r.answers bytes).2 = fs.map .ok ∧
        r.feed bytes = (r.after bytes, .ok fs)) ∨
      ∃ before b after, ∃ fs : List Frame, ∃ err later, bytes = before ++ b :: after ∧
        (r.answers (before ++ [b])).2 = fs.map .ok ++ [.error err] ∧
        (r.answers bytes).2 = fs.map .ok ++ .error err :: later ∧
        r.feed bytes = (r.after (before ++ [b]), .error err)) ∧
    ∀ front rest r' fs, r.feed front = (r', .ok fs) →
      r.feed (front ++ rest) = ((r'.feed rest).1, (r'.feed rest).2.map (fs ++ ·)) := by
  intro r bytes told
  refine ⟨s.next_again, s.draw_eq, s.frames_untilRefusal, ?_, fun _ rest _ _ h =>
    Reader.feed_append h rest⟩
  rcases r.exists_first_refusal bytes with
    ⟨fs, hfs⟩ | ⟨before, b, after, fs, err, hbytes, hfs, herr⟩
  · exact .inl ⟨fs, hfs, Reader.feed_of_answers hfs⟩
  · have hone : ∀ rest, (r.answers (before ++ b :: rest)).2 =
        fs.map .ok ++ .error err :: (((r.after before).push b).1.answers rest).2 := by
      intro rest
      rw [Reader.answers_append, hfs, Reader.answers_cons, herr]
      rfl
    rw [hbytes]
    exact .inr ⟨before, b, after, fs, err, _, rfl, hone [], hone after,
      Reader.feed_of_refused hfs herr⟩

end FrameStream

end Patchbay
