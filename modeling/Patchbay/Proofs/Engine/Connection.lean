-- An engine at a connection does what it does when it starts and then takes the
-- frames that are heard, one after the other. What fails first ends it: a frame
-- that cannot be read, a frame that the engine refuses, or the source.
import Patchbay.Engine.Run
import Patchbay.Proofs.Engine.Subscribing
import Patchbay.Proofs.Frame.Hearing

namespace Patchbay

/-- How a client puts the end of a stream. -/
def Heard.error (h : Heard) : ClientError :=
  match h.failure with
  | some err => .wire err
  | none => .closed

def Run.deliveries (x : Run) : List Delivery := x.effects.filterMap Effect.delivery?

def Run.commands (x : Run) : List Command := x.effects.flatMap Effect.commands

namespace Engine

variable {e : Engine} {f : Frame} {fs taken : List Frame} {last err : ClientError}

/-! ## Up to the first failure -/

/-- Which of some frames are taken, and what ends this: a frame that fails, or the end that
comes behind them all. -/
inductive Until (e : Engine) (fs : List Frame) (last : ClientError) :
    List Frame → ClientError → Prop where
  | through (hok : ∀ t ∈ e.turns (frames fs), t.result = .ok ()) : Until e fs last fs last
  | failed (pre : List Frame) {post : List Frame} {f : Frame} {err : ClientError} (hfs : fs = pre ++ f :: post)
      (hok : ∀ t ∈ e.turns (frames pre), t.result = .ok ())
      (hfail : ((e.after (frames pre)).dispatch f).result = .error err) :
      Until e fs last (pre ++ [f]) err

namespace Until

theorem nil (e : Engine) (last : ClientError) : Until e [] last [] last :=
  through fun _ ht => nomatch ht

theorem cons (hok : (e.dispatch f).result = .ok ())
    (h : Until (e.dispatch f).engine fs last taken err) :
    Until e (f :: fs) last (f :: taken) err := by
  cases h with
  | through hall => exact through (List.forall_mem_cons.2 ⟨hok, hall⟩)
  | failed pre hfs hall hfail =>
    subst hfs
    exact failed (f :: pre) rfl (List.forall_mem_cons.2 ⟨hok, hall⟩) hfail

theorem taken_prefix (h : Until e fs last taken err) : taken <+: fs := by
  cases h with
  | through => exact List.prefix_refl fs
  | @failed pre post f _ hfs => exact ⟨post, by simp [hfs]⟩

end Until

/-- Bytes that come one by one are taken frame by frame, as the stream gives the frames. -/
theorem absorb_frames (e : Engine) (r : Reader) (ending : Ending) (bytes : List UInt8) :
    let p := e.absorb r bytes
    let (fs, failure) := FrameStream.framesFrom r ending bytes
    ∃ taken, Until e fs (Heard.error ⟨fs, failure⟩) taken
        (p.failure.getD (finish p.reader ending).1) ∧
      p.engine = e.after (frames taken) ∧
      p.effects.filterMap Effect.delivery? = e.deliveries (frames taken) ∧
      p.effects.flatMap Effect.commands = e.commands (frames taken) := by
  induction bytes generalizing e r with
  | nil =>
    refine ⟨[], ?_, rfl, rfl, rfl⟩
    unfold finish Heard.error
    cases ending.failure <;> exact Until.nil e _
  | cons b bytes ih =>
    rcases hpush : r.push b with ⟨r, v⟩
    unfold absorb FrameStream.framesFrom
    simp only [hpush]
    cases v with
    | more => exact ih e r
    | refused err => exact ⟨[], Until.nil e _, rfl, rfl, rfl⟩
    | frame f =>
      cases hres : (e.dispatch f).result with
      | error err =>
        simp only [hres]
        refine ⟨[f], ?_, rfl, ?_, ?_⟩
        · exact Until.failed [] rfl (fun _ ht => nomatch ht) hres
        · exact (List.append_nil _).symm
        · exact (List.append_nil _).symm
      | ok _ =>
        simp only [hres]
        obtain ⟨taken, huntil, hengine, hdeliveries, hcommands⟩ := ih (e.dispatch f).engine r
        refine ⟨f :: taken, huntil.cons hres, hengine, ?_, ?_⟩
        · simp only [frames, List.map_cons, deliveries_cons]
          rw [List.filterMap_append, hdeliveries]
          rfl
        · simp only [frames, List.map_cons, commands_cons]
          rw [List.flatMap_append, hcommands]
          rfl

/-! ## A whole run -/

theorem start_result (ho : e.isOpen = true) : e.start.result = .ok () := by
  unfold start subscribe Issue.send
  simp [ho, Issue.result]

/-- The end of the bytes is noted, and nothing else comes of it. -/
theorem finish_silent (r : Reader) (ending : Ending) :
    (finish r ending).2.filterMap Effect.delivery? = [] ∧
      (finish r ending).2.flatMap Effect.commands = [] := by
  unfold finish
  cases ending.failure with
  | some err => exact ⟨rfl, rfl⟩
  | none => by_cases h : r.pending = 0 <;> simp [h, Effect.delivery?, Effect.commands]

theorem run_until (ho : e.isOpen = true) (limit : Nat) (source : ByteSource) :
    let run := e.run limit source
    let heard := source.heard limit
    ∃ taken, Until e.start.engine heard.frames heard.error taken run.error ∧
      run.engine = e.after (session taken) ∧
      run.deliveries = e.deliveries (session taken) ∧
      run.commands = e.commands (session taken) := by
  intro run heard
  have hheard : FrameStream.framesFrom (.empty limit) source.ending source.bytes =
      (heard.frames, heard.failure) := FrameStream.frames_eq_heard limit source
  have habsorb := absorb_frames e.start.engine (.empty limit) source.ending source.bytes
  simp only [hheard] at habsorb
  obtain ⟨taken, huntil, hengine, hdeliveries, hcommands⟩ := habsorb
  obtain ⟨hnone, hquiet⟩ := finish_silent
    (e.start.engine.absorb (.empty limit) source.bytes).reader source.ending
  refine ⟨taken, ?_⟩
  unfold Run.deliveries Run.commands
  simp only [session, deliveries_cons, commands_cons, after_cons, act, ← hdeliveries, ← hcommands,
    ← hengine]
  simp only [run, Engine.run, start_result ho]
  cases hfail : (e.start.engine.absorb (.empty limit) source.bytes).failure with
  | some err =>
    rw [hfail] at huntil
    refine ⟨huntil, rfl, ?_, ?_⟩
    · exact List.filterMap_append
    · exact List.flatMap_append
  | none =>
    rw [hfail] at huntil
    refine ⟨huntil, rfl, ?_, ?_⟩
    · simp only [List.filterMap_append, hnone, List.append_nil]
      rfl
    · simp only [List.flatMap_append, hquiet, List.append_nil]
      rfl

theorem session_ok (ho : e.isOpen = true) :
    (∀ t ∈ e.turns (session fs), t.result = .ok ()) ↔
      ∀ t ∈ e.start.engine.turns (frames fs), t.result = .ok () := by
  simp only [session, turns, act, List.forall_mem_cons, start_result ho, true_and]

/-- For every limit and every source, a run leaves the engine, tells and asks just as a start
does and then the frames that are heard, up to the first failure. Either all of them are taken,
and the run ends with what ended the hearing, or the run ends with the first frame that fails,
which is the last that is taken. -/
theorem a_run_takes_the_frames_before_the_first_failure (hs : Handlers) (limit : Nat)
    (source : ByteSource) :
    let run := (new hs).run limit source
    let heard := source.heard limit
    ∃ taken, run.engine = (new hs).after (session taken) ∧
      run.deliveries = (new hs).deliveries (session taken) ∧
      run.commands = (new hs).commands (session taken) ∧
      ((taken = heard.frames ∧ (∀ t ∈ (new hs).turns (session taken), t.result = .ok ()) ∧
          run.error = heard.error) ∨
        ∃ pre f post, heard.frames = pre ++ f :: post ∧ taken = pre ++ [f] ∧
          (∀ t ∈ (new hs).turns (session pre), t.result = .ok ()) ∧
          (((new hs).after (session pre)).dispatch f).result = .error run.error) := by
  intro run heard
  obtain ⟨taken, huntil, hengine, hdeliveries, hcommands⟩ :=
    run_until (e := new hs) rfl limit source
  refine ⟨taken, hengine, hdeliveries, hcommands, ?_⟩
  generalize run.error = err at huntil ⊢
  cases huntil with
  | through hok => exact Or.inl ⟨rfl, (session_ok rfl).2 hok, rfl⟩
  | failed pre hfs hok hfail => exact Or.inr ⟨pre, _, _, hfs, rfl, (session_ok rfl).2 hok, hfail⟩

end Engine

end Patchbay
