-- A frame that fails leaves no trace: no record is changed by it, nobody is
-- told of it, and nothing is asked for. So a run comes to what its good frames
-- come to, as if the others had never been there.
import Patchbay.Proofs.Engine.History

namespace Patchbay

namespace Engine

variable {e : Engine} {f : Frame} {err : ClientError}

/-! ## One action -/

theorem Refusal.ne_disconnected (h : Refusal e f err) : err ≠ .disconnected := by
  cases h <;> nofun

/-- A frame fails because it is refused, and then nothing has happened, or because the next
topic cannot be asked for, and then the acknowledgment has been counted. -/
theorem dispatch_of_error (h : (e.dispatch f).result = .error err) :
    (err ≠ .disconnected ∧ e.dispatch f = e.fail err) ∨
    (err = .disconnected ∧ e.isOpen = false ∧ ∃ note t, e.dispatch f =
      { e with subscription.acks := e.subscription.acks + 1 }.subscribe note t) := by
  revert h
  refine dispatch_induction e f fun t ht => ?_
  intro h
  cases ht with
  | failed hr =>
    cases h
    exact .inl ⟨hr.ne_disconnected, rfl⟩
  | next _ hs _ =>
    cases ho : e.isOpen with
    | true =>
      simp only [subscribe, Issue.send, ho] at h
      cases h
    | false =>
      simp only [subscribe, Issue.send, ho] at h
      cases h
      exact .inr ⟨rfl, rfl, _, _, by rw [← hs]⟩
  | _ => cases h

/-- When commands can be queued, whatever fails changes nothing. -/
theorem act_of_error (ho : e.isOpen = true) {a : Action}
    (h : (e.act a).result = .error err) : e.act a = e.fail err := by
  cases a with
  | start =>
    simp only [act, start, subscribe, Issue.send, ho] at h
    cases h
  | dispatch f =>
    rcases dispatch_of_error h with ⟨-, hf⟩ | ⟨-, hclosed, -⟩
    · exact hf
    · cases ho.symm.trans hclosed
  | setHandler => cases h
  | disconnect => cases h

/-! ## A run -/

/-- The actions that went well, in order. When commands can be queued, only frames fail. -/
def taken (e : Engine) (as : List Action) : List Action :=
  ((as.zip (e.turns as)).filter fun p => p.2.result = .ok ()).map Prod.fst

theorem taken_cons (e : Engine) (a : Action) (as : List Action) :
    e.taken (a :: as) =
      if (e.act a).result = .ok () then a :: (e.act a).engine.taken as
      else (e.act a).engine.taken as := by
  simp only [taken, turns, List.zip_cons_cons, List.filter_cons, decide_eq_true_eq]
  split <;> rfl

theorem run_taken (ho : e.isOpen = true) {as : List Action} (hd : .disconnect ∉ as) :
    e.after (e.taken as) = e.after as ∧ e.commands (e.taken as) = e.commands as ∧
      e.events (e.taken as) = e.events as := by
  induction as generalizing e with
  | nil => exact ⟨rfl, rfl, rfl⟩
  | cons a as ih =>
    obtain ⟨ha, has⟩ := List.ne_and_not_mem_of_not_mem_cons hd
    rw [taken_cons, after_cons, commands_cons, events_cons]
    by_cases hok : (e.act a).result = .ok ()
    · obtain ⟨hafter, hcommands, hevents⟩ := ih (act_isOpen ho (Ne.symm ha)) has
      rw [if_pos hok, after_cons, commands_cons, events_cons, hafter, hcommands, hevents]
      exact ⟨rfl, rfl, rfl⟩
    · -- An action that fails is left out and leaves the engine as it was.
      rw [if_neg hok]
      cases hres : (e.act a).result with
      | ok _ => exact absurd hres hok
      | error err =>
        rw [act_of_error ho hres]
        exact ih ho has

/-- A frame that fails changes no record, is told to nobody and queues nothing. The engine
is as it was, unless nobody takes its commands any more: then an acknowledgment has been
counted. As long as commands can be queued, a run without the frames that fail ends like the
whole run, queues the same commands and tells of the same events. -/
theorem a_frame_that_fails_leaves_no_trace :
    (∀ (e : Engine) (f : Frame) (err : ClientError), (e.dispatch f).result = .error err →
      (e.dispatch f).engine.store = e.store ∧ (e.dispatch f).deliveries = [] ∧
      (e.dispatch f).commands = [] ∧
      (e.dispatch f).engine = if err = .disconnected
        then { e with subscription.acks := e.subscription.acks + 1 } else e) ∧
    ∀ (e : Engine) (as : List Action), e.isOpen = true → .disconnect ∉ as →
      e.after (e.taken as) = e.after as ∧ e.commands (e.taken as) = e.commands as ∧
        e.events (e.taken as) = e.events as := by
  refine ⟨fun e f err h => ?_, fun e as ho hd => run_taken ho hd⟩
  rcases dispatch_of_error h with ⟨hne, hf⟩ | ⟨rfl, hclosed, note, t, hf⟩
  · rw [hf, if_neg hne]
    exact ⟨rfl, rfl, rfl, rfl⟩
  · rw [hf, if_pos rfl]
    refine ⟨rfl, rfl, ?_, rfl⟩
    simp only [subscribe, Issue.send, hclosed]
    rfl

/-- An acknowledgment is counted when nobody takes commands any more. In a run where they are
taken, a source comes too early, a garbled node and an unknown one come after the fabric is
loaded, and a node comes and goes all the same. -/
theorem four_of_thirteen_actions_leave_no_trace :
    let hs : Handlers := fun _ => some (.silent none)
    let ok : Frame := ⟨["ok"]⟩
    let closed := (new hs).after [.start, .dispatch ok, .disconnect]
    let node : Frame := ⟨["NODEADD", "a", "b", "c", "1", "2", "3", "4"]⟩
    let as : List Action := .dispatch ok :: .start ::
      .dispatch ⟨["SRCADD", "a", "0", "b", "c", "d", "1", "2", "3"]⟩ ::
      List.replicate 7 (.dispatch ok) ++ [.dispatch ⟨["NODEADD", "a"]⟩, .dispatch node,
        .dispatch ⟨["NODEDEL", "b"]⟩]
    (closed.dispatch ok).result = .error .disconnected ∧
    (closed.dispatch ok).engine.store = closed.store ∧
    (closed.dispatch ok).deliveries = [] ∧ (closed.dispatch ok).commands = [] ∧
    (closed.dispatch ok).engine =
      { closed with subscription.acks := closed.subscription.acks + 1 } ∧
    .disconnect ∉ as ∧ as.length = 13 ∧ ((new hs).taken as).length = 9 ∧
    (new hs).after ((new hs).taken as) = (new hs).after as ∧
    (new hs).commands ((new hs).taken as) = (new hs).commands as ∧
    (new hs).events ((new hs).taken as) = (new hs).events as := by
  intro hs ok closed node as
  obtain ⟨hone, hrun⟩ := a_frame_that_fails_leaves_no_trace
  have hfails : (closed.dispatch ok).result = .error .disconnected := rfl
  obtain ⟨hstore, hdeliveries, hcommands, hengine⟩ := hone closed ok _ hfails
  rw [if_pos rfl] at hengine
  have hd : .disconnect ∉ as := by simp [as]
  exact ⟨hfails, hstore, hdeliveries, hcommands, hengine, hd, rfl, by decide,
    hrun (new hs) as rfl hd⟩

end Engine

end Patchbay
