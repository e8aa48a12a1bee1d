-- The issuer takes a call or refuses it on the spot. What it takes is in the queue, one command a
-- call, and what it refuses leaves nothing there. So a code that could not be written never gets
-- as far as the queue, whichever way it was made.
import Patchbay.Proofs.Outbox

namespace Patchbay

/-! ## Codes -/

namespace LineCode

/-- Each line is asserted, released or left as it is. -/
def Writable (c : LineCode) : Prop := ∀ x ∈ c.text.toList, x = 'l' ∨ x = 'h' ∨ x = 'x'

instance (c : LineCode) : Decidable c.Writable := List.decidableBAll _ c.text.toList

theorem isOrder_iff {x : Char} : isOrder x = true ↔ x = 'l' ∨ x = 'h' ∨ x = 'x' := by
  simp [isOrder, or_assoc]

theorem isMask_iff {c : LineCode} : c.isMask = true ↔ c.Writable := by
  unfold isMask Writable
  simp only [List.all_eq_true, isOrder_iff]

theorem toList_moving (bit : Nat) (state : Bool) :
    (moving bit state).text.toList = (List.range lines).map (orderAt bit state) :=
  String.toList_ofList

/-- A code that moves one line can be written, so checking it once more refuses nothing. -/
theorem writable_moving (bit : Nat) (state : Bool) : (moving bit state).Writable := by
  intro x hx
  rw [toList_moving] at hx
  obtain ⟨i, -, rfl⟩ := List.mem_map.1 hx
  exact isOrder_iff.1 (isOrder_orderAt bit state i)

theorem bitMask?_of_lt {bit : Nat} (h : bit < 5) (state : Bool) :
    bitMask? bit state = .ok (moving bit state) :=
  if_pos h

theorem bitMask?_of_not_lt {bit : Nat} (h : ¬ bit < 5) (state : Bool) :
    bitMask? bit state = .error (.badBit bit) :=
  if_neg h

theorem getElem?_moving {i : Nat} (hi : i < lines) (bit : Nat) (state : Bool) :
    (moving bit state).text.toList[i]? = some (orderAt bit state i) := by
  rw [toList_moving, List.getElem?_map, List.getElem?_range hi, Option.map_some]

end LineCode

/-- The code that a command writes to the lines of a slot. -/
def Command.written? : Command → Option LineCode
  | setGpoState _ c | setGpiState _ c => some c
  | _ => none

/-! ## One call -/

namespace Call

/-- The call says what it wants by its name, and does not bring a command of its own. -/
def Named : Call → Prop
  | send _ => False
  | _ => True

instance : DecidablePred Named := fun c => by cases c <;> unfold Named <;> infer_instance

/-- What the issuer asks of a call, so that it takes it. -/
def Allowed : Call → Prop
  | setGpoCode _ c | setGpiCode _ c => c.Writable
  | setGpoBit _ b _ | setGpiBit _ b _ => b < 5
  | _ => True

instance : DecidablePred Allowed := fun c => by cases c <;> unfold Allowed <;> infer_instance

/-- What the caller wants to happen. -/
def wanted : Call → Command
  | setCrosspoint d s => .setCrosspoint d s
  | clearCrosspoint d => .clearCrosspoint d
  | setGpioCrosspoint o i => .setGpioCrosspoint o i
  | clearGpioCrosspoint o => .clearGpioCrosspoint o
  | setGpoCode o c => .setGpoState o c
  | setGpiCode i c => .setGpiState i c
  | setGpoBit o b s => .setGpoState o (.moving b s)
  | setGpiBit i b s => .setGpiState i (.moving b s)
  | ping => .ping
  | send c => c

/-- What the issuer finds wrong with a call, when it does not take it. -/
def objection? : Call → Option Fault
  | setGpoCode _ c | setGpiCode _ c => some (.badCode c.text)
  | setGpoBit _ b _ | setGpiBit _ b _ => some (.badBit b)
  | _ => none

/-- What comes of a call while the queue is open. -/
def answer (c : Call) : Issue := .attempt true (.ok c)

theorem writable_of {c : LineCode} (h : c.Writable) : writable c = .ok c :=
  if_pos (LineCode.isMask_iff.2 h)

theorem writable_of_not {c : LineCode} (h : ¬ c.Writable) : writable c = .error (.badCode c.text) :=
  if_neg (mt LineCode.isMask_iff.1 h)

/-- Whatever code is made for a bit, the issuer does not refuse it. -/
theorem bitMask?_writable (bit : Nat) (state : Bool) :
    (LineCode.bitMask? bit state >>= writable) = LineCode.bitMask? bit state := by
  by_cases h : bit < 5
  · rw [LineCode.bitMask?_of_lt h]
    exact writable_of (LineCode.writable_moving bit state)
  · rw [LineCode.bitMask?_of_not_lt h]
    rfl

theorem command_setGpoBit (k : SlotKey) (bit : Nat) (state : Bool) :
    (setGpoBit k bit state).command = Command.setGpoBit? k bit state :=
  congrArg (Except.map _) (bitMask?_writable bit state)

theorem command_setGpiBit (k : SlotKey) (bit : Nat) (state : Bool) :
    (setGpiBit k bit state).command = Command.setGpiBit? k bit state :=
  congrArg (Except.map _) (bitMask?_writable bit state)

theorem command_of_allowed {c : Call} (h : c.Allowed) : c.command = .ok c.wanted := by
  cases c with
  | setGpoCode k code | setGpiCode k code => exact congrArg (Except.map _) (writable_of h)
  | setGpoBit k b s =>
    rw [command_setGpoBit, Command.setGpoBit?, LineCode.bitMask?_of_lt h]
    rfl
  | setGpiBit k b s =>
    rw [command_setGpiBit, Command.setGpiBit?, LineCode.bitMask?_of_lt h]
    rfl
  | _ => rfl

theorem command_of_not_allowed {c : Call} (h : ¬ c.Allowed) :
    ∃ f, c.objection? = some f ∧ c.command = .error f := by
  cases c with
  | setGpoCode k code | setGpiCode k code =>
    exact ⟨.badCode code.text, rfl, congrArg (Except.map _) (writable_of_not h)⟩
  | setGpoBit k b s =>
    refine ⟨.badBit b, rfl, ?_⟩
    rw [command_setGpoBit, Command.setGpoBit?, LineCode.bitMask?_of_not_lt h]
    rfl
  | setGpiBit k b s =>
    refine ⟨.badBit b, rfl, ?_⟩
    rw [command_setGpiBit, Command.setGpiBit?, LineCode.bitMask?_of_not_lt h]
    rfl
  | _ => exact absurd trivial h

/-- A call is taken, and its command sent, or it is refused. -/
theorem answer_cases (c : Call) :
    (c.Allowed ∧ c.answer = .sent c.wanted) ∨
    (¬ c.Allowed ∧ ∃ f, c.objection? = some f ∧ c.answer = .refused f) := by
  unfold answer Issue.attempt
  by_cases h : c.Allowed
  · refine .inl ⟨h, ?_⟩
    simp only [command_of_allowed h]
    rfl
  · obtain ⟨f, hf, hcommand⟩ := command_of_not_allowed h
    refine .inr ⟨h, f, hf, ?_⟩
    simp only [hcommand]

theorem isOk_answer {c : Call} : c.answer.result.isOk = true ↔ c.Allowed := by
  rcases answer_cases c with ⟨h, hanswer⟩ | ⟨h, f, -, hanswer⟩ <;>
    simp [hanswer, h, Issue.result, Except.isOk, Except.toBool]

theorem result_answer_iff {c : Call} : c.answer.result = .ok () ↔ c.Allowed := by
  rcases answer_cases c with ⟨h, hanswer⟩ | ⟨h, f, -, hanswer⟩ <;>
    simp [hanswer, h, Issue.result]

theorem queued?_answer (c : Call) :
    c.answer.queued?.toList = if c.answer.result.isOk then [c.wanted] else [] := by
  rcases answer_cases c with ⟨-, hanswer⟩ | ⟨-, f, -, hanswer⟩ <;> rw [hanswer] <;> rfl

theorem written_of_allowed {c : Call} (hn : c.Named) (h : c.Allowed) {code : LineCode}
    (hcode : c.wanted.written? = some code) : code.Writable := by
  cases c with
  | setGpoCode k c | setGpiCode k c =>
    cases hcode
    exact h
  | setGpoBit k b s | setGpiBit k b s =>
    cases hcode
    exact LineCode.writable_moving b s
  | send c => exact hn.elim
  | _ => cases hcode

end Call

/-! ## Many calls -/

namespace Outbox

/-- Calls of the issuer, one after the other. -/
def callAll (o : Outbox) (calls : List Call) : Outbox := calls.foldl call o

/-- What the issuer takes is sent, and what it refuses is only recorded. -/
theorem call_of_open {o : Outbox} (ho : o.isOpen = true) (c : Call) :
    o.call c = { o with
      queue := o.queue ++ c.answer.queued?.toList
      issues := o.issues ++ [c.answer] } := by
  unfold call Call.answer
  rw [ho]

theorem callAll_of_open {o : Outbox} (ho : o.isOpen = true) (calls : List Call) :
    o.callAll calls = { o with
      queue := o.queue ++ (calls.filter (·.answer.result.isOk)).map Call.wanted
      issues := o.issues ++ calls.map Call.answer } := by
  induction calls generalizing o with
  | nil => simp [callAll]
  | cons c calls ih =>
    have hcall := call_of_open ho c
    have hopen : (o.call c).isOpen = true := ho
    have hcons : o.callAll (c :: calls) = (o.call c).callAll calls := rfl
    rw [hcons, ih hopen, hcall, Call.queued?_answer, List.filter_cons]
    split <;> simp

/-- Whatever is called, as long as the queue is open it gets the commands of the calls that
come back well, one for each and in their order, and nothing else of the outbox changes. A code
is taken if it can be written, a bit if there is such a line, and every other call always. What
is refused is refused with that code or that bit and queues nothing. A bit is written by the
command that is built for it elsewhere, whose code moves that line and leaves the other four.
So no call by name ever queues a code that cannot be written. -/
theorem the_queue_gets_what_the_issuer_takes {o : Outbox} (ho : o.isOpen = true)
    (calls : List Call) :
    let commands := (calls.filter (·.answer.result.isOk)).map Call.wanted
    o.callAll calls = { o with
      queue := o.queue ++ commands
      issues := o.issues ++ calls.map Call.answer } ∧
    (∀ c : Call, c.answer.result = .ok () ↔ c.Allowed) ∧
    (∀ c : Call, ¬ c.Allowed → ∃ f, c.objection? = some f ∧
      c.answer.result = .error (.fault f) ∧ c.answer.queued? = none) ∧
    (∀ k bit state,
      (Call.setGpoBit k bit state).command = Command.setGpoBit? k bit state ∧
      (Call.setGpiBit k bit state).command = Command.setGpiBit? k bit state) ∧
    (∀ k bit state, bit < 5 → ∃ code : LineCode,
      Command.setGpoBit? k bit state = .ok (.setGpoState k code) ∧
      Command.setGpiBit? k bit state = .ok (.setGpiState k code) ∧
      ∀ i < 5, code.text.toList[i]? =
        some (if i = bit then (if state then 'l' else 'h') else 'x')) ∧
    ((∀ c ∈ calls, c.Named) → ∀ command ∈ commands, ∀ code,
      command.written? = some code → code.Writable) := by
  intro commands
  refine ⟨callAll_of_open ho calls, fun _ => Call.result_answer_iff, ?_, ?_, ?_, ?_⟩
  · intro c hc
    rcases Call.answer_cases c with ⟨h, -⟩ | ⟨-, f, hf, hanswer⟩
    · exact absurd h hc
    · rw [hanswer]
      exact ⟨f, hf, rfl, rfl⟩
  · intro k bit state
    exact ⟨Call.command_setGpoBit k bit state, Call.command_setGpiBit k bit state⟩
  · intro k bit state hbit
    have hmask := LineCode.bitMask?_of_lt hbit state
    refine ⟨.moving bit state, ?_, ?_, fun i hi => LineCode.getElem?_moving hi bit state⟩
    · rw [Command.setGpoBit?, hmask]
      rfl
    · rw [Command.setGpiBit?, hmask]
      rfl
  · intro hnamed command hcommand code hcode
    obtain ⟨c, hc, rfl⟩ := List.mem_map.1 hcommand
    obtain ⟨hc, hok⟩ := List.mem_filter.1 hc
    exact Call.written_of_allowed (hnamed c hc) (Call.isOk_answer.1 hok) hcode

/-- Of seven calls, a code with a capital letter in it and a bit that no slot has are refused.
The other five are in the queue. -/
theorem two_of_seven_calls_are_refused :
    let k : SlotKey := ⟨"10.0.0.1", 0⟩
    let capital : LineCode := ⟨"lhLHa", rfl, List.all_eq_true.1 rfl⟩
    let mask : LineCode := ⟨"lhxxh", rfl, List.all_eq_true.1 rfl⟩
    let up : LineCode := ⟨"xxlxx", rfl, List.all_eq_true.1 rfl⟩
    let down : LineCode := ⟨"hxxxx", rfl, List.all_eq_true.1 rfl⟩
    let calls : List Call := [.setGpoCode k capital, .setGpoCode k mask, .setGpoBit k 2 true,
      .setGpiBit k 7 true, .clearCrosspoint k, .setGpiBit k 0 false, .ping]
    new.isOpen = true ∧
    (new.callAll calls).queue = [.setGpoState k mask, .setGpoState k up, .clearCrosspoint k,
      .setGpiState k down, .ping] ∧
    (new.callAll calls).issues = [.refused (.badCode "lhLHa"), .sent (.setGpoState k mask),
      .sent (.setGpoState k up), .refused (.badBit 7), .sent (.clearCrosspoint k),
      .sent (.setGpiState k down), .sent .ping] ∧
    ∀ command ∈ (new.callAll calls).queue, ∀ code,
      command.written? = some code → code.Writable := by
  intro k capital mask up down calls
  obtain ⟨hall, -, -, -, -, hwritable⟩ := the_queue_gets_what_the_issuer_takes (o := new) rfl calls
  have hnamed : ∀ c ∈ calls, c.Named := by decide
  have hcommands : (calls.filter (·.answer.result.isOk)).map Call.wanted =
      [.setGpoState k mask, .setGpoState k up, .clearCrosspoint k, .setGpiState k down, .ping] := by
    decide
  have hanswers : calls.map Call.answer = [.refused (.badCode "lhLHa"), .sent (.setGpoState k mask),
      .sent (.setGpoState k up), .refused (.badBit 7), .sent (.clearCrosspoint k),
      .sent (.setGpiState k down), .sent .ping] := by
    decide
  rw [hall]
  exact ⟨rfl, hcommands, hanswers, hwritable hnamed⟩

end Outbox

end Patchbay
