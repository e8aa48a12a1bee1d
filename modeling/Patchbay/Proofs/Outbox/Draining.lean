-- A writer that nobody sends to any more. Whatever steps it takes at a sink, there are only
-- so many of them, and they come to what draining the queue comes to: the queue is on the
-- wire and the writer has finished, or the sink has refused and the writer has failed with
-- its reason. With that, the law of the wire is put together.
import Patchbay.Proofs.Outbox

namespace Patchbay

/-! ## Some bytes of a command -/

namespace Sink

variable {s : Sink} {taken : Nat} {bytes : List UInt8} {c : Command} {cs : List Command}

theorem accepts_le {wanted n : Nat} (h : s.accepts taken wanted = .ok n) : n ≤ wanted := by
  unfold accepts at h
  cases hcapacity : s.capacity with
  | none =>
    simp only [hcapacity, Except.ok.injEq] at h
    omega
  | some limit =>
    simp only [hcapacity] at h
    split at h
    · cases h
    · simp only [Except.ok.injEq] at h
      omega

/-- What comes on the wire and is noted when these bytes of a command are left, and these
commands behind it. -/
def goOn (s : Sink) (taken : Nat) (c : Command) (bytes : List UInt8) (cs : List Command) :
    List UInt8 × List Note :=
  let w := s.writeAll taken bytes
  match w.failure with
  | some why => (w.bytes, [.writeFailed c why])
  | none =>
    let rest := s.drain (taken + w.bytes.length) cs
    (w.bytes ++ rest.1, rest.2)

theorem drain_cons : s.drain taken (c :: cs) =
    ((s.goOn taken c c.bytes cs).1, .sending c :: (s.goOn taken c c.bytes cs).2) := by
  unfold drain goOn
  rcases s.writeAll taken c.bytes with ⟨bytes, _ | why⟩ <;> rfl

theorem goOn_nil : s.goOn taken c [] cs = s.drain taken cs := by
  simp [goOn, writeAll]

theorem goOn_of_refusal {why : String} (hne : bytes ≠ [])
    (hwhy : s.refusal? taken bytes.length = some why) :
    s.goOn taken c bytes cs = ([], [.writeFailed c why]) := by
  have hwritten : s.writeAll taken bytes = ⟨[], some why⟩ := by
    unfold refusal? at hwhy
    unfold writeAll
    rw [dif_neg hne]
    split at hwhy <;> simp_all
  unfold goOn
  rw [hwritten]

theorem goOn_of_accepts {n : Nat} (hok : s.accepts taken bytes.length = .ok (n + 1)) :
    let rest := s.goOn (taken + (n + 1)) c (bytes.drop (n + 1)) cs
    s.goOn taken c bytes cs = (bytes.take (n + 1) ++ rest.1, rest.2) := by
  have hle := accepts_le hok
  have hne : bytes ≠ [] := by
    rintro rfl
    simp at hle
  rcases hrest : s.writeAll (taken + (n + 1)) (bytes.drop (n + 1)) with ⟨written, failure⟩
  have hwritten : s.writeAll taken bytes = ⟨bytes.take (n + 1) ++ written, failure⟩ := by
    rw [writeAll, dif_neg hne, hok]
    simp only [hrest]
  have hlength : (bytes.take (n + 1)).length = n + 1 := List.length_take_of_le hle
  unfold goOn
  rw [hwritten, hrest]
  cases failure with
  | some why => rfl
  | none => simp only [List.length_append, hlength, List.append_assoc, Nat.add_assoc]

end Sink

namespace Outbox

variable {o o' : Outbox} {s : Sink}

theorem length_drop_buffer (o : Outbox) (sent : Nat) :
    (o.buffer.data.toList.drop sent).length = o.buffer.size - sent := by
  simp

/-! ## What the steps come to -/

/-- What the writer will still write and note at a sink when nobody sends any more. -/
def coming (s : Sink) (o : Outbox) : List UInt8 × List Note :=
  match o.writing with
  | .waiting => s.drain o.wire.length o.queue
  | .sending c sent => s.goOn o.wire.length c (o.buffer.data.toList.drop sent) o.queue
  | .failed _ | .aborted | .finished => ([], [])

/-- All that will be on the wire and will have been noted then. -/
def outcome (s : Sink) (o : Outbox) : List UInt8 × List Note :=
  (o.wire ++ (o.coming s).1, o.notes ++ (o.coming s).2)

theorem outcome_of_waiting (hw : o.writing = .waiting) : o.outcome s =
    (o.wire ++ (s.drain o.wire.length o.queue).1,
      o.notes ++ (s.drain o.wire.length o.queue).2) := by
  unfold outcome coming
  rw [hw]

theorem outcome_of_sending {c : Command} {sent : Nat} (hw : o.writing = .sending c sent) :
    let rest := s.goOn o.wire.length c (o.buffer.data.toList.drop sent) o.queue
    o.outcome s = (o.wire ++ rest.1, o.notes ++ rest.2) := by
  unfold outcome coming
  rw [hw]

theorem outcome_of_stopped (hs : o.writing.Stopped) : o.outcome s = (o.wire, o.notes) := by
  unfold outcome coming
  obtain ⟨why, hw⟩ | hw | hw := cases_of_stopped hs <;> simp only [hw, List.append_nil]

/-- No step of the writer changes what all of them come to. -/
theorem outcome_of_work (h : o.Orderly) (hn : o.Work s o') : o'.outcome s = o.outcome s := by
  cases hn with
  | @take c cs hw hq =>
    rw [outcome_of_waiting hw, outcome_of_sending rfl, hq, Sink.drain_cons, h.ready hw c]
    simp
  | @write c sent n hw hmore hok =>
    rw [← o.length_drop_buffer] at hok
    have hlength : ((o.buffer.data.toList.drop sent).take (n + 1)).length = n + 1 :=
      List.length_take_of_le (Sink.accepts_le hok)
    rw [outcome_of_sending hw, outcome_of_sending rfl, Sink.goOn_of_accepts hok]
    simp only [List.length_append, hlength, List.drop_drop, List.append_assoc]
  | @written c sent hw hall =>
    have hnone : o.buffer.data.toList.drop sent = [] := by
      rw [← List.length_eq_zero_iff, o.length_drop_buffer]
      omega
    rw [outcome_of_sending hw, outcome_of_waiting rfl, hnone, Sink.goOn_nil]
  | @fail c sent why hw hmore hwhy =>
    rw [← o.length_drop_buffer] at hwhy
    have hne : o.buffer.data.toList.drop sent ≠ [] := by
      rw [← List.length_pos_iff, o.length_drop_buffer]
      omega
    rw [outcome_of_sending hw, Sink.goOn_of_refusal hne hwhy]
    simp [outcome, coming]
  | finish hw hq hi =>
    rw [outcome_of_waiting hw, hq]
    simp [outcome, coming, Sink.drain]
  | leave hs ho =>
    rw [outcome_of_stopped hs]
    exact outcome_of_stopped hs

theorem outcome_of_works (h : o.Orderly) (hr : o.Works s o') : o'.outcome s = o.outcome s := by
  induction hr with
  | refl => rfl
  | tail hr hn ih => rw [outcome_of_work (h.reaches (Works.reaches hr)) hn, ih]

/-! ## Why the writer stops -/

/-- The writer stops for no other reason than that the sink refuses or that it has finished. -/
structure Heeds (s : Sink) (o : Outbox) : Prop where
  unaborted : o.writing ≠ .aborted
  refused : ∀ why, o.writing = .failed why →
    ∃ wanted, 0 < wanted ∧ s.refusal? o.wire.length wanted = some why

theorem Heeds.work (h : o.Heeds s) (hn : o.Work s o') : o'.Heeds s := by
  cases hn with
  | take | write | written | finish => exact ⟨nofun, nofun⟩
  | fail hw hmore hwhy =>
    refine ⟨nofun, ?_⟩
    rintro _ ⟨⟩
    exact ⟨_, Nat.sub_pos_of_lt hmore, hwhy⟩
  | leave => exact ⟨h.unaborted, h.refused⟩

theorem Heeds.works (h : o.Heeds s) (hr : o.Works s o') : o'.Heeds s := by
  induction hr with
  | refl => exact h
  | tail _ hn ih => exact ih.work hn

/-! ## There are only so many steps -/

/-- How many steps commands in the queue can still cost. -/
def ahead : List Command → Nat
  | [] => 0
  | c :: cs => c.bytes.length + 2 + ahead cs

/-- How many steps the writer can still take when nobody sends any more, at most. -/
def bound (o : Outbox) : Nat :=
  match o.writing with
  | .waiting => ahead o.queue + 2
  | .sending _ sent => ahead o.queue + (o.buffer.size - sent) + 3
  | .failed _ | .aborted | .finished => if o.isOpen then 1 else 0

theorem bound_of_stopped (hs : o.writing.Stopped) :
    o.bound = if o.isOpen then 1 else 0 := by
  unfold bound
  obtain ⟨why, hw⟩ | hw | hw := cases_of_stopped hs <;> rw [hw]

theorem bound_of_work (h : o.Orderly) (hn : o.Work s o') : o'.bound < o.bound := by
  cases hn with
  | @take c cs hw hq =>
    have hsize : (c.writeInto o.buffer).size = c.bytes.length := by
      rw [← h.ready hw c]
      simp
    simp only [bound, hw, hq, ahead, hsize]
    omega
  | write hw hmore =>
    simp only [bound, hw]
    omega
  | written hw hall =>
    simp only [bound, hw]
    omega
  | fail hw =>
    simp only [bound, hw]
    split <;> omega
  | finish hw =>
    simp only [bound, hw]
    split <;> omega
  | leave hs ho =>
    have hlast : bound { o with queue := [], isOpen := false } = 0 := bound_of_stopped hs
    rw [hlast, bound_of_stopped hs, if_pos ho]
    exact Nat.one_pos

/-- When all issuers are gone, the writer can take a step until it has left. -/
theorem exists_work (s : Sink) (hi : o.issuers = 0) (ho : o.isOpen = true) :
    ∃ o', o.Work s o' := by
  cases hw : o.writing with
  | waiting =>
    cases hq : o.queue with
    | nil => exact ⟨_, .finish hw hq hi⟩
    | cons c cs => exact ⟨_, .take hw hq⟩
  | sending c sent =>
    by_cases hall : o.buffer.size ≤ sent
    · exact ⟨_, .written hw hall⟩
    have hmore : sent < o.buffer.size := Nat.not_le.1 hall
    cases haccepts : s.accepts o.wire.length (o.buffer.size - sent) with
    | error why => exact ⟨_, .fail hw hmore (by rw [Sink.refusal?, haccepts])⟩
    | ok k =>
      cases k with
      | zero => exact ⟨_, .fail hw hmore (by rw [Sink.refusal?, haccepts])⟩
      | succ n => exact ⟨_, .write hw hmore haccepts⟩
  | failed | aborted | finished =>
    refine ⟨_, .leave ?_ ho⟩
    rw [hw]
    trivial

theorem exists_end (s : Sink) (h : o.Orderly) (hi : o.issuers = 0) :
    ∃ o', o.Works s o' ∧ o'.isOpen = false := by
  generalize hb : o.bound = n
  induction n using Nat.strongRecOn generalizing o with
  | ind n ih =>
    cases ho : o.isOpen with
    | false => exact ⟨o, .refl, ho⟩
    | true =>
      obtain ⟨o₁, hwork⟩ := exists_work s hi ho
      have hless : o₁.bound < n := hb ▸ bound_of_work h hwork
      have hi₁ : o₁.issuers = 0 := (frame_of_work hwork).1.trans hi
      obtain ⟨o₂, hrest, hclosed⟩ := ih o₁.bound hless (h.work hwork) hi₁ rfl
      exact ⟨o₂, hrest.head hwork, hclosed⟩

/-! ## The law of the wire -/

/-- What a writer leaves that waited at a sink and then was left alone with its queue. -/
structure Drained (s : Sink) (o o' : Outbox) : Prop where
  wire : o'.wire = o.wire ++ (s.drain o.wire.length o.queue).1
  notes : o'.notes = o.notes ++ (s.drain o.wire.length o.queue).2
  /-- It has finished with all of the queue on the wire, or it has failed since the sink would
  not take more. -/
  cause : (o'.writing = .finished ∧ o'.taken = o.taken ++ o.queue ∧
      o'.wire = Command.batch o.queued) ∨
    ∃ why wanted, o'.writing = .failed why ∧ 0 < wanted ∧
      s.refusal? o'.wire.length wanted = some why

theorem drained_of_works (h : o.Orderly) (hw : o.writing = .waiting) (hr : o.Works s o')
    (ho : o'.isOpen = false) : o.Drained s o' := by
  have h' : o'.Orderly := h.reaches (Works.reaches hr)
  have hs := (h'.closed ho).1
  have houtcome := outcome_of_works h hr
  rw [outcome_of_stopped hs, outcome_of_waiting hw, Prod.mk.injEq] at houtcome
  refine ⟨houtcome.1, houtcome.2, ?_⟩
  have hwaits : o.Heeds s := ⟨by simp [hw], by simp [hw]⟩
  have hheeds := hwaits.works hr
  obtain ⟨why, hw'⟩ | hw' | hw' := cases_of_stopped hs
  · obtain ⟨wanted, hpos, hwhy⟩ := hheeds.refused why hw'
    exact .inr ⟨why, wanted, hw', hpos, hwhy⟩
  · exact absurd hw' hheeds.unaborted
  · obtain ⟨hwire, hqueue, -⟩ := h'.finished hw'
    have hunbroken : ¬ o'.Broken := by simp [Broken, hw']
    have hopen := h.isOpen_of_not_stopped (not_stopped_of_waiting hw)
    have hsame : o'.queued = o.queued := congrArg (List.filterMap _) (frame_of_works hr).2
    have htaken : o.queued = o'.taken := by
      rw [← hsame, h'.queued_eq (.inr hunbroken), hqueue, List.append_nil]
    refine .inl ⟨hw', ?_, ?_⟩
    · rw [← htaken, h.queued_eq (.inl hopen)]
    · rw [hwire, htaken]

/-- However those who call, the writer and its failures are mixed, the wire carries a beginning of
the commands that were queued, in their order. Until the writer fails or is made to stop, no
command is lost, and the wire carries just those that were taken, the last of them as far as it is
written. Once the writer has stopped, nothing more is taken or written. Until it has left, each
call that has a command goes well, and the command is in the queue. Once it has left, every call
fails and queues nothing. A writer that is left alone with its queue leaves in the end, and has
then done what draining the queue comes to. -/
theorem the_wire_carries_the_queue_in_order (hr : new.Reaches o) :
    o.wire <+: Command.batch o.queued ∧
    (¬ o.Broken → o.queued = o.taken ++ o.queue) ∧
    (o.writing = .waiting ∨ o.writing = .finished → o.wire = Command.batch o.taken) ∧
    (∀ c sent, o.writing = .sending c sent → ∃ before, o.taken = before ++ [c] ∧
      o.wire = Command.batch before ++ c.bytes.take sent) ∧
    (o.writing.Stopped → ∀ o', o.Reaches o' → o'.wire = o.wire ∧ o'.taken = o.taken) ∧
    (o.isOpen = true → ∀ (c : Call) command, c.command = .ok command →
      (o.call c).queue = o.queue ++ [command] ∧ ∃ i, (o.call c).issues = o.issues ++ [i] ∧
        i.result = .ok () ∧ i.queued? = some command) ∧
    (o.isOpen = false → o.writing.Stopped ∧
      (∀ c : Call, (o.call c).queue = o.queue ∧ ∃ i, (o.call c).issues = o.issues ++ [i] ∧
        i.queued? = none ∧ i.result = .error (match c.command with
          | .ok _ => .disconnected
          | .error f => .fault f)) ∧
      ∀ o', o.Reaches o' → o'.isOpen = false ∧ o'.queued = o.queued) ∧
    ∀ s : Sink, o.writing = .waiting → o.issuers = 0 →
      (∃ o', o.Works s o' ∧ o'.isOpen = false) ∧
      ∀ o', o.Works s o' → o'.isOpen = false → o.Drained s o' := by
  have h : o.Orderly := orderly_new.reaches hr
  refine ⟨h.wire_prefix.trans (batch_beginning h.taken_prefix), fun hb => h.queued_eq (.inr hb),
    ?_, ?_, ?_, ?_, ?_, ?_⟩
  · rintro (hw | hw)
    · exact (h.waiting hw).2
    · exact (h.finished hw).1
  · intro c sent hw
    obtain ⟨before, htaken, -, hwire⟩ := h.sending c sent hw
    exact ⟨before, htaken, hwire⟩
  · intro hs o' hr'
    exact (reaches_of_stopped hs hr').2
  · intro ho c command hc
    unfold call
    rw [ho, attempt_of_open hc]
    exact ⟨rfl, _, rfl, rfl, rfl⟩
  · intro ho
    refine ⟨(h.closed ho).1, ?_, fun o' => reaches_of_closed h ho⟩
    intro c
    obtain ⟨hnone, hresult⟩ := attempt_of_closed c
    unfold call
    rw [ho]
    refine ⟨?_, _, rfl, hnone, hresult⟩
    simp only [hnone]
    exact List.append_nil _
  · intro s hw hi
    exact ⟨exists_end s h hi, fun o' => drained_of_works h hw⟩

/-- A second issuer sends while a command is being written, the write fails after three bytes,
the first sends before the writer leaves, and after that nothing comes any more. At a sink that
takes two bytes at a time and three in all, a writer that is left alone comes as far. -/
theorem a_write_fails_between_two_sends :
    let c : Command := .clearCrosspoint ⟨"a", 1⟩
    let o : Outbox := {
      issuers := 2
      queue := []
      isOpen := false
      issues := [.sent .ping, .sent c, .sent .ping]
      taken := [.ping]
      buffer := .empty
      writing := .failed "reset"
      wire := [0x50, 0x69, 0x6e]
      notes := [.sending .ping, .writeFailed .ping "reset"] }
    let p : Outbox := { new with issuers := 0, queue := [.ping], issues := [.sent .ping] }
    let s : Sink := ⟨some 2, some (3, "full"), none⟩
    new.Reaches o ∧ o.wire <+: Command.batch [.ping, c, .ping] ∧ o.isOpen = false ∧
    (∀ o', o.Reaches o' → o'.wire = [0x50, 0x69, 0x6e] ∧ o'.queued = [.ping, c, .ping]) ∧
    new.Reaches p ∧ ∃ p', p.Works s p' ∧ p'.isOpen = false ∧ p'.wire = [0x50, 0x69, 0x6e] ∧
      p'.notes = [.sending .ping, .writeFailed .ping "full"] := by
  intro c o p s
  have ho : new.Reaches o := by
    have h := Relation.ReflTransGen.single (Next.clone (o := new) (by decide))
    have h := h.tail (.call .ping (by decide))
    have h := h.tail (.work s (@Work.take _ _ .ping [] rfl rfl))
    have h := h.tail (next_write 2 rfl (by decide))
    have h := h.tail (.call (.clearCrosspoint ⟨"a", 1⟩) (by decide))
    have h := h.tail (next_fail "reset" rfl (by decide))
    have h := h.tail (.call .ping (by decide))
    exact h.tail (.work s (.leave trivial rfl))
  have hp : new.Reaches p :=
    (Relation.ReflTransGen.single (Next.call (o := new) .ping (by decide))).tail
      (.drop (by decide))
  have hdrain : s.drain 0 [.ping] =
      ([0x50, 0x69, 0x6e], [.sending .ping, .writeFailed .ping "full"]) := by
    have hbytes : Command.ping.bytes = [0x50, 0x69, 0x6e, 0x67, 0x0d, 0x0a] := by decide
    simp [s, Sink.drain, Sink.writeAll, Sink.accepts, hbytes]
  obtain ⟨hwire, -, -, -, hstopped, -, hclosed, -⟩ := the_wire_carries_the_queue_in_order ho
  obtain ⟨-, -, hqueued⟩ := hclosed rfl
  obtain ⟨-, -, -, -, -, -, -, hleft⟩ := the_wire_carries_the_queue_in_order hp
  obtain ⟨⟨p', hworks, hend⟩, hall⟩ := hleft s rfl rfl
  have hdrained := hall p' hworks hend
  refine ⟨ho, hwire, rfl, ?_, hp, p', hworks, hend, ?_, ?_⟩
  · intro o' hr'
    exact ⟨(hstopped trivial o' hr').1, (hqueued o' hr').2⟩
  · exact hdrained.wire.trans (congrArg Prod.fst hdrain)
  · exact hdrained.notes.trans (congrArg Prod.snd hdrain)

/-- After three bytes of a command the wire does not carry the commands that were taken. Then the
write fails, and before the writer leaves, a command is sent, which goes well and gets into the
queue. After it has left, a bit that no slot has is not told that the queue is gone. -/
theorem a_failed_writer_still_gets_commands :
    let c : Command := .clearCrosspoint ⟨"a", 1⟩
    let writing : Outbox := { new with
      issues := [.sent .ping]
      taken := [.ping]
      buffer := Command.ping.writeInto .empty
      writing := .sending .ping 3
      wire := [0x50, 0x69, 0x6e]
      notes := [.sending .ping] }
    let failed : Outbox := { writing with
      buffer := .empty
      writing := .failed "reset"
      notes := [.sending .ping, .writeFailed .ping "reset"] }
    let left : Outbox := { failed with isOpen := false }
    new.Reaches writing ∧ ¬ writing.Broken ∧ writing.wire ≠ Command.batch writing.taken ∧
    new.Reaches failed ∧ failed.writing = .failed "reset" ∧
    failed.Next (failed.call (.send c)) ∧
    (failed.call (.send c)).issues = failed.issues ++ [.sent c] ∧
    (Issue.sent c).result = .ok () ∧ (failed.call (.send c)).queued = failed.queued ++ [c] ∧
    new.Reaches left ∧ left.Next (left.call (.setGpoBit ⟨"a", 1⟩ 7 true)) ∧
    (left.call (.setGpoBit ⟨"a", 1⟩ 7 true)).issues = left.issues ++ [.refused (.badBit 7)] ∧
    (Issue.refused (.badBit 7)).result ≠ .error .disconnected := by
  intro c writing failed left
  have hwriting : new.Reaches writing := by
    have h := Relation.ReflTransGen.single (Next.call (o := new) .ping (by decide))
    have h := h.tail (.work ⟨none, none, none⟩ (@Work.take _ _ .ping [] rfl rfl))
    exact h.tail (next_write 2 rfl (by decide))
  have hunbroken : ¬ writing.Broken := by simp [Broken, writing]
  have hfailed : new.Reaches failed := hwriting.tail (next_fail "reset" rfl (by decide))
  have hleft : new.Reaches left :=
    hfailed.tail (.work ⟨none, none, none⟩ (.leave trivial rfl))
  have hother : (Issue.refused (.badBit 7)).result ≠ .error .disconnected := by
    simp [Issue.result]
  exact ⟨hwriting, hunbroken, by decide, hfailed, rfl, .call _ (by decide), rfl, rfl, rfl, hleft,
    .call _ (by decide), rfl, hother⟩

end Outbox

end Patchbay
