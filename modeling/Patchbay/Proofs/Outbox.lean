-- Commands on their way to the controller. Everyone who has an issuer puts commands
-- at the end of the queue, and the writer takes them from the front and writes them
-- one after the other. However these steps are mixed, and wherever the writing breaks
-- off, the wire carries the commands in the order of the queue. A writer whose write
-- has failed writes no more, but until it has left with the queue, what is sent still
-- gets into the queue.
import Mathlib.Logic.Relation
import Patchbay.Issuer
import Patchbay.Proofs.Command
import Patchbay.Writer

namespace Patchbay

/-! ## The steps -/

/-- What the writer is at. -/
inductive Writing where
  /-- It waits for a command. -/
  | waiting
  /-- It writes a command, which the buffer holds and of which so many bytes are on the wire. -/
  | sending (c : Command) (sent : Nat)
  /-- A write has failed. -/
  | failed (why : String)
  /-- It was made to stop. -/
  | aborted
  /-- Every issuer is gone, and nothing is left to write. -/
  | finished
deriving DecidableEq

/-- The writer takes no more commands and is about to leave, or has left. -/
def Writing.Stopped : Writing → Prop
  | waiting | sending _ _ => False
  | failed _ | aborted | finished => True

/-- The queue, the writer and the wire, with a record of what came in and went on. -/
structure Outbox where
  /-- How many issuers feed the queue. -/
  issuers : Nat
  queue : List Command
  /-- The queue takes commands, until the writer leaves and the queue goes with it. -/
  isOpen : Bool
  /-- What each call of an issuer came to, in order. -/
  issues : List Issue
  /-- The commands that the writer took out of the queue, in order. -/
  taken : List Command
  /-- The bytes that the writer has made ready. -/
  buffer : ByteArray
  writing : Writing
  /-- The bytes that were written, in order. -/
  wire : List UInt8
  /-- What the writer has noted, in order. -/
  notes : List Note

/-- Why a sink takes none of `wanted` bytes when `taken` were taken before, if it takes none. -/
def Sink.refusal? (s : Sink) (taken wanted : Nat) : Option String :=
  match s.accepts taken wanted with
  | .error why => some why
  | .ok 0 => some "write zero"
  | .ok (_ + 1) => none

namespace Outbox

/-- An outbox with one issuer, before anything is sent. -/
def new : Outbox where
  issuers := 1
  queue := []
  isOpen := true
  issues := []
  taken := []
  buffer := .empty
  writing := .waiting
  wire := []
  notes := []

/-- The writing has ended before its time. -/
def Broken (o : Outbox) : Prop := o.writing = .aborted ∨ ∃ why, o.writing = .failed why

/-- The commands that reached the queue, in order. -/
def queued (o : Outbox) : List Command := o.issues.filterMap Issue.queued?

/-- Someone calls the issuer. -/
def call (o : Outbox) (c : Call) : Outbox :=
  let i := Issue.attempt o.isOpen (.ok c)
  { o with queue := o.queue ++ i.queued?.toList, issues := o.issues ++ [i] }

/-- One step of the writer at a sink. -/
inductive Work (s : Sink) (o : Outbox) : Outbox → Prop where
  /-- It takes a command and puts its bytes behind what the buffer holds. -/
  | take {c : Command} {cs : List Command} (hw : o.writing = .waiting) (hq : o.queue = c :: cs) :
      Work s o { o with
        queue := cs
        taken := o.taken ++ [c]
        buffer := c.writeInto o.buffer
        writing := .sending c 0
        notes := o.notes ++ [.sending c] }
  /-- The sink takes more bytes of the buffer. -/
  | write {c : Command} {sent n : Nat} (hw : o.writing = .sending c sent)
      (hmore : sent < o.buffer.size)
      (hok : s.accepts o.wire.length (o.buffer.size - sent) = .ok (n + 1)) :
      Work s o { o with
        wire := o.wire ++ (o.buffer.data.toList.drop sent).take (n + 1)
        writing := .sending c (sent + (n + 1)) }
  /-- All bytes of the buffer are written, and it is cleared. -/
  | written {c : Command} {sent : Nat} (hw : o.writing = .sending c sent)
      (hall : o.buffer.size ≤ sent) :
      Work s o { o with buffer := .empty, writing := .waiting }
  /-- The sink takes none of the bytes that are left. The buffer is cleared and the failure is
  noted, but the queue is still there. -/
  | fail {c : Command} {sent : Nat} {why : String} (hw : o.writing = .sending c sent)
      (hmore : sent < o.buffer.size)
      (hwhy : s.refusal? o.wire.length (o.buffer.size - sent) = some why) :
      Work s o { o with
        buffer := .empty
        writing := .failed why
        notes := o.notes ++ [.writeFailed c why] }
  /-- No command will come any more, and the sink is closed. -/
  | finish (hw : o.writing = .waiting) (hq : o.queue = []) (hi : o.issuers = 0) :
      Work s o { o with
        writing := .finished
        notes := o.notes ++ (s.stuck.map Note.shutdownFailed).toList }
  /-- It leaves, and the queue goes with it. -/
  | leave (hs : o.writing.Stopped) (ho : o.isOpen = true) :
      Work s o { o with queue := [], isOpen := false }

/-- One step of anyone. A sink may do what it likes at each step of the writer. -/
inductive Next (o : Outbox) : Outbox → Prop where
  | call (c : Call) (hi : 0 < o.issuers) : Next o (o.call c)
  | clone (hi : 0 < o.issuers) : Next o { o with issuers := o.issuers + 1 }
  | drop (hi : 0 < o.issuers) : Next o { o with issuers := o.issuers - 1 }
  | work (s : Sink) {o' : Outbox} (h : o.Work s o') : Next o o'
  /-- The writer is made to stop, wherever it is. -/
  | abort (hs : ¬ o.writing.Stopped) : Next o { o with writing := .aborted }

/-- Any number of steps. -/
def Reaches : Outbox → Outbox → Prop := Relation.ReflTransGen Next

/-- Any number of steps of the writer alone, at one sink. -/
def Works (s : Sink) : Outbox → Outbox → Prop := Relation.ReflTransGen (Work s)

/-! ## One step -/

/-- What holds between any two steps. -/
structure Orderly (o : Outbox) : Prop where
  /-- What reached the queue and was not taken is there, in order, until the queue is lost. -/
  queued_eq : o.isOpen = true ∨ ¬ o.Broken → o.queued = o.taken ++ o.queue
  taken_prefix : o.taken <+: o.queued
  wire_prefix : o.wire <+: Command.batch o.taken
  waiting : o.writing = .waiting → o.buffer = .empty ∧ o.wire = Command.batch o.taken
  /-- The buffer holds the last command that was taken, and no other. -/
  sending : ∀ c sent, o.writing = .sending c sent → ∃ before, o.taken = before ++ [c] ∧
    o.buffer.data.toList = c.bytes ∧ o.wire = Command.batch before ++ c.bytes.take sent
  finished : o.writing = .finished →
    o.wire = Command.batch o.taken ∧ o.queue = [] ∧ o.issuers = 0
  closed : o.isOpen = false → o.writing.Stopped ∧ o.queue = []

variable {o o' : Outbox} {s : Sink}

/-- A call of an issuer whose queue is gone fails: the issuer refuses it, or it is told that the
queue is gone. -/
theorem attempt_of_closed (c : Call) : (Issue.attempt false (.ok c)).queued? = none ∧
    (Issue.attempt false (.ok c)).result =
      .error (match c.command with
        | .ok _ => .disconnected
        | .error f => .fault f) := by
  cases h : c.command with
  | ok command =>
    simp only [Issue.attempt, h]
    exact ⟨rfl, rfl⟩
  | error f =>
    simp only [Issue.attempt, h]
    exact ⟨rfl, rfl⟩

/-- A call of an issuer that has a queue sends its command, if there is one. -/
theorem attempt_of_open {c : Call} {command : Command} (h : c.command = .ok command) :
    Issue.attempt true (.ok c) = .sent command := by
  simp only [Issue.attempt, h]
  rfl

theorem batch_append (cs ds : List Command) :
    Command.batch (cs ++ ds) = Command.batch cs ++ Command.batch ds :=
  List.flatMap_append

theorem batch_concat (cs : List Command) (c : Command) :
    Command.batch (cs ++ [c]) = Command.batch cs ++ c.bytes := by
  rw [batch_append]
  simp [Command.batch]

theorem batch_beginning {cs ds : List Command} (h : cs <+: ds) :
    Command.batch cs <+: Command.batch ds := by
  obtain ⟨rest, rfl⟩ := h
  rw [batch_append]
  exact List.prefix_append ..

theorem not_stopped_of_waiting (hw : o.writing = .waiting) : ¬ o.writing.Stopped := by
  rw [hw]
  exact id

theorem not_stopped_of_sending {c : Command} {sent : Nat} (hw : o.writing = .sending c sent) :
    ¬ o.writing.Stopped := by
  rw [hw]
  exact id

theorem cases_of_stopped (hs : o.writing.Stopped) :
    (∃ why, o.writing = .failed why) ∨ o.writing = .aborted ∨ o.writing = .finished := by
  cases hw : o.writing with
  | waiting => exact absurd hs (not_stopped_of_waiting hw)
  | sending c sent => exact absurd hs (not_stopped_of_sending hw)
  | failed why => exact .inl ⟨why, rfl⟩
  | aborted => exact .inr (.inl rfl)
  | finished => exact .inr (.inr rfl)

theorem finished_of_stopped (hs : o.writing.Stopped) (hb : ¬ o.Broken) :
    o.writing = .finished := by
  obtain hfailed | haborted | hfinished := cases_of_stopped hs
  · exact absurd (.inr hfailed) hb
  · exact absurd (.inl haborted) hb
  · exact hfinished

/-- All that a writer does that has stopped is to leave. -/
theorem work_of_stopped (hs : o.writing.Stopped) (hn : o.Work s o') :
    o.isOpen = true ∧ o' = { o with queue := [], isOpen := false } := by
  cases hn with
  | take hw => exact absurd hs (not_stopped_of_waiting hw)
  | write hw => exact absurd hs (not_stopped_of_sending hw)
  | written hw => exact absurd hs (not_stopped_of_sending hw)
  | fail hw => exact absurd hs (not_stopped_of_sending hw)
  | finish hw => exact absurd hs (not_stopped_of_waiting hw)
  | leave _ ho => exact ⟨ho, rfl⟩

theorem Orderly.isOpen_of_not_stopped (h : o.Orderly) (hs : ¬ o.writing.Stopped) :
    o.isOpen = true := by
  cases ho : o.isOpen with
  | true => rfl
  | false => exact absurd (h.closed ho).1 hs

theorem Orderly.isOpen_of_work (h : o.Orderly) (hn : o.Work s o') : o.isOpen = true := by
  by_cases hs : o.writing.Stopped
  · exact (work_of_stopped hs hn).1
  · exact h.isOpen_of_not_stopped hs

theorem queued_call (o : Outbox) (c : Call) :
    (o.call c).queued = o.queued ++ (Issue.attempt o.isOpen (.ok c)).queued?.toList := by
  unfold queued call
  simp only [List.filterMap_append]
  cases h : (Issue.attempt o.isOpen (.ok c)).queued? <;> simp [h]

/-- What the writer makes ready is the command and nothing besides, since it has cleared the
buffer. -/
theorem Orderly.ready (h : o.Orderly) (hw : o.writing = .waiting) (c : Command) :
    (c.writeInto o.buffer).data.toList = c.bytes := by
  rw [(h.waiting hw).1, Command.data_writeInto]
  rfl

theorem Orderly.work (h : o.Orderly) (hn : o.Work s o') : o'.Orderly := by
  have hopen := h.isOpen_of_work hn
  cases hn with
  | @take c cs hw hq =>
    have hwire := (h.waiting hw).2
    have hall : o.queued = (o.taken ++ [c]) ++ cs := by
      rw [h.queued_eq (.inl hopen), hq, List.append_assoc, List.singleton_append]
    refine ⟨fun _ => hall, ⟨cs, hall.symm⟩, ?_, nofun, ?_, nofun,
      fun ho => nomatch hopen.symm.trans ho⟩
    · rw [hwire]
      exact batch_beginning (List.prefix_append ..)
    · rintro _ _ ⟨⟩
      exact ⟨o.taken, rfl, h.ready hw c, hwire.trans (List.append_nil _).symm⟩
  | @write c sent n hw hmore hok =>
    obtain ⟨before, htaken, hready, hwire⟩ := h.sending c sent hw
    have hpart : o.wire ++ (o.buffer.data.toList.drop sent).take (n + 1) =
        Command.batch before ++ c.bytes.take (sent + (n + 1)) := by
      rw [hwire, hready, List.append_assoc, ← List.take_add]
    refine ⟨fun _ => h.queued_eq (.inl hopen), h.taken_prefix, ?_, nofun, ?_, nofun,
      fun ho => nomatch hopen.symm.trans ho⟩
    · rw [hpart, htaken, batch_concat]
      exact (List.prefix_append_right_inj _).2 (List.take_prefix ..)
    · rintro _ _ ⟨⟩
      exact ⟨before, htaken, hready, hpart⟩
  | @written c sent hw hall =>
    obtain ⟨before, htaken, hready, hwire⟩ := h.sending c sent hw
    have hlength : c.bytes.length ≤ sent := by
      rw [← hready]
      simpa using hall
    have hwhole : o.wire = Command.batch o.taken := by
      rw [hwire, List.take_of_length_le hlength, htaken, batch_concat]
    exact ⟨fun _ => h.queued_eq (.inl hopen), h.taken_prefix, h.wire_prefix,
      fun _ => ⟨rfl, hwhole⟩, nofun, nofun, fun ho => nomatch hopen.symm.trans ho⟩
  | @fail c sent why hw =>
    exact ⟨fun _ => h.queued_eq (.inl hopen), h.taken_prefix, h.wire_prefix, nofun, nofun, nofun,
      fun ho => nomatch hopen.symm.trans ho⟩
  | finish hw hq hi =>
    exact ⟨fun _ => h.queued_eq (.inl hopen), h.taken_prefix, h.wire_prefix, nofun, nofun,
      fun _ => ⟨(h.waiting hw).2, hq, hi⟩, fun _ => ⟨trivial, hq⟩⟩
  | leave hs ho =>
    refine ⟨?_, h.taken_prefix, h.wire_prefix, ?_, ?_, ?_, fun _ => ⟨hs, rfl⟩⟩
    · rintro (hclosed | hb)
      · cases hclosed
      · have hqueue := (h.finished (finished_of_stopped hs hb)).2.1
        rw [← hqueue]
        exact h.queued_eq (.inl hopen)
    · intro hw
      exact absurd hs (not_stopped_of_waiting hw)
    · intro c sent hw
      exact absurd hs (not_stopped_of_sending hw)
    · intro hw
      obtain ⟨hwire, -, hi⟩ := h.finished hw
      exact ⟨hwire, rfl, hi⟩

theorem Orderly.next (h : o.Orderly) (hn : o.Next o') : o'.Orderly := by
  have hissuers : 0 < o.issuers → o.writing ≠ .finished := by
    intro hi hw
    have := (h.finished hw).2.2
    omega
  cases hn with
  | call c hi =>
    refine ⟨?_, ?_, h.wire_prefix, h.waiting, h.sending, fun hw => absurd hw (hissuers hi), ?_⟩
    · intro hb
      rw [queued_call, h.queued_eq hb, List.append_assoc]
      rfl
    · rw [queued_call]
      exact h.taken_prefix.trans (List.prefix_append ..)
    · intro ho
      obtain ⟨hs, hqueue⟩ := h.closed ho
      have ho' : o.isOpen = false := ho
      refine ⟨hs, ?_⟩
      simp only [call, ho', hqueue, (attempt_of_closed c).1]
      rfl
  | clone hi | drop hi =>
    exact ⟨h.queued_eq, h.taken_prefix, h.wire_prefix, h.waiting, h.sending,
      fun hw => absurd hw (hissuers hi), h.closed⟩
  | work s hwork => exact h.work hwork
  | abort hs =>
    have hopen := h.isOpen_of_not_stopped hs
    exact ⟨fun _ => h.queued_eq (.inl hopen), h.taken_prefix, h.wire_prefix, nofun, nofun, nofun,
      fun ho => nomatch hopen.symm.trans ho⟩

/-- A sink can take any number of the bytes that are left. -/
theorem next_write {c : Command} {sent : Nat} (n : Nat) (hw : o.writing = .sending c sent)
    (hn : sent + (n + 1) ≤ o.buffer.size) :
    o.Next { o with
      wire := o.wire ++ (o.buffer.data.toList.drop sent).take (n + 1)
      writing := .sending c (sent + (n + 1)) } := by
  apply Next.work ⟨some (n + 1), none, none⟩
  apply Work.write hw (by omega)
  simp only [Sink.accepts, Option.getD_some, Except.ok.injEq]
  omega

/-- A write can fail after any number of bytes and for any reason. -/
theorem next_fail {c : Command} {sent : Nat} (why : String) (hw : o.writing = .sending c sent)
    (hmore : sent < o.buffer.size) :
    o.Next { o with
      buffer := .empty
      writing := .failed why
      notes := o.notes ++ [.writeFailed c why] } := by
  apply Next.work ⟨none, some (0, why), none⟩
  apply Work.fail hw hmore
  simp [Sink.refusal?, Sink.accepts]

/-- The writer neither sends nor makes issuers. -/
theorem frame_of_work (hn : o.Work s o') : o'.issuers = o.issuers ∧ o'.issues = o.issues := by
  cases hn <;> exact ⟨rfl, rfl⟩

/-- Once the writer has stopped, it takes no command and writes no byte, whatever is sent. -/
theorem next_of_stopped (hs : o.writing.Stopped) (hn : o.Next o') :
    o'.writing = o.writing ∧ o'.wire = o.wire ∧ o'.taken = o.taken := by
  cases hn with
  | call | clone | drop => exact ⟨rfl, rfl, rfl⟩
  | work s hwork =>
    obtain ⟨-, rfl⟩ := work_of_stopped hs hwork
    exact ⟨rfl, rfl, rfl⟩
  | abort hactive => exact absurd hs hactive

/-- Once the writer has left, nothing is queued any more. -/
theorem next_of_closed (hs : o.writing.Stopped) (ho : o.isOpen = false) (hn : o.Next o') :
    o'.isOpen = false ∧ o'.queued = o.queued := by
  cases hn with
  | call c =>
    refine ⟨ho, ?_⟩
    rw [queued_call, ho, (attempt_of_closed c).1]
    exact List.append_nil _
  | clone | drop => exact ⟨ho, rfl⟩
  | work s hwork =>
    obtain ⟨-, rfl⟩ := work_of_stopped hs hwork
    exact ⟨rfl, rfl⟩
  | abort hactive => exact absurd hs hactive

/-! ## Many steps -/

theorem orderly_new : new.Orderly :=
  ⟨fun _ => rfl, List.prefix_refl _, List.prefix_refl _, fun _ => ⟨rfl, rfl⟩, nofun, nofun, nofun⟩

theorem Orderly.reaches (h : o.Orderly) (hr : o.Reaches o') : o'.Orderly := by
  induction hr with
  | refl => exact h
  | tail _ hn ih => exact ih.next hn

theorem Works.reaches (hr : o.Works s o') : o.Reaches o' :=
  Relation.ReflTransGen.mono (fun _ _ => Next.work s) _ _ hr

theorem frame_of_works (hr : o.Works s o') : o'.issuers = o.issuers ∧ o'.issues = o.issues := by
  induction hr with
  | refl => exact ⟨rfl, rfl⟩
  | tail _ hn ih =>
    obtain ⟨hissuers, hissues⟩ := frame_of_work hn
    exact ⟨hissuers.trans ih.1, hissues.trans ih.2⟩

theorem reaches_of_stopped (hs : o.writing.Stopped) (hr : o.Reaches o') :
    o'.writing = o.writing ∧ o'.wire = o.wire ∧ o'.taken = o.taken := by
  induction hr with
  | refl => exact ⟨rfl, rfl, rfl⟩
  | tail _ hn ih =>
    obtain ⟨hwriting, hwire, htaken⟩ := ih
    rw [← hwriting] at hs
    obtain ⟨hwriting', hwire', htaken'⟩ := next_of_stopped hs hn
    exact ⟨hwriting'.trans hwriting, hwire'.trans hwire, htaken'.trans htaken⟩

theorem reaches_of_closed (h : o.Orderly) (ho : o.isOpen = false) (hr : o.Reaches o') :
    o'.isOpen = false ∧ o'.queued = o.queued := by
  induction hr with
  | refl => exact ⟨ho, rfl⟩
  | tail hr hn ih =>
    obtain ⟨hclosed, hqueued⟩ := ih
    have hs := ((h.reaches hr).closed hclosed).1
    obtain ⟨hclosed', hqueued'⟩ := next_of_closed hs hclosed hn
    exact ⟨hclosed', hqueued'.trans hqueued⟩

end Outbox

end Patchbay
