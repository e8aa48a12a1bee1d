-- No tab and no line end gets into the records and the events, whatever bytes a
-- controller sends: they are cut away before a frame is read. So a command to a slot
-- that was read from the records is one line, and its first word is its name.
import Patchbay.Proofs.Command
import Patchbay.Proofs.Engine.Connection
import Patchbay.Proofs.Frame.RoundTrip

namespace Patchbay

/-! ## Frames -/

/-- No field of the frame has a tab or a line end in it. -/
def Frame.Plain (f : Frame) : Prop := ∀ s ∈ f.fields, Text.Plain s

theorem Frame.plain_ofLine {line : String} (hcr : '\r' ∉ line.toList) (hlf : '\n' ∉ line.toList) :
    (ofLine line).Plain := by
  intro s hs c hc
  obtain ⟨htab, hsub⟩ := Text.of_mem_fields hs
  refine ⟨?_, ?_, ?_⟩
  · rintro rfl
    exact htab hc
  · rintro rfl
    exact hcr (hsub hc)
  · rintro rfl
    exact hlf (hsub hc)

/-- A line that is read from bytes has a character of one byte only where they have it. -/
theorem Utf8.not_mem_of_read {bytes : List UInt8} {line : String} {c : Char} {b : UInt8}
    (h : read bytes.toByteArray = .ok line) (hc : String.utf8EncodeChar c = [b]) (hb : b ∉ bytes) :
    c ∉ line.toList := by
  intro hmem
  have hwrite : write line = bytes := (write_of_read h).trans (by simp)
  rw [← hwrite] at hb
  exact hb (mem_write.2 ⟨c, hmem, by simp [hc]⟩)

theorem Heard.plain {limit : Nat} {ending : Ending} {segs : List (List UInt8)}
    (hsegs : ∀ s ∈ segs, Reader.cr ∉ s) : ∀ f ∈ (ofSegments limit ending segs).frames, f.Plain := by
  induction segs with
  | nil => exact List.forall_mem_nil _
  | cons seg segs ih =>
    obtain ⟨hseg, hsegs⟩ := List.forall_mem_cons.1 hsegs
    unfold ofSegments
    split
    · exact List.forall_mem_nil _
    split
    · exact List.forall_mem_nil _
    split
    · exact List.forall_mem_nil _
    · next line hline =>
      have hcr : Reader.cr ∉ Reader.kept seg := fun h => hseg (List.mem_filter.1 h).1
      have hlf : Reader.lf ∉ Reader.kept seg := fun h => by simp [Reader.kept] at h
      refine List.forall_mem_cons.2 ⟨?_, ih hsegs⟩
      apply Frame.plain_ofLine
      · exact Utf8.not_mem_of_read hline rfl hcr
      · exact Utf8.not_mem_of_read hline rfl hlf

/-- No frame that is heard of any source has a tab or a line end in it. -/
theorem ByteSource.plain_heard (source : ByteSource) (limit : Nat) :
    ∀ f ∈ (source.heard limit).frames, f.Plain :=
  Heard.plain fun _ hs => (Text.of_mem_splitOn hs).1

/-! ## Records -/

/-- The code in a record, where there is one. -/
def Resource.code? : Resource → Option LineCode
  | gpioInput r => some r.code
  | gpioOutput r => some r.code
  | _ => none

/-- All the texts in a record. -/
def Resource.strings (r : Resource) : List String := r.texts ++ (r.code?.map LineCode.text).toList

/-- No text of the record has a tab or a line end in it. -/
def Resource.Plain (r : Resource) : Prop := ∀ s ∈ r.strings, Text.Plain s

theorem Resource.plain_of_texts {r : Resource} (h : ∀ s ∈ r.texts, Text.Plain s) : r.Plain := by
  intro s hs
  rcases List.mem_append.1 hs with hs | hs
  · exact h s hs
  · obtain ⟨c, -, rfl⟩ := Option.map_eq_some_iff.1 (Option.mem_toList.1 hs)
    exact Text.plain_code c

namespace Frame

variable {f : Frame}

/-- The texts of a record all stand in the frame that it is read from. -/
theorem texts_of_decode {k : Kind} {r : Resource} (h : f.decode k = .ok r) :
    ∀ s ∈ r.texts, s ∈ f.fields := by
  intro s hs
  have hvalue : .text s ∈ r.values := by
    cases r <;> simpa [Resource.texts, Resource.values] using hs
  obtain ⟨⟨form, t⟩, hpart, hsays⟩ := exists_says_of_decode h hvalue
  have ht : t ∈ f.fields := List.mem_of_mem_tail (List.of_mem_zip hpart).2
  cases form with
  | text => exact (show s = t from hsays) ▸ ht
  | _ => exact hsays.elim

theorem Plain.decode {k : Kind} {r : Resource} (hf : f.Plain) (h : f.decode k = .ok r) :
    r.Plain :=
  Resource.plain_of_texts fun s hs => hf s (texts_of_decode h s hs)

theorem mem_of_field {i : Nat} {s : String} (h : f.field i = .ok s) : s ∈ f.fields := by
  unfold field at h
  split at h
  · next hs =>
    cases h
    exact List.mem_of_getElem? hs
  · cases h

theorem Plain.decodeAlarm {a : Alarm} (hf : f.Plain)
    (h : f.decodeAlarm = .ok a) : Text.Plain a.host := by
  obtain ⟨_, -, h⟩ := bind_eq_ok h
  obtain ⟨_, -, h⟩ := bind_eq_ok h
  obtain ⟨host, hhost, h⟩ := bind_eq_ok h
  obtain ⟨_, -, h⟩ := bind_eq_ok h
  obtain ⟨_, -, h⟩ := bind_eq_ok h
  obtain ⟨_, -, h⟩ := bind_eq_ok h
  obtain ⟨_, -, h⟩ := bind_eq_ok h
  cases h
  exact hf host (mem_of_field hhost)

end Frame

/-! ## The store and the events -/

/-- No text that an event tells of has a tab or a line end in it. -/
def Event.Plain : Event → Prop
  | .ready => True
  | .added r | .deleted r => r.Plain
  | .changed old new => old.Plain ∧ new.Plain
  | .alarm a => Text.Plain a.host

/-- No text of any record has a tab or a line end in it. -/
def Store.Plain (s : Store) : Prop := ∀ r ∈ s.records, r.Plain

theorem Store.Plain.get? {s : Store} {a : Address} {r : Resource} (h : s.Plain)
    (hr : s.get? a = some r) : r.Plain := by
  apply h r
  rw [s.mem_records_iff, s.address_of_get? hr]
  exact hr

theorem Store.Plain.put {s : Store} {r : Resource} (h : s.Plain) (hr : r.Plain) :
    (s.put r).Plain := by
  intro x hx
  rcases Store.mem_records_of_put hx with rfl | hx
  · exact hr
  · exact h x hx

theorem Store.Plain.erase {s : Store} (h : s.Plain) (a : Address) : (s.erase a).Plain :=
  fun r hr => h r (Store.mem_records_of_erase hr)

namespace Engine

variable {e : Engine} {f : Frame}

theorem plain_dispatch (h : e.store.Plain) (hf : f.Plain) :
    (e.dispatch f).engine.store.Plain := by
  refine dispatch_induction e f fun t ht => ?_
  cases ht with
  | added _ _ hd => exact h.put (hf.decode hd)
  | deleted => exact h.erase _
  | updated _ _ hd => exact h.put (hf.decode hd)
  | _ => exact h

/-- When the records are plain and plain frames come, the records stay so, and the handlers see
no others. -/
theorem plain_after_frames (h : e.store.Plain) {fs : List Frame} (hfs : ∀ f ∈ fs, f.Plain) :
    (e.after (frames fs)).store.Plain ∧ ∀ d ∈ e.deliveries (frames fs), d.store.Plain := by
  induction fs generalizing e with
  | nil => exact ⟨h, fun _ hd => nomatch hd⟩
  | cons f fs ih =>
    obtain ⟨hf, hfs⟩ := List.forall_mem_cons.1 hfs
    have hnext := plain_dispatch h hf
    obtain ⟨hafter, htold⟩ := ih hnext hfs
    refine ⟨hafter, ?_⟩
    intro d hd
    simp only [frames, List.map_cons, deliveries_cons, act] at hd
    rcases List.mem_append.1 hd with hd | hd
    · rcases store_of_mem_deliveries hd with hs | hs
      · exact hs ▸ h
      · exact hs ▸ hnext
    · exact htold d hd

/-- When the records are plain, a plain frame makes no other events. -/
theorem plain_of_mem_deliveries (h : e.store.Plain) (hf : f.Plain) {d : Delivery}
    (hd : d ∈ (e.dispatch f).deliveries) : d.event.Plain := by
  revert hd
  refine dispatch_induction e f fun t ht => ?_
  intro hd
  cases ht with
  | failed => cases hd
  | remarked => cases hd
  | added _ _ hr =>
    rw [(of_mem_ite rfl hd).1]
    exact hf.decode hr
  | deleted _ _ _ hr =>
    rw [(of_mem_ite rfl hd).1]
    exact h.get? hr
  | updated _ _ hnew hold =>
    unfold Turn.deliveries at hd
    simp only [stay] at hd
    split at hd
    · cases hd
    · rw [(of_mem_ite rfl hd).1]
      exact ⟨h.get? hold, hf.decode hnew⟩
  | alarm _ _ ha =>
    rw [(of_mem_ite rfl hd).1]
    exact hf.decodeAlarm ha
  | next => cases hd
  | loaded =>
    rw [(of_mem_deliver hd).1]
    trivial

theorem plain_events_of_frames (h : e.store.Plain) {fs : List Frame} (hfs : ∀ f ∈ fs, f.Plain) :
    ∀ d ∈ e.deliveries (frames fs), d.event.Plain := by
  induction fs generalizing e with
  | nil => exact List.forall_mem_nil _
  | cons f fs ih =>
    obtain ⟨hf, hfs⟩ := List.forall_mem_cons.1 hfs
    intro d hd
    simp only [frames, List.map_cons, deliveries_cons, act] at hd
    rcases List.mem_append.1 hd with hd | hd
    · exact plain_of_mem_deliveries h hf hd
    · exact ih (plain_dispatch h hf) hfs d hd

/-- Whatever bytes come, the handlers are told of plain texts only. -/
theorem plain_events (hs : Handlers) (limit : Nat) (source : ByteSource) :
    ∀ d ∈ ((new hs).run limit source).deliveries, d.event.Plain := by
  obtain ⟨taken, huntil, -, hdeliveries, -⟩ := run_until (e := new hs) rfl limit source
  have hplain : ∀ f ∈ taken, f.Plain := fun f hf =>
    source.plain_heard limit f (huntil.taken_prefix.subset hf)
  have hnone : (new hs).start.engine.store.Plain := fun _ hr => nomatch hr
  rw [hdeliveries]
  exact plain_events_of_frames hnone hplain

/-- Whatever bytes come, no text of the records that a run leaves, or that a handler sees on the
way, has a tab or a line end in it. So any command to slots whose hosts are such texts is one
line that begins with the name of the command. -/
theorem no_bytes_put_a_line_end_into_a_command (hs : Handlers) (limit : Nat)
    (source : ByteSource) :
    let run := (new hs).run limit source
    ∀ s ∈ run.engine.store :: run.deliveries.map Delivery.store, s.Plain ∧
      ∀ c : Command, (∀ k ∈ c.keys, ∃ r ∈ s.records, k.host ∈ r.strings) →
        ∃ line, c.bytes = line ++ [0x0d, 0x0a] ∧ 0x0d ∉ line ∧ 0x0a ∉ line ∧
          line.takeWhile (· ≠ 0x20) = Utf8.write c.name := by
  intro run s hs'
  obtain ⟨taken, huntil, hengine, hdeliveries, -⟩ := run_until (e := new hs) rfl limit source
  have hplain : ∀ f ∈ taken, f.Plain := fun f hf =>
    source.plain_heard limit f (huntil.taken_prefix.subset hf)
  have hnone : (new hs).start.engine.store.Plain := fun _ hr => nomatch hr
  obtain ⟨hafter, htold⟩ := plain_after_frames hnone hplain
  have hstore : s.Plain := by
    rcases List.mem_cons.1 hs' with rfl | hs'
    · rw [hengine]
      exact hafter
    · obtain ⟨d, hd, rfl⟩ := List.mem_map.1 hs'
      rw [hdeliveries] at hd
      exact htold d hd
  refine ⟨hstore, ?_⟩
  intro c hc
  have hends : ∀ k ∈ c.keys, ∀ x ∈ k.host.toList, x ≠ '\r' ∧ x ≠ '\n' := by
    intro k hk x hx
    obtain ⟨r, hr, hhost⟩ := hc k hk
    exact (hstore r hr k.host hhost x hx).2
  obtain ⟨hcr, hlf⟩ := Command.one_line hends
  exact ⟨_, c.bytes_eq, hcr, hlf, c.name_of_line⟩

/-- A line end that comes inside a host is gone when the node is in the records. -/
theorem a_line_end_in_a_host_is_dropped :
    let source : ByteSource :=
      ⟨Utf8.write "NODEADD\ta\nFREE\tb\tc\t1\t2\t3\t4\rNODEDEL", .failed "reset" .other⟩
    let s := ((new Handlers.none).run 64 source).engine.store
    let c : Command := .clearCrosspoint ⟨"aFREE", 1⟩
    s.Plain ∧ (∀ k ∈ c.keys, ∃ r ∈ s.records, k.host ∈ r.strings) ∧
    ∃ line, c.bytes = line ++ [0x0d, 0x0a] ∧ 0x0d ∉ line ∧ 0x0a ∉ line ∧
      line.takeWhile (· ≠ 0x20) = Utf8.write c.name := by
  intro source s c
  obtain ⟨hplain, hline⟩ :=
    no_bytes_put_a_line_end_into_a_command Handlers.none 64 source s List.mem_cons_self
  have hrecords : s.records = [.node ⟨"aFREE", "b", "c", 1, 2, 3, 4⟩] := by
    decide +kernel
  have hkeys : ∀ k ∈ c.keys, ∃ r ∈ s.records, k.host ∈ r.strings := by
    rw [hrecords]
    decide
  exact ⟨hplain, hkeys, hline c hkeys⟩

end Engine

end Patchbay
