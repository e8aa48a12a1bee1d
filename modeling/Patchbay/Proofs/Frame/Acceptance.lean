-- The frames that a record is read from, and what is said of the others. Each field after
-- the token has a form. A record is read when all of them fit, and has the values that they
-- say. Otherwise the first that does not fit is refused.
import Mathlib.Data.List.Forall2
import Patchbay.Frame.Decode
import Patchbay.Proofs.Text.Numeral
import Patchbay.Proofs.Text.Utf8

namespace Patchbay

/-! ## Codes -/

theorem isGraphic_iff (c : Char) : isGraphic c ↔ 0x21 ≤ c.toNat ∧ c.toNat ≤ 0x7e := by
  simp only [isGraphic, Bool.and_eq_true, decide_eq_true_eq]
  exact Iff.rfl

/-- Characters that have a mark of their own are written in one byte each. -/
theorem Utf8.write_of_isGraphic {s : String} (h : ∀ c ∈ s.toList, isGraphic c) :
    write s = s.toList.map fun c => UInt8.ofNat c.toNat := by
  apply write_of_lt
  intro c hc
  exact Nat.lt_of_le_of_lt ((isGraphic_iff c).1 (h c hc)).2 (by decide)

namespace LineCode

/-- The text is five bytes, each a printable ASCII character other than the blank. -/
def IsCode (s : String) : Prop :=
  (Utf8.write s).length = 5 ∧ ∀ b ∈ Utf8.write s, 0x21 ≤ b.toNat ∧ b.toNat ≤ 0x7e

theorem isCode_iff {s : String} :
    IsCode s ↔ s.toList.length = 5 ∧ ∀ c ∈ s.toList, isGraphic c := by
  constructor
  · rintro ⟨hlength, hbytes⟩
    have hgraphic : ∀ c ∈ s.toList, isGraphic c := by
      intro c hc
      obtain ⟨b, hb⟩ := List.exists_mem_of_ne_nil _ String.utf8EncodeChar_ne_nil
      have hrange := hbytes b (Utf8.mem_write.2 ⟨c, hc, hb⟩)
      rw [isGraphic_iff, Utf8.toNat_of_mem_utf8EncodeChar hb (by omega)]
      exact hrange
    rw [Utf8.write_of_isGraphic hgraphic, List.length_map] at hlength
    exact ⟨hlength, hgraphic⟩
  · rintro ⟨hlength, hgraphic⟩
    unfold IsCode
    rw [Utf8.write_of_isGraphic hgraphic, List.length_map]
    refine ⟨hlength, ?_⟩
    intro b hb
    obtain ⟨c, hc, rfl⟩ := List.mem_map.1 hb
    have hrange := (isGraphic_iff c).1 (hgraphic c hc)
    rw [UInt8.toNat_ofNat_of_lt' (Nat.lt_of_le_of_lt hrange.2 (by decide))]
    exact hrange

theorem ofText?_cases (s : String) :
    (∃ c, ofText? s = .ok c ∧ IsCode s) ∨ (ofText? s = .error (.badCode s) ∧ ¬ IsCode s) := by
  unfold ofText?
  split
  · next h => exact .inl ⟨_, rfl, isCode_iff.2 ⟨h.1, List.all_eq_true.1 h.2⟩⟩
  · next h =>
    refine .inr ⟨rfl, ?_⟩
    intro hcode
    obtain ⟨hlength, hgraphic⟩ := isCode_iff.1 hcode
    exact h ⟨hlength, List.all_eq_true.2 hgraphic⟩

/-- A code is the one that is read in its text. -/
theorem text_eq_iff {c : LineCode} {s : String} : c.text = s ↔ ofText? s = .ok c := by
  constructor
  · rintro rfl
    exact ofText?_text c
  · intro h
    unfold ofText? at h
    split at h
    · cases h
      rfl
    · cases h

end LineCode

/-! ## What fields hold -/

/-- What a field after the token holds. -/
inductive Form where
  | text
  | flag
  | number (q : Quantity)
  | code
  /-- The slot that an output follows. -/
  | sourceSlot
deriving DecidableEq

/-- What a field says. -/
inductive Value where
  | text (s : String)
  | flag (b : Bool)
  | number (n : UInt32)
  | code (c : LineCode)
  | sourceSlot (n : Option UInt32)

namespace Form

/-- A field of the form can be `s`. -/
def Fits (s : String) : Form → Prop
  | text | flag => True
  | number _ => Numeral.IsWord s
  | code => LineCode.IsCode s
  | sourceSlot => s = "-1" ∨ Numeral.IsWord s

/-- A field of the form says the value when it is `s`. -/
def Says (s : String) : Form → Value → Prop
  | text, .text t => t = s
  | flag, .flag b => b = true ↔ s = "1"
  | number _, .number n => Numeral.Denotes s n.toNat
  | code, .code c => c.text = s
  | sourceSlot, .sourceSlot none => s = "-1"
  | sourceSlot, .sourceSlot (some n) => Numeral.Denotes s n.toNat
  | _, _ => False

/-- What is said of a field that does not fit. -/
inductive Refuses (token s : String) : Form → WireError → Prop
  | number (q : Quantity) (h : ¬ Numeral.IsWord s) :
      Refuses token s (number q) (.badNumber token q s)
  | code (h : ¬ LineCode.IsCode s) : Refuses token s code (.fault (.badCode s))
  | sourceSlot (hminus : s ≠ "-1") (h : ¬ Numeral.IsWord s) :
      Refuses token s sourceSlot (.badNumber token .sourceSlot s)

/-- Reads a field. -/
def read (token s : String) : Form → Except WireError Value
  | text => .ok (.text s)
  | flag => .ok (.flag (s = "1"))
  | number q =>
    match Numeral.word? s with
    | some n => .ok (.number n)
    | none => .error (.badNumber token q s)
  | code =>
    match LineCode.ofText? s with
    | .ok c => .ok (.code c)
    | .error err => .error (.fault err)
  | sourceSlot =>
    if s = "-1" then .ok (.sourceSlot none)
    else match Numeral.word? s with
      | some n => .ok (.sourceSlot (some n))
      | none => .error (.badNumber token .sourceSlot s)

variable {token s : String} {form : Form} {v : Value} {err : WireError}

/-- What a field says is what is read in it. -/
theorem says_iff_read : form.Says s v ↔ form.read token s = .ok v := by
  cases form with
  | text => cases v <;> simp [Says, read, eq_comm]
  | flag =>
    cases v with
    | flag b => cases b <;> simp [Says, read]
    | _ => simp [Says, read]
  | number q =>
    cases v with
    | number n =>
      simp only [Says, read, ← Numeral.word?_eq_some_iff]
      cases Numeral.word? s <;> simp
    | _ =>
      simp only [Says, read]
      cases Numeral.word? s <;> simp
  | code =>
    cases v with
    | code c =>
      simp only [Says, read, LineCode.text_eq_iff]
      cases LineCode.ofText? s <;> simp
    | _ =>
      simp only [Says, read]
      cases LineCode.ofText? s <;> simp
  | sourceSlot =>
    by_cases hminus : s = "-1"
    · subst hminus
      cases v with
      | sourceSlot n => cases n <;> simp [Says, read, Numeral.not_denotes_minus]
      | _ => simp [Says, read]
    · cases v with
      | sourceSlot n =>
        cases n <;> simp only [Says, read, hminus, if_false, ← Numeral.word?_eq_some_iff] <;>
          cases Numeral.word? s <;> simp
      | _ =>
        simp only [Says, read, hminus, if_false]
        cases Numeral.word? s <;> simp

theorem Refuses.not_fits (h : form.Refuses token s err) : ¬ form.Fits s := by
  cases h with
  | number _ h => exact h
  | code h => exact h
  | sourceSlot hminus h => exact fun hfits => hfits.elim hminus h

/-- A field that fits is read, and one that does not is refused. -/
theorem read_cases (token s : String) (form : Form) :
    (form.Fits s ∧ ∃ v, form.read token s = .ok v) ∨
      ∃ err, form.Refuses token s err ∧ form.read token s = .error err := by
  cases form with
  | text => exact .inl ⟨trivial, _, rfl⟩
  | flag => exact .inl ⟨trivial, _, rfl⟩
  | number q =>
    unfold read
    rcases Numeral.word?_cases s with ⟨n, hn, hword⟩ | ⟨hn, hword⟩
    · exact .inl ⟨hword, _, by rw [hn]⟩
    · exact .inr ⟨_, .number q hword, by rw [hn]⟩
  | code =>
    unfold read
    rcases LineCode.ofText?_cases s with ⟨c, hc, hcode⟩ | ⟨hc, hcode⟩
    · exact .inl ⟨hcode, _, by rw [hc]⟩
    · exact .inr ⟨_, .code hcode, by rw [hc]⟩
  | sourceSlot =>
    unfold read
    by_cases hminus : s = "-1"
    · exact .inl ⟨.inl hminus, _, if_pos hminus⟩
    rw [if_neg hminus]
    rcases Numeral.word?_cases s with ⟨n, hn, hword⟩ | ⟨hn, hword⟩
    · exact .inl ⟨.inr hword, _, by rw [hn]⟩
    · exact .inr ⟨_, .sourceSlot hminus hword, by rw [hn]⟩

theorem fits_iff_read : form.Fits s ↔ ∃ v, form.read token s = .ok v := by
  rcases read_cases token s form with ⟨hfits, hv⟩ | ⟨err, hrefuses, herr⟩
  · exact iff_of_true hfits hv
  · refine iff_of_false hrefuses.not_fits ?_
    rintro ⟨v, hv⟩
    cases herr.symm.trans hv

theorem refuses_iff_read : form.Refuses token s err ↔ form.read token s = .error err := by
  rcases read_cases token s form with ⟨hfits, v, hv⟩ | ⟨err', hrefuses, herr⟩
  · refine iff_of_false (fun h => h.not_fits hfits) ?_
    intro h
    cases hv.symm.trans h
  · constructor
    · intro h
      rw [herr]
      cases h <;> cases hrefuses <;> rfl
    · intro h
      cases herr.symm.trans h
      exact hrefuses

/-- Whatever is said of a field lies in the frame. -/
theorem Refuses.isParseError (h : form.Refuses token s err) : err.isParseError := by
  cases h <;> rfl

end Form

/-- The forms of the fields after the token, in order. -/
def Kind.forms : Kind → List Form
  | node => [.text, .text, .text, .number .sourceSlots, .number .destinationSlots,
      .number .gpiSlots, .number .gpoSlots]
  | source => [.text, .number .slot, .text, .text, .text, .flag, .number .channels,
      .number .blockSize]
  | destination => [.text, .number .slot, .text, .text, .text, .number .channels]
  | gpioInput => [.text, .number .slot, .text, .code]
  | gpioOutput => [.text, .number .slot, .text, .code, .text, .text, .sourceSlot]

/-- The values in a record, in the order of the fields. -/
def Resource.values : Resource → List Value
  | node r => [.text r.host, .text r.hostName, .text r.deviceName, .number r.sourceSlots,
      .number r.destinationSlots, .number r.gpiSlots, .number r.gpoSlots]
  | source r => [.text r.host, .number r.slot, .text r.hostName, .text r.streamAddress,
      .text r.name, .flag r.enabled, .number r.channels, .number r.blockSize]
  | destination r => [.text r.host, .number r.slot, .text r.hostName, .text r.streamAddress,
      .text r.name, .number r.channels]
  | gpioInput r => [.text r.host, .number r.slot, .text r.hostName, .code r.code]
  | gpioOutput r => [.text r.host, .number r.slot, .text r.hostName, .code r.code,
      .text r.name, .text r.sourceHost, .sourceSlot r.sourceSlot]

/-- The values in a record, in the order in which the fields are looked at. -/
def Resource.seen : Resource → List Value
  | gpioOutput r => .sourceSlot r.sourceSlot :: (gpioOutput r).values.dropLast
  | r => r.values

theorem Resource.seen_inj {r r' : Resource} (hkind : r.kind = r'.kind) (h : r.seen = r'.seen) :
    r = r' := by
  cases r with
  | node r =>
    cases r' with
    | node r' => cases r; cases r'; simp_all [seen, values]
    | _ => cases hkind
  | source r =>
    cases r' with
    | source r' => cases r; cases r'; simp_all [seen, values]
    | _ => cases hkind
  | destination r =>
    cases r' with
    | destination r' => cases r; cases r'; simp_all [seen, values]
    | _ => cases hkind
  | gpioInput r =>
    cases r' with
    | gpioInput r' => cases r; cases r'; simp_all [seen, values]
    | _ => cases hkind
  | gpioOutput r =>
    cases r' with
    | gpioOutput r' => cases r; cases r'; simp_all [seen, values]
    | _ => cases hkind

namespace Frame

/-! ## What is made of what is read -/

section

variable {α β γ : Type} {x : Except WireError α}

theorem bind_eq_ok {next : α → Except WireError β} {b : β} (h : x >>= next = .ok b) :
    ∃ a, x = .ok a ∧ next a = .ok b := by
  cases x with
  | error err => cases h
  | ok a => exact ⟨a, rfl, h⟩

theorem map_eq_ok {g : α → β} {b : β} (h : x.map g = .ok b) : ∃ a, x = .ok a ∧ g a = b := by
  cases x with
  | error err => cases h
  | ok a => exact ⟨a, rfl, Except.ok.inj h⟩

theorem map_map (x : Except WireError α) (g : α → β) (h : β → γ) :
    (x.map g).map h = x.map (h ∘ g) := by
  cases x <;> rfl

end

theorem kind_of_decode {f : Frame} {k : Kind} {r : Resource} (h : f.decode k = .ok r) :
    r.kind = k := by
  cases k <;> obtain ⟨r, -, rfl⟩ := map_eq_ok h <;> rfl

theorem kind_of_decodeAddress {f : Frame} {k : Kind} {a : Address}
    (h : f.decodeAddress k = .ok a) : a.kind = k := by
  obtain ⟨-, -, h⟩ := bind_eq_ok h
  cases k <;> obtain ⟨_, -, h⟩ := bind_eq_ok h <;> cases h <;> rfl

/-! ## Fields one after the other -/

/-- The fields after the token, each with the form that it has in a record of the kind. -/
def parts (f : Frame) (k : Kind) : List (Form × String) := k.forms.zip f.fields.tail

/-- The same in the order in which they are looked at: from left to right, but the slot that
an output follows before the rest. -/
def inspected (f : Frame) (k : Kind) : List (Form × String) :=
  (f.parts k).filter (·.1 = .sourceSlot) ++ (f.parts k).filter (·.1 ≠ .sourceSlot)

/-- Reads fields one after the other. -/
def readAll (token : String) (parts : List (Form × String)) : Except WireError (List Value) :=
  parts.mapM fun p => p.1.read token p.2

/-- The first of the fields that does not fit is refused with the error. -/
def Refused (token : String) (parts : List (Form × String)) (err : WireError) : Prop :=
  ∃ before p after, parts = before ++ p :: after ∧ (∀ q ∈ before, q.1.Fits q.2) ∧
    p.1.Refuses token p.2 err

section

variable {token : String} {p : Form × String} {parts : List (Form × String)} {v : Value}
  {vs : List Value} {err : WireError}

theorem readAll_nil (token : String) : readAll token [] = .ok [] := rfl

theorem readAll_cons (token : String) (p : Form × String) (parts : List (Form × String)) :
    readAll token (p :: parts) =
      p.1.read token p.2 >>= fun v => (readAll token parts).map (v :: ·) := by
  unfold readAll
  rw [List.mapM_cons]
  refine congrArg _ (funext fun v => ?_)
  cases parts.mapM fun p => p.1.read token p.2 <;> rfl

theorem readAll_cons_of_ok (h : p.1.read token p.2 = .ok v) :
    readAll token (p :: parts) = (readAll token parts).map (v :: ·) := by
  rw [readAll_cons, h]
  rfl

theorem readAll_cons_of_error (h : p.1.read token p.2 = .error err) :
    readAll token (p :: parts) = .error err := by
  rw [readAll_cons, h]
  rfl

theorem readAll_eq_ok_iff :
    readAll token parts = .ok vs ↔ List.Forall₂ (fun p v => p.1.Says p.2 v) parts vs := by
  induction parts generalizing vs with
  | nil => cases vs <;> simp [readAll_nil]
  | cons p parts ih =>
    rw [List.forall₂_cons_left_iff]
    constructor
    · intro h
      rw [readAll_cons] at h
      obtain ⟨v, hv, h⟩ := bind_eq_ok h
      obtain ⟨vs', hvs, rfl⟩ := map_eq_ok h
      exact ⟨v, vs', Form.says_iff_read.2 hv, ih.1 hvs, rfl⟩
    · rintro ⟨v, vs', hv, hvs, rfl⟩
      rw [readAll_cons_of_ok (Form.says_iff_read.1 hv), ih.2 hvs]
      rfl

theorem exists_readAll_iff :
    (∃ vs, readAll token parts = .ok vs) ↔ ∀ p ∈ parts, p.1.Fits p.2 := by
  induction parts with
  | nil => exact iff_of_true ⟨[], rfl⟩ (List.forall_mem_nil _)
  | cons p parts ih =>
    rw [List.forall_mem_cons, ← ih, Form.fits_iff_read]
    constructor
    · rintro ⟨vs, h⟩
      rw [readAll_cons] at h
      obtain ⟨v, hv, h⟩ := bind_eq_ok h
      obtain ⟨vs', hvs, -⟩ := map_eq_ok h
      exact ⟨⟨v, hv⟩, vs', hvs⟩
    · rintro ⟨⟨v, hv⟩, vs', hvs⟩
      refine ⟨v :: vs', ?_⟩
      rw [readAll_cons_of_ok hv, hvs]
      rfl

theorem refused_cons_of_fits (h : p.1.Fits p.2) :
    Refused token (p :: parts) err ↔ Refused token parts err := by
  constructor
  · rintro ⟨before, q, after, heq, hbefore, hq⟩
    cases before with
    | nil =>
      cases heq
      exact absurd h hq.not_fits
    | cons b before =>
      cases heq
      exact ⟨before, q, after, rfl, (List.forall_mem_cons.1 hbefore).2, hq⟩
  · rintro ⟨before, q, after, rfl, hbefore, hq⟩
    exact ⟨p :: before, q, after, rfl, List.forall_mem_cons.2 ⟨h, hbefore⟩, hq⟩

theorem refused_cons_of_not_fits (h : ¬ p.1.Fits p.2) :
    Refused token (p :: parts) err ↔ p.1.Refuses token p.2 err := by
  constructor
  · rintro ⟨before, q, after, heq, hbefore, hq⟩
    cases before with
    | nil =>
      cases heq
      exact hq
    | cons b before =>
      cases heq
      exact absurd (hbefore p List.mem_cons_self) h
  · intro hp
    exact ⟨[], p, parts, rfl, List.forall_mem_nil _, hp⟩

theorem readAll_eq_error_iff : readAll token parts = .error err ↔ Refused token parts err := by
  induction parts with
  | nil =>
    refine iff_of_false (by simp [readAll_nil]) ?_
    rintro ⟨before, p, after, h, -⟩
    simp at h
  | cons p parts ih =>
    rcases Form.read_cases token p.2 p.1 with ⟨hfits, v, hv⟩ | ⟨err', hrefuses, herr⟩
    · rw [refused_cons_of_fits hfits, ← ih, readAll_cons_of_ok hv]
      cases readAll token parts <;> simp [Except.map]
    · rw [refused_cons_of_not_fits hrefuses.not_fits, Form.refuses_iff_read, herr,
        readAll_cons_of_error herr]
      simp only [Except.error.injEq]

end

/-! ## Single fields -/

section

variable {f : Frame} {i : Nat} {s : String}

theorem field_of_getElem? (h : f.fields[i]? = some s) : f.field i = .ok s := by
  rw [field, h]

theorem field_eq_read (h : f.fields[i]? = some s) :
    (f.field i).map Value.text = Form.text.read f.token s := by
  rw [field_of_getElem? h]
  rfl

theorem number_eq_read (q : Quantity) (h : f.fields[i]? = some s) :
    (f.number i q).map Value.number = (Form.number q).read f.token s := by
  unfold number
  rw [field_of_getElem? h]
  simp only [bind, Except.bind, Form.read]
  cases Numeral.word? s <;> rfl

theorem flag_eq_read (h : f.fields[i]? = some s) :
    (f.flag i).map Value.flag = Form.flag.read f.token s := by
  unfold flag
  rw [field_of_getElem? h]
  rfl

theorem code_eq_read (h : f.fields[i]? = some s) :
    (f.word i LineCode.ofText?).map Value.code = Form.code.read f.token s := by
  unfold word
  rw [field_of_getElem? h]
  simp only [bind, Except.bind, Form.read]
  cases LineCode.ofText? s <;> rfl

theorem sourceSlot_eq_read (h : f.fields[7]? = some s) :
    f.sourceSlot.map Value.sourceSlot = Form.sourceSlot.read f.token s := by
  unfold sourceSlot number
  rw [field_of_getElem? h]
  simp only [bind, Except.bind, Form.read]
  split
  · rfl
  · cases Numeral.word? s <;> rfl

end

/-! ## Records -/

/-- A field read before the rest of a record is read. -/
theorem map_bind_eq_readAll {α β : Type} {x : Except WireError α} {next : α → Except WireError β}
    {v : α → Value} {seen : β → List Value} {join : List Value → List Value}
    {token s : String} {form : Form} {parts : List (Form × String)}
    (hx : x.map v = form.read token s)
    (hnext : ∀ a, (next a).map seen = (readAll token parts).map fun vs => join (v a :: vs)) :
    (x >>= next).map seen = (readAll token ((form, s) :: parts)).map join := by
  cases x with
  | error err =>
    rw [readAll_cons_of_error hx.symm]
    rfl
  | ok a =>
    rw [readAll_cons_of_ok hx.symm, map_map]
    exact hnext a

theorem expect_bind {α : Type} {f : Frame} {count : Nat} {next : Unit → Except WireError α}
    (h : f.fields.length = count) : f.expect count >>= next = next () := by
  rw [expect, if_pos h]
  rfl

section

variable {f : Frame}

theorem decodeNode_eq_readAll (h : f.fields.length = Kind.node.fieldCount) :
    f.decodeNode.map (Resource.seen ∘ .node) = (readAll f.token (f.inspected .node)).map id := by
  unfold decodeNode
  rw [expect_bind h]
  match f, h with
  | ⟨[token, host, hostName, device, sources, destinations, gpis, gpos]⟩, _ =>
    refine map_bind_eq_readAll (field_eq_read rfl) fun host => ?_
    refine map_bind_eq_readAll (field_eq_read rfl) fun hostName => ?_
    refine map_bind_eq_readAll (field_eq_read rfl) fun device => ?_
    refine map_bind_eq_readAll (number_eq_read _ rfl) fun sources => ?_
    refine map_bind_eq_readAll (number_eq_read _ rfl) fun destinations => ?_
    refine map_bind_eq_readAll (number_eq_read _ rfl) fun gpis => ?_
    refine map_bind_eq_readAll (number_eq_read _ rfl) fun gpos => ?_
    rfl

theorem decodeSource_eq_readAll (h : f.fields.length = Kind.source.fieldCount) :
    f.decodeSource.map (Resource.seen ∘ .source) =
      (readAll f.token (f.inspected .source)).map id := by
  unfold decodeSource
  rw [expect_bind h]
  match f, h with
  | ⟨[token, host, slot, hostName, stream, name, enabled, channels, blockSize]⟩, _ =>
    refine map_bind_eq_readAll (field_eq_read rfl) fun host => ?_
    refine map_bind_eq_readAll (number_eq_read _ rfl) fun slot => ?_
    refine map_bind_eq_readAll (field_eq_read rfl) fun hostName => ?_
    refine map_bind_eq_readAll (field_eq_read rfl) fun stream => ?_
    refine map_bind_eq_readAll (field_eq_read rfl) fun name => ?_
    refine map_bind_eq_readAll (flag_eq_read rfl) fun enabled => ?_
    refine map_bind_eq_readAll (number_eq_read _ rfl) fun channels => ?_
    refine map_bind_eq_readAll (number_eq_read _ rfl) fun blockSize => ?_
    rfl

theorem decodeDestination_eq_readAll (h : f.fields.length = Kind.destination.fieldCount) :
    f.decodeDestination.map (Resource.seen ∘ .destination) =
      (readAll f.token (f.inspected .destination)).map id := by
  unfold decodeDestination
  rw [expect_bind h]
  match f, h with
  | ⟨[token, host, slot, hostName, stream, name, channels]⟩, _ =>
    refine map_bind_eq_readAll (field_eq_read rfl) fun host => ?_
    refine map_bind_eq_readAll (number_eq_read _ rfl) fun slot => ?_
    refine map_bind_eq_readAll (field_eq_read rfl) fun hostName => ?_
    refine map_bind_eq_readAll (field_eq_read rfl) fun stream => ?_
    refine map_bind_eq_readAll (field_eq_read rfl) fun name => ?_
    refine map_bind_eq_readAll (number_eq_read _ rfl) fun channels => ?_
    rfl

theorem decodeGpioInput_eq_readAll (h : f.fields.length = Kind.gpioInput.fieldCount) :
    f.decodeGpioInput.map (Resource.seen ∘ .gpioInput) =
      (readAll f.token (f.inspected .gpioInput)).map id := by
  unfold decodeGpioInput
  rw [expect_bind h]
  match f, h with
  | ⟨[token, host, slot, hostName, code]⟩, _ =>
    refine map_bind_eq_readAll (field_eq_read rfl) fun host => ?_
    refine map_bind_eq_readAll (number_eq_read _ rfl) fun slot => ?_
    refine map_bind_eq_readAll (field_eq_read rfl) fun hostName => ?_
    refine map_bind_eq_readAll (code_eq_read rfl) fun code => ?_
    rfl

theorem decodeGpioOutput_eq_readAll (h : f.fields.length = Kind.gpioOutput.fieldCount) :
    f.decodeGpioOutput.map (Resource.seen ∘ .gpioOutput) =
      (readAll f.token (f.inspected .gpioOutput)).map id := by
  unfold decodeGpioOutput
  rw [expect_bind h]
  match f, h with
  | ⟨[token, host, slot, hostName, code, name, sourceHost, sourceSlot]⟩, _ =>
    refine map_bind_eq_readAll (sourceSlot_eq_read rfl) fun sourceSlot => ?_
    refine map_bind_eq_readAll (field_eq_read rfl) fun host => ?_
    refine map_bind_eq_readAll (number_eq_read _ rfl) fun slot => ?_
    refine map_bind_eq_readAll (field_eq_read rfl) fun hostName => ?_
    refine map_bind_eq_readAll (code_eq_read rfl) fun code => ?_
    refine map_bind_eq_readAll (field_eq_read rfl) fun name => ?_
    refine map_bind_eq_readAll (field_eq_read rfl) fun sourceHost => ?_
    rfl

/-- A frame with as many fields as a record of the kind has is read field by field. -/
theorem decode_eq_readAll {k : Kind} (h : f.fields.length = k.fieldCount) :
    (f.decode k).map Resource.seen = readAll f.token (f.inspected k) := by
  have hid : (readAll f.token (f.inspected k)).map id = readAll f.token (f.inspected k) :=
    congrFun Except.map_id _
  rw [← hid]
  unfold decode
  cases k with
  | node => exact (map_map ..).trans (decodeNode_eq_readAll h)
  | source => exact (map_map ..).trans (decodeSource_eq_readAll h)
  | destination => exact (map_map ..).trans (decodeDestination_eq_readAll h)
  | gpioInput => exact (map_map ..).trans (decodeGpioInput_eq_readAll h)
  | gpioOutput => exact (map_map ..).trans (decodeGpioOutput_eq_readAll h)

theorem decode_of_fieldCount_ne {k : Kind} (h : f.fields.length ≠ k.fieldCount) :
    f.decode k = .error (.fieldCount f.token k.fieldCount f.fields.length) := by
  have hexpect : f.expect k.fieldCount =
      .error (.fieldCount f.token k.fieldCount f.fields.length) := if_neg h
  cases k with
  | node => rw [decode, decodeNode, hexpect]; rfl
  | source => rw [decode, decodeSource, hexpect]; rfl
  | destination => rw [decode, decodeDestination, hexpect]; rfl
  | gpioInput => rw [decode, decodeGpioInput, hexpect]; rfl
  | gpioOutput => rw [decode, decodeGpioOutput, hexpect]; rfl

theorem mem_inspected {k : Kind} {p : Form × String} : p ∈ f.inspected k ↔ p ∈ f.parts k := by
  simp only [inspected, List.mem_append, List.mem_filter, ← and_or_left, decide_eq_true_eq, em,
    and_true]

theorem inspected_eq_parts {k : Kind} (h : k ≠ .gpioOutput) : f.inspected k = f.parts k := by
  have hno : ∀ p ∈ f.parts k, p.1 ≠ .sourceSlot := by
    intro p hp hform
    have hmem : .sourceSlot ∈ k.forms := hform ▸ (List.of_mem_zip hp).1
    cases k <;> simp [Kind.forms] at hmem h
  unfold inspected
  rw [List.filter_eq_nil_iff.2 (by simpa using hno), List.filter_eq_self.2 (by simpa using hno)]
  rfl

/-- What the fields say does not depend on the order in which they are looked at. -/
theorem says_seen_iff {r : Resource} (h : f.fields.length = r.kind.fieldCount) :
    List.Forall₂ (fun p v => p.1.Says p.2 v) (f.inspected r.kind) r.seen ↔
      List.Forall₂ (fun p v => p.1.Says p.2 v) (f.parts r.kind) r.values := by
  by_cases hkind : r.kind = .gpioOutput
  · cases r with
    | gpioOutput r =>
      match f, h with
      | ⟨[token, host, slot, hostName, code, name, sourceHost, sourceSlot]⟩, _ =>
        simp [inspected, parts, Kind.forms, Resource.kind, Resource.address, Address.kind,
          Resource.seen, Resource.values]
        tauto
    | _ => cases hkind
  · have hseen : r.seen = r.values := by
      cases r with
      | gpioOutput r => exact absurd rfl hkind
      | _ => rfl
    rw [inspected_eq_parts hkind, hseen]

theorem decode_eq_ok_iff {k : Kind} {r : Resource} : f.decode k = .ok r ↔
    r.kind = k ∧ f.fields.length = k.fieldCount ∧
      List.Forall₂ (fun p v => p.1.Says p.2 v) (f.parts k) r.values := by
  by_cases hcount : f.fields.length = k.fieldCount
  · constructor
    · intro h
      obtain rfl := kind_of_decode h
      have hread := decode_eq_readAll hcount
      rw [h] at hread
      exact ⟨rfl, hcount, (says_seen_iff hcount).1 (readAll_eq_ok_iff.1 hread.symm)⟩
    · rintro ⟨rfl, -, hsays⟩
      have hread := decode_eq_readAll hcount
      rw [readAll_eq_ok_iff.2 ((says_seen_iff hcount).2 hsays)] at hread
      obtain ⟨r', hr', hseen⟩ := map_eq_ok hread
      rw [hr', Resource.seen_inj (kind_of_decode hr') hseen]
  · rw [decode_of_fieldCount_ne hcount]
    exact iff_of_false (fun h => nomatch h) fun h => hcount h.2.1

/-- Each value of a record stands in a field of the frame that it is read from. -/
theorem exists_says_of_decode {k : Kind} {r : Resource} {v : Value} (h : f.decode k = .ok r)
    (hv : v ∈ r.values) : ∃ p ∈ f.parts k, p.1.Says p.2 v := by
  obtain ⟨-, -, hsays⟩ := decode_eq_ok_iff.1 h
  generalize f.parts k = parts, r.values = vs at hsays hv ⊢
  induction hsays with
  | nil => cases hv
  | cons hp _ ih =>
    rcases List.mem_cons.1 hv with rfl | hv
    · exact ⟨_, List.mem_cons_self, hp⟩
    · obtain ⟨p, hmem, hp⟩ := ih hv
      exact ⟨p, List.mem_cons_of_mem _ hmem, hp⟩

theorem exists_decode_iff {k : Kind} : (∃ r, f.decode k = .ok r) ↔
    f.fields.length = k.fieldCount ∧ ∀ p ∈ f.parts k, p.1.Fits p.2 := by
  by_cases hcount : f.fields.length = k.fieldCount
  · have hfits : (∀ p ∈ f.inspected k, p.1.Fits p.2) ↔ ∀ p ∈ f.parts k, p.1.Fits p.2 := by
      simp only [mem_inspected]
    rw [← hfits, ← exists_readAll_iff, ← decode_eq_readAll hcount]
    cases f.decode k <;> simp [Except.map, hcount]
  · rw [decode_of_fieldCount_ne hcount]
    refine iff_of_false ?_ fun h => hcount h.1
    rintro ⟨r, hr⟩
    cases hr

theorem decode_eq_error_iff {k : Kind} {err : WireError} : f.decode k = .error err ↔
    (f.fields.length ≠ k.fieldCount ∧ err = .fieldCount f.token k.fieldCount f.fields.length) ∨
      (f.fields.length = k.fieldCount ∧ Refused f.token (f.inspected k) err) := by
  by_cases hcount : f.fields.length = k.fieldCount
  · rw [← readAll_eq_error_iff, ← decode_eq_readAll hcount]
    cases f.decode k <;> simp [Except.map, hcount]
  · rw [decode_of_fieldCount_ne hcount]
    simp [hcount, eq_comm]

theorem Refused.isParseError {token : String} {parts : List (Form × String)} {err : WireError}
    (h : Refused token parts err) : err.isParseError := by
  obtain ⟨before, p, after, -, -, hp⟩ := h
  exact hp.isParseError

end

/-- A record is read from a frame with as many fields as it has values, each of which fits, and
it has the values that the fields say. Otherwise the number of fields is refused, or else the first
field that does not fit, and either way the fault lies in what the controller sent. -/
theorem decode_takes_what_fits_and_refuses_the_first_that_does_not (k : Kind) (f : Frame) :
    (∀ r, f.decode k = .ok r ↔ r.kind = k ∧ f.fields.length = k.fieldCount ∧
      List.Forall₂ (fun p v => p.1.Says p.2 v) (f.parts k) r.values) ∧
    ((∃ r, f.decode k = .ok r) ↔
      f.fields.length = k.fieldCount ∧ ∀ p ∈ f.parts k, p.1.Fits p.2) ∧
    ∀ err, (f.decode k = .error err ↔
        (f.fields.length ≠ k.fieldCount ∧
          err = .fieldCount f.token k.fieldCount f.fields.length) ∨
        (f.fields.length = k.fieldCount ∧ Refused f.token (f.inspected k) err)) ∧
      (f.decode k = .error err → err.isParseError = true) := by
  refine ⟨fun r => decode_eq_ok_iff, exists_decode_iff, ?_⟩
  intro err
  refine ⟨decode_eq_error_iff, ?_⟩
  intro h
  rcases decode_eq_error_iff.1 h with ⟨-, rfl⟩ | ⟨-, hrefused⟩
  · rfl
  · exact hrefused.isParseError

end Frame

end Patchbay
