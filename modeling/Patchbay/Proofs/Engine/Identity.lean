-- What a record is known by is read twice: from the frames that add or update it, and by other
-- code from the frames that delete it. Both read the same out of the same two fields, however
-- the slot is spelled, so whatever was added can be deleted, and nothing else is.
import Patchbay.Proofs.Engine.Commuting
import Patchbay.Proofs.Engine.Reasons
import Patchbay.Proofs.Engine.Subscribing
import Patchbay.Proofs.Store.Tables

namespace Patchbay

theorem Address.exists_slot {a : Address} (h : a.kind ≠ .node) : ∃ n, a.slot? = some n :=
  Option.ne_none_iff_exists'.1 (mt slot?_eq_none_iff.1 h)

/-! ## What names a resource -/

namespace Frame

/-- The fields after the token name the resource: its host letter by letter, and its slot, where
there is one, in some spelling. -/
structure Identifies (f : Frame) (a : Address) : Prop where
  host : f.fields[1]? = some a.host
  slot : ∀ n, a.slot? = some n → ∃ s, f.fields[2]? = some s ∧ Numeral.Denotes s n.toNat

/-- Two frames name one resource of a kind: they have the same text for the host and, unless a
node is meant, numerals of the same number for the slot. -/
structure SameIdentity (k : Kind) (f g : Frame) : Prop where
  host : f.fields[1]? = g.fields[1]?
  slot : k ≠ .node → ∃ s t n, f.fields[2]? = some s ∧ g.fields[2]? = some t ∧
    Numeral.Denotes s n ∧ Numeral.Denotes t n

variable {f g : Frame} {k : Kind} {a b : Address} {r : Resource}

/-- Fields name one resource of a kind at most. -/
theorem Identifies.unique (ha : f.Identifies a) (hb : f.Identifies b) (hkind : a.kind = b.kind) :
    a = b := by
  have hhost : a.host = b.host := Option.some.inj (ha.host.symm.trans hb.host)
  refine Address.ext_parts hkind hhost ?_
  by_cases hnode : a.kind = .node
  · rw [Address.slot?_eq_none_iff.2 hnode, Address.slot?_eq_none_iff.2 (hkind ▸ hnode)]
  · obtain ⟨m, hm⟩ := Address.exists_slot hnode
    obtain ⟨n, hn⟩ := Address.exists_slot (hkind ▸ hnode)
    obtain ⟨s, hs, hsm⟩ := ha.slot m hm
    obtain ⟨t, ht, htn⟩ := hb.slot n hn
    cases hs.symm.trans ht
    rw [hm, hn, UInt32.toNat_inj.1 (hsm.unique htn)]

/-- When a frame names a resource, the others that do so are those of the same identity. -/
theorem sameIdentity_iff (hf : f.Identifies a) : f.SameIdentity a.kind g ↔ g.Identifies a := by
  constructor
  · intro h
    refine ⟨h.host.symm.trans hf.host, ?_⟩
    intro n hn
    have hslot : a.kind ≠ .node := by
      rw [ne_eq, ← Address.slot?_eq_none_iff, hn]
      nofun
    obtain ⟨s, t, m, hs, ht, hsm, htm⟩ := h.slot hslot
    obtain ⟨s', hs', hsn⟩ := hf.slot n hn
    cases hs.symm.trans hs'
    exact ⟨t, ht, hsm.unique hsn ▸ htm⟩
  · intro hg
    refine ⟨hf.host.trans hg.host.symm, ?_⟩
    intro hslot
    obtain ⟨n, hn⟩ := Address.exists_slot hslot
    obtain ⟨s, hs, hsn⟩ := hf.slot n hn
    obtain ⟨t, ht, htn⟩ := hg.slot n hn
    exact ⟨s, t, n.toNat, hs, ht, hsn, htn⟩

/-! ## Both ways of reading it -/

theorem field_eq_ok_iff {i : Nat} {s : String} : f.field i = .ok s ↔ f.fields[i]? = some s := by
  unfold field
  cases f.fields[i]? <;> simp

theorem number_eq_ok_iff {i : Nat} {q : Quantity} {n : UInt32} :
    f.number i q = .ok n ↔ ∃ s, f.fields[i]? = some s ∧ Numeral.Denotes s n.toNat := by
  unfold number
  simp only [← Numeral.word?_eq_some_iff, ← field_eq_ok_iff]
  cases f.field i with
  | error err => simp [bind, Except.bind]
  | ok s => cases hw : Numeral.word? s <;> simp [bind, Except.bind, pure, Except.pure, hw]

theorem slotKey_eq_ok_iff {x : SlotKey} : f.slotKey = .ok x ↔ f.fields[1]? = some x.host ∧
    ∃ s, f.fields[2]? = some s ∧ Numeral.Denotes s x.slot.toNat := by
  rw [← field_eq_ok_iff, ← number_eq_ok_iff (q := .slot)]
  obtain ⟨host, slot⟩ := x
  unfold slotKey
  cases f.field 1 <;> cases f.number 2 .slot <;> simp [bind, Except.bind, pure, Except.pure]

theorem bind_pure_eq_ok_iff {α β : Type} {x : Except WireError α} {g : α → β} {b : β} :
    (x >>= fun a => pure (g a)) = .ok b ↔ ∃ a, x = .ok a ∧ g a = b := by
  cases x <;> simp [bind, Except.bind, pure, Except.pure]

theorem identifies_at {x : SlotKey} (hk : k ≠ .node) :
    f.Identifies (k.at x) ↔ f.slotKey = .ok x := by
  have hhost : (k.at x).host = x.host := by cases k <;> rfl
  have hslot : (k.at x).slot? = some x.slot := by cases k <;> trivial
  rw [slotKey_eq_ok_iff, ← hhost]
  constructor
  · intro h
    exact ⟨h.host, h.slot _ hslot⟩
  · rintro ⟨h, hs⟩
    exact ⟨h, fun n hn => Option.some.inj (hslot.symm.trans hn) ▸ hs⟩

theorem decodeAddress_of_keyFieldCount_ne (h : f.fields.length ≠ k.keyFieldCount) :
    f.decodeAddress k = .error (.fieldCount f.token k.keyFieldCount f.fields.length) := by
  have hexpect : f.expect k.keyFieldCount =
      .error (.fieldCount f.token k.keyFieldCount f.fields.length) := if_neg h
  unfold decodeAddress
  rw [hexpect]
  rfl

/-- The frame of an address says the one address that its fields name. -/
theorem decodeAddress_eq_ok_iff : f.decodeAddress k = .ok a ↔
    a.kind = k ∧ f.fields.length = k.keyFieldCount ∧ f.Identifies a := by
  by_cases hcount : f.fields.length = k.keyFieldCount
  case neg =>
    rw [decodeAddress_of_keyFieldCount_ne hcount]
    exact iff_of_false nofun fun h => hcount h.2.1
  simp only [hcount, true_and]
  by_cases hk : k = .node
  · subst hk
    have hread : f.decodeAddress .node = f.field 1 >>= fun s => pure (.node s) :=
      expect_bind hcount
    rw [hread, bind_pure_eq_ok_iff]
    constructor
    · rintro ⟨s, hs, rfl⟩
      exact ⟨rfl, field_eq_ok_iff.1 hs, nofun⟩
    · rintro ⟨hkind, ha⟩
      cases a with
      | node s => exact ⟨s, field_eq_ok_iff.2 ha.host, rfl⟩
      | _ => cases hkind
  · have hread : f.decodeAddress k = f.slotKey >>= fun x => pure (k.at x) := by
      refine (expect_bind hcount).trans ?_
      cases k with
      | node => exact absurd rfl hk
      | _ => rfl
    rw [hread, bind_pure_eq_ok_iff]
    constructor
    · rintro ⟨x, hx, rfl⟩
      exact ⟨by cases k <;> rfl, (identifies_at hk).2 hx⟩
    · rintro ⟨rfl, ha⟩
      obtain ⟨x, hx⟩ : ∃ x, a.kind.at x = a := by
        cases a with
        | node s => exact absurd rfl hk
        | _ x => exact ⟨x, rfl⟩
      exact ⟨x, (identifies_at hk).1 (hx.symm ▸ ha), hx⟩

/-- The first two fields after the token are the first two that say something. -/
theorem exists_says_two {x y : Form} {forms : List Form} {v w : Value} {vs : List Value}
    (h : List.Forall₂ (fun p v => p.1.Says p.2 v) ((x :: y :: forms).zip f.fields.tail)
      (v :: w :: vs)) :
    ∃ s t, f.fields[1]? = some s ∧ f.fields[2]? = some t ∧ x.Says s v ∧ y.Says t w := by
  obtain ⟨_ | ⟨token, _ | ⟨s, _ | ⟨t, rest⟩⟩⟩⟩ := f
  · cases h
  · cases h
  · cases h with
    | cons _ h => cases h
  · cases h with
    | cons hs h =>
      cases h with
      | cons ht _ => exact ⟨s, t, rfl, rfl, hs, ht⟩

/-- A record that is read from a frame has the address that its fields name. -/
theorem identifies_of_decode (h : f.decode k = .ok r) : f.Identifies r.address := by
  obtain ⟨rfl, -, hsays⟩ := decode_eq_ok_iff.1 h
  cases r with
  | node r =>
    obtain ⟨_, _, hs, -, rfl, -⟩ := exists_says_two hsays
    exact ⟨hs, nofun⟩
  | _ r =>
    obtain ⟨_, t, hs, ht, rfl, hslot⟩ := exists_says_two hsays
    refine ⟨hs, ?_⟩
    rintro n ⟨⟩
    exact ⟨t, ht, hslot⟩

theorem address_eq_iff (h : f.decode k = .ok r) (hkind : b.kind = k) (hb : g.Identifies b) :
    b = r.address ↔ f.SameIdentity k g := by
  have hr := identifies_of_decode h
  obtain rfl : r.address.kind = k := kind_of_decode h
  rw [sameIdentity_iff hr]
  constructor
  · rintro rfl
    exact hb
  · intro hg
    exact hb.unique hg hkind

/-- Of the frames of an address, those say the address of a record that name it as the frame
of the record does. -/
theorem decodeAddress_eq_address_iff (h : f.decode k = .ok r) :
    g.decodeAddress k = .ok r.address ↔
      g.fields.length = k.keyFieldCount ∧ f.SameIdentity k g := by
  have hkind : r.address.kind = k := kind_of_decode h
  have hsame : f.SameIdentity k g ↔ g.Identifies r.address := by
    rw [← hkind]
    exact sameIdentity_iff (identifies_of_decode h)
  rw [decodeAddress_eq_ok_iff, hsame]
  exact and_iff_right hkind

end Frame

/-! ## The engine -/

namespace Engine

variable {e : Engine} {f d : Frame} {k l : Kind} {r : Resource}

/-- Without a session nothing has been acknowledged. -/
def Unopened (e : Engine) : Prop := e.subscription.started = false → e.subscription.acks = 0

theorem unopened_after (hs : Handlers) (as : List Action) : ((new hs).after as).Unopened := by
  refine after_induction (P := Unopened) (fun e he a _ => ?_) fun _ => rfl
  cases a with
  | start => exact nofun
  | dispatch f =>
    unfold Unopened act
    rw [subscription_dispatch]
    split
    · exact nofun
    · exact he
  | setHandler => exact he
  | disconnect => exact he

/-- When the fabric is loaded, every kind has been asked for. -/
theorem check_of_isReady (he : e.Unopened) (hr : e.isReady = true) {type : FrameType} {t : Topic}
    (ht : type.topic? = some t) : e.subscription.check type = .ok () := by
  have hacks : Topic.all.length ≤ e.subscription.acks := Subscription.isLoaded_iff.1 hr
  have hlast : t.rank < Topic.all.length := by cases t <;> decide
  refine Subscription.check_of_asked ht ⟨?_, by omega⟩
  by_contra hstarted
  have hzero := he (Bool.eq_false_iff.2 hstarted)
  omega

/-- A frame that deletes another kind of record, or one of another identity, leaves the record
alone. -/
theorem get?_dispatch_of_not_sameIdentity (h : f.decode k = .ok r)
    (ht : d.type = .resource l .delete) (hne : l ≠ k ∨ ¬ f.SameIdentity k d) (e : Engine) :
    (e.dispatch d).engine.store.get? r.address = e.store.get? r.address := by
  refine dispatch_elsewhere fun haddress => ?_
  have hkind : r.address.kind = k := Frame.kind_of_decode h
  cases hd : d.decodeAddress l with
  | error err => simp [Frame.address?, ht, hd, Except.toOption] at haddress
  | ok a =>
    rw [Frame.address?_of_decodeAddress ht hd] at haddress
    cases haddress
    obtain rfl : k = l := hkind.symm.trans (Frame.kind_of_decodeAddress hd)
    exact hne.elim (absurd rfl) (absurd ((Frame.decodeAddress_eq_address_iff h).1 hd).2)

/-- A record that is added when the fabric is loaded is there, and a frame that deletes its
identity takes it away. -/
theorem delete_after_add (he : e.Unopened) (hr : e.isReady = true)
    (hf : f.type = .resource k .add) (h : f.decode k = .ok r) :
    (e.dispatch f).result = .ok () ∧
    (e.dispatch f).engine.store.get? r.address = some r ∧
    ∀ d : Frame, d.type = .resource k .delete → d.fields.length = k.keyFieldCount →
      f.SameIdentity k d →
      ((e.dispatch f).engine.dispatch d).result = .ok () ∧
      ((e.dispatch f).engine.dispatch d).engine.store.get? r.address = none := by
  have hcheck : ∀ {type : FrameType} {op : Operation}, type = .resource k op →
      e.subscription.check type = .ok () := by
    rintro _ op rfl
    exact check_of_isReady he hr rfl
  have hadded : (e.store.put r).get? r.address = some r := by rw [Store.get?_put, if_pos rfl]
  rw [(dispatch_resource (hcheck hf) hf).trans (add_of_decode h)]
  refine ⟨rfl, hadded, ?_⟩
  intro d ht hcount hsame
  have hd := (Frame.decodeAddress_eq_address_iff h).2 ⟨hcount, hsame⟩
  have hdelete := dispatch_resource (e := { e with store := e.store.put r }) (hcheck ht) ht
  rw [stay, hdelete.trans (delete_of_get? hd hadded)]
  refine ⟨rfl, ?_⟩
  exact (Store.get?_erase ..).trans (if_pos rfl)

/-- A frame that deletes says the address of a record just when it names the host of the frame
that the record was read from and, in any spelling, its slot. A frame that adds or updates does
likewise. So in a loaded session what is added can be deleted that way, always, and is then gone.
A frame that deletes another host, another slot or another kind never touches it. -/
theorem a_record_goes_by_the_identity_it_came_with {k : Kind} {f : Frame} {r : Resource}
    (h : f.decode k = .ok r) :
    (∀ d : Frame, d.decodeAddress k = .ok r.address ↔
      d.fields.length = k.keyFieldCount ∧ f.SameIdentity k d) ∧
    (∀ d : Frame, d.decodeAddress k = .ok r.address → d.Identifies r.address) ∧
    (∀ (g : Frame) (s : Resource), g.decode k = .ok s →
      (s.address = r.address ↔ f.SameIdentity k g)) ∧
    (∀ (d : Frame) (l : Kind), d.type = .resource l .delete → l ≠ k ∨ ¬ f.SameIdentity k d →
      ∀ e : Engine, (e.dispatch d).engine.store.get? r.address = e.store.get? r.address) ∧
    ∀ (hs : Handlers) (as : List Action),
      let e := (new hs).after as
      let added := e.dispatch f
      e.isReady = true → f.type = .resource k .add →
        added.result = .ok () ∧ added.engine.store.get? r.address = some r ∧
        ∀ d : Frame, d.type = .resource k .delete → d.fields.length = k.keyFieldCount →
          f.SameIdentity k d →
          (added.engine.dispatch d).result = .ok () ∧
          (added.engine.dispatch d).engine.store.get? r.address = none := by
  refine ⟨fun d => Frame.decodeAddress_eq_address_iff h, ?_, ?_, ?_, ?_⟩
  · intro d hd
    exact (Frame.decodeAddress_eq_ok_iff.1 hd).2.2
  · intro g s hg
    exact Frame.address_eq_iff h (Frame.kind_of_decode hg) (Frame.identifies_of_decode hg)
  · intro d l ht hne e
    exact get?_dispatch_of_not_sameIdentity h ht hne e
  · intro hs as e added hr hf
    exact delete_after_add (unopened_after hs as) hr hf h

/-- A source comes with its slot written 007. A frame that deletes slot 8 leaves it there, and
one that deletes slot +7 takes it away. -/
theorem a_source_at_007_goes_by_plus_7 :
    let f : Frame := ⟨["SRCADD", "a", "007", "stage", "239.0.0.1", "mic", "1", "2", "48"]⟩
    let r : Resource := .source ⟨"a", 7, "stage", "239.0.0.1", "mic", true, 2, 48⟩
    let d : Frame := ⟨["SRCDEL", "a", "+7"]⟩
    let other : Frame := ⟨["SRCDEL", "a", "8"]⟩
    let e := (new Handlers.none).after (.start :: List.replicate 7 (.dispatch ⟨["ok"]⟩))
    let added := e.dispatch f
    f.decode .source = .ok r ∧ d.decodeAddress .source = .ok r.address ∧
    e.isReady = true ∧ added.result = .ok () ∧
    (added.engine.dispatch other).engine.store.get? r.address = some r ∧
    (added.engine.dispatch d).result = .ok () ∧
    (added.engine.dispatch d).engine.store.get? r.address = none := by
  intro f r d other e added
  have h : f.decode .source = .ok r := rfl
  have hseven : Numeral.Denotes "007" 7 := Numeral.word?_eq_some_iff (n := 7).1 (by decide)
  have hplus : Numeral.Denotes "+7" 7 := Numeral.word?_eq_some_iff (n := 7).1 (by decide)
  have height : Numeral.Denotes "8" 8 := Numeral.word?_eq_some_iff (n := 8).1 (by decide)
  have hsame : f.SameIdentity .source d :=
    ⟨rfl, fun _ => ⟨"007", "+7", 7, rfl, rfl, hseven, hplus⟩⟩
  have hother : ¬ f.SameIdentity .source other := by
    intro hsame
    obtain ⟨s, t, n, hs, ht, hsn, htn⟩ := hsame.slot nofun
    cases hs
    cases ht
    cases (hseven.unique hsn).trans (htn.unique height)
  obtain ⟨haddress, -, -, hleft, hsession⟩ := a_record_goes_by_the_identity_it_came_with h
  have hr : e.isReady = true := by decide
  obtain ⟨hok, hthere, hgone⟩ := hsession Handlers.none _ hr (by decide)
  obtain ⟨hdeleted, hnone⟩ := hgone d (by decide) rfl hsame
  have hkept := hleft other .source (by decide) (.inr hother) added.engine
  exact ⟨h, (haddress d).2 ⟨rfl, hsame⟩, hr, hok, hkept.trans hthere, hdeleted, hnone⟩

end Engine

end Patchbay
