-- What is in a store after any calls that change it: under each address the record
-- that was put there last, unless it was taken away since. A call that needs a
-- record fails where there is none, and does nothing.
import Mathlib.Data.List.Induction
import Patchbay.Proofs.Store.Tables

namespace Patchbay

/-! ## Changes -/

/-- A call that changes a store. -/
inductive Change where
  | insert (r : Resource)
  | replace (r : Resource)
  | remove (a : Address)

namespace Change

def address : Change → Address
  | insert r | replace r => r.address
  | remove a => a

/-- The record that is to stand under the address afterwards. -/
def record? : Change → Option Resource
  | insert r | replace r => some r
  | remove _ => none

/-- Whether the call is right where there is no record. -/
def isInsert : Change → Bool
  | insert _ => true
  | _ => false

end Change

namespace Store

/-- What a call hands out, and the store that it leaves. -/
def change (s : Store) : Change → Except Fault (Option Resource) × Store
  | .insert r => (.ok (s.insert r).1, (s.insert r).2)
  | .replace r =>
    match s.replace r with
    | .ok (old, next) => (.ok (some old), next)
    | .error err => (.error err, s)
  | .remove a =>
    match s.remove a with
    | .ok (old, next) => (.ok (some old), next)
    | .error err => (.error err, s)

/-- The store after some calls. -/
def after (s : Store) (cs : List Change) : Store := cs.foldl (fun s c => (s.change c).2) s

/-- Those of some calls that succeed, in order. -/
def done (s : Store) : List Change → List Change
  | [] => []
  | c :: cs =>
    if (s.change c).1.isOk then c :: (s.change c).2.done cs else (s.change c).2.done cs

/-- What the last of some changes to an address leaves there. -/
def latest (cs : List Change) (a : Address) : Option Resource :=
  (cs.filter (·.address = a)).getLast?.bind Change.record?

/-! ## One call -/

theorem change_replace (s : Store) (r : Resource) : s.change (.replace r) =
    if s.contains r.address then (.ok (s.get? r.address), s.put r)
    else (.error (.notFound r.address), s) := by
  cases h : s.get? r.address with
  | none =>
    simp only [change, replace, get, contains, h]
    rfl
  | some old =>
    rw [← overwrite_eq_put h]
    simp only [change, replace, get, contains, h]
    rfl

theorem change_remove (s : Store) (a : Address) : s.change (.remove a) =
    if s.contains a then (.ok (s.get? a), s.erase a) else (.error (.notFound a), s) := by
  cases h : s.get? a <;> simp only [change, remove, get, contains, h] <;> rfl

/-- How a call can come out. -/
inductive Outcome (s : Store) (c : Change) : Except Fault (Option Resource) × Store → Prop where
  | made {next : Store} (ready : c.isInsert = true ∨ s.contains c.address = true)
      (left : next.get? = Function.update s.get? c.address c.record?) :
      Outcome s c (.ok (s.get? c.address), next)
  | refused (needs : c.isInsert = false) (missing : s.contains c.address = false) :
      Outcome s c (.error (.notFound c.address), s)

theorem outcome (s : Store) (c : Change) : s.Outcome c (s.change c) := by
  cases c with
  | insert r => exact .made (Or.inl rfl) (s.get?_put_eq r)
  | replace r =>
    rw [change_replace]
    split
    · next h => exact .made (Or.inr h) (s.get?_put_eq r)
    · next h => exact .refused rfl (Bool.eq_false_iff.2 h)
  | remove a =>
    rw [change_remove]
    split
    · next h => exact .made (Or.inr h) (s.get?_erase_eq a)
    · next h => exact .refused rfl (Bool.eq_false_iff.2 h)

/-- What can be relied on in one call, by what it hands out and the store that it leaves. -/
structure Answers (s : Store) (c : Change) (t : Except Fault (Option Resource) × Store) : Prop where
  /-- A call hands out the record that it finds, and fails only when it needs one and there
  is none. -/
  answer : t.1 =
    if c.isInsert = true ∨ s.contains c.address = true then .ok (s.get? c.address)
    else .error (.notFound c.address)
  failed : ∀ err, t.1 = .error err → t.2 = s
  left : ∀ old, t.1 = .ok old → t.2.get? c.address = c.record?
  others : ∀ a, a ≠ c.address → t.2.get? a = s.get? a
  otherTables : ∀ k, k ≠ c.address.kind → t.2.ofKind k = s.ofKind k

theorem Outcome.answers {s : Store} {c : Change} {t : Except Fault (Option Resource) × Store}
    (h : s.Outcome c t) : s.Answers c t := by
  have hothers : ∀ a, a ≠ c.address → t.2.get? a = s.get? a := by
    intro a ha
    cases h with
    | made _ left =>
      rw [left]
      exact Function.update_of_ne ha ..
    | refused => rfl
  constructor
  · cases h with
    | made ready => rw [if_pos ready]
    | refused needs missing => simp [needs, missing]
  · intro err herr
    cases h with
    | made => cases herr
    | refused => rfl
  · intro old hold
    cases h with
    | made _ left =>
      rw [left]
      exact Function.update_self ..
    | refused => cases hold
  · exact hothers
  · intro k hk
    apply ofKind_eq_of_get?
    intro a ha
    apply hothers
    rintro rfl
    exact hk ha.symm

/-! ## All calls -/

theorem after_concat (s : Store) (cs : List Change) (c : Change) :
    s.after (cs ++ [c]) = ((s.after cs).change c).2 := by
  simp [after]

theorem done_concat (s : Store) (cs : List Change) (c : Change) :
    s.done (cs ++ [c]) = s.done cs ++ if ((s.after cs).change c).1.isOk then [c] else [] := by
  induction cs generalizing s with
  | nil => rfl
  | cons d cs ih =>
    simp only [List.cons_append, done, ih]
    split <;> rfl

theorem latest_concat (cs : List Change) (c : Change) (a : Address) :
    latest (cs ++ [c]) a = if c.address = a then c.record? else latest cs a := by
  unfold latest
  rw [List.filter_append]
  by_cases h : c.address = a <;> simp [h]

/-- A store that was empty has under each address what the last call left there that
succeeded. -/
theorem get?_after (cs : List Change) : (empty.after cs).get? = latest (empty.done cs) := by
  induction cs using List.reverseRecOn with
  | nil => rfl
  | append_singleton cs c ih =>
    rw [after_concat, done_concat]
    have h := (empty.after cs).outcome c
    generalize (empty.after cs).change c = t at h ⊢
    cases h with
    | made _ left =>
      funext a
      simp only [Except.isOk, Except.toBool, if_true]
      rw [left, latest_concat, Function.update_apply, ih]
      simp only [eq_comm]
    | refused =>
      rw [ih]
      exact congrArg latest (List.append_nil _).symm

/-- Whatever calls change a new store, each kind of record is a sorted table in it, and under
each address stands what the last call left there that succeeded. Where that is nothing, a
fault tells the kind and the key. One call more hands out the record that it finds and changes
that one alone, or else it fails since it needs a record, and changes nothing. -/
theorem calls_keep_five_sorted_tables (cs : List Change) :
    let s := empty.after cs
    s.Tables ∧
    (∀ a, s.get? a = latest (empty.done cs) a ∧
      s.get a = (match latest (empty.done cs) a with
        | some r => .ok r
        | none => .error (.notFound a)) ∧
      (Fault.notFound a).message = s!"{a.kind.text} not found: {a.keyText}") ∧
    ∀ c, s.Answers c (s.change c) := by
  intro s
  have hget : s.get? = latest (empty.done cs) := get?_after cs
  refine ⟨s.tables, ?_, fun c => (s.outcome c).answers⟩
  intro a
  rw [← hget]
  exact ⟨rfl, rfl, rfl⟩

/-- Hosts stand in the order of their bytes, not of any alphabet. -/
example :
    let node (host : String) : Change := .insert (.node ⟨host, "", "", 0, 0, 0, 0⟩)
    (empty.after [node "é", node "z", node "Z", .remove (.node "a"), node "é"]).keys .node =
      [.node "Z", .node "z", .node "é"] := by
  decide

end Store

end Patchbay
