-- The image of a record in JSON is faithful: records are equal just if their images are the same,
-- in whatever order the members stand. The image has the kind and each field under its name, and
-- so two records differ in their images wherever they differ.
import Mathlib.Data.List.Nodup
import Patchbay.Proofs.Frame.Acceptance
import Patchbay.Proofs.Resource

namespace Patchbay

/-! ## Members in any order -/

namespace Json

/-- A member stands before another by the order of their names. -/
def before (m n : String × Json) : Bool := m.1 ≤ n.1

mutual

/-- The value with the members of each object put in the order of their names. -/
def ordered : Json → Json
  | array items => array (orderedItems items)
  | object members => object ((orderedMembers members).mergeSort before)
  | v => v

def orderedItems : List Json → List Json
  | [] => []
  | v :: vs => v.ordered :: orderedItems vs

def orderedMembers : List (String × Json) → List (String × Json)
  | [] => []
  | (name, v) :: ms => (name, v.ordered) :: orderedMembers ms

end

/-- The values are the same, in whatever order the members of objects stand. -/
def Same (v w : Json) : Prop := v.ordered = w.ordered

theorem orderedMembers_eq_map (ms : List (String × Json)) :
    orderedMembers ms = ms.map fun m => (m.1, m.2.ordered) := by
  induction ms with
  | nil => rfl
  | cons m ms ih => rw [orderedMembers, ih, List.map_cons]

theorem before_iff {m n : String × Json} : before m n ↔ m.1 ≤ n.1 := decide_eq_true_iff

theorem pairwise_mergeSort_before (ms : List (String × Json)) :
    (ms.mergeSort before).Pairwise fun m n => before m n := by
  apply List.pairwise_mergeSort
  · intro l m n
    simp only [before_iff]
    exact String.le_trans
  · intro m n
    simp only [Bool.or_eq_true, before_iff]
    exact String.le_total m.1 n.1

/-- Members that stand in order stay where they are. -/
theorem ordered_object {ms : List (String × Json)} (h : ms.Pairwise fun m n => before m n)
    (hms : ∀ m ∈ ms, m.2.ordered = m.2) : (object ms).ordered = object ms := by
  have hmap : ms.map (fun m => (m.1, m.2.ordered)) = ms.map id :=
    List.map_congr_left fun m hm => congrArg (m.1, ·) (hms m hm)
  rw [ordered, orderedMembers_eq_map, hmap, List.map_id, List.mergeSort_of_pairwise h]

/-- The order of members does not count, where no name stands twice. -/
theorem same_of_perm {ms ns : List (String × Json)} (h : ms.Perm ns)
    (hnames : (ms.map Prod.fst).Nodup) : (object ms).Same (object ns) := by
  have hmembers : (orderedMembers ms).Perm (orderedMembers ns) := by
    rw [orderedMembers_eq_map, orderedMembers_eq_map]
    exact h.map _
  have hperm := (List.mergeSort_perm (orderedMembers ms) before).trans
    (hmembers.trans (List.mergeSort_perm (orderedMembers ns) before).symm)
  have hunique : ((orderedMembers ms).map Prod.fst).Nodup := by
    rwa [orderedMembers_eq_map, List.map_map]
  rw [Same, ordered, ordered]
  apply congrArg object
  refine hperm.eq_of_pairwise (fun m n hm hn hmn hnm => ?_)
    (pairwise_mergeSort_before _) (pairwise_mergeSort_before _)
  have hm' := List.mem_mergeSort.1 hm
  have hn' := hmembers.mem_iff.2 (List.mem_mergeSort.1 hn)
  exact List.inj_on_of_nodup_map hunique hm' hn'
    (String.le_antisymm (before_iff.1 hmn) (before_iff.1 hnm))

theorem same_of_mem_iff {ms ns : List (String × Json)} (hms : (ms.map Prod.fst).Nodup)
    (hns : (ns.map Prod.fst).Nodup) (h : ∀ m, m ∈ ms ↔ m ∈ ns) : (object ms).Same (object ns) :=
  same_of_perm ((List.perm_ext_iff_of_nodup hms.of_map hns.of_map).2 h) hms

end Json

/-! ## The fields of a record -/

/-- The names of the fields, in order. -/
def Kind.fieldNames : Kind → List String
  | node => ["host_address", "host_name", "device_name", "source_slots", "destination_slots",
      "gpi_slots", "gpo_slots"]
  | source => ["host_address", "slot_number", "host_name", "stream_address", "name",
      "stream_enabled", "channel_count", "block_size"]
  | destination => ["host_address", "slot_number", "host_name", "stream_address", "name",
      "channel_count"]
  | gpioInput => ["host_address", "slot_number", "host_name", "code"]
  | gpioOutput => ["host_address", "slot_number", "host_name", "code", "name", "source_address",
      "source_slot"]

/-- What a field holds, in JSON. -/
def Value.toJson : Value → Json
  | text s => .string s
  | flag b => .bool b
  | number n => .word n
  | code c => .string c.text
  | sourceSlot none => .null
  | sourceSlot (some n) => .word n

namespace Resource

/-- The fields of a record, with their names. -/
def named (r : Resource) : List (String × Value) := r.kind.fieldNames.zip r.values

/-- A kind and fields, in JSON. -/
def image (k : Kind) (fields : List (String × Value)) : Json := .object [
  ("kind", .string k.name),
  ("record", .object (fields.map fun f => (f.1, f.2.toJson)))]

theorem nodup_named (r : Resource) : (r.named.map Prod.fst).Nodup := by
  cases r <;> simp +decide [named, Kind.fieldNames, values, kind, address, Address.kind]

/-- The fields of a record stand in order in its JSON. -/
theorem ordered_plainJson (r : Resource) : r.plainJson.ordered = r.plainJson := by
  -- The slot that an output follows is null or a number, which is a case each.
  rcases r with r | r | r | r | ⟨_, _, _, _, _, _, _ | _⟩ <;> apply Json.ordered_object <;>
    simp +decide [Json.before_iff, Json.word, Json.ordered]

theorem ordered_toJson (r : Resource) : r.toJson.ordered = r.toJson := by
  apply Json.ordered_object <;> simp +decide [Json.before_iff, Json.ordered, ordered_plainJson]

/-- The JSON of a record has its fields under their names and nothing else. -/
theorem same_plainJson (r : Resource) :
    r.plainJson.Same (.object (r.named.map fun f => (f.1, f.2.toJson))) := by
  have hnames : ((r.named.map fun f => (f.1, f.2.toJson)).map Prod.fst).Nodup := by
    rw [List.map_map]
    exact r.nodup_named
  rcases r with r | r | r | r | ⟨_, _, _, _, _, _, _ | _⟩
  all_goals
    refine Json.same_of_mem_iff (by simp +decide) hnames fun m => ?_
    simp only [named, Kind.fieldNames, values, kind, address, Address.kind, Value.toJson,
      List.zip_cons_cons, List.zip_nil_left, List.map_cons, List.map_nil, List.mem_cons]
    grind

theorem same_image (r : Resource) : r.toJson.Same (image r.kind r.named) := by
  have hplain : r.plainJson.ordered = _ := r.same_plainJson
  simp only [Json.Same, image, toJson, Json.ordered, Json.orderedMembers, hplain]

/-! ## Equality -/

variable {a b : Resource}

theorem same_toJson_iff : a.toJson.Same b.toJson ↔ a = b := by
  rw [Json.Same, ordered_toJson, ordered_toJson]
  exact ⟨toJson_inj, congrArg toJson⟩

/-- Kind and fields are all there is to a record. -/
theorem eq_iff_kind_named : a = b ↔ a.kind = b.kind ∧ a.named = b.named := by
  constructor
  · rintro rfl
    exact ⟨rfl, rfl⟩
  · rintro ⟨hkind, hnamed⟩
    have ha := a.same_image
    rw [hkind, hnamed] at ha
    exact same_toJson_iff.1 (ha.trans b.same_image.symm)

/-- A record has one value under a name. -/
theorem value_unique {r : Resource} {name : String} {v w : Value} (hv : (name, v) ∈ r.named)
    (hw : (name, w) ∈ r.named) : v = w :=
  congrArg Prod.snd (List.inj_on_of_nodup_map r.nodup_named hv hw rfl)

/-- The JSON of a record is its kind and its fields under their names. Two records are equal just
if they have the same JSON, in whatever order the members stand, and just if kind and fields are
the same. Another kind or another value in a single field is another record and other JSON. -/
theorem records_are_equal_just_if_their_images_are (a b : Resource) :
    a.toJson.Same (image a.kind a.named) ∧
    (a.toJson.Same b.toJson ↔ a = b) ∧ (a.toJson = b.toJson ↔ a = b) ∧
    (a = b ↔ a.kind = b.kind ∧ a.named = b.named) ∧
    (a.kind ≠ b.kind → a ≠ b ∧ ¬ a.toJson.Same b.toJson) ∧
    ∀ name v w, (name, v) ∈ a.named → (name, w) ∈ b.named → v ≠ w →
      a ≠ b ∧ ¬ a.toJson.Same b.toJson := by
  refine ⟨a.same_image, same_toJson_iff, ⟨toJson_inj, congrArg toJson⟩, eq_iff_kind_named, ?_, ?_⟩
  · intro hkind
    have hne : a ≠ b := fun h => hkind (congrArg kind h)
    exact ⟨hne, fun h => hne (same_toJson_iff.1 h)⟩
  · intro name v w hv hw hvw
    have hne : a ≠ b := by
      rintro rfl
      exact hvw (value_unique hv hw)
    exact ⟨hne, fun h => hne (same_toJson_iff.1 h)⟩

/-- An output with another name, with another host to follow but no slot there, and with slot
nought to follow, and an input with all that the two kinds have in common. -/
theorem single_changes_of_an_output_show :
    let code : LineCode := ⟨"hhhhh", rfl, List.all_eq_true.1 rfl⟩
    let output (name host : String) (slot : Option UInt32) : Resource :=
      .gpioOutput ⟨"10.0.0.1", 3, "studio", code, name, host, slot⟩
    let input : Resource := .gpioInput ⟨"10.0.0.1", 3, "studio", code⟩
    let still := output "" "" none
    ∀ r ∈ [output "lamp" "" none, output "" "10.0.0.2" none, output "" "" (some 0), input],
      still ≠ r ∧ ¬ still.toJson.Same r.toJson := by
  intro code output input still r hr
  obtain ⟨-, -, -, -, hkinds, hfields⟩ := records_are_equal_just_if_their_images_are still r
  have hname : ("name", .text "") ∈ still.named := List.mem_of_getElem? (i := 4) rfl
  have hhost : ("source_address", .text "") ∈ still.named := List.mem_of_getElem? (i := 5) rfl
  have hslot : ("source_slot", .sourceSlot none) ∈ still.named := List.mem_of_getElem? (i := 6) rfl
  simp only [List.mem_cons, List.not_mem_nil, or_false] at hr
  rcases hr with rfl | rfl | rfl | rfl
  · exact hfields _ _ (.text "lamp") hname (List.mem_of_getElem? (i := 4) rfl) (by simp)
  · exact hfields _ _ (.text "10.0.0.2") hhost (List.mem_of_getElem? (i := 5) rfl) (by simp)
  · exact hfields _ _ (.sourceSlot (some 0)) hslot (List.mem_of_getElem? (i := 6) rfl) (by simp)
  · exact hkinds nofun

end Resource

end Patchbay
