import MirrorECMA.ECMA.Alike
import MirrorECMA.Schedule.Evidence

namespace Mirror.Schedule

open ECMA ECMA.Json

theorem tagItems_eq (items : List Json) : tagItems items = items.map tag := eq_map rfl (fun _ _ => rfl) items

theorem tagFields_eq (fields : List (JsString × Json)) : tagFields fields = fields.map fun field => (field.1, tag field.2) :=
  eq_map rfl (fun _ _ => rfl) fields

def tagEntry (entry : JsString × Json) : Json := .array [.string entry.1, entry.2]

theorem tag_array (items : List Json) : tag (.array items) = .array [.string (js "array"), .array (items.map tag)] := by
  show Json.array [.string (js "array"), .array (tagItems items)] = _
  rw [tagItems_eq]

theorem tag_object (fields : Fields Json) : tag (.object fields) = .array [.string (js "object"),
    .array ((sort (fun a b => utf8 a.1 b.1) (fields.map fun field => (field.1, tag field.2))).map tagEntry)] := by
  show Json.array [.string (js "object"), .array ((sort (fun a b => utf8 a.1 b.1) (tagFields fields)).map tagEntry)] = _
  rw [tagFields_eq]

/-- The tagged form of an object has no object. -/
theorem tag_keysDistinct (json : Json) : (tag json).KeysDistinct := by
  have named (name : String) {v : Json} (inner : v.KeysDistinct) : (Json.array [.string (js name), v]).KeysDistinct :=
    .array (List.forall_mem_cons.mpr ⟨.string _, List.forall_mem_singleton.mpr inner⟩)
  induction json using children_induct with
  | null => exact .array (List.forall_mem_singleton.mpr (.string _))
  | bool b => exact named "boolean" (.bool b)
  | number d => exact named "number" (.number d)
  | string s => exact named "string" (.string s)
  | array items ih =>
    rw [tag_array]
    exact named "array" (.array (List.forall_mem_map.mpr ih))
  | object fields ih =>
    rw [tag_object]
    refine named "object" (.array (List.forall_mem_map.mpr fun entry member => ?_))
    rcases List.mem_map.mp (mem_sort.mp member) with ⟨field, inside, rfl⟩
    exact .array (List.forall_mem_cons.mpr ⟨.string _, List.forall_mem_singleton.mpr (ih field inside)⟩)

theorem tag_everyNumber {p : Double → Prop} {json : Json} (every : json.EveryNumber p) : (tag json).EveryNumber p := by
  have named (name : String) {v : Json} (inner : v.EveryNumber p) : (Json.array [.string (js name), v]).EveryNumber p :=
    .array (List.forall_mem_cons.mpr ⟨.string _, List.forall_mem_singleton.mpr inner⟩)
  induction every with
  | null => exact .array (List.forall_mem_singleton.mpr (.string _))
  | bool b => exact named "boolean" (.bool b)
  | number holds => exact named "number" (.number holds)
  | string s => exact named "string" (.string s)
  | array _ ih =>
    rw [tag_array]
    exact named "array" (.array (List.forall_mem_map.mpr ih))
  | object _ ih =>
    rw [tag_object]
    refine named "object" (.array (List.forall_mem_map.mpr fun entry member => ?_))
    rcases List.mem_map.mp (mem_sort.mp member) with ⟨field, inside, rfl⟩
    exact .array (List.forall_mem_cons.mpr ⟨.string _, List.forall_mem_singleton.mpr (ih field inside)⟩)

/-- Normal forms are tagged alike. -/
theorem tag_normal {json : Json} (finite : json.Finite) : (tag json).normal = tag json.normal := by
  induction finite with
  | null => rfl
  | bool b => rfl
  | number finite =>
    rw [normal_number finite, tag, tag, normal_array, List.map_cons, List.map_singleton, normal_number finite]
    rfl
  | string s => rfl
  | @array items _ ih =>
    have each : items.map (Json.normal ∘ tag) = items.map (tag ∘ Json.normal) := List.map_congr_left ih
    rw [normal_array, tag_array, tag_array, normal_array, List.map_cons, List.map_singleton, normal_array, List.map_map,
      List.map_map, each]
    rfl
  | @object fields _ ih =>
    have each : fields.map ((fun field : JsString × Json => (field.1, field.2.normal)) ∘ fun field => (field.1, tag field.2)) =
        fields.map ((fun field => (field.1, tag field.2)) ∘ fun field => (field.1, field.2.normal)) :=
      List.map_congr_left fun field member => Prod.ext rfl (ih field member)
    have entries : Json.normal ∘ tagEntry = tagEntry ∘ fun field => (field.1, field.2.normal) := by
      funext entry
      rw [Function.comp_apply, tagEntry, normal_array]
      rfl
    have mapped := sort_map (fun a b : JsString × Json => utf8 a.1 b.1) (fun field => (field.1, field.2.normal))
      (fields.map fun field => (field.1, tag field.2))
    rw [List.map_map] at mapped
    rw [normal_object, tag_object, tag_object, normal_array, List.map_cons, List.map_singleton, normal_array, List.map_map,
      entries, ← List.map_map, ← mapped, each, List.map_map]
    rfl

theorem tagEntry_injective : Function.Injective tagEntry := by
  intro first second same
  simp only [tagEntry, array.injEq, List.cons.injEq, string.injEq, and_true] at same
  exact Prod.ext same.1 same.2

theorem alike_of_tag {a b : Json} (finite : a.Finite) (otherFinite : b.Finite) (same : tag a.normal = tag b.normal) :
    a.Alike b := by
  induction finite generalizing b with
  | null =>
    cases otherFinite with
    | null => exact .null
    | _ => simp_all [tag, normal]
  | bool x =>
    cases otherFinite with
    | bool y =>
      simp only [tag, normal, array.injEq, List.cons.injEq, bool.injEq, and_true, true_and] at same
      exact same ▸ .bool x
    | _ => simp_all [tag, normal]
  | @number d finite =>
    cases otherFinite with
    | number otherFinite =>
      rw [normal_number finite, normal_number otherFinite] at same
      simp only [tag, array.injEq, List.cons.injEq, number.injEq, and_true, true_and] at same
      exact .number same
    | _ => simp_all [tag, normal]
  | string s =>
    cases otherFinite with
    | string t =>
      simp only [tag, normal, array.injEq, List.cons.injEq, string.injEq, and_true, true_and] at same
      exact same ▸ .string s
    | _ => simp_all [tag, normal]
  | @array items _ ih =>
    cases otherFinite with
    | @array others otherFinite =>
      rw [normal_array, normal_array, tag_array, tag_array, List.map_map, List.map_map] at same
      simp only [array.injEq, List.cons.injEq, and_true, true_and] at same
      rcases exists_pairs same with ⟨pairs, rfl, rfl, each⟩
      exact .array fun p member =>
        ih p.1 (List.mem_map_of_mem member) (otherFinite p.2 (List.mem_map_of_mem member)) (each p member)
    | _ => simp_all [tag, normal]
  | @object fields _ ih =>
    cases otherFinite with
    | @object others otherFinite =>
      rw [normal_object, normal_object, tag_object, tag_object, List.map_map, List.map_map] at same
      simp only [array.injEq, List.cons.injEq, and_true, true_and] at same
      rcases exists_pairs_of_perm (perm_of_sort_eq (tagEntry_injective.list_map same)) with ⟨pairs, first, second, each⟩
      have parts (p) (member : p ∈ pairs) : p.1.1 = p.2.1 ∧ tag p.1.2.normal = tag p.2.2.normal :=
        Prod.ext_iff.mp (each p member)
      exact .object (fun p member => (parts p member).1) (fun p member => ih p.1 (mem_of_pairs first member)
        (otherFinite p.2 (second.subset (List.mem_map_of_mem member))) (parts p member).2) first second
    | _ => simp_all [tag, normal]

theorem tag_portable [NumberConversion] {json : Json} (portable : Portable json) : Portable (tag json) :=
  ⟨tag_keysDistinct json, tag_everyNumber portable.literal, tag_everyNumber portable.finite⟩

section

variable [NumberRoundTrip]

theorem stable_normal {json : Json} (finite : json.Finite) : stable (some json.normal) = stable (some json) := by
  unfold stable
  dsimp only
  rw [← tag_normal finite, Grammar.stringify_normal]

/-- Values with one stable text are equal but for the order of properties. -/
theorem alike_of_stable {a b : Json} (portable : Portable a) (other : Portable b) (same : stable (some a) = stable (some b)) :
    a.Alike b := by
  have read := normal_of_stringify (tag_portable portable) (tag_portable other) same
  rw [tag_normal portable.finite, tag_normal other.finite] at read
  exact alike_of_tag portable.finite other.finite read

/-- No value has the stable text of `undefined`. -/
theorem stable_undefined {json : Json} (portable : Portable json) : stable none ≠ stable (some json) := by
  intro same
  have read := normal_of_stringify (.array (List.forall_mem_cons.mpr ⟨.string _, List.forall_mem_singleton.mpr .null⟩))
    (tag_portable portable) same
  cases json <;> simp [tag, normal] at read

end

end Mirror.Schedule
