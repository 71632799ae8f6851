import MirrorECMA.ECMA.CodeUnitOrder
import MirrorECMA.ECMA.Measures

namespace ECMA

namespace Json

/-- Equal as values of the language, with objects compared as finite maps and `-0` equal to 0. -/
inductive Alike : Json → Json → Prop
  | null : Alike .null .null
  | bool (b : Bool) : Alike (.bool b) (.bool b)
  | number {d e : Double} : d.unsigned = e.unsigned → Alike (.number d) (.number e)
  | string (s : JsString) : Alike (.string s) (.string s)
  | array {pairs : List (Json × Json)} : (∀ p ∈ pairs, Alike p.1 p.2) →
    Alike (.array (pairs.map Prod.fst)) (.array (pairs.map Prod.snd))
  | object {pairs : List ((JsString × Json) × (JsString × Json))} {xs ys : Fields Json} :
    (∀ p ∈ pairs, p.1.1 = p.2.1) → (∀ p ∈ pairs, Alike p.1.2 p.2.2) → (pairs.map Prod.fst).Perm xs →
    (pairs.map Prod.snd).Perm ys → Alike (.object xs) (.object ys)

theorem alike_string {s : JsString} {b : Json} : (string s).Alike b ↔ b = .string s := by
  constructor
  · intro same
    cases same
    rfl
  · intro same
    subst same
    exact .string s

theorem alike_number {d e : Double} : (number d).Alike (number e) ↔ d.unsigned = e.unsigned := by
  constructor
  · intro same
    cases same
    assumption
  · exact .number

theorem Alike.symm {a b : Json} (same : a.Alike b) : b.Alike a := by
  induction same with
  | null => exact .null
  | bool b => exact .bool b
  | number numbers => exact .number numbers.symm
  | string s => exact .string s
  | @array pairs _ ih =>
    have swapped := Alike.array (List.forall_mem_map.mpr ih : ∀ p ∈ pairs.map Prod.swap, Alike p.1 p.2)
    rw [List.map_map, List.map_map] at swapped
    exact swapped
  | @object pairs xs ys names _ first second ih =>
    refine @Alike.object (pairs.map Prod.swap) ys xs (List.forall_mem_map.mpr fun p member => (names p member).symm)
      (List.forall_mem_map.mpr ih) ?_ ?_
    · rw [List.map_map]
      exact second
    · rw [List.map_map]
      exact first

/-- Objects that are alike have the same properties, with values that are alike. -/
theorem Alike.get {xs ys : Fields Json} (same : (Json.object xs).Alike (.object ys)) (distinct : Fields.Distinct xs)
    (key : JsString) : Option.Rel Alike (Fields.get xs key) (Fields.get ys key) := by
  cases same with
  | @object pairs _ _ names values first second =>
    have keys : (Fields.keys xs).Perm (Fields.keys ys) := images_perm first second names
    have otherDistinct : Fields.Distinct ys := keys.nodup_iff.mp distinct
    cases found : Fields.get xs key with
    | none =>
      have absent : key ∉ Fields.keys ys := fun member => Fields.get_eq_none.mp found (keys.mem_iff.mpr member)
      rw [Fields.get_eq_none.mpr absent]
      exact .none
    | some value =>
      rcases List.mem_map.mp (first.symm.subset (Fields.mem_of_get found)) with ⟨p, member, own⟩
      have value' : (p.2.1, p.2.2) ∈ ys := second.subset (List.mem_map_of_mem member)
      have name := names p member
      have alike := values p member
      rw [own] at name alike
      subst name
      rw [Fields.get_of_mem otherDistinct value']
      exact .some alike

def Finite (json : Json) : Prop := json.EveryNumber fun d => d.isFinite = true

mutual

/-- The properties of every object in the order of their keys. -/
def sorted : Json → Json
  | .array items => .array (sortedItems items)
  | .object fields => .object (sort (fun a b => compareCodeUnits a.1 b.1) (sortedFields fields))
  | .null => .null
  | .bool b => .bool b
  | .number d => .number d
  | .string s => .string s

def sortedItems : List Json → List Json
  | [] => []
  | item :: rest => sorted item :: sortedItems rest

def sortedFields : List (JsString × Json) → List (JsString × Json)
  | [] => []
  | (key, value) :: rest => (key, sorted value) :: sortedFields rest

end

@[simp] theorem sortedItems_eq (items : List Json) : sortedItems items = items.map sorted :=
  eq_map rfl (fun _ _ => rfl) items

@[simp] theorem sortedFields_eq (fields : List (JsString × Json)) :
    sortedFields fields = fields.map fun field => (field.1, sorted field.2) :=
  eq_map rfl (fun _ _ => rfl) fields

theorem sorted_array (items : List Json) : (array items).sorted = .array (items.map sorted) := by
  rw [sorted, sortedItems_eq]

theorem sorted_object (fields : Fields Json) : (object fields).sorted =
    .object (sort (fun a b => compareCodeUnits a.1 b.1) (fields.map fun field => (field.1, sorted field.2))) := by
  rw [sorted, sortedFields_eq]

theorem normal_number {d : Double} (finite : d.isFinite = true) : (number d).normal = .number d.unsigned := by
  rw [normal, if_pos finite]

theorem normal_array (items : List Json) : (array items).normal = .array (items.map normal) := by
  rw [normal, normalItems_eq]

theorem normal_object (fields : Fields Json) :
    (object fields).normal = .object (fields.map fun field => (field.1, normal field.2)) := by
  rw [normal, normalFields_eq]

theorem finite_array {items : List Json} : (array items).Finite ↔ ∀ item ∈ items, item.Finite := everyNumber_array

theorem finite_object {fields : Fields Json} : (object fields).Finite ↔ ∀ field ∈ fields, field.2.Finite :=
  everyNumber_object

/-- A normal form holds no other numbers than finite ones. -/
theorem normal_finite (json : Json) : json.normal.Finite := by
  induction json using children_induct with
  | null => exact .null
  | bool b => exact .bool b
  | number d =>
    rw [normal]
    split
    · rename_i finite
      exact .number (d.unsigned_isFinite.trans finite)
    · exact .null
  | string s => exact .string s
  | array items ih =>
    rw [normal_array]
    exact .array (List.forall_mem_map.mpr ih)
  | object fields ih =>
    rw [normal_object]
    exact .object (List.forall_mem_map.mpr ih)

/-! ### What the sorted values keep -/

theorem sorted_keysDistinct {json : Json} (distinct : json.KeysDistinct) : json.sorted.KeysDistinct := by
  induction distinct with
  | null => exact .null
  | bool b => exact .bool b
  | number d => exact .number d
  | string s => exact .string s
  | array _ ih =>
    rw [sorted_array]
    exact .array (List.forall_mem_map.mpr ih)
  | @object fields keys _ ih =>
    rw [sorted_object]
    refine .object ?_ fun field member => ?_
    · have perm := (sort_perm (fun a b : JsString × Json => compareCodeUnits a.1 b.1)
        (fields.map fun field => (field.1, sorted field.2))).map Prod.fst
      rw [List.map_map] at perm
      exact perm.nodup_iff.mpr keys
    · rcases List.mem_map.mp (mem_sort.mp member) with ⟨own, inside, rfl⟩
      exact ih own inside

theorem sorted_everyNumber {p : Double → Prop} {json : Json} (every : json.EveryNumber p) : json.sorted.EveryNumber p := by
  induction every with
  | null => exact .null
  | bool b => exact .bool b
  | number holds => exact .number holds
  | string s => exact .string s
  | array _ ih =>
    rw [sorted_array]
    exact .array (List.forall_mem_map.mpr ih)
  | object _ ih =>
    rw [sorted_object]
    refine .object fun field member => ?_
    rcases List.mem_map.mp (mem_sort.mp member) with ⟨own, inside, rfl⟩
    exact ih own inside

/-! ### Equality and normal forms -/

/-- The value that is read from the text of the sorted value. -/
def arranged (json : Json) : Json := json.sorted.normal

theorem arranged_array (items : List Json) : (array items).arranged = .array (items.map arranged) := by
  rw [arranged, sorted_array, normal_array, List.map_map]
  rfl

theorem arranged_object (fields : Fields Json) : (object fields).arranged =
    .object (sort (fun a b => compareCodeUnits a.1 b.1) (fields.map fun field => (field.1, arranged field.2))) := by
  rw [arranged, sorted_object, normal_object]
  have mapped := sort_map (fun a b : JsString × Json => compareCodeUnits a.1 b.1)
    (fun field => (field.1, normal field.2)) (fields.map fun field => (field.1, sorted field.2))
  rw [List.map_map] at mapped
  exact congrArg object mapped.symm

theorem arranged_number {d : Double} (finite : d.isFinite = true) : (number d).arranged = .number d.unsigned :=
  normal_number finite

theorem alike_of_arranged {a b : Json} (finite : a.Finite) (otherFinite : b.Finite) (same : a.arranged = b.arranged) :
    a.Alike b := by
  induction finite generalizing b with
  | null =>
    cases otherFinite with
    | null => exact .null
    | _ => simp_all [arranged, sorted, normal]
  | bool x =>
    cases otherFinite with
    | bool y => exact (bool.inj same) ▸ .bool x
    | _ => simp_all [arranged, sorted, normal]
  | @number d finite =>
    cases otherFinite with
    | number otherFinite =>
      rw [arranged_number finite, arranged_number otherFinite] at same
      exact .number (number.inj same)
    | _ => simp_all [arranged, sorted, normal]
  | string s =>
    cases otherFinite with
    | string t => exact (string.inj same) ▸ .string s
    | _ => simp_all [arranged, sorted, normal]
  | @array items _ ih =>
    cases otherFinite with
    | @array others otherFinite =>
      rw [arranged_array, arranged_array, array.injEq] at same
      rcases exists_pairs same with ⟨pairs, rfl, rfl, each⟩
      exact .array fun p member =>
        ih p.1 (List.mem_map_of_mem member) (otherFinite p.2 (List.mem_map_of_mem member)) (each p member)
    | _ => simp_all [arranged, sorted, normal]
  | @object fields _ ih =>
    cases otherFinite with
    | @object others otherFinite =>
      rw [arranged_object, arranged_object, object.injEq] at same
      rcases exists_pairs_of_perm (perm_of_sort_eq same) with ⟨pairs, first, second, each⟩
      have parts (p) (member : p ∈ pairs) : p.1.1 = p.2.1 ∧ p.1.2.arranged = p.2.2.arranged := Prod.ext_iff.mp (each p member)
      exact .object (fun p member => (parts p member).1) (fun p member => ih p.1 (mem_of_pairs first member)
        (otherFinite p.2 (second.subset (List.mem_map_of_mem member))) (parts p member).2) first second
    | _ => simp_all [arranged, sorted, normal]

theorem arranged_of_alike {a b : Json} (same : a.Alike b) (distinct : a.KeysDistinct) : a.arranged = b.arranged := by
  induction same with
  | null => rfl
  | bool b => rfl
  | @number d e same =>
    have finite : d.isFinite = e.isFinite := by rw [← d.unsigned_isFinite, same, e.unsigned_isFinite]
    simp only [arranged, sorted, normal, finite, same]
  | string s => rfl
  | @array pairs _ ih =>
    cases distinct with
    | array distinct =>
      rw [arranged_array, arranged_array, images_eq fun p member => ih p member (distinct p.1 (List.mem_map_of_mem member))]
  | @object pairs xs ys names _ first second ih =>
    cases distinct with
    | object keys distinct =>
      have images : (xs.map fun field => (field.1, arranged field.2)).Perm (ys.map fun field => (field.1, arranged field.2)) :=
        images_perm first second fun p member =>
          Prod.ext (names p member) (ih p member (distinct p.1 (mem_of_pairs first member)))
      have own : Fields.Distinct (xs.map fun field => (field.1, arranged field.2)) := by
        unfold Fields.Distinct Fields.keys
        rw [List.map_map]
        exact keys
      rw [arranged_object, arranged_object, Fields.sort_eq_of_perm own images]

theorem alike_array_map {items : List Json} {f : Json → Json} (each : ∀ item ∈ items, (f item).Alike item) :
    (array (items.map f)).Alike (.array items) := by
  have own : (items.map fun item => (f item, item)).map Prod.snd = items := by
    rw [List.map_map]
    exact List.map_id items
  have whole := Alike.array (List.forall_mem_map.mpr each : ∀ p ∈ items.map fun item => (f item, item), Alike p.1 p.2)
  rw [own, List.map_map] at whole
  exact whole

theorem alike_object_map {fields xs : Fields Json} {f : Json → Json} (each : ∀ field ∈ fields, (f field.2).Alike field.2)
    (same : xs.Perm (fields.map fun field => (field.1, f field.2))) : (object xs).Alike (.object fields) := by
  refine @Alike.object (fields.map fun field => ((field.1, f field.2), field)) _ _
    (List.forall_mem_map.mpr fun _ _ => rfl) (List.forall_mem_map.mpr each) ?_ ?_
  · rw [List.map_map]
    exact same.symm
  · rw [List.map_map]
    exact .of_eq (List.map_id fields)

theorem Alike.refl (json : Json) : json.Alike json := by
  induction json using children_induct with
  | null => exact .null
  | bool b => exact .bool b
  | number d => exact .number rfl
  | string s => exact .string s
  | array items ih =>
    have whole := alike_array_map (f := id) ih
    rwa [List.map_id] at whole
  | object fields ih => exact alike_object_map (f := id) ih (.of_eq (List.map_id fields).symm)

theorem alike_arranged {json : Json} (finite : json.Finite) : json.arranged.Alike json := by
  induction finite with
  | null => exact .null
  | bool b => exact .bool b
  | @number d finite =>
    rw [arranged_number finite]
    exact .number d.unsigned_unsigned
  | string s => exact .string s
  | array _ ih =>
    rw [arranged_array]
    exact alike_array_map ih
  | object _ ih =>
    rw [arranged_object]
    exact alike_object_map ih (sort_perm _ _)

/-- Values are alike when they are read from the same text. -/
theorem alike_iff {a b : Json} (distinct : a.KeysDistinct) (finite : a.Finite) (otherFinite : b.Finite) :
    a.Alike b ↔ a.arranged = b.arranged :=
  ⟨fun same => arranged_of_alike same distinct, alike_of_arranged finite otherFinite⟩

/-- A value of the language of which `JSON.stringify` loses nothing but the sign of `-0`. -/
structure Portable [NumberConversion] (json : Json) : Prop where
  distinct : json.KeysDistinct
  literal : json.EveryNumber Double.Literal
  finite : json.Finite

namespace Portable

theorem item [NumberConversion] {items : List Json} (portable : Portable (.array items)) {item : Json} (member : item ∈ items) :
    Portable item := by
  rcases portable with ⟨distinct, literal, finite⟩
  cases distinct with
  | array distinct =>
    exact ⟨distinct item member, everyNumber_array.mp literal item member, finite_array.mp finite item member⟩

theorem field [NumberConversion] {fields : Fields Json} (portable : Portable (.object fields)) {key : JsString} {value : Json}
    (found : Fields.get fields key = some value) : Portable value := by
  have member := Fields.mem_of_get found
  rcases portable with ⟨distinct, literal, finite⟩
  cases distinct with
  | object keys distinct =>
    exact ⟨distinct _ member, everyNumber_object.mp literal _ member, finite_object.mp finite _ member⟩

theorem array [NumberConversion] {items : List Json} (each : ∀ item ∈ items, Portable item) : Portable (.array items) :=
  ⟨.array fun item member => (each item member).distinct, .array fun item member => (each item member).literal,
    .array fun item member => (each item member).finite⟩

theorem string [NumberConversion] (s : JsString) : Portable (.string s) := ⟨.string s, .string s, .string s⟩

theorem null [NumberConversion] : Portable .null := ⟨.null, .null, .null⟩

theorem sorted [NumberConversion] {json : Json} (portable : Portable json) : Portable json.sorted :=
  ⟨sorted_keysDistinct portable.distinct, sorted_everyNumber portable.literal, sorted_everyNumber portable.finite⟩

end Portable

/-- What is read back from a text of `JSON.stringify`. -/
theorem normal_portable [NumberRoundTrip] {json : Json} (distinct : json.KeysDistinct)
    (literal : json.EveryNumber Double.Literal) : Portable json.normal :=
  ⟨normal_keysDistinct distinct, normal_everyNumber Grammar.literal_unsigned literal, normal_finite json⟩

end Json

section

open Json

variable [NumberRoundTrip]

theorem normal_of_stringify {a b : Json} (portable : Portable a) (other : Portable b)
    (same : jsonStringify a = jsonStringify b) : a.normal = b.normal := by
  have read := Grammar.jsonParse_stringify portable.distinct portable.literal
  rw [same, Grammar.jsonParse_stringify other.distinct other.literal] at read
  exact (Option.some.inj read).symm

/-- The texts of the sorted values are equal exactly when the values are. -/
theorem stringify_sorted_iff {a b : Json} (portable : Portable a) (other : Portable b) :
    jsonStringify a.sorted = jsonStringify b.sorted ↔ a.Alike b := by
  rw [alike_iff portable.distinct portable.finite other.finite]
  constructor
  · exact normal_of_stringify portable.sorted other.sorted
  · intro same
    rw [← Grammar.stringify_normal a.sorted, ← Grammar.stringify_normal b.sorted]
    exact congrArg jsonStringify same

end

end ECMA
