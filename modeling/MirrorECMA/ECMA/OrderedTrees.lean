import MirrorECMA.ECMA.NearestRoundTrip
import MirrorECMA.ECMA.SafeTrees
import MirrorECMA.ECMA.Utf8
import Mathlib.Data.Rat.Defs

namespace ECMA

open Grammar

theorem Double.unsigned_of_toInt {d : Double} {i : Int} (whole : d.toInt? = some i) : d.unsigned = .finite i := by
  cases d with
  | nan => cases whole
  | infinity negative => cases whole
  | negativeZero =>
    cases whole
    rfl
  | finite q =>
    rw [Double.toInt?] at whole
    split at whole
    · rename_i integral
      cases whole
      exact congrArg Double.finite (Rat.coe_int_num_of_den_eq_one integral).symm
    · cases whole

namespace Json

/-! ### Properties in an order -/

section

variable (order : JsString → JsString → Int)

mutual

/-- The tree with its properties in an order of their keys, and without `-0`. -/
def ordered : Json → Json
  | .null => .null
  | .bool b => .bool b
  | .number d => .number d.unsigned
  | .string s => .string s
  | .array items => .array (orderedItems items)
  | .object fields => .object (sort (fun a b => order a.1 b.1) (orderedFields fields))

def orderedItems : List Json → List Json
  | [] => []
  | item :: rest => ordered item :: orderedItems rest

def orderedFields : List (JsString × Json) → List (JsString × Json)
  | [] => []
  | (key, value) :: rest => (key, ordered value) :: orderedFields rest

end

@[simp] theorem orderedItems_eq (items : List Json) : orderedItems order items = items.map (ordered order) :=
  eq_map rfl (fun _ _ => rfl) items

@[simp] theorem orderedFields_eq (fields : List (JsString × Json)) :
    orderedFields order fields = fields.map fun field => (field.1, ordered order field.2) :=
  eq_map rfl (fun _ _ => rfl) fields

theorem ordered_array (items : List Json) : ordered order (.array items) = .array (items.map (ordered order)) := by
  rw [ordered, orderedItems_eq]

theorem ordered_object (fields : Fields Json) : ordered order (.object fields) =
    .object (sort (fun a b => order a.1 b.1) (fields.map fun field => (field.1, ordered order field.2))) := by
  rw [ordered, orderedFields_eq]

theorem ordered_alike (json : Json) : (ordered order json).Alike json := by
  induction json using children_induct with
  | null => exact .null
  | bool b => exact .bool b
  | number d => exact .number d.unsigned_unsigned
  | string s => exact .string s
  | array items ih =>
    rw [ordered_array]
    exact alike_array_map ih
  | object fields ih =>
    rw [ordered_object]
    exact alike_object_map ih (sort_perm _ _)

variable {order}

/-- Trees that are alike are one tree once the order tells their keys apart. -/
theorem ordered_of_alike {texts : JsString → Prop} (consistent : Consistent order)
    (apart : ∀ s t, texts s → texts t → order s t ≤ 0 → order t s ≤ 0 → s = t) {a b : Json} (same : a.Alike b)
    (safe : a.Safe texts) : ordered order a = ordered order b := by
  induction same with
  | null => rfl
  | bool b => rfl
  | number numbers => rw [ordered, ordered, numbers]
  | string s => rfl
  | @array pairs _ ih =>
    cases safe with
    | array each =>
      rw [ordered_array, ordered_array, images_eq fun p member => ih p member (each p.1 (List.mem_map_of_mem member))]
  | @object pairs xs ys names _ first second ih =>
    cases safe with
    | object distinct keys each =>
      have images : (xs.map fun field => (field.1, ordered order field.2)).Perm (ys.map fun field => (field.1, ordered order field.2)) :=
        images_perm first second fun p member =>
          Prod.ext (names p member) (ih p member (each p.1 (mem_of_pairs first member)))
      have own : ((xs.map fun field => (field.1, ordered order field.2)).map Prod.fst).Nodup := by
        rw [List.map_map]
        exact distinct
      rw [ordered_object, ordered_object]
      congr 1
      refine sort_eq_of_perm (consistent.on Prod.fst) ?_ images
      intro left leftMember right rightMember below above
      refine List.inj_on_of_nodup_map own leftMember rightMember (apart _ _ ?_ ?_ below above)
      · rcases List.mem_map.mp leftMember with ⟨field, member, rfl⟩
        exact keys field member
      · rcases List.mem_map.mp rightMember with ⟨field, member, rfl⟩
        exact keys field member

end

/-! ### The text without blanks -/

/-- A safe integer is read from its text, up to the sign of zero. -/
theorem number_integerText [NearestNumberConversion] {i : Int} (small : i.natAbs ≤ maxSafeInteger) :
    (NumberConversion.number (integerText i)).unsigned = .finite i := by
  have below : i.natAbs < 2 ^ 53 := by
    unfold maxSafeInteger at small
    omega
  rcases NearestNumberConversion.nearest (integerText i) (integerText_literal i) with read | ⟨zero, read⟩
  · have wide : (2 : Nat) ^ 53 ≤ 2 ^ 1024 := Nat.pow_le_pow_right Nat.two_pos (by omega)
    have exact := numberOfBigInt_of_representable (Nat.lt_of_lt_of_le below wide) ⟨i.natAbs, 0, below, (Nat.mul_one _).symm⟩
    rw [read, writtenInteger_integerText, exact]
    rfl
  · rw [writtenInteger_integerText] at zero
    rw [read, zero]
    rfl

section

variable (string : JsString → StringToken)

mutual

/-- The value that a tree of integers is written as, its strings by `string`. -/
def compact : Json → Value
  | .null => .null
  | .bool b => if b then .true else .false
  | .number d => .number (integerText (d.toInt?.getD 0)) (integerText_isNumber _)
  | .string s => .string (string s)
  | .array items => .compactArray (compactItems items)
  | .object fields => .compactObject (compactFields fields)

def compactItems : List Json → List Value
  | [] => []
  | item :: rest => compact item :: compactItems rest

def compactFields : List (JsString × Json) → List (StringToken × Value)
  | [] => []
  | (key, value) :: rest => (string key, compact value) :: compactFields rest

end

@[simp] theorem compactItems_eq (items : List Json) : compactItems string items = items.map (compact string) :=
  eq_map rfl (fun _ _ => rfl) items

@[simp] theorem compactFields_eq (fields : List (JsString × Json)) :
    compactFields string fields = fields.map fun field => (string field.1, compact string field.2) :=
  eq_map rfl (fun _ _ => rfl) fields

theorem compact_array (items : List Json) : compact string (.array items) = .compactArray (items.map (compact string)) := by
  rw [compact, compactItems_eq]

theorem compact_object (fields : Fields Json) : compact string (.object fields) =
    .compactObject (fields.map fun field => (string field.1, compact string field.2)) := by
  rw [compact, compactFields_eq]

theorem compact_nodes (json : Json) : (compact string json).nodes = json.nodes := by
  induction json using children_induct with
  | null => rfl
  | bool b => cases b <;> rfl
  | number d => rfl
  | string s => rfl
  | array items ih =>
    rw [compact_array, Value.compactArray_nodes, List.map_map, nodes, itemsNodes_eq]
    exact congrArg (List.sum · + 1) (List.map_congr_left ih)
  | object fields ih =>
    rw [compact_object, Value.compactObject_nodes, List.map_map, nodes, fieldsNodes_eq]
    exact congrArg (List.sum · + 1) (List.map_congr_left ih)

theorem compact_reach (json : Json) (n : Nat) : (compact string json).reach ≤ n ↔ json.reach ≤ n := by
  induction json using children_induct generalizing n with
  | null => rfl
  | bool b => cases b <;> rfl
  | number d => rfl
  | string s => rfl
  | array items ih =>
    rw [compact_array, Value.compactArray_reach, List.forall_mem_map, reach_array]
    refine forall₂_congr fun item member => ?_
    cases n with
    | zero => simp
    | succ n => rw [Nat.add_le_add_iff_right, Nat.add_le_add_iff_right, ih item member]
  | object fields ih =>
    rw [compact_object, Value.compactObject_reach, List.forall_mem_map, reach_object]
    refine forall₂_congr fun field member => ?_
    cases n with
    | zero => simp
    | succ n => rw [Nat.add_le_add_iff_right, Nat.add_le_add_iff_right, ih field member]

variable {string} {texts : JsString → Prop}

theorem compact_everyString {p : StringToken → Prop} (each : ∀ s, texts s → p (string s)) {json : Json} (safe : json.Safe texts) :
    (compact string json).EveryString p := by
  induction safe with
  | null => trivial
  | bool b => cases b <;> trivial
  | number _ => trivial
  | string held => exact each _ held
  | array _ ih =>
    rw [compact_array]
    exact Value.compactArray_everyString (List.forall_mem_map.mpr ih)
  | object _ keys _ ih =>
    rw [compact_object]
    exact Value.compactObject_everyString (List.forall_mem_map.mpr fun field member => ⟨each _ (keys field member), ih field member⟩)

theorem compact_everyNumber {p : JsString → Prop} (each : ∀ i : Int, i.natAbs ≤ maxSafeInteger → p (integerText i)) {json : Json}
    (safe : json.Safe texts) : (compact string json).EveryNumber p := by
  induction safe with
  | null => trivial
  | bool b => cases b <;> trivial
  | @number d held =>
    rcases Double.isSafeInteger_iff.mp held with ⟨i, whole, small⟩
    rw [compact, Value.EveryNumber, whole, Option.getD_some]
    exact each i small
  | string _ => trivial
  | array _ ih =>
    rw [compact_array]
    exact Value.compactArray_everyNumber (List.forall_mem_map.mpr ih)
  | object _ _ _ ih =>
    rw [compact_object]
    exact Value.compactObject_everyNumber (List.forall_mem_map.mpr ih)

theorem compact_sized {maxMembers maxItems : Nat} {json : Json} (sized : json.Sized maxMembers maxItems) :
    (compact string json).Sized maxMembers maxItems := by
  induction sized with
  | null => trivial
  | bool b => cases b <;> trivial
  | number _ => trivial
  | string _ => trivial
  | array few _ ih =>
    rw [compact_array]
    exact Value.compactArray_sized (by rwa [List.length_map]) (List.forall_mem_map.mpr ih)
  | object few _ ih =>
    rw [compact_object]
    exact Value.compactObject_sized (by rwa [List.length_map]) (List.forall_mem_map.mpr ih)

theorem compact_wellFormed (each : ∀ s, texts s → isWellFormed (string s).render = true) {json : Json} (safe : json.Safe texts) :
    isWellFormed (compact string json).render = true := by
  have separator : isWellFormed [comma] = true := by decide
  have digits (n : Nat) : isWellFormed (decimal n) = true := isWellFormed_decimal n
  induction safe with
  | null => rfl
  | bool b => cases b <;> rfl
  | number _ =>
    rw [compact, Value.render, integerText]
    split
    · exact isWellFormed_append (s := [minus]) (by decide) (digits _)
    · exact digits _
  | string held => exact each _ held
  | array _ ih =>
    rw [compact_array, Value.compactArray_render, List.map_map]
    have items := isWellFormed_intercalate separator (List.forall_mem_map.mpr ih)
    exact isWellFormed_append (s := [openBracket]) (by decide) (isWellFormed_append items (by decide))
  | @object fields _ keys _ ih =>
    have field (field : JsString × Json) (member : field ∈ fields) :
        isWellFormed ((string field.1).render ++ colon :: (compact string field.2).render) = true :=
      isWellFormed_append (each _ (keys field member)) (isWellFormed_append (s := [colon]) (by decide) (ih field member))
    rw [compact_object, Value.compactObject_render, List.map_map]
    have items := isWellFormed_intercalate separator (List.forall_mem_map.mpr field)
    exact isWellFormed_append (s := [openBrace]) (by decide) (isWellFormed_append items (by decide))

section

variable (decoded : ∀ s, (string s).decoded = s)
include decoded

theorem compact_keysDistinct {json : Json} (distinct : json.KeysDistinct) : (compact string json).KeysDistinct := by
  induction distinct with
  | null => trivial
  | bool b => cases b <;> trivial
  | number _ => trivial
  | string _ => trivial
  | array _ ih =>
    rw [compact_array]
    exact Value.compactArray_keysDistinct (List.forall_mem_map.mpr ih)
  | object keys _ ih =>
    rw [compact_object]
    refine Value.compactObject_keysDistinct ?_ (List.forall_mem_map.mpr ih)
    simp only [List.map_map, Function.comp_def, decoded]
    exact keys

variable [NearestNumberConversion]

/-- The tree that is read back is the one that was written. -/
theorem compact_alike {json : Json} (safe : json.Safe texts) : (compact string json).eval.Alike json := by
  induction safe with
  | null => exact .null
  | bool b => cases b <;> exact .bool _
  | @number d held =>
    rcases Double.isSafeInteger_iff.mp held with ⟨i, whole, small⟩
    rw [compact, Value.eval, whole, Option.getD_some]
    exact .number ((number_integerText small).trans (Double.unsigned_of_toInt whole).symm)
  | string _ =>
    rw [compact, Value.eval, decoded]
    exact .string _
  | array _ ih =>
    rw [compact_array, Value.compactArray_eval, List.map_map]
    exact alike_array_map ih
  | @object fields distinct _ _ ih =>
    have members : (fields.map fun field => (string field.1, compact string field.2)).map
        (fun member => (member.1.decoded, member.2.eval)) = fields.map fun field => (field.1, (compact string field.2).eval) := by
      rw [List.map_map]
      exact List.map_congr_left fun field _ => by rw [Function.comp_apply, decoded]
    have kept : Fields.Distinct (fields.map fun field => (field.1, (compact string field.2).eval)) := by
      unfold Fields.Distinct Fields.keys
      rw [List.map_map]
      exact distinct
    rw [compact_object, Value.compactObject_eval, members, Fields.ofEntries_eq kept]
    exact alike_object_map (f := fun value => (compact string value).eval) ih (.refl _)

end

end

end Json

end ECMA
