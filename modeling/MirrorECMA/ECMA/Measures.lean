import MirrorECMA.ECMA.Stringified

namespace ECMA

namespace Grammar

mutual

/-- How many values a text holds. -/
def Value.nodes : Value → Nat
  | .null | .true | .false | .number _ _ | .string _ | .emptyArray _ | .emptyObject _ => 1
  | .array items => items.nodes + 1
  | .object members => members.nodes + 1

def Items.nodes : Items → Nat
  | .last _ value _ => value.nodes
  | .cons _ value _ rest => value.nodes + rest.nodes

def Members.nodes : Members → Nat
  | .last _ _ _ _ value _ => value.nodes
  | .cons _ _ _ _ value _ rest => value.nodes + rest.nodes

end

mutual

/-- How many containers the deepest value lies in. -/
def Value.reach : Value → Nat
  | .null | .true | .false | .number _ _ | .string _ | .emptyArray _ | .emptyObject _ => 0
  | .array items => items.reach + 1
  | .object members => members.reach + 1

def Items.reach : Items → Nat
  | .last _ value _ => value.reach
  | .cons _ value _ rest => max value.reach rest.reach

def Members.reach : Members → Nat
  | .last _ _ _ _ value _ => value.reach
  | .cons _ _ _ _ value _ rest => max value.reach rest.reach

end

theorem Items.compact_nodes (first : Value) (rest : List Value) :
    (Items.compact first rest).nodes = ((first :: rest).map Value.nodes).sum := by
  induction rest generalizing first with
  | nil => simp [Items.compact, Items.nodes]
  | cons next rest ih => rw [Items.compact, Items.nodes, ih, List.map_cons (l := next :: rest), List.sum_cons]

theorem Members.compact_nodes (first : StringToken × Value) (rest : List (StringToken × Value)) :
    (Members.compact first rest).nodes = ((first :: rest).map fun member => member.2.nodes).sum := by
  induction rest generalizing first with
  | nil => simp [Members.compact, Members.nodes]
  | cons next rest ih => rw [Members.compact, Members.nodes, ih, List.map_cons (l := next :: rest), List.sum_cons]

theorem Value.compactArray_nodes (items : List Value) :
    (Value.compactArray items).nodes = (items.map Value.nodes).sum + 1 := by
  cases items with
  | nil => rfl
  | cons first rest => rw [Value.compactArray, Value.nodes, Items.compact_nodes]

theorem Value.compactObject_nodes (members : List (StringToken × Value)) :
    (Value.compactObject members).nodes = (members.map fun member => member.2.nodes).sum + 1 := by
  cases members with
  | nil => rfl
  | cons first rest => rw [Value.compactObject, Value.nodes, Members.compact_nodes]

theorem Items.compact_reach (first : Value) (rest : List Value) (n : Nat) :
    (Items.compact first rest).reach ≤ n ↔ ∀ item ∈ first :: rest, item.reach ≤ n := by
  induction rest generalizing first with
  | nil => simp [Items.compact, Items.reach]
  | cons next rest ih =>
    rw [Items.compact, Items.reach, Nat.max_le, ih]
    exact (List.forall_mem_cons (p := fun item : Value => item.reach ≤ n)).symm

theorem Members.compact_reach (first : StringToken × Value) (rest : List (StringToken × Value)) (n : Nat) :
    (Members.compact first rest).reach ≤ n ↔ ∀ member ∈ first :: rest, member.2.reach ≤ n := by
  induction rest generalizing first with
  | nil => simp [Members.compact, Members.reach]
  | cons next rest ih =>
    rw [Members.compact, Members.reach, Nat.max_le, ih]
    exact (List.forall_mem_cons (p := fun member : StringToken × Value => member.2.reach ≤ n)).symm

theorem Value.compactArray_reach (items : List Value) (n : Nat) :
    (Value.compactArray items).reach ≤ n ↔ ∀ item ∈ items, item.reach + 1 ≤ n := by
  cases items with
  | nil => simp [Value.compactArray, Value.reach]
  | cons first rest =>
    rw [Value.compactArray, Value.reach]
    cases n with
    | zero => exact iff_of_false (Nat.not_succ_le_zero _) fun all => Nat.not_succ_le_zero _ (all first List.mem_cons_self)
    | succ n => simp only [Nat.add_le_add_iff_right, Items.compact_reach]

theorem Value.compactObject_reach (members : List (StringToken × Value)) (n : Nat) :
    (Value.compactObject members).reach ≤ n ↔ ∀ member ∈ members, member.2.reach + 1 ≤ n := by
  cases members with
  | nil => simp [Value.compactObject, Value.reach]
  | cons first rest =>
    rw [Value.compactObject, Value.reach]
    cases n with
    | zero => exact iff_of_false (Nat.not_succ_le_zero _) fun all => Nat.not_succ_le_zero _ (all first List.mem_cons_self)
    | succ n => simp only [Nat.add_le_add_iff_right, Members.compact_reach]

end Grammar

namespace Json

mutual

/-- How many values a tree holds, itself among them. -/
def nodes : Json → Nat
  | .null | .bool _ | .number _ | .string _ => 1
  | .array items => itemsNodes items + 1
  | .object fields => fieldsNodes fields + 1

def itemsNodes : List Json → Nat
  | [] => 0
  | item :: rest => nodes item + itemsNodes rest

def fieldsNodes : List (JsString × Json) → Nat
  | [] => 0
  | (_, value) :: rest => nodes value + fieldsNodes rest

end

mutual

/-- How many containers the deepest value lies in. -/
def reach : Json → Nat
  | .null | .bool _ | .number _ | .string _ => 0
  | .array items => itemsReach items
  | .object fields => fieldsReach fields

def itemsReach : List Json → Nat
  | [] => 0
  | item :: rest => max (reach item + 1) (itemsReach rest)

def fieldsReach : List (JsString × Json) → Nat
  | [] => 0
  | (_, value) :: rest => max (reach value + 1) (fieldsReach rest)

end

theorem itemsNodes_eq (items : List Json) : itemsNodes items = (items.map nodes).sum := by
  induction items with
  | nil => rfl
  | cons item rest ih => rw [itemsNodes, ih, List.map_cons, List.sum_cons]

theorem fieldsNodes_eq (fields : List (JsString × Json)) :
    fieldsNodes fields = (fields.map fun field => field.2.nodes).sum := by
  induction fields with
  | nil => rfl
  | cons field rest ih => rw [fieldsNodes, ih, List.map_cons, List.sum_cons]

theorem reach_array (items : List Json) (n : Nat) :
    (Json.array items).reach ≤ n ↔ ∀ item ∈ items, item.reach + 1 ≤ n := by
  rw [reach]
  induction items with
  | nil => simp [itemsReach]
  | cons item rest ih => rw [itemsReach, Nat.max_le, ih, List.forall_mem_cons]

theorem reach_object (fields : List (JsString × Json)) (n : Nat) :
    (Json.object fields).reach ≤ n ↔ ∀ field ∈ fields, field.2.reach + 1 ≤ n := by
  rw [reach]
  induction fields with
  | nil => simp [fieldsReach]
  | cons field rest ih => rw [fieldsReach, Nat.max_le, ih, List.forall_mem_cons]

/-- Properties of a tree that its normal form keeps. -/
theorem normal_keeps (json : Json) : json.normal.nodes = json.nodes ∧ json.normal.reach = json.reach := by
  induction json using children_induct with
  | null => exact ⟨rfl, rfl⟩
  | bool b => exact ⟨rfl, rfl⟩
  | number d => cases d <;> exact ⟨rfl, rfl⟩
  | string s => exact ⟨rfl, rfl⟩
  | array items ih =>
    rw [normal, normalItems_eq, nodes, nodes, itemsNodes_eq, itemsNodes_eq, reach, reach, List.map_map]
    refine ⟨congrArg (List.sum · + 1) (List.map_congr_left fun item member => (ih item member).1), ?_⟩
    induction items with
    | nil => rfl
    | cons item rest more =>
      rw [List.map_cons, itemsReach, itemsReach, (ih item List.mem_cons_self).2,
        more fun other member => ih other (List.mem_cons_of_mem _ member)]
  | object fields ih =>
    rw [normal, normalFields_eq, nodes, nodes, fieldsNodes_eq, fieldsNodes_eq, reach, reach, List.map_map]
    refine ⟨congrArg (List.sum · + 1) (List.map_congr_left fun field member => (ih field member).1), ?_⟩
    induction fields with
    | nil => rfl
    | cons field rest more =>
      rw [List.map_cons, fieldsReach, fieldsReach, (ih field List.mem_cons_self).2,
        more fun other member => ih other (List.mem_cons_of_mem _ member)]

theorem normal_keysDistinct {json : Json} (distinct : json.KeysDistinct) : json.normal.KeysDistinct := by
  induction distinct with
  | null => exact .null
  | bool b => exact .bool b
  | number d =>
    rw [normal]
    split
    · exact .number _
    · exact .null
  | string s => exact .string s
  | array _ ih =>
    rw [normal, normalItems_eq]
    exact .array (List.forall_mem_map.mpr ih)
  | @object fields keys _ ih =>
    rw [normal, normalFields_eq]
    refine .object ?_ (List.forall_mem_map.mpr ih)
    unfold Fields.Distinct Fields.keys
    rw [List.map_map]
    exact keys

theorem normal_everyNumber {p : Double → Prop} (unsigned : ∀ d, p d → p d.unsigned) {json : Json}
    (every : json.EveryNumber p) : json.normal.EveryNumber p := by
  induction every with
  | null => exact .null
  | bool b => exact .bool b
  | number holds =>
    rw [normal]
    split
    · exact .number (unsigned _ holds)
    · exact .null
  | string s => exact .string s
  | array _ ih =>
    rw [normal, normalItems_eq]
    exact .array (List.forall_mem_map.mpr ih)
  | object _ ih =>
    rw [normal, normalFields_eq]
    exact .object (List.forall_mem_map.mpr ih)

end Json

namespace Grammar

variable [NumberRoundTrip]

theorem stringified_nodes (json : Json) : (stringified json).nodes = json.nodes := by
  induction json using Json.children_induct with
  | null => rfl
  | bool b => cases b <;> rfl
  | number d =>
    rw [stringified]
    split <;> rfl
  | string s => rfl
  | array items ih =>
    rw [stringified, Value.compactArray_nodes, stringifiedItems_eq, List.map_map, Json.nodes, Json.itemsNodes_eq]
    exact congrArg (List.sum · + 1) (List.map_congr_left ih)
  | object fields ih =>
    rw [stringified, Value.compactObject_nodes, stringifiedFields_eq, List.map_map, Json.nodes, Json.fieldsNodes_eq]
    exact congrArg (List.sum · + 1) (List.map_congr_left ih)

theorem stringified_reach (json : Json) (n : Nat) : (stringified json).reach ≤ n ↔ json.reach ≤ n := by
  induction json using Json.children_induct generalizing n with
  | null => rfl
  | bool b => cases b <;> rfl
  | number d =>
    rw [stringified]
    split <;> rfl
  | string s => rfl
  | array items ih =>
    rw [stringified, Value.compactArray_reach, stringifiedItems_eq, Json.reach_array, List.forall_mem_map]
    cases n with
    | zero => simp
    | succ n =>
      simp only [Nat.add_le_add_iff_right]
      exact forall₂_congr fun item member => ih item member n
  | object fields ih =>
    rw [stringified, Value.compactObject_reach, stringifiedFields_eq, Json.reach_object, List.forall_mem_map]
    cases n with
    | zero => simp
    | succ n =>
      simp only [Nat.add_le_add_iff_right]
      exact forall₂_congr fun field member => ih field member n

theorem stringified_keysDistinct {json : Json} (distinct : json.KeysDistinct) : (stringified json).KeysDistinct := by
  induction distinct with
  | null => trivial
  | bool b => cases b <;> trivial
  | number d =>
    rw [stringified]
    split <;> trivial
  | string s => trivial
  | array _ ih =>
    rw [stringified, stringifiedItems_eq]
    exact Value.compactArray_keysDistinct (List.forall_mem_map.mpr ih)
  | object keys _ ih =>
    rw [stringified, stringifiedFields_eq]
    refine Value.compactObject_keysDistinct ?_ (List.forall_mem_map.mpr ih)
    simp only [List.map_map, Function.comp_def, quotedToken_decoded]
    exact keys

end Grammar

end ECMA
