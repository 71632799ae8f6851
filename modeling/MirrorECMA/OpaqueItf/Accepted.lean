import MirrorECMA.OpaqueItf.Snapshot

namespace Mirror.OpaqueItf

open ECMA Mirror.Protocol

/-! ### What a snapshot accepts -/

mutual

/-- The nodes that a visit counts. -/
def nodes : Value → Nat
  | .set val | .seq val | .tuple val => nodesOf val + 1
  | .record val => nodesOfFields val + 1
  | .map val => nodesOfEntries val + 1
  | .variant _ value => nodes value + 1
  | _ => 1

def nodesOf : List Value → Nat
  | [] => 0
  | value :: rest => nodes value + nodesOf rest

def nodesOfFields : List (JsString × Value) → Nat
  | [] => 0
  | (_, value) :: rest => nodes value + nodesOfFields rest

def nodesOfEntries : List (Value × Value) → Nat
  | [] => 0
  | (key, value) :: rest => nodes key + nodes value + nodesOfEntries rest

end

/-- No deeper than this many levels, with no element of a set and no key of a map listed twice. -/
inductive Fits : Nat → Value → Prop
  | null {levels : Nat} : Fits (levels + 1) .null
  | int {levels : Nat} (val : Int) : Fits (levels + 1) (.int val)
  | bool {levels : Nat} (val : Bool) : Fits (levels + 1) (.bool val)
  | str {levels : Nat} (val : JsString) : Fits (levels + 1) (.str val)
  | unserializable {levels : Nat} (val : JsString) : Fits (levels + 1) (.unserializable val)
  | set {levels : Nat} {val : List Value} : (∀ v ∈ val, Fits levels v) → (val.map identity).Nodup →
    Fits (levels + 1) (.set val)
  | seq {levels : Nat} {val : List Value} : (∀ v ∈ val, Fits levels v) → Fits (levels + 1) (.seq val)
  | tuple {levels : Nat} {val : List Value} : (∀ v ∈ val, Fits levels v) → Fits (levels + 1) (.tuple val)
  | record {levels : Nat} {val : List (JsString × Value)} : (∀ field ∈ val, Fits levels field.2) →
    Fits (levels + 1) (.record val)
  | map {levels : Nat} {val : List (Value × Value)} : (∀ entry ∈ val, Fits levels entry.1) →
    (∀ entry ∈ val, Fits levels entry.2) → (val.map fun entry => identity entry.1).Nodup → Fits (levels + 1) (.map val)
  | variant {levels : Nat} {tag : JsString} {value : Value} : Fits levels value → Fits (levels + 1) (.variant tag value)

theorem uniqueAfter_ok {path : JsString} {seen : List JsString} {values : List Value} :
    uniqueAfter path seen values = .ok () ↔
      (values.map identity).Nodup ∧ ∀ value ∈ values, identity value ∉ seen := by
  induction values generalizing seen with
  | nil => simp [uniqueAfter]
  | cons value rest ih =>
    by_cases found : identity value ∈ seen
    · simp [uniqueAfter, found]
    · simp only [uniqueAfter, found, ↓reduceIte, ih, List.map_cons, List.nodup_cons, List.mem_cons, forall_eq_or_imp,
        not_false_eq_true, true_and, not_or, List.mem_map, not_exists, not_and]
      constructor
      · rintro ⟨apart, fresh⟩
        exact ⟨⟨fun other member same => (fresh other member).1 same, apart⟩, fun other member => (fresh other member).2⟩
      · rintro ⟨⟨first, apart⟩, fresh⟩
        exact ⟨apart, fun other member => ⟨first other member, fresh other member⟩⟩

theorem unique_ok {values : List Value} {path : JsString} {done : Unit} :
    unique values path = .ok done ↔ (values.map identity).Nodup := by
  cases done
  simp [unique, uniqueAfter_ok]

theorem spendNode_ok {path : JsString} {before after : Nat} {done : Unit} :
    (spendNode path).run before = .ok (done, after) ↔ after = before + 1 ∧ after ≤ OPAQUE_ITF_MAX_NODES := by
  by_cases room : OPAQUE_ITF_MAX_NODES < before + 1
  · simp only [spendNode, run_bind_eq_ok, StateT.run_set, StateT.run_get, gt_iff_lt]
    constructor
    · rintro ⟨_, _, found, _, _, set, _, _, read, thrown⟩
      cases found
      cases set
      cases read
      rw [if_pos room] at thrown
      cases thrown
    · intro ⟨spent, within⟩
      omega
  · simp only [spendNode, run_bind_eq_ok, StateT.run_set, StateT.run_get, gt_iff_lt]
    constructor
    · rintro ⟨_, _, found, _, _, set, _, _, read, returned⟩
      cases found
      cases set
      cases read
      rw [if_neg room] at returned
      cases returned
      exact ⟨rfl, Nat.not_lt.mp room⟩
    · intro ⟨spent, within⟩
      subst spent
      exact ⟨_, _, rfl, _, _, rfl, _, _, rfl, by rw [if_neg room]; rfl⟩

/-! ### Visits of protocol values -/

@[simp] theorem nodesOf_eq (values : List Value) : nodesOf values = (values.map nodes).sum := by
  induction values with
  | nil => rfl
  | cons value rest ih => rw [nodesOf, ih, List.map_cons, List.sum_cons]

@[simp] theorem nodesOfFields_eq (fields : List (JsString × Value)) :
    nodesOfFields fields = (fields.map fun field => nodes field.2).sum := by
  induction fields with
  | nil => rfl
  | cons field rest ih => rw [nodesOfFields, ih, List.map_cons, List.sum_cons]

@[simp] theorem nodesOfEntries_eq (entries : List (Value × Value)) :
    nodesOfEntries entries = (entries.map fun entry => nodes entry.1 + nodes entry.2).sum := by
  induction entries with
  | nil => rfl
  | cons entry rest ih => rw [nodesOfEntries, ih, List.map_cons, List.sum_cons]

theorem foreignItems_eq (values : List Value) : foreignItems values = values.map foreign :=
  eq_map (by rw [foreignItems]) (fun value rest => by rw [foreignItems]) values

theorem foreignFields_eq (fields : List (JsString × Value)) :
    foreignFields fields = fields.map fun field => (field.1, foreign field.2) :=
  eq_map (by rw [foreignFields]) (fun field rest => by rw [foreignFields]) fields

theorem foreignEntries_eq (entries : List (Value × Value)) :
    foreignEntries entries = entries.map fun entry => .array .plain [foreign entry.1, foreign entry.2] :=
  eq_map (by rw [foreignEntries]) (fun entry rest => by rw [foreignEntries]) entries

/-- The visit of a value returns it, and does so exactly when it fits the limits. -/
def Returns (visit : Foreign → JsString → Visit Value) (levels : Nat) (value : Value) : Prop :=
  ∀ path before after result, before ≤ OPAQUE_ITF_MAX_NODES →
    ((visit (foreign value) path).run before = .ok (result, after) ↔
      result = value ∧ after = before + nodes value ∧ Fits levels value ∧ after ≤ OPAQUE_ITF_MAX_NODES)

section

variable {visit : Foreign → JsString → Visit Value} {levels : Nat}

theorem visitItems_returns {values : List Value} (each : ∀ value ∈ values, Returns visit levels value) (path : JsString)
    (index : Nat) {before after : Nat} {result : List Value} (room : before ≤ OPAQUE_ITF_MAX_NODES) :
    (visitItems visit path index (values.map foreign)).run before = .ok (result, after) ↔
      result = values ∧ after = before + (values.map nodes).sum ∧ (∀ value ∈ values, Fits levels value) ∧
        after ≤ OPAQUE_ITF_MAX_NODES := by
  induction values generalizing index before after result with
  | nil =>
    simp only [List.map_nil, visitItems, run_pure_eq_ok, List.sum_nil, Nat.add_zero, List.not_mem_nil,
      false_implies, implies_true, true_and]
    constructor
    · rintro ⟨rfl, rfl⟩
      exact ⟨rfl, rfl, room⟩
    · rintro ⟨rfl, rfl, -⟩
      exact ⟨rfl, rfl⟩
  | cons value rest ih =>
    have head := each value List.mem_cons_self
    have tail := fun other member => each other (List.mem_cons_of_mem _ member)
    simp only [List.map_cons, visitItems, run_bind_eq_ok, run_pure_eq_ok, List.sum_cons, List.forall_mem_cons]
    constructor
    · rintro ⟨first, middle, visited, others, last, more, rfl, rfl⟩
      obtain ⟨rfl, rfl, fits, within⟩ := (head _ _ _ _ room).mp visited
      obtain ⟨rfl, rfl, all, bound⟩ := (ih tail _ within).mp more
      exact ⟨rfl, by omega, ⟨fits, all⟩, bound⟩
    · rintro ⟨rfl, rfl, ⟨fits, all⟩, bound⟩
      have within : before + nodes value ≤ OPAQUE_ITF_MAX_NODES := by omega
      exact ⟨value, _, (head _ _ _ _ room).mpr ⟨rfl, rfl, fits, within⟩, rest, _,
        (ih tail _ within).mpr ⟨rfl, rfl, all, by omega⟩, rfl, by omega⟩

theorem visitEntry_pair (visit : Foreign → JsString → Visit Value) (key value : Foreign) (path : JsString) :
    visitEntry visit (.array .plain [key, value]) path = (do
      let key ← visit key (path ++ js ".key")
      return (key, ← visit value (path ++ js ".value"))) := rfl

theorem visitEntry_returns {entry : Value × Value} (key : Returns visit levels entry.1) (value : Returns visit levels entry.2)
    (path : JsString) {before after : Nat} {result : Value × Value} (room : before ≤ OPAQUE_ITF_MAX_NODES) :
    (visitEntry visit (.array .plain [foreign entry.1, foreign entry.2]) path).run before = .ok (result, after) ↔
      result = entry ∧ after = before + (nodes entry.1 + nodes entry.2) ∧ (Fits levels entry.1 ∧ Fits levels entry.2) ∧
        after ≤ OPAQUE_ITF_MAX_NODES := by
  simp only [visitEntry_pair, run_bind_eq_ok, run_pure_eq_ok]
  constructor
  · rintro ⟨first, middle, visitedKey, second, last, visitedValue, rfl, rfl⟩
    obtain ⟨rfl, rfl, fitsKey, within⟩ := (key _ _ _ _ room).mp visitedKey
    obtain ⟨rfl, rfl, fitsValue, bound⟩ := (value _ _ _ _ within).mp visitedValue
    exact ⟨rfl, by omega, ⟨fitsKey, fitsValue⟩, bound⟩
  · rintro ⟨rfl, rfl, ⟨fitsKey, fitsValue⟩, bound⟩
    have within : before + nodes result.1 ≤ OPAQUE_ITF_MAX_NODES := by omega
    exact ⟨_, _, (key _ _ _ _ room).mpr ⟨rfl, rfl, fitsKey, within⟩, _, _,
      (value _ _ _ _ within).mpr ⟨rfl, rfl, fitsValue, by omega⟩, rfl, by omega⟩

theorem visitEntries_returns {entries : List (Value × Value)}
    (each : ∀ entry ∈ entries, Returns visit levels entry.1 ∧ Returns visit levels entry.2) (path : JsString)
    (index : Nat) {before after : Nat} {result : List (Value × Value)} (room : before ≤ OPAQUE_ITF_MAX_NODES) :
    (visitEntries visit path index (foreignEntries entries)).run before = .ok (result, after) ↔
      result = entries ∧ after = before + (entries.map fun entry => nodes entry.1 + nodes entry.2).sum ∧
        (∀ entry ∈ entries, Fits levels entry.1 ∧ Fits levels entry.2) ∧ after ≤ OPAQUE_ITF_MAX_NODES := by
  induction entries generalizing index before after result with
  | nil =>
    simp only [List.map_nil, foreignEntries, visitEntries, run_pure_eq_ok, List.sum_nil, Nat.add_zero, List.not_mem_nil,
      false_implies, implies_true, true_and]
    constructor
    · rintro ⟨rfl, rfl⟩
      exact ⟨rfl, rfl, room⟩
    · rintro ⟨rfl, rfl, -⟩
      exact ⟨rfl, rfl⟩
  | cons entry rest ih =>
    have both := each entry List.mem_cons_self
    have head (path : JsString) (before after : Nat) (result : Value × Value) (room : before ≤ OPAQUE_ITF_MAX_NODES) :=
      @visitEntry_returns visit levels entry both.1 both.2 path before after result room
    have tail := fun other member => each other (List.mem_cons_of_mem _ member)
    simp only [List.map_cons, foreignEntries, visitEntries, run_bind_eq_ok, run_pure_eq_ok, List.sum_cons,
      List.forall_mem_cons]
    constructor
    · rintro ⟨first, middle, visited, others, last, more, rfl, rfl⟩
      obtain ⟨rfl, rfl, fits, within⟩ := (head _ _ _ _ room).mp visited
      obtain ⟨rfl, rfl, all, bound⟩ := (ih tail _ within).mp more
      exact ⟨rfl, by omega, ⟨fits, all⟩, bound⟩
    · rintro ⟨rfl, rfl, ⟨fits, all⟩, bound⟩
      have within : before + (nodes entry.1 + nodes entry.2) ≤ OPAQUE_ITF_MAX_NODES := by omega
      exact ⟨entry, _, (head _ _ _ _ room).mpr ⟨rfl, rfl, fits, within⟩, rest, _,
        (ih tail _ within).mpr ⟨rfl, rfl, all, by omega⟩, rfl, by omega⟩

theorem visitFields_returns {fields : Fields Value} (each : ∀ field ∈ fields, Returns visit levels field.2)
    (path : JsString) {built : Fields Value} (distinct : Fields.Distinct (built ++ fields)) {before after : Nat}
    {result : Fields Value} (room : before ≤ OPAQUE_ITF_MAX_NODES) :
    (visitFields visit path built (foreignFields fields)).run before = .ok (result, after) ↔
      result = built ++ fields ∧ after = before + (fields.map fun field => nodes field.2).sum ∧
        (∀ field ∈ fields, Fits levels field.2) ∧ after ≤ OPAQUE_ITF_MAX_NODES := by
  induction fields generalizing built before after result with
  | nil =>
    simp only [List.map_nil, foreignFields, visitFields, run_pure_eq_ok, List.sum_nil, Nat.add_zero, List.not_mem_nil,
      false_implies, implies_true, true_and, List.append_nil]
    constructor
    · rintro ⟨rfl, rfl⟩
      exact ⟨rfl, rfl, room⟩
    · rintro ⟨rfl, rfl, -⟩
      exact ⟨rfl, rfl⟩
  | cons field rest ih =>
    rcases field with ⟨name, value⟩
    have head : Returns visit levels value := each (name, value) List.mem_cons_self
    have tail := fun other member => each other (List.mem_cons_of_mem _ member)
    have split : built ++ (name, value) :: rest = built ++ [(name, value)] ++ rest := by simp
    have fresh : name ∉ built.keys := by
      intro member
      simp only [Fields.Distinct, Fields.keys, List.map_append, List.map_cons] at distinct
      exact (List.nodup_append.mp distinct).2.2 name member name List.mem_cons_self rfl
    rw [split] at distinct ⊢
    simp only [List.map_cons, foreignFields, visitFields, run_bind_eq_ok, List.sum_cons, List.forall_mem_cons]
    constructor
    · rintro ⟨first, middle, visited, more⟩
      obtain ⟨rfl, rfl, fits, within⟩ := (head _ _ _ _ room).mp visited
      rw [Fields.set_fresh fresh] at more
      obtain ⟨rfl, rfl, all, bound⟩ := (ih tail distinct within).mp more
      exact ⟨rfl, by omega, ⟨fits, all⟩, bound⟩
    · rintro ⟨rfl, rfl, ⟨fits, all⟩, bound⟩
      have within : before + nodes value ≤ OPAQUE_ITF_MAX_NODES := by omega
      refine ⟨value, _, (head _ _ _ _ room).mpr ⟨rfl, rfl, fits, within⟩, ?_⟩
      rw [Fields.set_fresh fresh]
      exact (ih tail distinct within).mpr ⟨rfl, by omega, all, by omega⟩

end

theorem visit_object {levels : Nat} {fields : Fields Foreign} (tag : JsString) (own : fields.get (js "tag") = some (.string tag))
    {path : JsString} (exact_ : keys fields (expectedKeys (some (.string tag))) path = .ok ()) {before after : Nat}
    {result : Value} : (visit (levels + 1) (.object .plain fields) path).run before = .ok (result, after) ↔
      before + 1 ≤ OPAQUE_ITF_MAX_NODES ∧
        (visitTagged (visit levels) tag ((fields.get (js "val")).getD .other) ((fields.get (js "variantTag")).getD .other)
          ((fields.get (js "value")).getD .other) path).run (before + 1) = .ok (result, after) := by
  simp only [visit, run_bind_eq_ok, run_lift_eq_ok, spendNode_ok, dataRecord, Except.ok.injEq]
  constructor
  · rintro ⟨_, _, ⟨rfl, room⟩, _, _, ⟨rfl, rfl⟩, _, _, ⟨-, rfl⟩, found⟩
    rw [own] at found
    exact ⟨room, found⟩
  · intro ⟨room, found⟩
    refine ⟨(), _, ⟨rfl, room⟩, _, _, ⟨rfl, rfl⟩, (), _, ⟨?_, rfl⟩, ?_⟩
    · rw [own]
      exact exact_
    · rw [own]
      exact found

/-- The visit of a value that has no parts. -/
theorem leaf_returns {levels : Nat} {value : Value} (fits : ∀ levels, Fits (levels + 1) value) (single : nodes value = 1)
    {path : JsString} {before after : Nat} {result : Value}
    (visited : (visit (levels + 1) (foreign value) path).run before = .ok (result, after) ↔
      before + 1 ≤ OPAQUE_ITF_MAX_NODES ∧ (pure value : Visit Value).run (before + 1) = .ok (result, after)) :
    (visit (levels + 1) (foreign value) path).run before = .ok (result, after) ↔
      result = value ∧ after = before + nodes value ∧ Fits (levels + 1) value ∧ after ≤ OPAQUE_ITF_MAX_NODES := by
  rw [visited, run_pure_eq_ok, single]
  constructor
  · rintro ⟨room, rfl, rfl⟩
    exact ⟨rfl, rfl, fits levels, room⟩
  · rintro ⟨rfl, rfl, -, room⟩
    exact ⟨room, rfl, rfl⟩

/-! The cases of the switch, one by one. -/

section

variable (nested : Foreign → JsString → Visit Value) (val variantTag value : Foreign) (path : JsString)

theorem visitTagged_set : visitTagged nested (js "set") val variantTag value path = (do
    let val ← visitElements nested val path
    unique val path
    return .set val) := by simp only [visitTagged, switch, js_inj, reduceIte, String.reduceEq]

theorem visitTagged_seq : visitTagged nested (js "seq") val variantTag value path = (do
    return .seq (← visitElements nested val path)) := by simp only [visitTagged, switch, js_inj, reduceIte, String.reduceEq]

theorem visitTagged_tuple : visitTagged nested (js "tuple") val variantTag value path = (do
    return .tuple (← visitElements nested val path)) := by
  simp only [visitTagged, switch, js_inj, reduceIte, String.reduceEq]

theorem visitTagged_record : visitTagged nested (js "record") val variantTag value path = (do
    let source ← dataRecord val (path ++ js ".val")
    return .record (← visitFields nested path [] source)) := by
  simp only [visitTagged, switch, js_inj, reduceIte, String.reduceEq]

theorem visitTagged_map : visitTagged nested (js "map") val variantTag value path = (do
    let items ← denseArray val (path ++ js ".val")
    let val ← visitEntries nested path 0 items
    unique (val.map Prod.fst) path
    return .map val) := by simp only [visitTagged, switch, js_inj, reduceIte, String.reduceEq]

end

theorem visitElements_returns {nested : Foreign → JsString → Visit Value} {levels : Nat} {values : List Value}
    (each : ∀ value ∈ values, Returns nested levels value) (path : JsString) {before after : Nat} {result : List Value}
    (room : before ≤ OPAQUE_ITF_MAX_NODES) :
    (visitElements nested (.array .plain (foreignItems values)) path).run before = .ok (result, after) ↔
      result = values ∧ after = before + (values.map nodes).sum ∧ (∀ value ∈ values, Fits levels value) ∧
        after ≤ OPAQUE_ITF_MAX_NODES := by
  rw [foreignItems_eq]
  exact visitItems_returns each path 0 room

theorem visit_zero_returns (value : Value) : Returns (visit 0) 0 value := by
  intro path before after result room
  constructor
  · intro visited
    exact (run_throw_ne_ok visited).elim
  · rintro ⟨-, -, fits, -⟩
    cases fits

/-- A tag that goes with `val` alone. -/
theorem visit_val {levels : Nat} {tag : JsString} (plain : expectedKeys (some (.string tag)) = ["tag", "val"])
    (val : Foreign) {path : JsString} {before after : Nat} {result : Value} :
    (visit (levels + 1) (.object .plain [(js "tag", .string tag), (js "val", val)]) path).run before =
        .ok (result, after) ↔
      before + 1 ≤ OPAQUE_ITF_MAX_NODES ∧
        (visitTagged (visit levels) tag val .other .other path).run (before + 1) = .ok (result, after) := by
  rw [visit_object tag (by simp [Fields.get]) (by simp [keys, plain, Fields.keys])]
  simp only [Fields.get, js_inj, String.reduceEq, reduceIte, Option.getD_some, Option.getD_none]

theorem visit_returns (value : Value) (distinct : value.EveryRecord Fields.Distinct) (levels : Nat) :
    Returns (visit levels) levels value := by
  induction value using Value.parts_induct generalizing levels with
  | null =>
    cases levels with
    | zero => exact visit_zero_returns _
    | succ levels =>
      intro path before after result room
      apply leaf_returns (fun _ => .null) (by simp only [nodes])
      rw [foreign, visit_object (js "null") (by simp [Fields.get]) (by simp [keys, expectedKeys, Fields.keys])]
      simp only [visitTagged, switch, reduceIte]
  | int val =>
    cases levels with
    | zero => exact visit_zero_returns _
    | succ levels =>
      intro path before after result room
      apply leaf_returns (fun _ => .int val) (by simp only [nodes])
      rw [foreign, visit_val (by simp [expectedKeys])]
      simp only [visitTagged, switch, js_inj, reduceIte, String.reduceEq]
  | bool val =>
    cases levels with
    | zero => exact visit_zero_returns _
    | succ levels =>
      intro path before after result room
      apply leaf_returns (fun _ => .bool val) (by simp only [nodes])
      rw [foreign, visit_val (by simp [expectedKeys])]
      simp only [visitTagged, switch, js_inj, reduceIte, String.reduceEq]
  | str val =>
    cases levels with
    | zero => exact visit_zero_returns _
    | succ levels =>
      intro path before after result room
      apply leaf_returns (fun _ => .str val) (by simp only [nodes])
      rw [foreign, visit_val (by simp [expectedKeys])]
      simp only [visitTagged, switch, js_inj, reduceIte, String.reduceEq]
  | unserializable val =>
    cases levels with
    | zero => exact visit_zero_returns _
    | succ levels =>
      intro path before after result room
      apply leaf_returns (fun _ => .unserializable val) (by simp only [nodes])
      rw [foreign, visit_val (by simp [expectedKeys])]
      simp only [visitTagged, switch, js_inj, reduceIte, String.reduceEq]
  | set val ih =>
    rw [Value.everyRecord_set] at distinct
    cases levels with
    | zero => exact visit_zero_returns _
    | succ levels =>
      intro path before after result room
      have each := fun value member => ih value member (distinct value member) levels
      rw [foreign, visit_val (by simp [expectedKeys]), visitTagged_set]
      simp only [run_bind_eq_ok, run_lift_eq_ok, run_pure_eq_ok, unique_ok, nodes, nodesOf_eq]
      constructor
      · rintro ⟨within, found, middle, visited, _, _, ⟨apart, same⟩, built, last⟩
        obtain ⟨rfl, rfl, all, bound⟩ := (visitElements_returns each path within).mp visited
        subst built last same
        exact ⟨rfl, by omega, .set all apart, bound⟩
      · rintro ⟨rfl, rfl, fits, bound⟩
        cases fits with
        | set all apart =>
          have within : before + 1 ≤ OPAQUE_ITF_MAX_NODES := by omega
          exact ⟨within, val, _, (visitElements_returns each path within).mpr ⟨rfl, rfl, all, by omega⟩, (), _,
            ⟨apart, rfl⟩, rfl, by omega⟩
  | seq val ih =>
    rw [Value.everyRecord_seq] at distinct
    cases levels with
    | zero => exact visit_zero_returns _
    | succ levels =>
      intro path before after result room
      have each := fun value member => ih value member (distinct value member) levels
      rw [foreign, visit_val (by simp [expectedKeys]), visitTagged_seq]
      simp only [run_bind_eq_ok, run_pure_eq_ok, nodes, nodesOf_eq]
      constructor
      · rintro ⟨within, found, middle, visited, built, last⟩
        obtain ⟨rfl, rfl, all, bound⟩ := (visitElements_returns each path within).mp visited
        subst built last
        exact ⟨rfl, by omega, .seq all, bound⟩
      · rintro ⟨rfl, rfl, fits, bound⟩
        cases fits with
        | seq all =>
          have within : before + 1 ≤ OPAQUE_ITF_MAX_NODES := by omega
          exact ⟨within, val, _, (visitElements_returns each path within).mpr ⟨rfl, rfl, all, by omega⟩, rfl, by omega⟩
  | tuple val ih =>
    rw [Value.everyRecord_tuple] at distinct
    cases levels with
    | zero => exact visit_zero_returns _
    | succ levels =>
      intro path before after result room
      have each := fun value member => ih value member (distinct value member) levels
      rw [foreign, visit_val (by simp [expectedKeys]), visitTagged_tuple]
      simp only [run_bind_eq_ok, run_pure_eq_ok, nodes, nodesOf_eq]
      constructor
      · rintro ⟨within, found, middle, visited, built, last⟩
        obtain ⟨rfl, rfl, all, bound⟩ := (visitElements_returns each path within).mp visited
        subst built last
        exact ⟨rfl, by omega, .tuple all, bound⟩
      · rintro ⟨rfl, rfl, fits, bound⟩
        cases fits with
        | tuple all =>
          have within : before + 1 ≤ OPAQUE_ITF_MAX_NODES := by omega
          exact ⟨within, val, _, (visitElements_returns each path within).mpr ⟨rfl, rfl, all, by omega⟩, rfl, by omega⟩
  | map val ih =>
    rw [Value.everyRecord_map] at distinct
    cases levels with
    | zero => exact visit_zero_returns _
    | succ levels =>
      intro path before after result room
      have each := fun entry member => And.intro ((ih entry member).1 (distinct entry member).1 levels)
        ((ih entry member).2 (distinct entry member).2 levels)
      rw [foreign, visit_val (by simp [expectedKeys]), visitTagged_map]
      simp only [run_bind_eq_ok, run_lift_eq_ok, run_pure_eq_ok, unique_ok, nodes, nodesOfEntries_eq, denseArray,
        Except.ok.injEq, List.map_map]
      constructor
      · rintro ⟨within, _, _, ⟨rfl, rfl⟩, found, middle, visited, _, _, ⟨apart, same⟩, built, last⟩
        obtain ⟨rfl, rfl, all, bound⟩ := (visitEntries_returns each path 0 within).mp visited
        subst built last same
        exact ⟨rfl, by omega, .map (fun entry member => (all entry member).1) (fun entry member => (all entry member).2)
          apart, bound⟩
      · rintro ⟨rfl, rfl, fits, bound⟩
        cases fits with
        | map allKeys allValues apart =>
          have within : before + 1 ≤ OPAQUE_ITF_MAX_NODES := by omega
          exact ⟨within, _, _, ⟨rfl, rfl⟩, val, _, (visitEntries_returns each path 0 within).mpr ⟨rfl, rfl,
            fun entry member => ⟨allKeys entry member, allValues entry member⟩, by omega⟩, (), _, ⟨apart, rfl⟩, rfl,
            by omega⟩
  | record val ih =>
    rw [Value.everyRecord_record] at distinct
    cases levels with
    | zero => exact visit_zero_returns _
    | succ levels =>
      intro path before after result room
      have each := fun field member => ih field member (distinct.2 field member) levels
      have returns {before after : Nat} {result : Fields Value} (within : before ≤ OPAQUE_ITF_MAX_NODES) :=
        @visitFields_returns (visit levels) levels val each path [] distinct.1 before after result within
      rw [foreign, visit_val (by simp [expectedKeys]), visitTagged_record]
      simp only [run_bind_eq_ok, run_lift_eq_ok, run_pure_eq_ok, nodes, nodesOfFields_eq, dataRecord, Except.ok.injEq]
      constructor
      · rintro ⟨within, _, _, ⟨rfl, rfl⟩, found, middle, visited, built, last⟩
        obtain ⟨rfl, rfl, all, bound⟩ := (returns within).mp visited
        subst built last
        exact ⟨rfl, by omega, .record all, bound⟩
      · rintro ⟨rfl, rfl, fits, bound⟩
        cases fits with
        | record all =>
          have within : before + 1 ≤ OPAQUE_ITF_MAX_NODES := by omega
          exact ⟨within, _, _, ⟨rfl, rfl⟩, val, _, (returns within).mpr ⟨rfl, rfl, all, by omega⟩, rfl, by omega⟩
  | variant tag value ih =>
    rw [Value.everyRecord_variant] at distinct
    cases levels with
    | zero => exact visit_zero_returns _
    | succ levels =>
      intro path before after result room
      have inner := ih distinct levels
      rw [foreign, visit_object (js "variant") (by simp [Fields.get]) (by simp [keys, expectedKeys, Fields.keys])]
      simp only [visitTagged, switch, js_inj, reduceIte, String.reduceEq, Fields.get, Option.getD_some, run_bind_eq_ok,
        run_pure_eq_ok, nodes]
      constructor
      · rintro ⟨within, found, middle, visited, rfl, rfl⟩
        obtain ⟨rfl, rfl, fits, bound⟩ := (inner _ _ _ _ within).mp visited
        exact ⟨rfl, by omega, .variant fits, bound⟩
      · rintro ⟨rfl, rfl, fits, bound⟩
        cases fits with
        | variant fits =>
          have within : before + 1 ≤ OPAQUE_ITF_MAX_NODES := by omega
          exact ⟨within, value, _, (inner _ _ _ _ within).mpr ⟨rfl, rfl, fits, by omega⟩, rfl, by omega⟩

/-- A value is accepted as it is, or not at all. -/
theorem snapshot_foreign {value result : Value} (distinct : value.EveryRecord Fields.Distinct) :
    snapshotItfValue (foreign value) = .ok result ↔
      result = value ∧ Fits (OPAQUE_ITF_MAX_DEPTH + 1) value ∧ nodes value ≤ OPAQUE_ITF_MAX_NODES := by
  have visited := fun after => visit_returns value distinct (OPAQUE_ITF_MAX_DEPTH + 1) (js "value") 0 after result
    (by decide)
  rw [snapshotItfValue, fmap_eq_ok]
  constructor
  · rintro ⟨⟨found, after⟩, returned, rfl⟩
    obtain ⟨same, spent, fits, bound⟩ := (visited after).mp returned
    exact ⟨same, fits, by omega⟩
  · rintro ⟨rfl, fits, bound⟩
    exact ⟨(result, nodes result), (visited _).mpr ⟨rfl, by omega, fits, bound⟩, rfl⟩

end Mirror.OpaqueItf
