import MirrorECMA.OpaqueItf.Accepted

namespace Mirror.OpaqueItf

open ECMA Mirror.Protocol

/-! ### What a snapshot returns -/

/-- A value as a visit of this many levels leaves it. -/
structure Snapshot (levels : Nat) (value : Value) : Prop where
  objects : value.EveryRecord Fields.Distinct
  fits : Fits levels value

/-- A visit returns snapshots and counts all their nodes. -/
def Sound (visit : Foreign → JsString → Visit Value) (levels : Nat) : Prop :=
  ∀ input path before value after, (visit input path).run before = .ok (value, after) →
    Snapshot levels value ∧ before + nodes value ≤ after ∧ (before ≤ OPAQUE_ITF_MAX_NODES → after ≤ OPAQUE_ITF_MAX_NODES)

section

variable {visit : Foreign → JsString → Visit Value} {levels : Nat}

theorem visitItems_sound (sound : Sound visit levels) {path : JsString} {index : Nat} {items : List Foreign}
    {values : List Value} {before after : Nat} (visited : (visitItems visit path index items).run before = .ok (values, after)) :
    (∀ value ∈ values, Snapshot levels value) ∧ before + (values.map nodes).sum ≤ after ∧
      (before ≤ OPAQUE_ITF_MAX_NODES → after ≤ OPAQUE_ITF_MAX_NODES) := by
  induction items generalizing index values before after with
  | nil =>
    rw [visitItems, run_pure_eq_ok] at visited
    rcases visited with ⟨rfl, rfl⟩
    exact ⟨by simp, by simp, id⟩
  | cons item rest ih =>
    simp only [visitItems, run_bind_eq_ok, run_pure_eq_ok] at visited
    rcases visited with ⟨value, middle, first, others, last, more, rfl, rfl⟩
    rcases sound _ _ _ _ _ first with ⟨head, spent, within⟩
    rcases ih more with ⟨tail, total, bound⟩
    refine ⟨List.forall_mem_cons.mpr ⟨head, tail⟩, ?_, fun room => bound (within room)⟩
    simp only [List.map_cons, List.sum_cons]
    omega

theorem visitElements_sound (sound : Sound visit levels) {path : JsString} {val : Foreign} {values : List Value}
    {before after : Nat} (visited : (visitElements visit val path).run before = .ok (values, after)) :
    (∀ value ∈ values, Snapshot levels value) ∧ before + (values.map nodes).sum ≤ after ∧
      (before ≤ OPAQUE_ITF_MAX_NODES → after ≤ OPAQUE_ITF_MAX_NODES) := by
  simp only [visitElements, run_bind_eq_ok, run_lift_eq_ok] at visited
  rcases visited with ⟨items, _, ⟨-, rfl⟩, visited⟩
  exact visitItems_sound sound visited

theorem visitEntry_sound (sound : Sound visit levels) {path : JsString} {item : Foreign} {entry : Value × Value}
    {before after : Nat} (visited : (visitEntry visit item path).run before = .ok (entry, after)) :
    (Snapshot levels entry.1 ∧ Snapshot levels entry.2) ∧ before + (nodes entry.1 + nodes entry.2) ≤ after ∧
      (before ≤ OPAQUE_ITF_MAX_NODES → after ≤ OPAQUE_ITF_MAX_NODES) := by
  simp only [visitEntry, run_bind_eq_ok, run_lift_eq_ok] at visited
  rcases visited with ⟨parts, _, ⟨-, rfl⟩, visited⟩
  split at visited
  · simp only [run_bind_eq_ok, run_pure_eq_ok] at visited
    rcases visited with ⟨key, middle, first, value, last, second, rfl, rfl⟩
    rcases sound _ _ _ _ _ first with ⟨keySnapshot, spentKey, withinKey⟩
    rcases sound _ _ _ _ _ second with ⟨valueSnapshot, spentValue, withinValue⟩
    exact ⟨⟨keySnapshot, valueSnapshot⟩, by dsimp only; omega, fun room => withinValue (withinKey room)⟩
  · exact (run_throw_ne_ok visited).elim

theorem visitEntries_sound (sound : Sound visit levels) {path : JsString} {index : Nat} {items : List Foreign}
    {entries : List (Value × Value)} {before after : Nat}
    (visited : (visitEntries visit path index items).run before = .ok (entries, after)) :
    (∀ entry ∈ entries, Snapshot levels entry.1 ∧ Snapshot levels entry.2) ∧
      before + (entries.map fun entry => nodes entry.1 + nodes entry.2).sum ≤ after ∧
      (before ≤ OPAQUE_ITF_MAX_NODES → after ≤ OPAQUE_ITF_MAX_NODES) := by
  induction items generalizing index entries before after with
  | nil =>
    rw [visitEntries, run_pure_eq_ok] at visited
    rcases visited with ⟨rfl, rfl⟩
    exact ⟨by simp, by simp, id⟩
  | cons item rest ih =>
    simp only [visitEntries, run_bind_eq_ok, run_pure_eq_ok] at visited
    rcases visited with ⟨entry, middle, first, others, last, more, rfl, rfl⟩
    rcases visitEntry_sound sound first with ⟨head, spent, within⟩
    rcases ih more with ⟨tail, total, bound⟩
    refine ⟨List.forall_mem_cons.mpr ⟨head, tail⟩, ?_, fun room => bound (within room)⟩
    simp only [List.map_cons, List.sum_cons]
    omega

theorem nodes_set (fields : Fields Value) (key : JsString) (value : Value) :
    ((fields.set key value).map fun field => nodes field.2).sum ≤
      (fields.map fun field => nodes field.2).sum + nodes value := by
  induction fields with
  | nil => simp [Fields.set]
  | cons field rest ih =>
    rcases field with ⟨name, old⟩
    by_cases same : name = key
    · simp only [Fields.set, same, ↓reduceIte, List.map_cons, List.sum_cons]
      omega
    · simp only [Fields.set, same, ↓reduceIte, List.map_cons, List.sum_cons]
      omega

theorem visitFields_sound (sound : Sound visit levels) {path : JsString} {fields : List (JsString × Foreign)}
    {built result : Fields Value} {before after : Nat} (distinct : built.Distinct)
    (snapshots : ∀ field ∈ built, Snapshot levels field.2)
    (visited : (visitFields visit path built fields).run before = .ok (result, after)) :
    result.Distinct ∧ (∀ field ∈ result, Snapshot levels field.2) ∧
      before + (result.map fun field => nodes field.2).sum ≤ after + (built.map fun field => nodes field.2).sum ∧
      (before ≤ OPAQUE_ITF_MAX_NODES → after ≤ OPAQUE_ITF_MAX_NODES) := by
  induction fields generalizing built before with
  | nil =>
    rw [visitFields, run_pure_eq_ok] at visited
    rcases visited with ⟨rfl, rfl⟩
    exact ⟨distinct, snapshots, le_refl _, id⟩
  | cons field rest ih =>
    rcases field with ⟨key, source⟩
    simp only [visitFields, run_bind_eq_ok] at visited
    rcases visited with ⟨value, middle, first, more⟩
    rcases sound _ _ _ _ _ first with ⟨head, spent, within⟩
    have extended : ∀ field ∈ built.set key value, Snapshot levels field.2 := by
      intro field member
      rcases Fields.mem_set member with old | new
      · exact snapshots field old
      · rw [new]
        exact head
    rcases ih (Fields.set_distinct distinct key value) extended more with ⟨apart, all, total, bound⟩
    have grown := nodes_set built key value
    exact ⟨apart, all, by omega, fun room => bound (within room)⟩

/-- The value that a case of the switch returns, and the nodes visited under it. -/
def Tagged (levels before after : Nat) (value : Value) : Prop :=
  Snapshot (levels + 1) value ∧ before + nodes value ≤ after + 1 ∧
    (before ≤ OPAQUE_ITF_MAX_NODES → after ≤ OPAQUE_ITF_MAX_NODES)

theorem leaf_tagged {value : Value} {before : Nat} (fits : Fits (levels + 1) value)
    (plain : ∀ record, ¬ value.RecordIn record) (single : nodes value = 1) : Tagged levels before before value :=
  ⟨⟨fun record inside => (plain record inside).elim, fits⟩, by omega, id⟩

theorem visitTagged_sound (sound : Sound visit levels) {tag path : JsString} {val variantTag value : Foreign}
    {result : Value} {before after : Nat}
    (visited : (visitTagged visit tag val variantTag value path).run before = .ok (result, after)) :
    Tagged levels before after result := by
  have taken : switch tag _ _ = visitTagged visit tag val variantTag value path := rfl
  rcases switch_eq taken with ⟨case, member, -, same⟩ | ⟨-, failed⟩
  · rw [← same] at visited
    simp only [List.mem_cons, List.not_mem_nil, or_false] at member
    rcases member with rfl | rfl | rfl | rfl | rfl | rfl | rfl | rfl | rfl | rfl | rfl
    · rw [run_pure_eq_ok] at visited
      rcases visited with ⟨rfl, rfl⟩
      exact leaf_tagged .null (by rintro _ ⟨⟩) rfl
    · cases val <;> dsimp only at visited
      case bigint val =>
        rcases run_pure_eq_ok.mp visited with ⟨rfl, rfl⟩
        exact leaf_tagged (.int val) (by rintro _ ⟨⟩) rfl
      all_goals exact (run_throw_ne_ok visited).elim
    · cases val <;> dsimp only at visited
      case boolean val =>
        rcases run_pure_eq_ok.mp visited with ⟨rfl, rfl⟩
        exact leaf_tagged (.bool val) (by rintro _ ⟨⟩) rfl
      all_goals exact (run_throw_ne_ok visited).elim
    · cases val <;> dsimp only at visited
      case string val =>
        rcases run_pure_eq_ok.mp visited with ⟨rfl, rfl⟩
        exact leaf_tagged (.str val) (by rintro _ ⟨⟩) rfl
      all_goals exact (run_throw_ne_ok visited).elim
    · cases val <;> dsimp only at visited
      case string val =>
        rcases run_pure_eq_ok.mp visited with ⟨rfl, rfl⟩
        exact leaf_tagged (.unserializable val) (by rintro _ ⟨⟩) rfl
      all_goals exact (run_throw_ne_ok visited).elim
    · simp only [run_bind_eq_ok, run_lift_eq_ok, run_pure_eq_ok, unique_ok] at visited
      rcases visited with ⟨values, _, found, _, _, ⟨apart, rfl⟩, rfl, rfl⟩
      rcases visitElements_sound sound found with ⟨all, total, bound⟩
      exact ⟨⟨Value.everyRecord_set.mpr fun v member => (all v member).objects, .set (fun v member => (all v member).fits) apart⟩,
        by simp only [nodes, nodesOf_eq]; omega, bound⟩
    · simp only [run_bind_eq_ok, run_pure_eq_ok] at visited
      rcases visited with ⟨values, _, found, rfl, rfl⟩
      rcases visitElements_sound sound found with ⟨all, total, bound⟩
      exact ⟨⟨Value.everyRecord_seq.mpr fun v member => (all v member).objects, .seq fun v member => (all v member).fits⟩,
        by simp only [nodes, nodesOf_eq]; omega, bound⟩
    · simp only [run_bind_eq_ok, run_pure_eq_ok] at visited
      rcases visited with ⟨values, _, found, rfl, rfl⟩
      rcases visitElements_sound sound found with ⟨all, total, bound⟩
      exact ⟨⟨Value.everyRecord_tuple.mpr fun v member => (all v member).objects, .tuple fun v member => (all v member).fits⟩,
        by simp only [nodes, nodesOf_eq]; omega, bound⟩
    · simp only [run_bind_eq_ok, run_lift_eq_ok, run_pure_eq_ok] at visited
      rcases visited with ⟨source, _, ⟨-, rfl⟩, fields, _, found, rfl, rfl⟩
      have empty : Fields.Distinct ([] : Fields Value) := List.nodup_nil
      rcases visitFields_sound sound empty (by simp) found with ⟨distinct, all, total, bound⟩
      rw [List.map_nil, List.sum_nil] at total
      exact ⟨⟨Value.everyRecord_record.mpr ⟨distinct, fun field member => (all field member).objects⟩,
        .record fun field member => (all field member).fits⟩, by simp only [nodes, nodesOfFields_eq]; omega, bound⟩
    · simp only [run_bind_eq_ok, run_lift_eq_ok, run_pure_eq_ok, unique_ok, List.map_map] at visited
      rcases visited with ⟨items, _, ⟨-, rfl⟩, entries, _, found, _, _, ⟨apart, rfl⟩, rfl, rfl⟩
      rcases visitEntries_sound sound found with ⟨all, total, bound⟩
      exact ⟨⟨Value.everyRecord_map.mpr fun entry member => ⟨(all entry member).1.objects, (all entry member).2.objects⟩,
        .map (fun entry member => (all entry member).1.fits) (fun entry member => (all entry member).2.fits) apart⟩,
        by simp only [nodes, nodesOfEntries_eq]; omega, bound⟩
    · cases variantTag <;> dsimp only at visited
      case string variantTag =>
        simp only [run_bind_eq_ok, run_pure_eq_ok] at visited
        rcases visited with ⟨inner, _, found, rfl, rfl⟩
        rcases sound _ _ _ _ _ found with ⟨snapshot, spent, bound⟩
        exact ⟨⟨Value.everyRecord_variant.mpr snapshot.objects, .variant snapshot.fits⟩, by simp only [nodes]; omega, bound⟩
      all_goals exact (run_throw_ne_ok visited).elim
  · rw [← failed] at visited
    exact (run_throw_ne_ok visited).elim

end

theorem visit_sound (levels : Nat) : Sound (visit levels) levels := by
  induction levels with
  | zero =>
    intro input path before value after visited
    exact (run_throw_ne_ok visited).elim
  | succ levels ih =>
    intro input path before value after visited
    simp only [visit, run_bind_eq_ok, run_lift_eq_ok, spendNode_ok] at visited
    rcases visited with ⟨_, _, ⟨rfl, room⟩, record, _, ⟨-, rfl⟩, _, _, ⟨-, rfl⟩, visited⟩
    split at visited
    · rcases visitTagged_sound ih visited with ⟨snapshot, spent, bound⟩
      exact ⟨snapshot, by omega, fun _ => bound room⟩
    · exact (run_throw_ne_ok visited).elim

/-- A snapshot is accepted again, and is its own snapshot. -/
theorem snapshot_snapshot {input : Foreign} {value : Value} (accepted : snapshotItfValue input = .ok value) :
    snapshotItfValue (foreign value) = .ok value := by
  rw [snapshotItfValue, fmap_eq_ok] at accepted
  rcases accepted with ⟨⟨found, after⟩, visited, rfl⟩
  rcases visit_sound _ _ _ _ _ _ visited with ⟨snapshot, spent, bound⟩
  have small := bound (by decide)
  exact (snapshot_foreign snapshot.objects).mpr ⟨rfl, snapshot.fits, by omega⟩

theorem snapshot_objects {input : Foreign} {value : Value} (accepted : snapshotItfValue input = .ok value) :
    value.EveryRecord Fields.Distinct := by
  rw [snapshotItfValue, fmap_eq_ok] at accepted
  rcases accepted with ⟨⟨found, after⟩, visited, rfl⟩
  exact (visit_sound _ _ _ _ _ _ visited).1.objects

/-! ### Opaque values -/

/-- Branded protocol data: only a checked snapshot is ever wrapped. -/
structure OpaqueItfValue where
  value : Value
  checked : snapshotItfValue (foreign value) = .ok value

namespace OpaqueItfValue

/-- `new OpaqueItfValue(value)`. -/
def create (value : Value) : Checked OpaqueItfValue :=
  match accepted : snapshotItfValue (foreign value) with
  | .ok snapshot => .ok ⟨snapshot, snapshot_snapshot accepted⟩
  | .error thrown => .error thrown

/-- `OpaqueItfValue.encode` of a wrapper. -/
def encode (wrapped : OpaqueItfValue) : Checked Value := snapshotItfValue (foreign wrapped.value)

theorem encode_eq (wrapped : OpaqueItfValue) : wrapped.encode = .ok wrapped.value := wrapped.checked

theorem create_eq_ok {value : Value} {wrapped : OpaqueItfValue} :
    create value = .ok wrapped ↔ snapshotItfValue (foreign value) = .ok wrapped.value := by
  unfold create
  split
  · rename_i snapshot accepted
    cases wrapped
    constructor
    · intro same
      cases same
      exact accepted
    · intro same
      cases accepted.symm.trans same
      rfl
  · rename_i thrown failed
    rw [failed]
    simp

end OpaqueItfValue

end Mirror.OpaqueItf
