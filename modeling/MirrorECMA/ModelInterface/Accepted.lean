import MirrorECMA.ModelInterface.Plain

namespace Mirror.ModelInterface

open ECMA

theorem exactObject_plain {allowed required : List String} {path : JsString} {fields : Fields Json}
    (known : (fields.keys.all fun key => decide (key ∈ allowed.map js)) = true)
    (present : (required.all fun key => fields.has (js key)) = true) :
    exactObject (some (.object fields)) path allowed required = .ok fields := by
  simp only [List.all_eq_true, decide_eq_true_eq, Fields.has_iff] at known present
  exact exactObject_ok.mpr ⟨rfl, known, present⟩

theorem string_plain {text path : JsString} (valid : isWellFormed text = true) :
    string (some (.string text)) path = .ok text := string_ok.mpr ⟨rfl, valid⟩

theorem shortString_plain {text path : JsString} (short : ShortText text) :
    shortString (some (.string text)) path = .ok text := shortString_ok.mpr ⟨rfl, short⟩

/-! ### Literals -/

/-- What `decodeLiteral` returns at a depth that leaves this many levels. -/
inductive CanonicalItfLiteral.Accepted : Nat → CanonicalItfLiteral → Prop
  | int {levels : Nat} {value : JsString} : isWellFormed value = true → isCanonicalInteger value = true →
    Accepted (levels + 1) (.int value)
  | bool {levels : Nat} {value : Bool} : Accepted (levels + 1) (.bool value)
  | str {levels : Nat} {value : JsString} : isWellFormed value = true → Accepted (levels + 1) (.str value)
  | null {levels : Nat} : Accepted (levels + 1) .null
  | collection {levels : Nat} {kind : ValuesKind} {values : List CanonicalItfLiteral} :
    (∀ literal ∈ values, Accepted levels literal) → Accepted (levels + 1) (.collection kind values)
  | record {levels : Nat} {fields : List (JsString × CanonicalItfLiteral)} :
    (∀ field ∈ fields, isWellFormed field.1 = true) → (∀ field ∈ fields, Accepted levels field.2) →
    Accepted (levels + 1) (.record fields)
  | map {levels : Nat} {entries : List (CanonicalItfLiteral × CanonicalItfLiteral)} :
    (∀ entry ∈ entries, Accepted levels entry.1) → (∀ entry ∈ entries, Accepted levels entry.2) →
    Accepted (levels + 1) (.map entries)
  | variant {levels : Nat} {tag : JsString} {payload : CanonicalItfLiteral} : isWellFormed tag = true →
    Accepted levels payload → Accepted (levels + 1) (.variant tag payload)

theorem decodeLiteral_accepted {levels : Nat} {value : Unknown} {path : JsString} {literal : CanonicalItfLiteral}
    (decoded : decodeLiteral levels value path = .ok literal) : literal.Accepted levels := by
  induction levels generalizing value path literal with
  | zero => cases decoded
  | succ levels ih =>
    simp only [decodeLiteral, decodeLiteralOf, bind_eq_ok] at decoded
    obtain ⟨tagged, -, kind, -, taken⟩ := decoded
    rcases switch_eq taken with ⟨case, member, -, result⟩ | ⟨-, failed⟩
    · have collection (kind : ValuesKind) (found : decodeCollectionLiteral (decodeLiteral levels) kind value path =
          .ok literal) : literal.Accepted (levels + 1) := by
        simp only [decodeCollectionLiteral, bind_eq_ok, pure_eq_ok, Except.ok.injEq] at found
        obtain ⟨fields, -, items, -, values, each, rfl⟩ := found
        exact .collection (mapItems_each (fun _ _ _ => ih) each).2
      simp only [List.mem_cons, List.not_mem_nil, or_false] at member
      rcases member with rfl | rfl | rfl | rfl | rfl | rfl | rfl | rfl | rfl | rfl
      · simp only [decodeIntLiteral, bind_eq_ok, string_ok, failWhen_ok, pure_eq_ok, Except.ok.injEq,
          Bool.not_eq_false] at result
        obtain ⟨fields, -, text, ⟨-, valid⟩, -, integer, rfl⟩ := result
        exact .int valid integer
      · simp only [decodeBoolLiteral, bind_eq_ok] at result
        obtain ⟨fields, -, result⟩ := result
        split at result
        · cases result
          exact .bool
        · cases result
      · simp only [decodeStrLiteral, bind_eq_ok, string_ok, pure_eq_ok, Except.ok.injEq] at result
        obtain ⟨fields, -, text, ⟨-, valid⟩, rfl⟩ := result
        exact .str valid
      · simp only [decodeNullLiteral, bind_eq_ok, pure_eq_ok, Except.ok.injEq] at result
        obtain ⟨fields, -, rfl⟩ := result
        exact .null
      · exact collection .set result
      · exact collection .seq result
      · exact collection .tuple result
      · simp only [decodeRecordLiteral, bind_eq_ok, pure_eq_ok, Except.ok.injEq] at result
        obtain ⟨fields, -, items, -, decoded, each, rfl⟩ := result
        have all := (mapItems_each (P := fun field => isWellFormed field.1 = true ∧ field.2.Accepted levels)
          (fun value path field found => ?_) each).2
        · exact .record (fun field member => (all field member).1) fun field member => (all field member).2
        · simp only [decodeLiteralField, bind_eq_ok, string_ok, pure_eq_ok, Except.ok.injEq] at found
          obtain ⟨entry, -, name, ⟨-, valid⟩, nested, inner, rfl⟩ := found
          exact ⟨valid, ih inner⟩
      · simp only [decodeMapLiteral, bind_eq_ok, pure_eq_ok, Except.ok.injEq] at result
        obtain ⟨fields, -, items, -, decoded, each, rfl⟩ := result
        have all := (mapItems_each (P := fun entry => entry.1.Accepted levels ∧ entry.2.Accepted levels)
          (fun value path entry found => ?_) each).2
        · exact .map (fun entry member => (all entry member).1) fun entry member => (all entry member).2
        · simp only [decodeLiteralEntry, bind_eq_ok, pure_eq_ok, Except.ok.injEq] at found
          obtain ⟨fields, -, key, first, nested, inner, rfl⟩ := found
          exact ⟨ih first, ih inner⟩
      · simp only [decodeVariantLiteral, bind_eq_ok, string_ok, pure_eq_ok, Except.ok.injEq] at result
        obtain ⟨fields, -, tag, ⟨-, valid⟩, payload, inner, rfl⟩ := result
        exact .variant valid (ih inner)
    · cases failed

theorem decodeLiteral_of {levels : Nat} {fields : Fields Json} (kind : JsString)
    (tagged : fields.get (js "kind") = some (.string kind)) (valid : isWellFormed kind = true) (path : JsString) :
    decodeLiteral (levels + 1) (some (.object fields)) path =
      decodeLiteralOf (decodeLiteral levels) kind (some (.object fields)) path := by
  rw [decodeLiteral, object, ok_bind, tagged, string_plain valid, ok_bind]

theorem decodeLiteral_plain {levels : Nat} {literal : CanonicalItfLiteral} (accepted : literal.Accepted levels)
    (path : JsString) : decodeLiteral levels (some literal.toJson) path = .ok literal := by
  induction accepted generalizing path with
  | int valid integer =>
    rw [CanonicalItfLiteral.toJson, decodeLiteral_of _ rfl (by decide)]
    simp [decodeLiteralOf, switch, decodeIntLiteral, exactObject_plain, Fields.has, Fields.get, string_plain valid, failWhen, integer]
  | bool =>
    rw [CanonicalItfLiteral.toJson, decodeLiteral_of _ rfl (by decide)]
    simp [decodeLiteralOf, switch, decodeBoolLiteral, exactObject_plain, Fields.has, Fields.get]
  | str valid =>
    rw [CanonicalItfLiteral.toJson, decodeLiteral_of _ rfl (by decide)]
    simp [decodeLiteralOf, switch, decodeStrLiteral, exactObject_plain, Fields.has, Fields.get, string_plain valid]
  | null =>
    rw [CanonicalItfLiteral.toJson, decodeLiteral_of _ rfl (by decide)]
    simp [decodeLiteralOf, switch, decodeNullLiteral, exactObject_plain, Fields.has, Fields.get]
  | @collection levels kind values _ ih =>
    have items := mapItems_plain CanonicalItfLiteral.toJson ih (path ++ js ".values") 0
    cases kind <;>
    · rw [CanonicalItfLiteral.toJson, decodeLiteral_of _ rfl (by decide)]
      simp [decodeLiteralOf, switch, ValuesKind.name, decodeCollectionLiteral, exactObject_plain, Fields.has, Fields.get, array, items]
  | @record levels fields valid _ ih =>
    have field (field : JsString × CanonicalItfLiteral) (member : field ∈ fields) (path : JsString) :
        decodeLiteralField (decodeLiteral levels)
          (some (.object [(js "name", .string field.1), (js "value", field.2.toJson)])) path = .ok field := by
      simp [decodeLiteralField, exactObject_plain, Fields.has, Fields.get, string_plain (valid field member), ih field member]
    have items := mapItems_plain _ field (path ++ js ".fields") 0
    rw [CanonicalItfLiteral.toJson, decodeLiteral_of (js "record") (by simp [Fields.get]) (by decide)]
    simp [decodeLiteralOf, switch, decodeRecordLiteral, exactObject_plain, Fields.has, Fields.get, array, Function.comp_def, items]
  | @map levels entries _ _ keys values =>
    have entry (entry : CanonicalItfLiteral × CanonicalItfLiteral) (member : entry ∈ entries) (path : JsString) :
        decodeLiteralEntry (decodeLiteral levels)
          (some (.object [(js "key", entry.1.toJson), (js "value", entry.2.toJson)])) path = .ok entry := by
      simp [decodeLiteralEntry, exactObject_plain, Fields.has, Fields.get, keys entry member, values entry member]
    have items := mapItems_plain _ entry (path ++ js ".entries") 0
    rw [CanonicalItfLiteral.toJson, decodeLiteral_of (js "map") (by simp [Fields.get]) (by decide)]
    simp [decodeLiteralOf, switch, decodeMapLiteral, exactObject_plain, Fields.has, Fields.get, array, Function.comp_def, items]
  | variant valid _ ih =>
    rw [CanonicalItfLiteral.toJson, decodeLiteral_of _ rfl (by decide)]
    simp [decodeLiteralOf, switch, decodeVariantLiteral, exactObject_plain, Fields.has, Fields.get, string_plain valid, ih]

/-! ### Structural types -/

mutual

/-- The nodes that `decodeModelType` counts. -/
def ModelType.nodes : ModelType → Nat
  | .scalar _ | .opaqueItf _ => 1
  | .collection _ element => element.nodes + 1
  | .tuple elements => nodesSum elements + 1
  | .record fields => namedNodesSum fields + 1
  | .map key value => key.nodes + value.nodes + 1
  | .variant cases => namedNodesSum cases + 1

def ModelType.nodesSum : List ModelType → Nat
  | [] => 0
  | type :: rest => type.nodes + nodesSum rest

def ModelType.namedNodesSum : List (JsString × ModelType) → Nat
  | [] => 0
  | (_, type) :: rest => type.nodes + namedNodesSum rest

end

@[simp] theorem ModelType.nodesSum_eq (types : List ModelType) : nodesSum types = (types.map nodes).sum := by
  induction types with
  | nil => rfl
  | cons type rest ih => rw [nodesSum, ih, List.map_cons, List.sum_cons]

@[simp] theorem ModelType.namedNodesSum_eq (fields : List (JsString × ModelType)) :
    namedNodesSum fields = (fields.map fun field => field.2.nodes).sum := by
  induction fields with
  | nil => rfl
  | cons field rest ih => rw [namedNodesSum, ih, List.map_cons, List.sum_cons]

/-- What `decodeModelType` returns at a depth that leaves this many levels, its nodes apart. -/
inductive ModelType.Accepted : Nat → ModelType → Prop
  | scalar {levels : Nat} {kind : ScalarKind} : Accepted (levels + 1) (.scalar kind)
  | collection {levels : Nat} {kind : ElementKind} {element : ModelType} : Accepted levels element →
    Accepted (levels + 1) (.collection kind element)
  | tuple {levels : Nat} {elements : List ModelType} : (∀ type ∈ elements, Accepted levels type) →
    Accepted (levels + 1) (.tuple elements)
  | record {levels : Nat} {fields : List (JsString × ModelType)} : (∀ field ∈ fields, ShortText field.1) →
    (∀ field ∈ fields, Accepted levels field.2) → Accepted (levels + 1) (.record fields)
  | map {levels : Nat} {key value : ModelType} : Accepted levels key → Accepted levels value →
    Accepted (levels + 1) (.map key value)
  | variant {levels : Nat} {cases : List (JsString × ModelType)} : (∀ case ∈ cases, ShortText case.1) →
    (∀ case ∈ cases, Accepted levels case.2) → Accepted (levels + 1) (.variant cases)
  | opaqueItf {levels : Nat} {description : JsString} : ShortText description →
    Accepted (levels + 1) (.opaqueItf description)

section

variable {nested : Unknown → JsString → Budgeted ModelType} {levels : Nat}

theorem decodeNamedType_counts (counts : Counts nested (ModelType.Accepted levels) ModelType.nodes) (name type : String) :
    Counts (decodeNamedType nested name type)
      (fun field => ShortText field.1 ∧ field.2.Accepted levels) fun field => field.2.nodes := by
  intro value path nodes field after decoded
  simp only [decodeNamedType, run_bind_ok, run_lift_ok, run_pure_ok, shortString_ok] at decoded
  obtain ⟨fields, _, ⟨-, rfl⟩, label, _, ⟨⟨-, short⟩, rfl⟩, type, _, inner, rfl, rfl⟩ := decoded
  obtain ⟨accepted, spent⟩ := counts _ _ _ _ _ inner
  exact ⟨⟨short, accepted⟩, spent⟩

theorem decodeTypeOf_counts (counts : Counts nested (ModelType.Accepted levels) ModelType.nodes) {kind path : JsString}
    {value : Unknown} {nodes after : Nat} {type : ModelType}
    (decoded : (decodeTypeOf nested kind value path).run nodes = .ok (type, after)) :
    type.Accepted (levels + 1) ∧ after + 1 = nodes + type.nodes ∧ (nodes ≤ 8192 → after ≤ 8192) := by
  have scalar (kind : ScalarKind) (found : (decodeScalarType kind value path).run nodes = .ok (type, after)) :
      type.Accepted (levels + 1) ∧ after + 1 = nodes + type.nodes ∧ (nodes ≤ 8192 → after ≤ 8192) := by
    simp only [decodeScalarType, run_bind_ok, run_lift_ok, run_pure_ok] at found
    obtain ⟨fields, _, ⟨-, rfl⟩, rfl, rfl⟩ := found
    exact ⟨.scalar, rfl, id⟩
  have collection (kind : ElementKind)
      (found : (decodeCollectionType nested kind value path).run nodes = .ok (type, after)) :
      type.Accepted (levels + 1) ∧ after + 1 = nodes + type.nodes ∧ (nodes ≤ 8192 → after ≤ 8192) := by
    simp only [decodeCollectionType, run_bind_ok, run_lift_ok, run_pure_ok] at found
    obtain ⟨fields, _, ⟨-, rfl⟩, element, _, inner, rfl, rfl⟩ := found
    obtain ⟨accepted, spent, within⟩ := counts _ _ _ _ _ inner
    exact ⟨.collection accepted, by rw [spent, ModelType.nodes, Nat.add_assoc], within⟩
  rcases switch_eq (show switch kind _ _ = decodeTypeOf nested kind value path from rfl) with
    ⟨case, member, -, result⟩ | ⟨-, failed⟩
  · rw [← result] at decoded
    simp only [List.mem_cons, List.not_mem_nil, or_false] at member
    rcases member with rfl | rfl | rfl | rfl | rfl | rfl | rfl | rfl | rfl | rfl | rfl
    · exact scalar .int decoded
    · exact scalar .bool decoded
    · exact scalar .str decoded
    · exact scalar .null decoded
    · exact collection .set decoded
    · exact collection .seq decoded
    · simp only [decodeTupleType, run_bind_ok, run_lift_ok, run_pure_ok] at decoded
      obtain ⟨fields, _, ⟨-, rfl⟩, items, _, ⟨-, rfl⟩, elements, _, inner, rfl, rfl⟩ := decoded
      obtain ⟨-, accepted, spent, within⟩ := mapItems_counts counts inner
      exact ⟨.tuple accepted, by rw [spent, ModelType.nodes, ModelType.nodesSum_eq, Nat.add_assoc], within⟩
    · simp only [decodeRecordType, run_bind_ok, run_lift_ok, run_pure_ok] at decoded
      obtain ⟨fields, _, ⟨-, rfl⟩, items, _, ⟨-, rfl⟩, named, _, inner, rfl, rfl⟩ := decoded
      obtain ⟨-, accepted, spent, within⟩ := mapItems_counts (decodeNamedType_counts counts "wireName" "type") inner
      exact ⟨.record (fun field member => (accepted field member).1) fun field member => (accepted field member).2,
        by rw [spent, ModelType.nodes, ModelType.namedNodesSum_eq, Nat.add_assoc], within⟩
    · simp only [decodeMapType, run_bind_ok, run_lift_ok, run_pure_ok] at decoded
      obtain ⟨fields, _, ⟨-, rfl⟩, key, _, first, mapped, _, second, rfl, rfl⟩ := decoded
      obtain ⟨acceptedKey, spentKey, withinKey⟩ := counts _ _ _ _ _ first
      obtain ⟨acceptedValue, spentValue, withinValue⟩ := counts _ _ _ _ _ second
      exact ⟨.map acceptedKey acceptedValue, by rw [spentValue, spentKey, ModelType.nodes]; omega,
        fun small => withinValue (withinKey small)⟩
    · simp only [decodeVariantType, run_bind_ok, run_lift_ok, run_pure_ok] at decoded
      obtain ⟨fields, _, ⟨-, rfl⟩, items, _, ⟨-, rfl⟩, named, _, inner, rfl, rfl⟩ := decoded
      obtain ⟨-, accepted, spent, within⟩ := mapItems_counts (decodeNamedType_counts counts "tag" "payload") inner
      exact ⟨.variant (fun case member => (accepted case member).1) fun case member => (accepted case member).2,
        by rw [spent, ModelType.nodes, ModelType.namedNodesSum_eq, Nat.add_assoc], within⟩
    · simp only [decodeOpaqueItfType, run_bind_ok, run_lift_ok, run_pure_ok, shortString_ok] at decoded
      obtain ⟨fields, _, ⟨-, rfl⟩, description, _, ⟨⟨-, short⟩, rfl⟩, rfl, rfl⟩ := decoded
      exact ⟨.opaqueItf short, rfl, id⟩
  · rw [← failed, run_lift_ok] at decoded
    cases decoded.1

end

theorem decodeModelType_counts (levels : Nat) :
    Counts (decodeModelType levels) (ModelType.Accepted levels) ModelType.nodes := by
  induction levels with
  | zero =>
    intro value path nodes type after decoded
    simp [decodeModelType, fail] at decoded
  | succ levels ih =>
    intro value path nodes type after decoded
    simp only [decodeModelType, run_bind_ok, run_lift_ok, spendNode_ok] at decoded
    obtain ⟨_, _, ⟨rfl, room⟩, tagged, _, ⟨-, rfl⟩, kind, _, ⟨-, rfl⟩, decoded⟩ := decoded
    obtain ⟨accepted, spent, within⟩ := decodeTypeOf_counts ih decoded
    exact ⟨accepted, by omega, fun _ => within room⟩

theorem spendNode_run {nodes : Nat} (room : nodes + 1 ≤ 8192) (path : JsString) :
    (spendNode path).run nodes = .ok ((), nodes + 1) := spendNode_ok.mpr ⟨rfl, room⟩

theorem lift_run {α : Type} {decoded : Decoded α} {value : α} (found : decoded = .ok value) (nodes : Nat) :
    (liftM decoded : Budgeted α).run nodes = .ok (value, nodes) := run_lift_ok.mpr ⟨found, rfl⟩

theorem decodeModelType_of {levels nodes : Nat} {fields : Fields Json} (kind : JsString) {path : JsString}
    {result : ModelType × Nat}
    (tagged : fields.get (js "kind") = some (.string kind)) (valid : isWellFormed kind = true) (room : nodes + 1 ≤ 8192)
    (decoded : (decodeTypeOf (decodeModelType levels) kind (some (.object fields)) path).run (nodes + 1) = .ok result) :
    (decodeModelType (levels + 1) (some (.object fields)) path).run nodes = .ok result := by
  simp only [decodeModelType, run_bind_ok]
  exact ⟨(), _, spendNode_run room path, fields, _, lift_run rfl _, kind, _, lift_run (tagged ▸ string_plain valid) _,
    decoded⟩

theorem decodeNamedType_readsBack {nested : Unknown → JsString → Budgeted ModelType} (name type : String)
    (apart : type ≠ name) {field : JsString × ModelType} (short : ShortText field.1)
    (reads : ReadsBack nested ModelType.toJson ModelType.nodes field.2) :
    ReadsBack (decodeNamedType nested name type)
      (fun field => .object [(js type, field.2.toJson), (js name, .string field.1)]) (fun field => field.2.nodes) field := by
  intro path nodes room
  have inner := reads (path ++ js "." ++ js type) nodes room
  simp only [decodeNamedType, run_bind_ok, run_pure_ok]
  refine ⟨_, _, lift_run (exactObject_plain (by simp) (by simp [Fields.has, Fields.get, apart])) _, field.1, _,
    lift_run ?_ _, field.2, _, ?_, rfl, rfl⟩
  · simp [Fields.get, apart, shortString_plain short]
  · simpa [Fields.get] using inner

theorem decodeModelType_readsBack {levels : Nat} {type : ModelType} (accepted : type.Accepted levels) :
    ReadsBack (decodeModelType levels) ModelType.toJson ModelType.nodes type := by
  induction accepted with
  | @scalar levels kind =>
    intro path nodes room
    rw [ModelType.toJson]
    refine decodeModelType_of (js kind.name) rfl (by cases kind <;> decide) room ?_
    cases kind <;>
      simp [decodeTypeOf, switch, ScalarKind.name, decodeScalarType, exactObject_plain, Fields.has, Fields.get,
        ModelType.nodes]
  | @collection levels kind element _ ih =>
    intro path nodes room
    rw [ModelType.nodes] at room ⊢
    have inner := ih (path ++ js ".element") (nodes + 1) (by omega)
    rw [ModelType.toJson]
    refine decodeModelType_of (js kind.name) (by simp [Fields.get]) (by cases kind <;> decide) (by omega) ?_
    cases kind <;>
    · simp [decodeTypeOf, switch, ElementKind.name, decodeCollectionType, exactObject_plain, Fields.has, Fields.get, inner]
      omega
  | @tuple levels elements _ ih =>
    intro path nodes room
    simp only [ModelType.nodes, ModelType.nodesSum_eq] at room ⊢
    have items := mapItems_readsBack ih (path ++ js ".elements") 0 (nodes + 1) (by omega)
    rw [ModelType.toJson]
    refine decodeModelType_of (js "tuple") (by simp [Fields.get]) (by decide) (by omega) ?_
    simp [decodeTypeOf, switch, decodeTupleType, exactObject_plain, Fields.has, Fields.get, array, items]
    omega
  | @record levels fields short _ ih =>
    intro path nodes room
    simp only [ModelType.nodes, ModelType.namedNodesSum_eq] at room ⊢
    have named (field : JsString × ModelType) (member : field ∈ fields) :=
      decodeNamedType_readsBack "wireName" "type" (by decide) (short field member) (ih field member)
    have items := mapItems_readsBack named (path ++ js ".fields") 0 (nodes + 1) (by omega)
    rw [ModelType.toJson]
    refine decodeModelType_of (js "record") (by simp [Fields.get]) (by decide) (by omega) ?_
    simp [decodeTypeOf, switch, decodeRecordType, exactObject_plain, Fields.has, Fields.get, array, Function.comp_def, items]
    omega
  | @map levels key value _ _ keyReads valueReads =>
    intro path nodes room
    rw [ModelType.nodes] at room ⊢
    have first := keyReads (path ++ js ".key") (nodes + 1) (by omega)
    have second := valueReads (path ++ js ".value") (nodes + 1 + key.nodes) (by omega)
    rw [ModelType.toJson]
    refine decodeModelType_of (js "map") (by simp [Fields.get]) (by decide) (by omega) ?_
    simp [decodeTypeOf, switch, decodeMapType, exactObject_plain, Fields.has, Fields.get, first, second]
    omega
  | @variant levels cases short _ ih =>
    intro path nodes room
    simp only [ModelType.nodes, ModelType.namedNodesSum_eq] at room ⊢
    have named (case : JsString × ModelType) (member : case ∈ cases) :=
      decodeNamedType_readsBack "tag" "payload" (by decide) (short case member) (ih case member)
    have items := mapItems_readsBack named (path ++ js ".cases") 0 (nodes + 1) (by omega)
    rw [ModelType.toJson]
    refine decodeModelType_of (js "variant") (by simp [Fields.get]) (by decide) (by omega) ?_
    simp [decodeTypeOf, switch, decodeVariantType, exactObject_plain, Fields.has, Fields.get, array, Function.comp_def, items]
    omega
  | @opaqueItf levels description short =>
    intro path nodes room
    rw [ModelType.toJson]
    refine decodeModelType_of (js "opaqueItf") (by simp [Fields.get]) (by decide) room ?_
    simp [decodeTypeOf, switch, decodeOpaqueItfType, exactObject_plain, Fields.has, Fields.get,
      shortString_plain short, ModelType.nodes]

end Mirror.ModelInterface
