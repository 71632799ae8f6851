import MirrorECMA.ECMA.Throws
import MirrorECMA.ModelInterface.Decode

namespace Mirror.ModelInterface

open ECMA

/-! ### The plain data of a descriptor, its arrays in the order they have -/

mutual

def ModelType.toJson : ModelType → Json
  | .scalar kind => .object [(js "kind", .string (js kind.name))]
  | .collection kind element => .object [(js "element", element.toJson), (js "kind", .string (js kind.name))]
  | .tuple elements =>
    .object [(js "elements", .array (toJsons elements)), (js "kind", .string (js "tuple"))]
  | .record fields =>
    .object [(js "fields", .array ((toJsonFields fields).map fun field =>
        .object [(js "type", field.2), (js "wireName", .string field.1)])),
      (js "kind", .string (js "record"))]
  | .map key value =>
    .object [(js "key", key.toJson), (js "kind", .string (js "map")), (js "value", value.toJson)]
  | .variant cases =>
    .object [(js "cases", .array ((toJsonFields cases).map fun item =>
        .object [(js "payload", item.2), (js "tag", .string item.1)])),
      (js "kind", .string (js "variant"))]
  | .opaqueItf description => .object [(js "description", .string description), (js "kind", .string (js "opaqueItf"))]

def ModelType.toJsons : List ModelType → List Json
  | [] => []
  | type :: rest => type.toJson :: toJsons rest

def ModelType.toJsonFields : List (JsString × ModelType) → List (JsString × Json)
  | [] => []
  | (name, type) :: rest => (name, type.toJson) :: toJsonFields rest

end

mutual

def CanonicalItfLiteral.toJson : CanonicalItfLiteral → Json
  | .int value => .object [(js "kind", .string (js "int")), (js "value", .string value)]
  | .bool value => .object [(js "kind", .string (js "bool")), (js "value", .bool value)]
  | .str value => .object [(js "kind", .string (js "str")), (js "value", .string value)]
  | .null => .object [(js "kind", .string (js "null"))]
  | .collection kind values =>
    .object [(js "kind", .string (js kind.name)), (js "values", .array (toJsons values))]
  | .record fields =>
    .object [(js "fields", .array ((toJsonFields fields).map fun field =>
        .object [(js "name", .string field.1), (js "value", field.2)])),
      (js "kind", .string (js "record"))]
  | .map entries =>
    .object [(js "entries", .array ((toJsonEntries entries).map fun entry =>
        .object [(js "key", entry.1), (js "value", entry.2)])),
      (js "kind", .string (js "map"))]
  | .variant tag payload =>
    .object [(js "kind", .string (js "variant")), (js "payload", payload.toJson), (js "tag", .string tag)]

def CanonicalItfLiteral.toJsons : List CanonicalItfLiteral → List Json
  | [] => []
  | literal :: rest => literal.toJson :: toJsons rest

def CanonicalItfLiteral.toJsonFields : List (JsString × CanonicalItfLiteral) → List (JsString × Json)
  | [] => []
  | (name, literal) :: rest => (name, literal.toJson) :: toJsonFields rest

def CanonicalItfLiteral.toJsonEntries : List (CanonicalItfLiteral × CanonicalItfLiteral) → List (Json × Json)
  | [] => []
  | (key, value) :: rest => (key.toJson, value.toJson) :: toJsonEntries rest

end

def ContractPathSegment.toJson : ContractPathSegment → Json
  | .field name => .object [(js "field", .string name)]
  | .index position => .object [(js "index", .number position)]
  | .mapKey key => .object [(js "mapKey", key.toJson)]
  | .variantValue tag => .object [(js "variantValue", .string tag)]

def ResolvedInput.toJson (input : ResolvedInput) : Json :=
  .object [
    (js "from", .object [(js "path", .array (input.from.path.map ContractPathSegment.toJson)),
      (js "root", .string (js input.from.root.name))]),
    (js "id", .string input.id),
    (js "type", input.type.toJson)]

def ResolvedAction.toJson (action : ResolvedAction) : Json :=
  .object [
    (js "id", .string action.id),
    (js "inputs", .array (action.inputs.map ResolvedInput.toJson)),
    (js "phase", .string (js action.phase.name)),
    (js "wireAction", .string action.wireAction),
    (js "wireAliases", .array (action.wireAliases.map .string))]

def ResolvedObservation.toJson (observation : ResolvedObservation) : Json :=
  .object [
    (js "id", .string observation.id),
    (js "provenance", .string (js "implementation")),
    (js "type", observation.type.toJson),
    (js "wireName", .string observation.wireName)]

def ResolvedRunProfile.toJson (profile : ResolvedRunProfile) : Json :=
  .object [
    (js "actionVariable", .string (js "action_taken")),
    (js "configuredParamVar", nullable profile.configuredParamVar),
    (js "effectiveParamVars", .array (profile.effectiveParamVars.map .string)),
    (js "itfParamVars", .array (profile.itfParamVars.map .string))]

def SemanticDescriptor.toJson (descriptor : SemanticDescriptor) : Json :=
  .object [
    (js "actions", .array (descriptor.actions.map ResolvedAction.toJson)),
    (js "comparisonPolicyVersion", .string (js MODEL_INTERFACE_COMPARISON_POLICY_VERSION)),
    (js "initializers", .array (descriptor.initializers.map ResolvedAction.toJson)),
    (js "interfaceVersion", .string descriptor.interfaceVersion),
    (js "model", .object [(js "module", .string descriptor.module)]),
    (js "observations", .array (descriptor.observations.map ResolvedObservation.toJson)),
    (js "resolverSemanticsVersion", .string (js MODEL_INTERFACE_RESOLVER_SEMANTICS_VERSION)),
    (js "runProfile", descriptor.runProfile.toJson),
    (js "schema", .string (js MODEL_INTERFACE_DESCRIPTOR_SCHEMA))]

@[simp] theorem ModelType.toJsons_eq (types : List ModelType) : toJsons types = types.map toJson :=
  eq_map rfl (fun _ _ => rfl) types

@[simp] theorem ModelType.toJsonFields_eq (fields : List (JsString × ModelType)) :
    toJsonFields fields = fields.map fun field => (field.1, field.2.toJson) :=
  eq_map rfl (fun _ _ => rfl) fields

@[simp] theorem CanonicalItfLiteral.toJsons_eq (values : List CanonicalItfLiteral) :
    toJsons values = values.map toJson :=
  eq_map rfl (fun _ _ => rfl) values

@[simp] theorem CanonicalItfLiteral.toJsonFields_eq (fields : List (JsString × CanonicalItfLiteral)) :
    toJsonFields fields = fields.map fun field => (field.1, field.2.toJson) :=
  eq_map rfl (fun _ _ => rfl) fields

@[simp] theorem CanonicalItfLiteral.toJsonEntries_eq (entries : List (CanonicalItfLiteral × CanonicalItfLiteral)) :
    toJsonEntries entries = entries.map fun entry => (entry.1.toJson, entry.2.toJson) :=
  eq_map rfl (fun _ _ => rfl) entries

/-! ### What the basic decoders accept -/

/-- What `string` and `assertShortString` let through. -/
def ShortText (text : JsString) : Prop := isWellFormed text = true ∧ utf8Length text ≤ 256

theorem failWhen_ok {bad : Prop} [Decidable bad] {path message : JsString} {done : Unit} :
    failWhen bad path message = .ok done ↔ ¬ bad := by
  unfold failWhen fail
  split <;> simp_all

theorem string_ok {value : Unknown} {path text : JsString} :
    string value path = .ok text ↔ value = some (.string text) ∧ isWellFormed text = true := by
  unfold string
  split
  · rename_i written
    simp only [bind_eq_ok, failWhen_ok, pure_eq_ok, Except.ok.injEq, Option.some.injEq, Json.string.injEq]
    constructor
    · rintro ⟨_, valid, rfl⟩
      exact ⟨rfl, by simpa using valid⟩
    · rintro ⟨rfl, valid⟩
      exact ⟨(), by simp [valid], rfl⟩
  · rename_i other
    simp only [fail, reduceCtorEq, false_iff, not_and]
    exact fun same => absurd same (other text)

theorem nullableString_ok {value : Unknown} {path : JsString} {text : Option JsString} :
    nullableString value path = .ok text ↔ value = some (nullable text) ∧ ∀ name ∈ text, isWellFormed name = true := by
  unfold nullableString
  split
  · cases text <;> simp [nullable]
  · rename_i other
    cases text with
    | none =>
      simp only [fmap_eq_ok, reduceCtorEq, and_false, exists_false, false_iff, not_and]
      exact fun null => absurd null other
    | some name => simp [fmap_eq_ok, string_ok, nullable]

theorem shortString_ok {value : Unknown} {path text : JsString} :
    shortString value path = .ok text ↔ value = some (.string text) ∧ ShortText text := by
  simp only [shortString, assertShortString, bind_eq_ok, string_ok, failWhen_ok, pure_eq_ok, Except.ok.injEq, ShortText]
  constructor
  · rintro ⟨_, ⟨rfl, valid⟩, _, short, rfl⟩
    exact ⟨rfl, valid, Nat.not_lt.mp short⟩
  · rintro ⟨rfl, valid, short⟩
    exact ⟨text, ⟨rfl, valid⟩, (), Nat.not_lt.mpr short, rfl⟩

theorem array_ok {value : Unknown} {path : JsString} {items : List Json} :
    array value path = .ok items ↔ value = some (.array items) := by
  unfold array
  split
  · simp
  · rename_i other
    simpa [fail] using other items

theorem object_ok {value : Unknown} {path : JsString} {fields : Fields Json} :
    object value path = .ok fields ↔ value = some (.object fields) := by
  unfold object
  split
  · simp
  · rename_i other
    simpa [fail] using other fields

theorem exactObject_ok {value : Unknown} {path : JsString} {allowed required : List String} {fields : Fields Json} :
    exactObject value path allowed required = .ok fields ↔ value = some (.object fields) ∧
      (∀ key ∈ fields.keys, key ∈ allowed.map js) ∧ ∀ key ∈ required, js key ∈ fields.keys := by
  simp only [exactObject, bind_eq_ok, object_ok]
  constructor
  · rintro ⟨result, rfl, accepted⟩
    split at accepted
    · cases accepted
    · rename_i known
      split at accepted
      · cases accepted
      · rename_i present
        cases accepted
        refine ⟨rfl, by simpa using known, fun key needed => ?_⟩
        have found := List.find?_eq_none.mp present key needed
        exact Fields.has_iff.mp (by simpa using found)
  · rintro ⟨rfl, known, present⟩
    have noneUnknown : fields.keys.find? (fun key => decide (key ∉ allowed.map js)) = none :=
      List.find?_eq_none.mpr fun key member => by simpa using known key member
    have noneMissing : required.find? (fun key => !fields.has (js key)) = none :=
      List.find?_eq_none.mpr fun key needed => by simpa using Fields.has_iff.mpr (present key needed)
    exact ⟨fields, rfl, by rw [noneUnknown, noneMissing]⟩

theorem nonnegativeInteger_ok {value : Unknown} {path : JsString} {number : Double} :
    nonnegativeInteger value path = .ok number ↔
      value = some (.number number) ∧ number.isSafeInteger = true ∧ 0 ≤ number.toInt?.getD 0 := by
  unfold nonnegativeInteger
  split
  · rename_i written
    simp only [bind_eq_ok, failWhen_ok, pure_eq_ok, Except.ok.injEq, Option.some.injEq, Json.number.injEq, not_or,
      Bool.not_eq_false, Int.not_lt]
    constructor
    · rintro ⟨_, valid, rfl⟩
      exact ⟨rfl, valid⟩
    · rintro ⟨rfl, valid⟩
      exact ⟨(), valid, rfl⟩
  · rename_i other
    simp only [fail, reduceCtorEq, false_iff, not_and]
    exact fun same => absurd same (other number)

theorem requireUnique_ok {values : List JsString} {path : JsString} {label : String} {done : Unit} :
    requireUnique values path label = .ok done ↔ values.Nodup := by
  rw [requireUnique, failWhen_ok, Decidable.not_not]

theorem expectText_ok {value : Unknown} {expected : String} {path : JsString} {done : Unit} :
    expectText value expected path = .ok done ↔ value = some (.string (js expected)) := by
  rw [expectText, failWhen_ok, Decidable.not_not]

theorem stableId_ok {value : Unknown} {path id : JsString} :
    stableId value path = .ok id ↔ value = some (.string id) ∧ ShortText id ∧ validStableId id = true := by
  simp only [stableId, bind_eq_ok, shortString_ok, failWhen_ok, pure_eq_ok, Except.ok.injEq, Bool.not_eq_false]
  constructor
  · rintro ⟨_, ⟨rfl, short⟩, _, valid, rfl⟩
    exact ⟨rfl, short, valid⟩
  · rintro ⟨rfl, short, valid⟩
    exact ⟨id, ⟨rfl, short⟩, (), valid, rfl⟩

/-! ### Arrays -/

section

variable {α : Type} {decode : Unknown → JsString → Decoded α}

theorem mapItems_each {P : α → Prop} (each : ∀ value path a, decode value path = .ok a → P a) {path : JsString}
    {index : Nat} {items : List Json} {as : List α} (decoded : mapItems decode path index items = .ok as) :
    as.length = items.length ∧ ∀ a ∈ as, P a := by
  induction items generalizing index as with
  | nil =>
    cases decoded
    exact ⟨rfl, by simp⟩
  | cons item rest ih =>
    simp only [mapItems, bind_eq_ok, pure_eq_ok, Except.ok.injEq] at decoded
    obtain ⟨head, first, tail, others, rfl⟩ := decoded
    obtain ⟨size, all⟩ := ih others
    exact ⟨by simp [size], List.forall_mem_cons.mpr ⟨each _ _ _ first, all⟩⟩

theorem mapItems_plain (json : α → Json) {as : List α}
    (each : ∀ a ∈ as, ∀ path, decode (some (json a)) path = .ok a) (path : JsString) (index : Nat) :
    mapItems decode path index (as.map json) = .ok as := by
  induction as generalizing index with
  | nil => rfl
  | cons a rest ih =>
    simp only [List.map_cons, mapItems, each a List.mem_cons_self,
      ih fun b member => each b (List.mem_cons_of_mem _ member), ok_bind, pure_eq_ok]

end

/-! ### Decoders that count type nodes -/

section

variable {α β : Type}

@[simp] theorem run_bind_ok {first : Budgeted α} {next : α → Budgeted β} {nodes : Nat} {result : β × Nat} :
    (first >>= next).run nodes = .ok result ↔
      ∃ value middle, first.run nodes = .ok (value, middle) ∧ (next value).run middle = .ok result := by
  simp [StateT.run_bind, bind_eq_ok, Prod.exists]

@[simp] theorem run_lift_ok {decoded : Decoded α} {nodes : Nat} {value : α} {after : Nat} :
    (liftM decoded : Budgeted α).run nodes = .ok (value, after) ↔ decoded = .ok value ∧ after = nodes := by
  cases decoded with
  | error thrown => simp [liftM, monadLift, MonadLift.monadLift, StateT.lift, StateT.run, bind, Except.bind]
  | ok found =>
    simp [liftM, monadLift, MonadLift.monadLift, StateT.lift, StateT.run, bind, Except.bind, pure, Except.pure, eq_comm]

@[simp] theorem run_pure_ok {value result : α} {nodes after : Nat} :
    (pure value : Budgeted α).run nodes = .ok (result, after) ↔ value = result ∧ after = nodes := by
  rw [StateT.run_pure, pure_eq_ok, Except.ok.injEq, Prod.mk.injEq, @eq_comm _ nodes]

theorem spendNode_ok {path : JsString} {nodes after : Nat} {done : Unit} :
    (spendNode path).run nodes = .ok (done, after) ↔ after = nodes + 1 ∧ after ≤ 8192 := by
  simp only [spendNode, run_bind_ok, StateT.run_get, StateT.run_set, pure_eq_ok, Except.ok.injEq, Prod.mk.injEq,
    run_lift_ok, failWhen_ok]
  constructor
  · rintro ⟨_, _, ⟨rfl, rfl⟩, _, _, ⟨-, rfl⟩, _, _, ⟨rfl, rfl⟩, within, rfl⟩
    exact ⟨rfl, Nat.not_lt.mp within⟩
  · rintro ⟨rfl, within⟩
    exact ⟨_, _, ⟨rfl, rfl⟩, (), _, ⟨True.intro, rfl⟩, _, _, ⟨rfl, rfl⟩, Nat.not_lt.mpr within, rfl⟩

/-- The decoder returns values with `P` only, and spends the nodes they have within the budget. -/
def Counts (decode : Unknown → JsString → Budgeted α) (P : α → Prop) (cost : α → Nat) : Prop :=
  ∀ value path nodes a after, (decode value path).run nodes = .ok (a, after) →
    P a ∧ after = nodes + cost a ∧ (nodes ≤ 8192 → after ≤ 8192)

/-- The decoder reads `a` back from its plain data when the budget has room for it. -/
def ReadsBack (decode : Unknown → JsString → Budgeted α) (json : α → Json) (cost : α → Nat) (a : α) : Prop :=
  ∀ path nodes, nodes + cost a ≤ 8192 → (decode (some (json a)) path).run nodes = .ok (a, nodes + cost a)

theorem mapItems_counts {decode : Unknown → JsString → Budgeted α} {P : α → Prop} {cost : α → Nat}
    (each : Counts decode P cost) {path : JsString} {index : Nat} {items : List Json} {nodes after : Nat} {as : List α}
    (decoded : (mapItems decode path index items).run nodes = .ok (as, after)) :
    as.length = items.length ∧ (∀ a ∈ as, P a) ∧ after = nodes + (as.map cost).sum ∧ (nodes ≤ 8192 → after ≤ 8192) := by
  induction items generalizing index nodes as with
  | nil =>
    simp only [mapItems, run_pure_ok] at decoded
    obtain ⟨rfl, rfl⟩ := decoded
    exact ⟨rfl, by simp, rfl, id⟩
  | cons item rest ih =>
    simp only [mapItems, run_bind_ok, run_pure_ok] at decoded
    obtain ⟨head, middle, first, tail, _, others, rfl, rfl⟩ := decoded
    obtain ⟨valid, spent, within⟩ := each _ _ _ _ _ first
    obtain ⟨size, all, restSpent, restWithin⟩ := ih others
    refine ⟨by simp [size], List.forall_mem_cons.mpr ⟨valid, all⟩, ?_, fun small => restWithin (within small)⟩
    rw [restSpent, spent, List.map_cons, List.sum_cons, Nat.add_assoc]

theorem mapItems_readsBack {decode : Unknown → JsString → Budgeted α} {json : α → Json} {cost : α → Nat} {as : List α}
    (each : ∀ a ∈ as, ReadsBack decode json cost a) (path : JsString) (index nodes : Nat)
    (room : nodes + (as.map cost).sum ≤ 8192) :
    (mapItems decode path index (as.map json)).run nodes = .ok (as, nodes + (as.map cost).sum) := by
  induction as generalizing index nodes with
  | nil => rfl
  | cons a rest ih =>
    simp only [List.map_cons, List.sum_cons] at room ⊢
    have first := each a List.mem_cons_self (path ++ js "[" ++ decimal index ++ js "]") nodes (by omega)
    have others := ih (fun b member => each b (List.mem_cons_of_mem _ member)) (index + 1)
      (nodes + cost a) (by omega)
    simp only [mapItems, run_bind_ok, run_pure_ok]
    exact ⟨a, _, first, rest, _, others, rfl, by omega⟩

end

end Mirror.ModelInterface
