import MirrorECMA.ModelInterface.Accepted

namespace Mirror.ModelInterface

open ECMA

/-! ### Valid types -/

/-- What `validateModelType` lets through. -/
inductive ModelType.Named : ModelType → Prop
  | scalar {kind : ScalarKind} : Named (.scalar kind)
  | collection {kind : ElementKind} {element : ModelType} : Named element → Named (.collection kind element)
  | tuple {elements : List ModelType} : (∀ type ∈ elements, Named type) → Named (.tuple elements)
  | record {fields : List (JsString × ModelType)} : [] ∉ fields.map Prod.fst → (fields.map Prod.fst).Nodup →
    (∀ field ∈ fields, Named field.2) → Named (.record fields)
  | map {key value : ModelType} : Named key → Named value → Named (.map key value)
  | variant {cases : List (JsString × ModelType)} : [] ∉ cases.map Prod.fst → (cases.map Prod.fst).Nodup →
    (∀ case ∈ cases, Named case.2) → Named (.variant cases)
  | opaqueItf {description : JsString} : description ≠ [] → Named (.opaqueItf description)

theorem validateNames_ok {names : List JsString} {path : JsString} {empty label : String} {done : Unit} :
    validateNames names path empty label = .ok done ↔ [] ∉ names ∧ names.Nodup := by
  simp only [validateNames, bind_eq_ok, failWhen_ok, requireUnique_ok]
  constructor
  · rintro ⟨-, filled, distinct⟩
    exact ⟨filled, distinct⟩
  · rintro ⟨filled, distinct⟩
    exact ⟨(), filled, distinct⟩

theorem validateModelTypes_ok {types : List ModelType}
    (each : ∀ type ∈ types, ∀ path, validateModelType type path = .ok () ↔ type.Named) (path : JsString) (index : Nat) :
    validateModelTypes types path index = .ok () ↔ ∀ type ∈ types, type.Named := by
  induction types generalizing index with
  | nil => simp [validateModelTypes]
  | cons type rest ih =>
    simp only [validateModelTypes, bind_eq_ok, List.forall_mem_cons, each type List.mem_cons_self,
      ih fun other member => each other (List.mem_cons_of_mem _ member), exists_const]

theorem validateNamedTypes_ok {fields : List (JsString × ModelType)}
    (each : ∀ field ∈ fields, ∀ path, validateModelType field.2 path = .ok () ↔ field.2.Named) (path : JsString)
    (label : String) (index : Nat) :
    validateNamedTypes fields path label index = .ok () ↔ ∀ field ∈ fields, field.2.Named := by
  induction fields generalizing index with
  | nil => simp [validateNamedTypes]
  | cons field rest ih =>
    simp only [validateNamedTypes, bind_eq_ok, List.forall_mem_cons, each field List.mem_cons_self,
      ih fun other member => each other (List.mem_cons_of_mem _ member), exists_const]

theorem validateModelType_ok (type : ModelType) (path : JsString) :
    validateModelType type path = .ok () ↔ type.Named := by
  induction type using ModelType.children_induct generalizing path with
  | scalar kind => exact ⟨fun _ => .scalar, fun _ => rfl⟩
  | collection kind element ih =>
    rw [validateModelType, ih]
    exact ⟨.collection, fun | .collection named => named⟩
  | tuple elements ih =>
    rw [validateModelType, validateModelTypes_ok ih]
    exact ⟨.tuple, fun | .tuple named => named⟩
  | record fields ih =>
    simp only [validateModelType, bind_eq_ok, validateNames_ok, validateNamedTypes_ok ih, exists_const]
    exact ⟨fun ⟨⟨filled, distinct⟩, named⟩ => .record filled distinct named,
      fun | .record filled distinct named => ⟨⟨filled, distinct⟩, named⟩⟩
  | map key value ihKey ihValue =>
    simp only [validateModelType, bind_eq_ok, ihKey, ihValue, exists_const]
    exact ⟨fun ⟨first, second⟩ => .map first second, fun | .map first second => ⟨first, second⟩⟩
  | variant cases ih =>
    simp only [validateModelType, bind_eq_ok, validateNames_ok, validateNamedTypes_ok ih, exists_const]
    exact ⟨fun ⟨⟨filled, distinct⟩, named⟩ => .variant filled distinct named,
      fun | .variant filled distinct named => ⟨⟨filled, distinct⟩, named⟩⟩
  | opaqueItf description =>
    rw [validateModelType, failWhen_ok]
    exact ⟨.opaqueItf, fun | .opaqueItf filled => filled⟩

def ModelType.Valid (type : ModelType) : Prop := type.Accepted 32 ∧ type.Named

theorem decodeValidType_counts : Counts decodeValidType ModelType.Valid ModelType.nodes := by
  intro value path nodes type after decoded
  simp only [decodeValidType, run_bind_ok, run_lift_ok, run_pure_ok] at decoded
  obtain ⟨found, _, inner, _, _, ⟨named, rfl⟩, rfl, rfl⟩ := decoded
  obtain ⟨accepted, spent⟩ := decodeModelType_counts 32 _ _ _ _ _ inner
  exact ⟨⟨accepted, (validateModelType_ok _ _).mp named⟩, spent⟩

theorem decodeValidType_readsBack {type : ModelType} (valid : type.Valid) :
    ReadsBack decodeValidType ModelType.toJson ModelType.nodes type := by
  intro path nodes room
  simp only [decodeValidType, run_bind_ok, run_pure_ok]
  exact ⟨type, _, decodeModelType_readsBack valid.1 path nodes room, (), _,
    lift_run ((validateModelType_ok type path).mpr valid.2) _, rfl, rfl⟩

/-! ### Inputs, actions and observations -/

def ContractPathSegment.Accepted : ContractPathSegment → Prop
  | .field name => ShortText name
  | .index position => position.isSafeInteger = true ∧ 0 ≤ position.toInt?.getD 0
  | .mapKey key => key.Accepted 128
  | .variantValue tag => ShortText tag

theorem decodePathSegment_accepted {value : Unknown} {path : JsString} {segment : ContractPathSegment}
    (decoded : decodePathSegment value path = .ok segment) : segment.Accepted := by
  simp only [decodePathSegment, bind_eq_ok] at decoded
  obtain ⟨fields, -, decoded⟩ := decoded
  split at decoded
  · rename_i key value
    rcases switch_eq decoded with ⟨case, member, -, result⟩ | ⟨-, failed⟩
    · simp only [List.mem_cons, List.not_mem_nil, or_false] at member
      rcases member with rfl | rfl | rfl | rfl
      · obtain ⟨name, found, rfl⟩ := fmap_eq_ok.mp result
        exact (shortString_ok.mp found).2
      · obtain ⟨position, found, rfl⟩ := fmap_eq_ok.mp result
        exact (nonnegativeInteger_ok.mp found).2
      · obtain ⟨key, found, rfl⟩ := fmap_eq_ok.mp result
        exact decodeLiteral_accepted found
      · obtain ⟨tag, found, rfl⟩ := fmap_eq_ok.mp result
        exact (shortString_ok.mp found).2
    · cases failed
  · cases decoded

theorem decodePathSegment_plain {segment : ContractPathSegment} (accepted : segment.Accepted) (path : JsString) :
    decodePathSegment (some segment.toJson) path = .ok segment := by
  cases segment with
  | field name =>
    simp [ContractPathSegment.toJson, decodePathSegment, object, decodePathSelector, switch, shortString_plain accepted]
  | index position =>
    have number : nonnegativeInteger (some (.number position)) (path ++ js ".index") = .ok position :=
      nonnegativeInteger_ok.mpr ⟨rfl, accepted⟩
    simp [ContractPathSegment.toJson, decodePathSegment, object, decodePathSelector, switch, number]
  | mapKey key =>
    simp [ContractPathSegment.toJson, decodePathSegment, object, decodePathSelector, switch, decodeLiteral_plain accepted]
  | variantValue tag =>
    simp [ContractPathSegment.toJson, decodePathSegment, object, decodePathSelector, switch, shortString_plain accepted]

def StableId (id : JsString) : Prop := ShortText id ∧ validStableId id = true

structure ResolvedInput.Accepted (phase : Phase) (input : ResolvedInput) : Prop where
  id : StableId input.id
  root : input.from.root = phase.root
  segments : input.from.path.length ≤ 32
  path : ∀ segment ∈ input.from.path, segment.Accepted
  type : input.type.Valid

def ResolvedInput.nodes (input : ResolvedInput) : Nat := input.type.nodes

structure ResolvedAction.Accepted (required : Phase) (action : ResolvedAction) : Prop where
  id : StableId action.id
  phase : action.phase = required
  label : ShortText action.wireAction ∧ action.wireAction ≠ []
  aliasCount : action.wireAliases.length ≤ 16
  aliases : ∀ label ∈ action.wireAliases, ShortText label
  labels : action.labels.Nodup
  inputCount : action.inputs.length ≤ 128
  inputs : ∀ input ∈ action.inputs, input.Accepted required
  inputIds : (action.inputs.map (·.id)).Nodup

def ResolvedAction.nodes (action : ResolvedAction) : Nat := (action.inputs.map ResolvedInput.nodes).sum

structure ResolvedObservation.Accepted (observation : ResolvedObservation) : Prop where
  id : StableId observation.id
  wireName : ShortText observation.wireName ∧ observation.wireName ≠ []
  type : observation.type.Valid

def ResolvedObservation.nodes (observation : ResolvedObservation) : Nat := observation.type.nodes

theorem decodeResolvedInput_counts (phase : Phase) :
    Counts (decodeResolvedInput phase) (ResolvedInput.Accepted phase) ResolvedInput.nodes := by
  intro value path nodes input after decoded
  simp only [decodeResolvedInput, run_bind_ok, run_lift_ok, run_pure_ok, stableId_ok, failWhen_ok, Nat.not_lt] at decoded
  obtain ⟨fields, _, ⟨-, rfl⟩, id, _, ⟨⟨-, stable⟩, rfl⟩, source, _, ⟨-, rfl⟩, root, _, ⟨-, rfl⟩, _, _, ⟨-, rfl⟩,
    rawPath, _, ⟨-, rfl⟩, _, _, ⟨short, rfl⟩, decodedPath, _, ⟨segments, rfl⟩, type, _, inner, rfl, rfl⟩ := decoded
  obtain ⟨size, accepted⟩ := mapItems_each (fun _ _ _ => decodePathSegment_accepted) segments
  obtain ⟨valid, spent⟩ := decodeValidType_counts _ _ _ _ _ inner
  exact ⟨⟨stable, rfl, size ▸ short, accepted, valid⟩, spent⟩

theorem decodeResolvedInput_readsBack {phase : Phase} {input : ResolvedInput} (accepted : input.Accepted phase) :
    ReadsBack (decodeResolvedInput phase) ResolvedInput.toJson ResolvedInput.nodes input := by
  intro path nodes room
  have type := decodeValidType_readsBack accepted.type (path ++ js ".type") nodes room
  have segments := mapItems_plain _ (fun segment member => decodePathSegment_plain (accepted.path segment member))
    (path ++ js ".from.path") 0
  have id : stableId (some (.string input.id)) (path ++ js ".id") = .ok input.id := stableId_ok.mpr ⟨rfl, accepted.id⟩
  have root : string (some (.string (js phase.root.name))) (path ++ js ".from.root") = .ok (js phase.root.name) :=
    string_plain (by cases phase <;> decide)
  simp [decodeResolvedInput, ResolvedInput.toJson, exactObject_plain, Fields.has, Fields.get, id, accepted.root, root,
    failWhen, array, Nat.not_lt.mpr accepted.segments, segments, type, ResolvedInput.nodes]
  rw [← accepted.root]

theorem strings_plain {texts : List JsString} (valid : ∀ text ∈ texts, isWellFormed text = true) (path : JsString)
    (index : Nat) : mapItems string path index (texts.map .string) = .ok texts :=
  mapItems_plain _ (fun text member _ => string_plain (valid text member)) path index

theorem decodeResolvedAction_counts (phase : Phase) :
    Counts (decodeResolvedAction phase) (ResolvedAction.Accepted phase) ResolvedAction.nodes := by
  intro value path nodes action after decoded
  simp only [decodeResolvedAction, run_bind_ok, run_lift_ok, run_pure_ok, stableId_ok, shortString_ok, failWhen_ok,
    requireUnique_ok, Nat.not_lt] at decoded
  obtain ⟨fields, _, ⟨-, rfl⟩, name, _, ⟨-, rfl⟩, _, _, ⟨-, rfl⟩, id, _, ⟨⟨-, stable⟩, rfl⟩, wireAction, _,
    ⟨⟨-, short⟩, rfl⟩, _, _, ⟨filled, rfl⟩, rawAliases, _, ⟨-, rfl⟩, _, _, ⟨fewAliases, rfl⟩, wireAliases, _,
    ⟨aliases, rfl⟩, _, _, ⟨labels, rfl⟩, rawInputs, _, ⟨-, rfl⟩, _, _, ⟨fewInputs, rfl⟩, inputs, _, inner, _, _,
    ⟨inputIds, rfl⟩, rfl, rfl⟩ := decoded
  obtain ⟨aliasCount, shortAliases⟩ := mapItems_each (fun _ _ _ found => (shortString_ok.mp found).2) aliases
  obtain ⟨inputCount, accepted, spent⟩ := mapItems_counts (decodeResolvedInput_counts phase) inner
  exact ⟨⟨stable, rfl, ⟨short, filled⟩, aliasCount ▸ fewAliases, shortAliases, labels, inputCount ▸ fewInputs, accepted,
    inputIds⟩, spent⟩

theorem decodeResolvedAction_readsBack {phase : Phase} {action : ResolvedAction} (accepted : action.Accepted phase) :
    ReadsBack (decodeResolvedAction phase) ResolvedAction.toJson ResolvedAction.nodes action := by
  intro path nodes room
  have inputs := mapItems_readsBack (fun input member => decodeResolvedInput_readsBack (accepted.inputs input member))
    (path ++ js ".inputs") 0 nodes room
  have aliases := mapItems_plain .string
    (fun label member _ => shortString_plain (accepted.aliases label member)) (path ++ js ".wireAliases") 0
  have id : stableId (some (.string action.id)) (path ++ js ".id") = .ok action.id := stableId_ok.mpr ⟨rfl, accepted.id⟩
  have name : string (some (.string (js phase.name))) (path ++ js ".phase") = .ok (js phase.name) :=
    string_plain (by cases phase <;> decide)
  have labels : requireUnique (action.wireAction :: action.wireAliases) (path ++ js ".wireAliases") "wire label" = .ok () :=
    requireUnique_ok.mpr accepted.labels
  have inputIds : requireUnique (action.inputs.map (·.id)) (path ++ js ".inputs") "input ID" = .ok () :=
    requireUnique_ok.mpr accepted.inputIds
  simp [decodeResolvedAction, ResolvedAction.toJson, exactObject_plain, Fields.has, Fields.get, id, name, accepted.phase,
    failWhen, shortString_plain accepted.label.1, accepted.label.2, array, Nat.not_lt.mpr accepted.aliasCount, aliases,
    labels, Nat.not_lt.mpr accepted.inputCount, inputs, inputIds, ResolvedAction.nodes]
  rw [← accepted.phase]

theorem decodeResolvedObservation_counts :
    Counts decodeResolvedObservation ResolvedObservation.Accepted ResolvedObservation.nodes := by
  intro value path nodes observation after decoded
  simp only [decodeResolvedObservation, run_bind_ok, run_lift_ok, run_pure_ok, stableId_ok, shortString_ok,
    failWhen_ok] at decoded
  obtain ⟨fields, _, ⟨-, rfl⟩, id, _, ⟨⟨-, stable⟩, rfl⟩, wireName, _, ⟨⟨-, short⟩, rfl⟩, _, _, ⟨filled, rfl⟩, _, _,
    ⟨-, rfl⟩, type, _, inner, rfl, rfl⟩ := decoded
  obtain ⟨valid, spent⟩ := decodeValidType_counts _ _ _ _ _ inner
  exact ⟨⟨stable, ⟨short, filled⟩, valid⟩, spent⟩

theorem decodeResolvedObservation_readsBack {observation : ResolvedObservation} (accepted : observation.Accepted) :
    ReadsBack decodeResolvedObservation ResolvedObservation.toJson ResolvedObservation.nodes observation := by
  intro path nodes room
  have type := decodeValidType_readsBack accepted.type (path ++ js ".type") nodes room
  have id : stableId (some (.string observation.id)) (path ++ js ".id") = .ok observation.id :=
    stableId_ok.mpr ⟨rfl, accepted.id⟩
  simp [decodeResolvedObservation, ResolvedObservation.toJson, exactObject_plain, Fields.has, Fields.get, id, failWhen,
    shortString_plain accepted.wireName.1, accepted.wireName.2, type, ResolvedObservation.nodes]

/-! ### Descriptors -/

structure ResolvedRunProfile.Accepted (profile : ResolvedRunProfile) : Prop where
  configured : ∀ name ∈ profile.configuredParamVar, isWellFormed name = true
  itf : ∀ name ∈ profile.itfParamVars, isWellFormed name = true
  distinct : profile.itfParamVars.Nodup
  effective : profile.effectiveParamVars = sortedUnique (profile.itfParamVars ++ profile.configuredParamVar.toList)

theorem mem_sortedUnique {values : List JsString} {value : JsString} : value ∈ sortedUnique values ↔ value ∈ values := by
  rw [sortedUnique, mem_sort, List.mem_eraseDups]

theorem decodeRunProfile_accepted {value : Unknown} {path : JsString} {profile : ResolvedRunProfile}
    (decoded : decodeRunProfile value path = .ok profile) : profile.Accepted := by
  simp only [decodeRunProfile, bind_eq_ok, nullableString_ok, requireUnique_ok, failWhen_ok, Decidable.not_not,
    pure_eq_ok, Except.ok.injEq] at decoded
  obtain ⟨fields, -, _, -, configured, ⟨-, valid⟩, rawItf, -, itf, names, _, distinct, rawEffective, -, effective, -, _,
    same, rfl⟩ := decoded
  exact ⟨valid, (mapItems_each (fun _ _ _ found => (string_ok.mp found).2) names).2, distinct, same⟩

theorem decodeRunProfile_plain {profile : ResolvedRunProfile} (accepted : profile.Accepted) (path : JsString) :
    decodeRunProfile (some profile.toJson) path = .ok profile := by
  have configured : nullableString (some (nullable profile.configuredParamVar)) (path ++ js ".configuredParamVar") =
      .ok profile.configuredParamVar := nullableString_ok.mpr ⟨rfl, accepted.configured⟩
  have itf := strings_plain accepted.itf (path ++ js ".itfParamVars") 0
  have unique : requireUnique profile.itfParamVars (path ++ js ".itfParamVars") "parameter variable" = .ok () :=
    requireUnique_ok.mpr accepted.distinct
  have valid : ∀ name ∈ profile.effectiveParamVars, isWellFormed name = true := by
    intro name member
    rw [accepted.effective, mem_sortedUnique, List.mem_append, Option.mem_toList] at member
    exact member.elim (accepted.itf name) (accepted.configured name)
  have effective := strings_plain valid (path ++ js ".effectiveParamVars") 0
  simp [decodeRunProfile, ResolvedRunProfile.toJson, exactObject_plain, Fields.has, Fields.get, expectText, failWhen,
    configured, array, itf, unique, effective, ← accepted.effective]

def SemanticDescriptor.allActions (descriptor : SemanticDescriptor) : List ResolvedAction :=
  descriptor.initializers ++ descriptor.actions

/-- The type nodes counted against the one budget. -/
def SemanticDescriptor.nodes (descriptor : SemanticDescriptor) : Nat :=
  (descriptor.initializers.map ResolvedAction.nodes).sum + (descriptor.actions.map ResolvedAction.nodes).sum +
    (descriptor.observations.map ResolvedObservation.nodes).sum

/-- What `decodeSemanticDescriptorValue` checks before it measures the canonical text. -/
structure SemanticDescriptor.WellFormed (descriptor : SemanticDescriptor) : Prop where
  version : ShortText descriptor.interfaceVersion ∧ validInterfaceVersion descriptor.interfaceVersion = true
  module : ShortText descriptor.module ∧ validModuleName descriptor.module = true
  runProfile : descriptor.runProfile.Accepted
  someInitializer : descriptor.initializers.length ≠ 0
  initializerCount : descriptor.initializers.length ≤ 32
  initializers : ∀ action ∈ descriptor.initializers, action.Accepted .initialization
  actionCount : descriptor.actions.length ≤ 256
  actions : ∀ action ∈ descriptor.actions, action.Accepted .transition
  actionIds : (descriptor.allActions.map (·.id)).Nodup
  labels : (descriptor.allActions.flatMap (·.labels)).Nodup
  observationCount : descriptor.observations.length ≤ 1024
  observations : ∀ observation ∈ descriptor.observations, observation.Accepted
  observationIds : (descriptor.observations.map (·.id)).Nodup
  wireNames : (descriptor.observations.map (·.wireName)).Nodup
  nodes : descriptor.nodes ≤ 8192

/-- The canonical text exists and fits the limit. -/
def SemanticDescriptor.Fits (descriptor : SemanticDescriptor) : Prop :=
  ∃ text, compressCanonicalJson (canonicalDescriptorValue descriptor) = .ok text ∧
    utf8Length text ≤ MAX_MODEL_INTERFACE_DESCRIPTOR_BYTES

theorem decodeSemanticDescriptor_accepted {value : Unknown} {descriptor : SemanticDescriptor}
    (decoded : decodeSemanticDescriptor value = .ok descriptor) : descriptor.WellFormed ∧ descriptor.Fits := by
  simp only [decodeSemanticDescriptor, decodeSemanticDescriptorValue, decodeMembers, bind_eq_ok, shortString_ok,
    failWhen_ok, Bool.not_eq_false, Nat.not_lt, pure_eq_ok, Except.ok.injEq] at decoded
  obtain ⟨fields, -, _, -, version, ⟨-, shortVersion⟩, _, validVersion, modelFields, -, module, ⟨-, shortModule⟩, _,
    validModule, _, -, _, -, runProfile, profile, ⟨⟨initializers, actions, observations⟩, after⟩, members, text, compressed,
    _, fits, rfl⟩ := decoded
  simp only [run_bind_ok, run_lift_ok, run_pure_ok, failWhen_ok, requireUnique_ok, Nat.not_lt, Prod.mk.injEq] at members
  obtain ⟨rawInitializers, _, ⟨-, rfl⟩, _, _, ⟨someInitializer, rfl⟩, _, _, ⟨initializerCount, rfl⟩, _, _, inner, rawActions, _,
    ⟨-, rfl⟩, _, _, ⟨actionCount, rfl⟩, _, _, inner', _, _, ⟨actionIds, rfl⟩, _, _, ⟨labels, rfl⟩, rawObservations, _,
    ⟨-, rfl⟩, _, _, ⟨observationCount, rfl⟩, _, _, inner'', _, _, ⟨observationIds, rfl⟩, _, _, ⟨wireNames, rfl⟩,
    ⟨rfl, rfl, rfl⟩, rfl⟩ := members
  obtain ⟨size, accepted, spent, within⟩ := mapItems_counts (decodeResolvedAction_counts .initialization) inner
  obtain ⟨size', accepted', spent', within'⟩ := mapItems_counts (decodeResolvedAction_counts .transition) inner'
  obtain ⟨size'', accepted'', spent'', within''⟩ := mapItems_counts decodeResolvedObservation_counts inner''
  have room := within'' (within' (within (Nat.zero_le _)))
  refine ⟨⟨⟨shortVersion, validVersion⟩, ⟨shortModule, validModule⟩, decodeRunProfile_accepted profile,
    size ▸ someInitializer, size ▸ initializerCount, accepted, size' ▸ actionCount, accepted', actionIds, labels,
    size'' ▸ observationCount, accepted'', observationIds, wireNames, ?_⟩, text, compressed, fits⟩
  simp only [SemanticDescriptor.nodes]
  omega

theorem decodeMembers_plain {descriptor : SemanticDescriptor} (wellFormed : descriptor.WellFormed) {fields : Fields Json}
    (initializers : fields.get (js "initializers") = some (.array (descriptor.initializers.map ResolvedAction.toJson)))
    (actions : fields.get (js "actions") = some (.array (descriptor.actions.map ResolvedAction.toJson)))
    (observations : fields.get (js "observations") =
      some (.array (descriptor.observations.map ResolvedObservation.toJson))) (path : JsString) :
    (decodeMembers fields path).run 0 =
      .ok ((descriptor.initializers, descriptor.actions, descriptor.observations), descriptor.nodes) := by
  have room := wellFormed.nodes
  unfold SemanticDescriptor.nodes at room ⊢
  have first := mapItems_readsBack
    (fun action member => decodeResolvedAction_readsBack (wellFormed.initializers action member))
    (path ++ js ".initializers") 0 0 (by omega)
  have second := mapItems_readsBack
    (fun action member => decodeResolvedAction_readsBack (wellFormed.actions action member)) (path ++ js ".actions") 0
    (0 + (descriptor.initializers.map ResolvedAction.nodes).sum) (by omega)
  have third := mapItems_readsBack
    (fun observation member => decodeResolvedObservation_readsBack (wellFormed.observations observation member))
    (path ++ js ".observations") 0 (0 + (descriptor.initializers.map ResolvedAction.nodes).sum +
      (descriptor.actions.map ResolvedAction.nodes).sum) (by omega)
  simp only [decodeMembers, run_bind_ok, run_pure_ok]
  refine ⟨_, _, lift_run (array_ok.mpr initializers) _,
    (), _, lift_run (failWhen_ok.mpr (by simpa using wellFormed.someInitializer)) _,
    (), _, lift_run (failWhen_ok.mpr (by simpa using wellFormed.initializerCount)) _, _, _, first,
    _, _, lift_run (array_ok.mpr actions) _,
    (), _, lift_run (failWhen_ok.mpr (by simpa using wellFormed.actionCount)) _, _, _, second,
    (), _, lift_run (requireUnique_ok.mpr wellFormed.actionIds) _,
    (), _, lift_run (requireUnique_ok.mpr wellFormed.labels) _,
    _, _, lift_run (array_ok.mpr observations) _,
    (), _, lift_run (failWhen_ok.mpr (by simpa using wellFormed.observationCount)) _, _, _, third,
    (), _, lift_run (requireUnique_ok.mpr wellFormed.observationIds) _,
    (), _, lift_run (requireUnique_ok.mpr wellFormed.wireNames) _, rfl, by omega⟩

theorem decodeSemanticDescriptor_plain {descriptor : SemanticDescriptor} (wellFormed : descriptor.WellFormed)
    (fits : descriptor.Fits) : decodeSemanticDescriptor (some descriptor.toJson) = .ok descriptor := by
  obtain ⟨text, compressed, small⟩ := fits
  have module : exactObject (some (.object [(js "module", .string descriptor.module)]))
      (js "descriptor" ++ js ".model") ["module"] ["module"] = .ok [(js "module", .string descriptor.module)] :=
    exactObject_plain (by simp) (by simp [Fields.has, Fields.get])
  simp only [decodeSemanticDescriptor, decodeSemanticDescriptorValue, bind_eq_ok]
  refine ⟨_, exactObject_plain (by simp [descriptorFields]) (by simp [descriptorFields, Fields.has, Fields.get]),
    (), expectText_ok.mpr (by simp [Fields.get]),
    descriptor.interfaceVersion, shortString_ok.mpr ⟨by simp [Fields.get], wellFormed.version.1⟩,
    (), failWhen_ok.mpr (by simp [wellFormed.version.2]),
    _, by simpa [Fields.get] using module,
    descriptor.module, shortString_ok.mpr ⟨by simp [Fields.get], wellFormed.module.1⟩,
    (), failWhen_ok.mpr (by simp [wellFormed.module.2]),
    (), expectText_ok.mpr (by simp [Fields.get]), (), expectText_ok.mpr (by simp [Fields.get]),
    descriptor.runProfile, by simpa [Fields.get] using decodeRunProfile_plain wellFormed.runProfile _,
    _, decodeMembers_plain wellFormed (by simp [Fields.get]) (by simp [Fields.get]) (by simp [Fields.get]) _,
    text, compressed, (), failWhen_ok.mpr (Nat.not_lt.mpr small), rfl⟩

end Mirror.ModelInterface
