import MirrorECMA.ModelInterface.AcceptedDescriptor
import MirrorECMA.ModelInterface.Contract

namespace Mirror.ModelInterface

open ECMA

/-! ### The plain data of a contract -/

/-- The member that `...(expectedType === undefined ? {} : { expectedType })` adds. -/
def expectedTypeField (expectedType : Option ModelType) : Fields Json :=
  (expectedType.map fun type => (js "expectedType", type.toJson)).toList

def InputSource.fields (source : InputSource) : Fields Json :=
  [(js "root", .string (js source.root.name)), (js "path", .array (source.path.map ContractPathSegment.toJson))]

def ContractInput.fields (input : ContractInput) : Fields Json :=
  [(js "id", .string input.id), (js "from", .object input.from.fields)] ++ expectedTypeField input.expectedType

def ContractInput.toJson (input : ContractInput) : Json := .object input.fields

def ContractAction.toJson (action : ContractAction) : Json :=
  .object [
    (js "id", .string action.id),
    (js "wireAction", .string action.wireAction),
    (js "wireAliases", .array (action.wireAliases.map .string)),
    (js "inputs", .array (action.inputs.map ContractInput.toJson))]

def ContractObservation.fields (observation : ContractObservation) : Fields Json :=
  [(js "id", .string observation.id), (js "wireName", .string observation.wireName),
    (js "provenance", .string (js observation.provenance.name))] ++ expectedTypeField observation.expectedType

def ContractObservation.toJson (observation : ContractObservation) : Json := .object observation.fields

def ContractModel.toJson (model : ContractModel) : Json :=
  .object [(js "module", .string model.module), (js "source", .string model.source)]

def ContractWire.toJson (wire : ContractWire) : Json :=
  .object [(js "actionVariable", .string wire.actionVariable), (js "parameterVariable", nullable wire.parameterVariable)]

def ContractV1.toJson (contract : ContractV1) : Json :=
  .object [
    (js "schema", .string (js MODEL_INTERFACE_CONTRACT_SCHEMA)),
    (js "interfaceVersion", .string contract.interfaceVersion),
    (js "model", contract.model.toJson),
    (js "wire", contract.wire.toJson),
    (js "initializers", .array (contract.initializers.map ContractAction.toJson)),
    (js "actions", .array (contract.actions.map ContractAction.toJson)),
    (js "observations", .array (contract.observations.map ContractObservation.toJson))]

/-! ### What the decoder returns -/

instance : DecidablePred ShortText := fun _ => inferInstanceAs (Decidable (_ ∧ _))

def ExpectedType (expectedType : Option ModelType) : Prop := ∀ type ∈ expectedType, type.Accepted 32

def expectedNodes (expectedType : Option ModelType) : Nat := (expectedType.map ModelType.nodes).getD 0

structure ContractInput.Accepted (input : ContractInput) : Prop where
  id : ShortText input.id
  segments : input.from.path.length ≤ 32
  path : ∀ segment ∈ input.from.path, segment.Accepted
  expectedType : ExpectedType input.expectedType

def ContractInput.nodes (input : ContractInput) : Nat := expectedNodes input.expectedType

structure ContractAction.Accepted (action : ContractAction) : Prop where
  id : ShortText action.id
  wireAction : ShortText action.wireAction
  aliasCount : action.wireAliases.length ≤ 16
  aliases : ∀ label ∈ action.wireAliases, ShortText label
  inputCount : action.inputs.length ≤ 128
  inputs : ∀ input ∈ action.inputs, input.Accepted

def ContractAction.nodes (action : ContractAction) : Nat := (action.inputs.map ContractInput.nodes).sum

structure ContractObservation.Accepted (observation : ContractObservation) : Prop where
  id : ShortText observation.id
  wireName : ShortText observation.wireName
  expectedType : ExpectedType observation.expectedType

def ContractObservation.nodes (observation : ContractObservation) : Nat := expectedNodes observation.expectedType

/-- The type nodes counted against the one budget. -/
def ContractV1.nodes (contract : ContractV1) : Nat :=
  (contract.initializers.map ContractAction.nodes).sum + (contract.actions.map ContractAction.nodes).sum +
    (contract.observations.map ContractObservation.nodes).sum

structure ContractV1.Accepted (contract : ContractV1) : Prop where
  version : ShortText contract.interfaceVersion
  module : ShortText contract.model.module
  source : ShortText contract.model.source
  actionVariable : ShortText contract.wire.actionVariable
  parameterVariable : ∀ name ∈ contract.wire.parameterVariable, isWellFormed name = true
  initializerCount : contract.initializers.length ≤ 32
  initializers : ∀ action ∈ contract.initializers, action.Accepted
  actionCount : contract.actions.length ≤ 256
  actions : ∀ action ∈ contract.actions, action.Accepted
  observationCount : contract.observations.length ≤ 1024
  observations : ∀ observation ∈ contract.observations, observation.Accepted
  nodes : contract.nodes ≤ 8192

/-! ### Types, roots and provenances -/

theorem decodeExpectedType_counts : Counts decodeExpectedType ExpectedType expectedNodes := by
  intro value path nodes expectedType after decoded
  unfold decodeExpectedType at decoded
  split at decoded
  · rw [run_pure_ok] at decoded
    obtain ⟨rfl, rfl⟩ := decoded
    exact ⟨by simp [ExpectedType], rfl, id⟩
  · rw [run_pure_ok] at decoded
    obtain ⟨rfl, rfl⟩ := decoded
    exact ⟨by simp [ExpectedType], rfl, id⟩
  · rw [run_bind_ok] at decoded
    obtain ⟨type, _, inner, done⟩ := decoded
    obtain ⟨rfl, rfl⟩ := run_pure_ok.mp done
    obtain ⟨accepted, spent⟩ := decodeModelType_counts 32 _ _ _ _ _ inner
    exact ⟨by simpa [ExpectedType] using accepted, spent⟩

theorem ModelType.toJson_ne_null (type : ModelType) : type.toJson ≠ .null := by
  cases type <;> simp [toJson]

theorem decodeExpectedType_run {expectedType : Option ModelType} (accepted : ExpectedType expectedType) (path : JsString)
    (nodes : Nat) (room : nodes + expectedNodes expectedType ≤ 8192) :
    (decodeExpectedType (expectedType.map ModelType.toJson) path).run nodes =
      .ok (expectedType, nodes + expectedNodes expectedType) := by
  cases expectedType with
  | none => rfl
  | some type =>
    have inner := decodeModelType_readsBack (accepted type rfl) path nodes room
    have present : decodeExpectedType (some type.toJson) path = (do return some (← decodeModelType 32 (some type.toJson) path)) := by
      unfold decodeExpectedType
      split
      · contradiction
      · rename_i same
        exact absurd (Option.some.inj same) type.toJson_ne_null
      · rename_i same
        cases same
        rfl
    rw [Option.map_some, present, run_bind_ok]
    exact ⟨type, _, inner, rfl⟩

theorem decodePathRoot_plain (root : PathRoot) (path : JsString) :
    decodePathRoot (some (.string (js root.name))) path = .ok root := by
  have text : string (some (.string (js root.name))) path = .ok (js root.name) := string_plain (by cases root <;> decide)
  rw [decodePathRoot, text]
  cases root <;> simp [switch, PathRoot.name]

theorem decodeProvenance_plain (provenance : Provenance) (path : JsString) :
    decodeProvenance (some (.string (js provenance.name))) path = .ok provenance := by
  have text : string (some (.string (js provenance.name))) path = .ok (js provenance.name) :=
    string_plain (by cases provenance <;> decide)
  rw [decodeProvenance, text]
  cases provenance <;> simp [switch, Provenance.name]

/-! ### Inputs, actions and observations -/

theorem decodeContractInput_counts : Counts decodeContractInput ContractInput.Accepted ContractInput.nodes := by
  intro value path nodes input after decoded
  simp only [decodeContractInput, run_bind_ok, run_lift_ok, run_pure_ok, shortString_ok, failWhen_ok, Nat.not_lt] at decoded
  obtain ⟨fields, _, ⟨-, rfl⟩, source, _, ⟨-, rfl⟩, root, _, ⟨-, rfl⟩, rawPath, _, ⟨-, rfl⟩, _, _, ⟨few, rfl⟩,
    decodedPath, _, ⟨segments, rfl⟩, expectedType, _, inner, id, _, ⟨⟨-, short⟩, rfl⟩, rfl, rfl⟩ := decoded
  obtain ⟨size, accepted⟩ := mapItems_each (fun _ _ _ => decodePathSegment_accepted) segments
  obtain ⟨valid, spent⟩ := decodeExpectedType_counts _ _ _ _ _ inner
  exact ⟨⟨short, size ▸ few, accepted, valid⟩, spent⟩

theorem ContractInput.get_expectedType (input : ContractInput) :
    input.fields.get (js "expectedType") = input.expectedType.map ModelType.toJson := by
  unfold fields expectedTypeField
  cases input.expectedType <;> simp [Fields.get]

theorem decodeContractInput_readsBack {input : ContractInput} (accepted : input.Accepted) :
    ReadsBack decodeContractInput ContractInput.toJson ContractInput.nodes input := by
  intro path nodes room
  have type := decodeExpectedType_run accepted.expectedType (path ++ js ".expectedType") nodes room
  rw [← input.get_expectedType] at type
  have segments := mapItems_plain _ (fun segment member => decodePathSegment_plain (accepted.path segment member))
    (path ++ js ".from.path") 0
  have source : exactObject (some (.object input.from.fields)) (path ++ js ".from") ["root", "path"] ["root", "path"] =
      .ok input.from.fields := exactObject_plain (by simp [InputSource.fields]) (by simp [InputSource.fields, Fields.has, Fields.get])
  have fields : exactObject (some (.object input.fields)) path ["id", "from", "expectedType"] ["id", "from"] =
      .ok input.fields := by
    unfold ContractInput.fields expectedTypeField
    cases input.expectedType <;> exact exactObject_plain (by simp) (by simp [Fields.has, Fields.get])
  simp only [decodeContractInput, run_bind_ok, run_pure_ok]
  exact ⟨_, _, lift_run fields _, _, _, lift_run source _,
    input.from.root, _, lift_run (decodePathRoot_plain input.from.root _) _,
    _, _, lift_run (array_ok.mpr (by simp [InputSource.fields, Fields.get])) _,
    (), _, lift_run (failWhen_ok.mpr (by simpa using accepted.segments)) _, input.from.path, _, lift_run segments _,
    input.expectedType, _, type, input.id, _, lift_run (shortString_ok.mpr ⟨rfl, accepted.id⟩) _, rfl, rfl⟩

theorem decodeContractAction_counts : Counts decodeContractAction ContractAction.Accepted ContractAction.nodes := by
  intro value path nodes action after decoded
  simp only [decodeContractAction, run_bind_ok, run_lift_ok, run_pure_ok, shortString_ok, failWhen_ok, Nat.not_lt] at decoded
  obtain ⟨fields, _, ⟨-, rfl⟩, rawAliases, _, ⟨-, rfl⟩, _, _, ⟨fewAliases, rfl⟩, wireAliases, _, ⟨aliases, rfl⟩,
    rawInputs, _, ⟨-, rfl⟩, _, _, ⟨fewInputs, rfl⟩, inputs, _, inner, id, _, ⟨⟨-, short⟩, rfl⟩, wireAction, _,
    ⟨⟨-, label⟩, rfl⟩, rfl, rfl⟩ := decoded
  obtain ⟨aliasCount, shortAliases⟩ := mapItems_each (fun _ _ _ found => (shortString_ok.mp found).2) aliases
  obtain ⟨inputCount, accepted, spent⟩ := mapItems_counts decodeContractInput_counts inner
  exact ⟨⟨short, label, aliasCount ▸ fewAliases, shortAliases, inputCount ▸ fewInputs, accepted⟩, spent⟩

theorem decodeContractAction_readsBack {action : ContractAction} (accepted : action.Accepted) :
    ReadsBack decodeContractAction ContractAction.toJson ContractAction.nodes action := by
  intro path nodes room
  have inputs := mapItems_readsBack (fun input member => decodeContractInput_readsBack (accepted.inputs input member))
    (path ++ js ".inputs") 0 nodes room
  have aliases := mapItems_plain .string
    (fun label member _ => shortString_plain (accepted.aliases label member)) (path ++ js ".wireAliases") 0
  simp [decodeContractAction, ContractAction.toJson, exactObject_plain, Fields.has, Fields.get, array, failWhen,
    Nat.not_lt.mpr accepted.aliasCount, aliases, Nat.not_lt.mpr accepted.inputCount, inputs,
    shortString_plain accepted.id, shortString_plain accepted.wireAction, ContractAction.nodes]

theorem decodeContractObservation_counts :
    Counts decodeContractObservation ContractObservation.Accepted ContractObservation.nodes := by
  intro value path nodes observation after decoded
  simp only [decodeContractObservation, run_bind_ok, run_lift_ok, run_pure_ok, shortString_ok] at decoded
  obtain ⟨fields, _, ⟨-, rfl⟩, provenance, _, ⟨-, rfl⟩, expectedType, _, inner, id, _, ⟨⟨-, short⟩, rfl⟩, wireName, _,
    ⟨⟨-, name⟩, rfl⟩, rfl, rfl⟩ := decoded
  obtain ⟨valid, spent⟩ := decodeExpectedType_counts _ _ _ _ _ inner
  exact ⟨⟨short, name, valid⟩, spent⟩

theorem ContractObservation.get_expectedType (observation : ContractObservation) :
    observation.fields.get (js "expectedType") = observation.expectedType.map ModelType.toJson := by
  unfold fields expectedTypeField
  cases observation.expectedType <;> simp [Fields.get]

theorem decodeContractObservation_readsBack {observation : ContractObservation} (accepted : observation.Accepted) :
    ReadsBack decodeContractObservation ContractObservation.toJson ContractObservation.nodes observation := by
  intro path nodes room
  have type := decodeExpectedType_run accepted.expectedType (path ++ js ".expectedType") nodes room
  rw [← observation.get_expectedType] at type
  have fields : exactObject (some (.object observation.fields)) path ["id", "wireName", "provenance", "expectedType"]
      ["id", "wireName", "provenance"] = .ok observation.fields := by
    unfold ContractObservation.fields expectedTypeField
    cases observation.expectedType <;> exact exactObject_plain (by simp) (by simp [Fields.has, Fields.get])
  have provenance : observation.fields.get (js "provenance") = some (.string (js observation.provenance.name)) := by
    simp [ContractObservation.fields, Fields.get]
  have wireName : observation.fields.get (js "wireName") = some (.string observation.wireName) := by
    simp [ContractObservation.fields, Fields.get]
  simp only [decodeContractObservation, run_bind_ok, run_pure_ok]
  exact ⟨_, _, lift_run fields _,
    observation.provenance, _, lift_run (provenance ▸ decodeProvenance_plain observation.provenance _) _,
    observation.expectedType, _, type, observation.id, _, lift_run (shortString_ok.mpr ⟨rfl, accepted.id⟩) _,
    observation.wireName, _, lift_run (shortString_ok.mpr ⟨wireName, accepted.wireName⟩) _, rfl, rfl⟩

/-! ### Contracts -/

section

variable {α : Type} {decode : Unknown → JsString → Budgeted α} {name noun : String} {limit : Nat} {fields : Fields Json}
  {path : JsString}

theorem decodeContractItems_counts {P : α → Prop} {cost : α → Nat} (each : Counts decode P cost) {nodes after : Nat}
    {as : List α} (decoded : (decodeContractItems decode name limit noun fields path).run nodes = .ok (as, after)) :
    as.length ≤ limit ∧ (∀ a ∈ as, P a) ∧ after = nodes + (as.map cost).sum ∧ (nodes ≤ 8192 → after ≤ 8192) := by
  simp only [decodeContractItems, run_bind_ok, run_lift_ok, failWhen_ok, Nat.not_lt] at decoded
  obtain ⟨raw, _, ⟨-, rfl⟩, _, _, ⟨few, rfl⟩, inner⟩ := decoded
  obtain ⟨size, accepted, spent⟩ := mapItems_counts each inner
  exact ⟨size ▸ few, accepted, spent⟩

theorem decodeContractItems_plain {json : α → Json} {cost : α → Nat} {as : List α}
    (found : fields.get (js name) = some (.array (as.map json))) (few : as.length ≤ limit)
    (each : ∀ a ∈ as, ReadsBack decode json cost a) {nodes : Nat} (room : nodes + (as.map cost).sum ≤ 8192) :
    (decodeContractItems decode name limit noun fields path).run nodes = .ok (as, nodes + (as.map cost).sum) := by
  simp only [decodeContractItems, run_bind_ok]
  exact ⟨_, _, lift_run (array_ok.mpr found) _, (), _, lift_run (failWhen_ok.mpr (by simpa using few)) _,
    mapItems_readsBack each _ 0 nodes room⟩

end

theorem decodeContractV1_accepted {value : Unknown} {contract : ContractV1}
    (decoded : decodeContractV1 value = .ok contract) : contract.Accepted := by
  simp only [decodeContractV1, decodeContractMembers, bind_eq_ok, shortString_ok, nullableString_ok, pure_eq_ok,
    Except.ok.injEq] at decoded
  obtain ⟨fields, -, _, -, model, -, wire, -, parameterVariable, ⟨-, valid⟩, ⟨⟨initializers, actions, observations⟩, after⟩,
    members, interfaceVersion, ⟨-, version⟩, module, ⟨-, shortModule⟩, source, ⟨-, shortSource⟩, actionVariable,
    ⟨-, shortVariable⟩, rfl⟩ := decoded
  simp only [run_bind_ok, run_pure_ok, Prod.mk.injEq] at members
  obtain ⟨_, _, first, _, _, second, _, _, third, ⟨rfl, rfl, rfl⟩, rfl⟩ := members
  obtain ⟨few, accepted, spent, within⟩ := decodeContractItems_counts decodeContractAction_counts first
  obtain ⟨few', accepted', spent', within'⟩ := decodeContractItems_counts decodeContractAction_counts second
  obtain ⟨few'', accepted'', spent'', within''⟩ := decodeContractItems_counts decodeContractObservation_counts third
  have room := within'' (within' (within (Nat.zero_le _)))
  refine ⟨version, shortModule, shortSource, shortVariable, valid, few, accepted, few', accepted', few'', accepted'', ?_⟩
  simp only [ContractV1.nodes]
  omega

theorem decodeContractMembers_plain {contract : ContractV1} (accepted : contract.Accepted) {fields : Fields Json}
    (initializers : fields.get (js "initializers") = some (.array (contract.initializers.map ContractAction.toJson)))
    (actions : fields.get (js "actions") = some (.array (contract.actions.map ContractAction.toJson)))
    (observations : fields.get (js "observations") = some (.array (contract.observations.map ContractObservation.toJson)))
    (path : JsString) : (decodeContractMembers fields path).run 0 =
      .ok ((contract.initializers, contract.actions, contract.observations), contract.nodes) := by
  have room := accepted.nodes
  unfold ContractV1.nodes at room ⊢
  have action (action : ContractAction) (member : action ∈ contract.initializers ++ contract.actions) :=
    decodeContractAction_readsBack
      ((List.mem_append.mp member).elim (accepted.initializers action) (accepted.actions action))
  have observation (observation : ContractObservation) (member : observation ∈ contract.observations) :=
    decodeContractObservation_readsBack (accepted.observations observation member)
  simp only [decodeContractMembers, run_bind_ok, run_pure_ok]
  exact ⟨_, _, decodeContractItems_plain initializers accepted.initializerCount
      (fun a member => action a (List.mem_append_left _ member)) (by omega),
    _, _, decodeContractItems_plain actions accepted.actionCount
      (fun a member => action a (List.mem_append_right _ member)) (by omega),
    _, _, decodeContractItems_plain observations accepted.observationCount observation (by omega), rfl, by omega⟩

/-- A contract that the decoder returned is read back from its plain data. -/
theorem decodeContractV1_plain {contract : ContractV1} (accepted : contract.Accepted) :
    decodeContractV1 (some contract.toJson) = .ok contract := by
  have model : exactObject (some contract.model.toJson) (js "contract" ++ js ".model") ["module", "source"]
      ["module", "source"] = .ok _ := exactObject_plain (by simp) (by simp [Fields.has, Fields.get])
  have wire : exactObject (some contract.wire.toJson) (js "contract" ++ js ".wire") ["actionVariable", "parameterVariable"]
      ["actionVariable", "parameterVariable"] = .ok _ := exactObject_plain (by simp) (by simp [Fields.has, Fields.get])
  simp only [decodeContractV1, bind_eq_ok]
  exact ⟨_, exactObject_plain (by simp [contractFields]) (by simp [contractFields, Fields.has, Fields.get]),
    (), expectText_ok.mpr (by simp [Fields.get]), _, by simpa [Fields.get] using model, _, by simpa [Fields.get] using wire,
    contract.wire.parameterVariable, nullableString_ok.mpr ⟨by simp [Fields.get], accepted.parameterVariable⟩,
    _, decodeContractMembers_plain accepted (by simp [Fields.get]) (by simp [Fields.get]) (by simp [Fields.get]) _,
    contract.interfaceVersion, shortString_ok.mpr ⟨by simp [Fields.get], accepted.version⟩,
    contract.model.module, shortString_ok.mpr ⟨by simp [Fields.get], accepted.module⟩,
    contract.model.source, shortString_ok.mpr ⟨by simp [Fields.get], accepted.source⟩,
    contract.wire.actionVariable, shortString_ok.mpr ⟨by simp [Fields.get], accepted.actionVariable⟩, rfl⟩

end Mirror.ModelInterface
