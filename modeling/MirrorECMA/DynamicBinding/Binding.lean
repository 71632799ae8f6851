import MirrorECMA.ECMA.BigInt
import MirrorECMA.ECMA.JsMap
import MirrorECMA.DynamicBinding.Codec
import MirrorECMA.ModelInterface.AcceptedDescriptor
import MirrorECMA.ModelInterface.Digest

namespace Mirror.DynamicBinding

open ECMA Mirror.Protocol Mirror.OpaqueItf
open Mirror.ModelInterface (CanonicalItfLiteral ContractPathSegment ResolvedAction ResolvedObservation SemanticDescriptor SemanticDigest
  Sha256 ModelInterfaceProtocolError Unknown decodeSemanticDescriptor semanticDescriptorDigest Decoded)

inductive DynamicBindingErrorCode where
  | binding_digest_mismatch
  | handler_missing
  | handler_extra
  | observer_missing
  | observer_extra
  | descriptor_type_unsupported
  | configuration_mismatch
  | unknown_action
  | transition_before_initialization
  | input_shape_mismatch
  | adapter_failure
  | observation_shape_mismatch
  | binding_poisoned
  | binding_disposed
  | binding_aborted
  deriving DecidableEq

/-- The cause of an error is left out: nothing reads it. -/
structure DynamicBindingError where
  code : DynamicBindingErrorCode
  message : JsString
  deriving DecidableEq

/-! ### Paths into a state -/

mutual

def literalValue : CanonicalItfLiteral → Checked Value
  | .int value =>
    match bigIntOfString value with
    | some val => .ok (.int val)
    | none => .error (js "Cannot convert " ++ value ++ js " to a BigInt")
  | .bool value => .ok (.bool value)
  | .str value => .ok (.str value)
  | .null => .ok .null
  | .collection .set values => do
    let val ← literalValues values
    assertUniqueValues val (js "mapKey")
    return .set val
  | .collection .seq values => return .seq (← literalValues values)
  | .collection .tuple values => return .tuple (← literalValues values)
  | .record fields => return .record (← literalFields [] fields)
  | .map entries => do
    let val ← literalEntries entries
    assertUniqueValues (val.map Prod.fst) (js "mapKey")
    return .map val
  | .variant tag payload => return .variant tag (← literalValue payload)

def literalValues : List CanonicalItfLiteral → Checked (List Value)
  | [] => .ok []
  | literal :: rest => do
    let value ← literalValue literal
    return value :: (← literalValues rest)

def literalFields (val : Fields Value) : List (JsString × CanonicalItfLiteral) → Checked (Fields Value)
  | [] => .ok val
  | (name, literal) :: rest =>
    if val.has name then .error (js "mapKey: duplicate record field " ++ name)
    else do
      let value ← literalValue literal
      literalFields (val.set name value) rest

def literalEntries : List (CanonicalItfLiteral × CanonicalItfLiteral) → Checked (List (Value × Value))
  | [] => .ok []
  | (key, value) :: rest => do
    let key ← literalValue key
    let value ← literalValue value
    return (key, value) :: (← literalEntries rest)

end

/-- The entry that `find` stops at. -/
def findEntry (expected : JsString) : List (Value × Value) → Checked (Option (Value × Value))
  | [] => .ok none
  | entry :: rest => do
    let identity ← valueIdentity entry.1
    if identity = expected then return some entry else findEntry expected rest

def readSegment (value : Value) (segment : ContractPathSegment) (label : JsString) : Checked Value :=
  match segment with
  | .field name =>
    let missing := .error (label ++ js ": missing record field " ++ name)
    match value with
    | .record val => (Fields.get val name).elim missing .ok
    | _ => missing
  | .index position =>
    let missing := .error (label ++ js ": missing index " ++ integerText (position.toInt?.getD 0))
    match value with
    | .seq val | .tuple val => (val[(position.toInt?.getD 0).toNat]?).elim missing .ok
    | _ => missing
  | .variantValue tag =>
    let expected := .error (label ++ js ": expected variant " ++ tag)
    match value with
    | .variant variantTag payload => if variantTag = tag then .ok payload else expected
    | _ => expected
  | .mapKey mapKey =>
    match value with
    | .map val => do
      assertUniqueValues (val.map Prod.fst) label
      let expected ← valueIdentity (← literalValue mapKey)
      match ← findEntry expected val with
      | some found => .ok found.2
      | none => .error (label ++ js ": map key is absent")
    | _ => .error (label ++ js ": mapKey requires a map")

def readPath (root : State) (path : List ContractPathSegment) (label : JsString) : Checked Value :=
  path.foldlM (fun value segment => readSegment value segment label) (.record root)

def comparableInitialState (root : State) (descriptor : SemanticDescriptor) : State :=
  root.filter fun entry => !(entry.1.head? = some 0x23) && entry.1 ≠ js "action_taken" &&
    entry.1 ∉ descriptor.runProfile.effectiveParamVars

def projectInputs (action : ResolvedAction) (payload : State) (descriptor : SemanticDescriptor) :
    Checked (Fields NativeModelValue) := do
  let root := match action.phase with
    | .initialization => comparableInitialState payload descriptor
    | .transition => payload
  let inputs ← action.inputs.mapM fun input => do
    let label := action.id ++ js "." ++ input.id
    let snapshot ← snapshotItfValue (foreign (← readPath root input.from.path label))
    return (input.id, ← decodeNative snapshot input.type label)
  return Fields.ofEntries inputs

/-! ### Registries -/

/-- A key of an object, with the text of a symbol. -/
inductive PropertyKey where
  | text (name : JsString)
  | symbol (description : JsString)
  deriving DecidableEq

/-- An own property, and whether it is a data property that holds a function. -/
structure OwnProperty where
  key : PropertyKey
  callable : Bool

structure DynamicHandlerRegistry where
  semanticDigest : JsString
  actions : List OwnProperty
  observations : List OwnProperty

/-- What constructing a binding may throw. -/
inductive BindFailure where
  | protocol (error : ModelInterfaceProtocolError)
  | binding (error : DynamicBindingError)

def bindingError {α : Type} (code : DynamicBindingErrorCode) (message : JsString) : Except BindFailure α :=
  .error (.binding ⟨code, message⟩)

def PropertyKey.string : PropertyKey → JsString
  | .text name => name
  | .symbol description => js "Symbol(" ++ description ++ js ")"

def assertExactRegistry (actual : List OwnProperty) (expected : List JsString)
    (missingCode extraCode : DynamicBindingErrorCode) : Except BindFailure Unit :=
  let missing := expected.filter fun key => !actual.any fun property => property.key = .text key && property.callable
  if missing ≠ [] then bindingError missingCode (js "missing callable IDs: " ++ (js ", ").intercalate missing)
  else
    let extras := (actual.map (·.key)).filter fun key => !expected.any fun id => key = .text id
    if extras ≠ [] then bindingError extraCode (js "extra IDs: " ++ (js ", ").intercalate (extras.map PropertyKey.string))
    else .ok ()

/-- What both bindings are built from. The callbacks are whatever the registry holds, so they are left to the environment. -/
structure PreparedBinding where
  descriptor : SemanticDescriptor
  digest : SemanticDigest
  actionByWire : JsMap JsString ResolvedAction

def actionsByWire (actions : List ResolvedAction) : JsMap JsString ResolvedAction :=
  actions.foldl (fun map action =>
    (action.wireAction :: action.wireAliases).foldl (fun map label => JsMap.set map label action) map) []

def prepareBinding [Sha256] (value : Unknown) (registry : DynamicHandlerRegistry) :
    Except BindFailure PreparedBinding := do
  let descriptor ← (decodeSemanticDescriptor value).mapError .protocol
  let digest ← (semanticDescriptorDigest (some descriptor.toJson)).mapError .protocol
  if registry.semanticDigest ≠ digest.hex then
    bindingError .binding_digest_mismatch (js "dynamic registry digest does not match descriptor")
  else
    let actions := descriptor.allActions
    assertExactRegistry registry.actions (actions.map (·.id)) .handler_missing .handler_extra
    assertExactRegistry registry.observations (descriptor.observations.map (·.id)) .observer_missing .observer_extra
    return { descriptor, digest, actionByWire := actionsByWire actions }

/-! ### What both bindings share -/

inductive Lifecycle where
  | fresh
  | initialized
  | poisoned
  deriving DecidableEq

inductive Stage where
  | dispatch
  | input
  | adapter
  | observation
  deriving DecidableEq

/-- The code of a call that fails at this stage, unless its error is passed on. -/
def Stage.code : Stage → DynamicBindingErrorCode
  | .input => .input_shape_mismatch
  | .observation => .observation_shape_mismatch
  | _ => .adapter_failure

def initialCounts (binding : PreparedBinding) : Fields Nat :=
  Fields.ofEntries (binding.descriptor.allActions.map fun action => (action.id, 0))

/-- `counts[id] += 1`. -/
def countCompleted (counts : Fields Nat) (id : JsString) : Fields Nat := counts.set id ((counts.get id).getD 0 + 1)

def uncovered (counts : Fields Nat) : List JsString := counts.keys.filter fun id => counts.get id = some 0

def assertCompatibleConfig (binding : PreparedBinding) (paramVars : Option JsString) : Except DynamicBindingError Unit :=
  let expected := binding.descriptor.runProfile.configuredParamVar.getD []
  let actual := paramVars.getD []
  if actual ≠ expected then
    .error ⟨.configuration_mismatch, js "expected paramVars=" ++ expected ++ js ", got " ++ actual⟩
  else .ok ()

/-- The observations of a pass, encoded under their wire names. -/
def encodeObserved : List (ResolvedObservation × NativeModelValue) → Checked (List (JsString × Value))
  | [] => .ok []
  | (observation, observed) :: rest => do
    let value ← encodeNative observed observation.type (js "observation." ++ observation.id)
    return (observation.wireName, value) :: (← encodeObserved rest)

def encodeState (observations : List ResolvedObservation) (observed : List NativeModelValue) : Checked State := do
  return Fields.ofEntries (← encodeObserved (observations.zip observed))

/-! ### Lemmas -/

theorem prepareBinding_decoded [ModelInterface.Sha256] {value : ModelInterface.Unknown} {registry : DynamicHandlerRegistry}
    {binding : PreparedBinding} (prepared : prepareBinding value registry = .ok binding) :
    ModelInterface.decodeSemanticDescriptor value = .ok binding.descriptor := by
  simp only [prepareBinding, bind_eq_ok, mapError_eq_ok] at prepared
  rcases prepared with ⟨descriptor, decoded, digest, -, prepared⟩
  split at prepared
  · cases prepared
  · simp only [bind_eq_ok, pure_eq_ok, Except.ok.injEq] at prepared
    rcases prepared with ⟨_, -, _, -, rfl⟩
    exact decoded

theorem initialCounts_get {binding : PreparedBinding} (distinct : (binding.descriptor.allActions.map (·.id)).Nodup)
    {action : ResolvedAction} (member : action ∈ binding.descriptor.allActions) :
    (initialCounts binding).get action.id = some 0 := by
  have keys : Fields.Distinct (binding.descriptor.allActions.map fun action => (action.id, 0)) := by
    simpa [Fields.Distinct, Fields.keys, Function.comp_def] using distinct
  rw [initialCounts, Fields.ofEntries_eq keys]
  exact Fields.get_of_mem keys (List.mem_map_of_mem (f := fun action : ResolvedAction => (action.id, 0)) member)

theorem get_countCompleted {counts : Fields Nat} {id other : JsString} {count : Nat} (found : counts.get other = some count) :
    (countCompleted counts id).get other = some (count + if id = other then 1 else 0) := by
  rw [countCompleted, Fields.get_set]
  by_cases same : id = other
  · rw [if_pos same, if_pos same, same, found, Option.getD_some]
  · rw [if_neg same, if_neg same, found, Nat.add_zero]

theorem encodeObserved_names {pairs : List (ResolvedObservation × NativeModelValue)} {fields : List (JsString × Value)}
    (encoded : encodeObserved pairs = .ok fields) : fields.map Prod.fst = pairs.map fun pair => pair.1.wireName := by
  induction pairs generalizing fields with
  | nil =>
    cases encoded
    rfl
  | cons pair rest ih =>
    simp only [encodeObserved, bind_eq_ok, pure_eq_ok, Except.ok.injEq] at encoded
    rcases encoded with ⟨value, -, fields, more, rfl⟩
    rw [List.map_cons, List.map_cons, ih more]

theorem encodeState_keys {observations : List ResolvedObservation} {observed : List NativeModelValue} {state : State}
    (distinct : (observations.map (·.wireName)).Nodup) (same : observed.length = observations.length)
    (encoded : encodeState observations observed = .ok state) : Fields.keys state = observations.map (·.wireName) := by
  simp only [encodeState, bind_eq_ok, pure_eq_ok, Except.ok.injEq] at encoded
  rcases encoded with ⟨fields, encoded, rfl⟩
  have names := encodeObserved_names encoded
  have firsts : (observations.zip observed).map (fun pair => pair.1.wireName) = observations.map (·.wireName) := by
    have zipped : (observations.zip observed).map Prod.fst = observations := List.map_fst_zip (le_of_eq same.symm)
    rw [← zipped, List.map_map, zipped]
    rfl
  rw [firsts] at names
  have own : Fields.Distinct fields := by
    rw [Fields.Distinct, Fields.keys, names]
    exact distinct
  rw [Fields.ofEntries_eq own, Fields.keys, names]

end Mirror.DynamicBinding
