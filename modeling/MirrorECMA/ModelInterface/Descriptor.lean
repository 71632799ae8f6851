import MirrorECMA.ECMA.Json

namespace Mirror.ModelInterface

open ECMA

def MODEL_INTERFACE_DESCRIPTOR_SCHEMA : String := "mirrors.model-interface-descriptor/v1"
def MODEL_INTERFACE_DESCRIPTOR_DIGEST_DOMAIN : String := "mirrors-model-interface-descriptor/v1"
def MODEL_INTERFACE_RESOLVER_SEMANTICS_VERSION : String := "mirrors-model-interface-resolver/v1"
def MODEL_INTERFACE_COMPARISON_POLICY_VERSION : String := "mirrors-applyParamVars-filterMeta/v1"
def MAX_MODEL_INTERFACE_DESCRIPTOR_BYTES : Nat := 32768

/-! ### Structural types -/

inductive ScalarKind where
  | int | bool | str | null
  deriving DecidableEq

def ScalarKind.name : ScalarKind → String
  | .int => "int"
  | .bool => "bool"
  | .str => "str"
  | .null => "null"

inductive ElementKind where
  | set | seq
  deriving DecidableEq

def ElementKind.name : ElementKind → String
  | .set => "set"
  | .seq => "seq"

/-- A field of a record is its `wireName` and `type`, a case of a variant its `tag` and `payload`. -/
inductive ModelType where
  | scalar (kind : ScalarKind)
  | collection (kind : ElementKind) (element : ModelType)
  | tuple (elements : List ModelType)
  | record (fields : List (JsString × ModelType))
  | map (key value : ModelType)
  | variant (cases : List (JsString × ModelType))
  | opaqueItf (description : JsString)

/-! ### Literals and paths -/

inductive ValuesKind where
  | set | seq | tuple
  deriving DecidableEq

def ValuesKind.name : ValuesKind → String
  | .set => "set"
  | .seq => "seq"
  | .tuple => "tuple"

/-- A field of a record is its `name` and `value`, an entry of a map its `key` and `value`. -/
inductive CanonicalItfLiteral where
  | int (value : JsString)
  | bool (value : Bool)
  | str (value : JsString)
  | null
  | collection (kind : ValuesKind) (values : List CanonicalItfLiteral)
  | record (fields : List (JsString × CanonicalItfLiteral))
  | map (entries : List (CanonicalItfLiteral × CanonicalItfLiteral))
  | variant (tag : JsString) (payload : CanonicalItfLiteral)

inductive ContractPathSegment where
  | field (name : JsString)
  | index (position : Double)
  | mapKey (key : CanonicalItfLiteral)
  | variantValue (tag : JsString)

/-! ### Descriptors -/

inductive PathRoot where
  | initialState | stepParameters
  deriving DecidableEq

def PathRoot.name : PathRoot → String
  | .initialState => "initialState"
  | .stepParameters => "stepParameters"

inductive Phase where
  | initialization | transition
  deriving DecidableEq

def Phase.name : Phase → String
  | .initialization => "initialize"
  | .transition => "transition"

structure InputSource where
  root : PathRoot
  path : List ContractPathSegment

structure ResolvedInput where
  id : JsString
  «from» : InputSource
  type : ModelType

structure ResolvedAction where
  id : JsString
  phase : Phase
  wireAction : JsString
  wireAliases : List JsString
  inputs : List ResolvedInput

/-- `provenance` has one value only. -/
structure ResolvedObservation where
  id : JsString
  wireName : JsString
  type : ModelType

/-- `actionVariable` has one value only. -/
structure ResolvedRunProfile where
  configuredParamVar : Option JsString
  itfParamVars : List JsString
  effectiveParamVars : List JsString
  deriving DecidableEq

/-- The members of one value only (`schema` and the two versions) are left out. -/
structure SemanticDescriptor where
  interfaceVersion : JsString
  module : JsString
  runProfile : ResolvedRunProfile
  initializers : List ResolvedAction
  actions : List ResolvedAction
  observations : List ResolvedObservation

/-! ### Induction over types and literals, with the children by membership -/

theorem sizeOf_pair {α β : Type} [SizeOf α] [SizeOf β] {pairs : List (α × β)} {pair : α × β} (member : pair ∈ pairs) :
    sizeOf pair.1 < sizeOf pairs ∧ sizeOf pair.2 < sizeOf pairs := by
  have smaller := List.sizeOf_lt_of_mem member
  obtain ⟨first, second⟩ := pair
  rw [Prod.mk.sizeOf_spec] at smaller
  exact ⟨show sizeOf first < _ by omega, show sizeOf second < _ by omega⟩

@[elab_as_elim]
theorem ModelType.children_induct {motive : ModelType → Prop} (scalar : ∀ kind, motive (.scalar kind))
    (collection : ∀ kind element, motive element → motive (.collection kind element))
    (tuple : ∀ elements, (∀ type ∈ elements, motive type) → motive (.tuple elements))
    (record : ∀ fields, (∀ field ∈ fields, motive field.2) → motive (.record fields))
    (map : ∀ key value, motive key → motive value → motive (.map key value))
    (variant : ∀ cases, (∀ case ∈ cases, motive case.2) → motive (.variant cases))
    (opaqueItf : ∀ description, motive (.opaqueItf description)) : ∀ type, motive type
  | .scalar kind => scalar kind
  | .collection kind element =>
    collection kind element (children_induct scalar collection tuple record map variant opaqueItf element)
  | .tuple elements => tuple elements fun type _ =>
      children_induct scalar collection tuple record map variant opaqueItf type
  | .record fields => record fields fun field _ =>
      children_induct scalar collection tuple record map variant opaqueItf field.2
  | .map key value => map key value (children_induct scalar collection tuple record map variant opaqueItf key)
      (children_induct scalar collection tuple record map variant opaqueItf value)
  | .variant cases => variant cases fun case _ =>
      children_induct scalar collection tuple record map variant opaqueItf case.2
  | .opaqueItf description => opaqueItf description
termination_by type => sizeOf type
decreasing_by
  · simp only [ModelType.collection.sizeOf_spec]; omega
  · have smaller := List.sizeOf_lt_of_mem ‹type ∈ elements›
    simp only [ModelType.tuple.sizeOf_spec]; omega
  · have smaller := (sizeOf_pair ‹field ∈ fields›).2
    simp only [ModelType.record.sizeOf_spec]; omega
  · simp only [ModelType.map.sizeOf_spec]; omega
  · simp only [ModelType.map.sizeOf_spec]; omega
  · have smaller := (sizeOf_pair ‹case ∈ cases›).2
    simp only [ModelType.variant.sizeOf_spec]; omega

@[elab_as_elim]
theorem CanonicalItfLiteral.children_induct {motive : CanonicalItfLiteral → Prop} (int : ∀ value, motive (.int value))
    (bool : ∀ value, motive (.bool value)) (str : ∀ value, motive (.str value)) (null : motive .null)
    (collection : ∀ kind values, (∀ literal ∈ values, motive literal) → motive (.collection kind values))
    (record : ∀ fields, (∀ field ∈ fields, motive field.2) → motive (.record fields))
    (map : ∀ entries, (∀ entry ∈ entries, motive entry.1 ∧ motive entry.2) → motive (.map entries))
    (variant : ∀ tag payload, motive payload → motive (.variant tag payload)) : ∀ literal, motive literal
  | .int value => int value
  | .bool value => bool value
  | .str value => str value
  | .null => null
  | .collection kind values => collection kind values fun literal _ =>
      children_induct int bool str null collection record map variant literal
  | .record fields => record fields fun field _ =>
      children_induct int bool str null collection record map variant field.2
  | .map entries => map entries fun entry _ =>
      ⟨children_induct int bool str null collection record map variant entry.1,
        children_induct int bool str null collection record map variant entry.2⟩
  | .variant tag payload => variant tag payload
      (children_induct int bool str null collection record map variant payload)
termination_by literal => sizeOf literal
decreasing_by
  · have smaller := List.sizeOf_lt_of_mem ‹literal ∈ values›
    simp only [CanonicalItfLiteral.collection.sizeOf_spec]; omega
  · have smaller := (sizeOf_pair ‹field ∈ fields›).2
    simp only [CanonicalItfLiteral.record.sizeOf_spec]; omega
  · have smaller := (sizeOf_pair ‹entry ∈ entries›).1
    simp only [CanonicalItfLiteral.map.sizeOf_spec]; omega
  · have smaller := (sizeOf_pair ‹entry ∈ entries›).2
    simp only [CanonicalItfLiteral.map.sizeOf_spec]; omega
  · simp only [CanonicalItfLiteral.variant.sizeOf_spec]; omega

end Mirror.ModelInterface
