import MirrorECMA.ModelInterface.Decode

namespace Mirror.ModelInterface

open ECMA

def MODEL_INTERFACE_CONTRACT_SCHEMA : String := "mirrors.model-interface/v1"

structure ContractInput where
  id : JsString
  «from» : InputSource
  expectedType : Option ModelType

structure ContractAction where
  id : JsString
  wireAction : JsString
  wireAliases : List JsString
  inputs : List ContractInput

inductive Provenance where
  | implementation | oracle | derived
  deriving DecidableEq

def Provenance.name : Provenance → String
  | .implementation => "implementation"
  | .oracle => "oracle"
  | .derived => "derived"

structure ContractObservation where
  id : JsString
  wireName : JsString
  provenance : Provenance
  expectedType : Option ModelType

structure ContractModel where
  module : JsString
  source : JsString

structure ContractWire where
  actionVariable : JsString
  parameterVariable : Option JsString

/-- `schema` has one value only. -/
structure ContractV1 where
  interfaceVersion : JsString
  model : ContractModel
  wire : ContractWire
  initializers : List ContractAction
  actions : List ContractAction
  observations : List ContractObservation

/-! ### The decoder -/

/-- `optional(value, (item) => decodeModelType(item, path, 0, budget))`. -/
def decodeExpectedType (value : Unknown) (path : JsString) : Budgeted (Option ModelType) :=
  match value with
  | none | some .null => return none
  | some value => return some (← decodeModelType 32 (some value) path)

def decodePathRoot (value : Unknown) (path : JsString) : Decoded PathRoot := do
  let root ← string value path
  switch root [("initialState", .ok .initialState), ("stepParameters", .ok .stepParameters)]
    (fail path (js "unknown path root '" ++ root ++ js "'"))

def decodeProvenance (value : Unknown) (path : JsString) : Decoded Provenance := do
  let provenance ← string value path
  switch provenance [("implementation", .ok .implementation), ("oracle", .ok .oracle), ("derived", .ok .derived)]
    (fail path (js "unknown observation provenance '" ++ provenance ++ js "'"))

def decodeContractInput (value : Unknown) (path : JsString) : Budgeted ContractInput := do
  let fields ← exactObject value path ["id", "from", "expectedType"] ["id", "from"]
  let source ← exactObject (fields.get (js "from")) (path ++ js ".from") ["root", "path"] ["root", "path"]
  let root ← decodePathRoot (source.get (js "root")) (path ++ js ".from.root")
  let rawPath ← array (source.get (js "path")) (path ++ js ".from.path")
  failWhen (rawPath.length > 32) (path ++ js ".from.path") (js "path exceeds 32 segments")
  let decodedPath ← liftM (mapItems decodePathSegment (path ++ js ".from.path") 0 rawPath)
  let expectedType ← decodeExpectedType (fields.get (js "expectedType")) (path ++ js ".expectedType")
  let id ← shortString (fields.get (js "id")) (path ++ js ".id")
  return { id, «from» := { root, path := decodedPath }, expectedType }

def decodeContractAction (value : Unknown) (path : JsString) : Budgeted ContractAction := do
  let fields ← exactObject value path ["id", "wireAction", "wireAliases", "inputs"]
    ["id", "wireAction", "wireAliases", "inputs"]
  let rawAliases ← array (fields.get (js "wireAliases")) (path ++ js ".wireAliases")
  failWhen (rawAliases.length > 16) (path ++ js ".wireAliases") (js "array exceeds 16 aliases")
  let wireAliases ← liftM (mapItems shortString (path ++ js ".wireAliases") 0 rawAliases)
  let rawInputs ← array (fields.get (js "inputs")) (path ++ js ".inputs")
  failWhen (rawInputs.length > 128) (path ++ js ".inputs") (js "array exceeds 128 inputs")
  let inputs ← mapItems decodeContractInput (path ++ js ".inputs") 0 rawInputs
  let id ← shortString (fields.get (js "id")) (path ++ js ".id")
  let wireAction ← shortString (fields.get (js "wireAction")) (path ++ js ".wireAction")
  return { id, wireAction, wireAliases, inputs }

def decodeContractObservation (value : Unknown) (path : JsString) : Budgeted ContractObservation := do
  let observation ← exactObject value path ["id", "wireName", "provenance", "expectedType"] ["id", "wireName", "provenance"]
  let provenance ← decodeProvenance (observation.get (js "provenance")) (path ++ js ".provenance")
  let expectedType ← decodeExpectedType (observation.get (js "expectedType")) (path ++ js ".expectedType")
  let id ← shortString (observation.get (js "id")) (path ++ js ".id")
  let wireName ← shortString (observation.get (js "wireName")) (path ++ js ".wireName")
  return { id, wireName, provenance, expectedType }

/-- An array of the contract with a limit on its length. -/
def decodeContractItems {α : Type} (decode : Unknown → JsString → Budgeted α) (name : String) (limit : Nat) (noun : String)
    (fields : Fields Json) (path : JsString) : Budgeted (List α) := do
  let raw ← array (fields.get (js name)) (path ++ js "." ++ js name)
  failWhen (raw.length > limit) (path ++ js "." ++ js name) (js "array exceeds " ++ decimal limit ++ js " " ++ js noun)
  mapItems decode (path ++ js "." ++ js name) 0 raw

/-- The arrays of a contract, in the order that shares the budget of type nodes. -/
def decodeContractMembers (fields : Fields Json) (path : JsString) :
    Budgeted (List ContractAction × List ContractAction × List ContractObservation) := do
  let initializers ← decodeContractItems decodeContractAction "initializers" 32 "initializers" fields path
  let actions ← decodeContractItems decodeContractAction "actions" 256 "actions" fields path
  let observations ← decodeContractItems decodeContractObservation "observations" 1024 "observations" fields path
  return (initializers, actions, observations)

def contractFields : List String :=
  ["schema", "interfaceVersion", "model", "wire", "initializers", "actions", "observations"]

/-- Validate and clone a version-1 companion contract. -/
def decodeContractV1 (value : Unknown) : Decoded ContractV1 := do
  let path := js "contract"
  let fields ← exactObject value path contractFields contractFields
  expectText (fields.get (js "schema")) MODEL_INTERFACE_CONTRACT_SCHEMA (path ++ js ".schema")
  let model ← exactObject (fields.get (js "model")) (path ++ js ".model") ["module", "source"] ["module", "source"]
  let wire ← exactObject (fields.get (js "wire")) (path ++ js ".wire") ["actionVariable", "parameterVariable"]
    ["actionVariable", "parameterVariable"]
  let parameterVariable ← nullableString (wire.get (js "parameterVariable")) (path ++ js ".wire.parameterVariable")
  let ((initializers, actions, observations), _) ← (decodeContractMembers fields path).run 0
  let interfaceVersion ← shortString (fields.get (js "interfaceVersion")) (path ++ js ".interfaceVersion")
  let module ← shortString (model.get (js "module")) (path ++ js ".model.module")
  let source ← shortString (model.get (js "source")) (path ++ js ".model.source")
  let actionVariable ← shortString (wire.get (js "actionVariable")) (path ++ js ".wire.actionVariable")
  return {
    interfaceVersion, model := { module, source }, wire := { actionVariable, parameterVariable }
    initializers, actions, observations }

end Mirror.ModelInterface
