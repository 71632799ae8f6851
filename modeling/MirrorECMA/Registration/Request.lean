import MirrorECMA.ModelInterface.AcceptedContract
import MirrorECMA.Negotiation.Authorize

namespace Mirror.Registration

open ECMA ModelInterface Mirror.Negotiation

/-! ### Requests -/

/-- What both modes have; `schema` has one value only, and `contract` is the one under `inline`. -/
structure RequestCommon where
  policy : NegotiationPolicy
  acceptDescriptorSchemas : List JsString
  contract : ContractV1

structure ModelInterfaceVerifyRequest extends RequestCommon where
  expectedSemanticDigest : SemanticDigest

structure ModelInterfaceDescriptorRequest extends RequestCommon where
  expectedSemanticDigest : Option SemanticDigest
  ifNoneMatch : Option SemanticDigest

inductive RequestMode where
  | verify | descriptor
  deriving DecidableEq

def RequestMode.name : RequestMode → String
  | .verify => "verify"
  | .descriptor => "descriptor"

inductive ModelInterfaceRequest where
  | verify (request : ModelInterfaceVerifyRequest)
  | descriptor (request : ModelInterfaceDescriptorRequest)

namespace ModelInterfaceRequest

def common : ModelInterfaceRequest → RequestCommon
  | verify request => request.toRequestCommon
  | descriptor request => request.toRequestCommon

def mode : ModelInterfaceRequest → RequestMode
  | verify _ => .verify
  | descriptor _ => .descriptor

def expectedSemanticDigest : ModelInterfaceRequest → Option SemanticDigest
  | verify request => some request.expectedSemanticDigest
  | descriptor request => request.expectedSemanticDigest

def ifNoneMatch : ModelInterfaceRequest → Option SemanticDigest
  | verify _ => none
  | descriptor request => request.ifNoneMatch

end ModelInterfaceRequest

def policyName : NegotiationPolicy → String
  | .require => "require"
  | .prefer => "prefer"

def negotiationPolicy (policy path : JsString) : Decoded NegotiationPolicy :=
  switch policy [("require", .ok .require), ("prefer", .ok .prefer)] (fail path (js "expected 'require' or 'prefer'"))

def renderWireSemanticDigest (value : JsString) : Decoded JsString := do
  return js "sha256:" ++ (← semanticDigestFromHex value).hex

/-- The member that `...(digest === undefined ? {} : { name: renderWireSemanticDigest(digest) })` adds. -/
def renderedDigest (name : String) (digest : Option JsString) : Decoded (Fields Json) :=
  match digest with
  | none => return []
  | some digest => return [(js name, .string (← renderWireSemanticDigest digest))]

/-! ### The decoder -/

def decodeAcceptedSchemas (value : Unknown) (path : JsString) : Decoded (List JsString) := do
  let raw ← array value path
  failWhen (raw.length = 0) path (js "at least one schema is required")
  failWhen (raw.length > 8) path (js "at most eight schemas are accepted")
  let schemas ← mapItems string path 0 raw
  failWhen ([] ∈ schemas) path (js "schema names must not be empty")
  requireUnique schemas path "schema name"
  return schemas

def decodeRequestMode (value : Unknown) (path : JsString) : Decoded RequestMode := do
  let request ← string value path
  switch request [("verify", .ok .verify), ("descriptor", .ok .descriptor)]
    (fail path (js "unknown request mode '" ++ request ++ js "'"))

/-- The digest of a verify request, which has no validator. -/
def verifyDigest (expectedSemanticDigest ifNoneMatch : Option SemanticDigest) (path : JsString) : Decoded SemanticDigest :=
  match expectedSemanticDigest, ifNoneMatch with
  | none, _ => fail (path ++ js ".expectedSemanticDigest") (js "required for verify")
  | some _, some _ => fail (path ++ js ".ifNoneMatch") (js "allowed only for descriptor requests")
  | some expectedSemanticDigest, none => .ok expectedSemanticDigest

def decodeContractReference (value : Unknown) (path : JsString) : Decoded ContractV1 := do
  let contractReference ← object value path
  match contractReference with
  | [(name, contract)] =>
    switch name [
        ("digest", fail (path ++ js ".digest") (js "digest contract references are unsupported in version 1")),
        ("inline", decodeContractV1 (some contract))]
      (fail path (js "unknown contract reference '" ++ name ++ js "'"))
  | _ => fail path (js "exactly one contract reference form is required")

def requestFields : List String :=
  ["schema", "request", "policy", "acceptDescriptorSchemas", "expectedSemanticDigest", "ifNoneMatch", "contract"]

def requiredRequestFields : List String := ["schema", "request", "policy", "acceptDescriptorSchemas", "contract"]

def decodeRequestValue (value : Unknown) : Decoded ModelInterfaceRequest := do
  let path := js "modelInterface"
  let fields ← exactObject value path requestFields requiredRequestFields
  expectText (fields.get (js "schema")) MODEL_INTERFACE_NEGOTIATION_SCHEMA (path ++ js ".schema")
  let mode ← decodeRequestMode (fields.get (js "request")) (path ++ js ".request")
  let policy ← negotiationPolicy (← string (fields.get (js "policy")) (path ++ js ".policy")) (path ++ js ".policy")
  let acceptDescriptorSchemas ← decodeAcceptedSchemas (fields.get (js "acceptDescriptorSchemas"))
    (path ++ js ".acceptDescriptorSchemas")
  let expectedSemanticDigest ← digestField fields "expectedSemanticDigest" path
  let ifNoneMatch ← digestField fields "ifNoneMatch" path
  match mode with
  | .verify =>
    let expectedSemanticDigest ← verifyDigest expectedSemanticDigest ifNoneMatch path
    let contract ← decodeContractReference (fields.get (js "contract")) (path ++ js ".contract")
    return .verify { policy, acceptDescriptorSchemas, contract, expectedSemanticDigest }
  | .descriptor =>
    let contract ← decodeContractReference (fields.get (js "contract")) (path ++ js ".contract")
    return .descriptor { policy, acceptDescriptorSchemas, contract, expectedSemanticDigest, ifNoneMatch }

def decodeModelInterfaceRequest (value : Unknown) : Decoded ModelInterfaceRequest := decodeRequestValue value

/-! ### The builders -/

/-- The contract is the plain data it has as a value of the language. -/
structure GeneratedModelInterface where
  semanticDigest : JsString
  contract : Json

/-- `policy` is `"require"` when it is left out. -/
def createVerifyRequest (metadata : GeneratedModelInterface) (policy : Option JsString) :
    Decoded ModelInterfaceVerifyRequest := do
  let policy ← negotiationPolicy (policy.getD (js "require")) (js "modelInterface.policy")
  let expectedSemanticDigest ← semanticDigestFromHex metadata.semanticDigest
  let contract ← decodeContractV1 (some metadata.contract)
  return { policy, acceptDescriptorSchemas := [js MODEL_INTERFACE_DESCRIPTOR_SCHEMA], expectedSemanticDigest, contract }

structure DescriptorRequestOptions where
  policy : Option JsString
  expectedSemanticDigest : Option JsString
  ifNoneMatch : Option JsString
  acceptDescriptorSchemas : Option (List JsString)

def createDescriptorRequest (contract : Json) (options : DescriptorRequestOptions) :
    Decoded ModelInterfaceDescriptorRequest := do
  let schemas := options.acceptDescriptorSchemas.getD [js MODEL_INTERFACE_DESCRIPTOR_SCHEMA]
  let expectedSemanticDigest ← renderedDigest "expectedSemanticDigest" options.expectedSemanticDigest
  let ifNoneMatch ← renderedDigest "ifNoneMatch" options.ifNoneMatch
  let request ← decodeRequestValue (some (.object ([
    (js "schema", .string (js MODEL_INTERFACE_NEGOTIATION_SCHEMA)),
    (js "request", .string (js RequestMode.descriptor.name)),
    (js "policy", .string (options.policy.getD (js "require"))),
    (js "acceptDescriptorSchemas", .array (schemas.map .string)),
    (js "contract", .object [(js "inline", contract)])] ++ expectedSemanticDigest ++ ifNoneMatch)))
  match request with
  | .descriptor request => return request
  | .verify _ => fail (js "modelInterface.request") (js "expected 'descriptor'")

/-! ### The wire form -/

/-- A digest as a request has it, without the prefix. -/
def bareDigest (name : String) (digest : Option SemanticDigest) : Fields Json :=
  (digest.map fun digest => (js name, .string digest.hex)).toList

/-- The own properties of a request. The decoder reads them by name, in whatever order a builder lists them. -/
def ModelInterfaceRequest.fields (request : ModelInterfaceRequest) : Fields Json :=
  [(js "schema", .string (js MODEL_INTERFACE_NEGOTIATION_SCHEMA)), (js "policy", .string (js (policyName request.common.policy))),
    (js "acceptDescriptorSchemas", .array (request.common.acceptDescriptorSchemas.map .string)),
    (js "contract", .object [(js "inline", request.common.contract.toJson)]),
    (js "request", .string (js request.mode.name))] ++
  bareDigest "expectedSemanticDigest" request.expectedSemanticDigest ++ bareDigest "ifNoneMatch" request.ifNoneMatch

/-- The digests in the form they have on the wire. -/
def ModelInterfaceRequest.wireDigests (request : ModelInterfaceRequest) : Decoded (Fields Json) := do
  let expectedSemanticDigest ← renderedDigest "expectedSemanticDigest" (request.expectedSemanticDigest.map (·.hex))
  let ifNoneMatch ← renderedDigest "ifNoneMatch" (request.ifNoneMatch.map (·.hex))
  return expectedSemanticDigest ++ ifNoneMatch

def wireRequest (request : ModelInterfaceRequest) : Decoded (Fields Json) := do
  let normalized ← decodeRequestValue (some (.object (Fields.ofEntries (request.fields ++ (← request.wireDigests)))))
  return [
    (js "schema", .string (js MODEL_INTERFACE_NEGOTIATION_SCHEMA)),
    (js "request", .string (js normalized.mode.name)),
    (js "policy", .string (js (policyName normalized.common.policy))),
    (js "acceptDescriptorSchemas", .array (normalized.common.acceptDescriptorSchemas.map .string))] ++
    (← normalized.wireDigests) ++ [(js "contract", .object [(js "inline", normalized.common.contract.toJson)])]

end Mirror.Registration
