import MirrorECMA.ModelInterface.Digest
import MirrorECMA.ModelInterface.Plain
import MirrorECMA.Protocol.Walk

namespace Mirror.Negotiation

open ECMA ModelInterface Mirror.Protocol

def MODEL_INTERFACE_NEGOTIATION_SCHEMA : String := "mirrors.model-interface-negotiation/v1"

/-- The digests of a reply about a descriptor, whose `descriptorSchema` is the one that is accepted. -/
structure DescriptorIdentity where
  semanticDigest : SemanticDigest
  provenanceDigest : Option SemanticDigest

inductive ModelInterfaceReply where
  | matched (identity : DescriptorIdentity)
  | resolved (identity : DescriptorIdentity) (descriptorBytes : Double) (descriptor : SemanticDescriptor)
  | not_modified (identity : DescriptorIdentity)
  | too_large (identity : DescriptorIdentity) (descriptorBytes : Double)
  | mismatch (descriptorSchema : Option JsString) (semanticDigest provenanceDigest : Option SemanticDigest)
  | unsupported
  | unavailable

inductive FailureStatus where
  | mismatch
  | unsupported
  | unavailable
  | too_large
  deriving DecidableEq

structure ModelInterfaceFailure where
  status : FailureStatus
  code : JsString
  expectedSemanticDigest : Option SemanticDigest
  actualSemanticDigest : Option SemanticDigest
  provenanceDigest : Option SemanticDigest
  descriptorBytes : Option Double

def parseWireSemanticDigest (value : JsString) : Decoded SemanticDigest := do
  failWhen ((js "sha256:").isPrefixOf value = false) (js "digest") (js "expected the 'sha256:' prefix")
  semanticDigestFromHex (value.drop 7)

def digestField (fields : Fields Json) (name : String) (path : JsString) : Decoded (Option SemanticDigest) :=
  optional (fields.get (js name)) fun value => do parseWireSemanticDigest (← string value (path ++ js "." ++ js name))

def requireDescriptorIdentity (fields : Fields Json) (path : JsString) : Decoded DescriptorIdentity := do
  expectText (fields.get (js "descriptorSchema")) MODEL_INTERFACE_DESCRIPTOR_SCHEMA (path ++ js ".descriptorSchema")
  match ← digestField fields "semanticDigest" path with
  | none => fail (path ++ js ".semanticDigest") (js "required for this status")
  | some semanticDigest => return { semanticDigest, provenanceDigest := ← digestField fields "provenanceDigest" path }

section

variable [Sha256]

/-- The checks on a descriptor that a reply carries. -/
def decodeResolved (identity : DescriptorIdentity) (descriptorBytes : Option Double)
    (descriptor : Option SemanticDescriptor) (path : JsString) : Decoded ModelInterfaceReply := do
  match descriptor, descriptorBytes with
  | none, _ => fail (path ++ js ".descriptor") (js "required for resolved")
  | some _, none => fail (path ++ js ".descriptorBytes") (js "required for resolved")
  | some descriptor, some descriptorBytes =>
    let canonicalBytes ← canonicalSemanticDescriptorBytes (some descriptor.toJson)
    failWhen (descriptorBytes ≠ .ofNat canonicalBytes.length) (path ++ js ".descriptorBytes")
      (js "expected " ++ decimal canonicalBytes.length)
    let actualDigest ← semanticDescriptorDigest (some descriptor.toJson)
    failWhen (identity.semanticDigest ≠ actualDigest) (path ++ js ".semanticDigest")
      (js "does not match canonical descriptor")
    return .resolved identity descriptorBytes descriptor

/-- A reply without a descriptor and without its size. -/
def decodeIdentified (make : DescriptorIdentity → ModelInterfaceReply) (status : String) (fields : Fields Json)
    (descriptorBytes : Option Double) (descriptor : Option SemanticDescriptor) (path : JsString) :
    Decoded ModelInterfaceReply := do
  let identity ← requireDescriptorIdentity fields path
  failWhen descriptor.isSome (path ++ js ".descriptor") (js "forbidden for " ++ js status)
  failWhen descriptorBytes.isSome (path ++ js ".descriptorBytes") (js "forbidden for " ++ js status)
  return make identity

def decodeTooLarge (fields : Fields Json) (descriptorBytes : Option Double) (descriptor : Option SemanticDescriptor)
    (path : JsString) : Decoded ModelInterfaceReply := do
  let identity ← requireDescriptorIdentity fields path
  failWhen descriptor.isSome (path ++ js ".descriptor") (js "forbidden for too_large")
  match descriptorBytes with
  | none => fail (path ++ js ".descriptorBytes") (js "required for too_large")
  | some descriptorBytes => return .too_large identity descriptorBytes

def decodeMismatch (fields : Fields Json) (descriptorBytes : Option Double) (descriptor : Option SemanticDescriptor)
    (path : JsString) : Decoded ModelInterfaceReply := do
  failWhen descriptor.isSome (path ++ js ".descriptor") (js "forbidden for failure status")
  failWhen descriptorBytes.isSome (path ++ js ".descriptorBytes") (js "forbidden for mismatch")
  let descriptorSchema ← optional (fields.get (js "descriptorSchema")) fun value =>
    string value (path ++ js ".descriptorSchema")
  let semanticDigest ← digestField fields "semanticDigest" path
  return .mismatch descriptorSchema semanticDigest (← digestField fields "provenanceDigest" path)

/-- A reply with a status alone. -/
def decodeBare (reply : ModelInterfaceReply) (status : String) (fields : Fields Json) (path : JsString) :
    Decoded ModelInterfaceReply :=
  let names := ["descriptorSchema", "semanticDigest", "provenanceDigest", "descriptorBytes", "descriptor"]
  match names.find? fun name => decide (fields.get (js name) ≠ none ∧ fields.get (js name) ≠ some .null) with
  | some name => fail path (js "field '" ++ js name ++ js "' is forbidden for " ++ js status)
  | none => .ok reply

def decodeModelInterfaceReply (value : Unknown) : Decoded ModelInterfaceReply := do
  let path := js "modelInterface"
  let fields ← exactObject value path
    ["schema", "status", "descriptorSchema", "semanticDigest", "provenanceDigest", "descriptorBytes", "descriptor"]
    ["schema", "status"]
  expectText (fields.get (js "schema")) MODEL_INTERFACE_NEGOTIATION_SCHEMA (path ++ js ".schema")
  let status ← string (fields.get (js "status")) (path ++ js ".status")
  let descriptorBytes ← optional (fields.get (js "descriptorBytes")) fun value =>
    nonnegativeInteger value (path ++ js ".descriptorBytes")
  let descriptor ← optional (fields.get (js "descriptor")) decodeSemanticDescriptorValue
  switch status [
    ("matched", decodeIdentified .matched "matched" fields descriptorBytes descriptor path),
    ("resolved", do decodeResolved (← requireDescriptorIdentity fields path) descriptorBytes descriptor path),
    ("not_modified", decodeIdentified .not_modified "not_modified" fields descriptorBytes descriptor path),
    ("too_large", decodeTooLarge fields descriptorBytes descriptor path),
    ("mismatch", decodeMismatch fields descriptorBytes descriptor path),
    ("unsupported", decodeBare .unsupported "unsupported" fields path),
    ("unavailable", decodeBare .unavailable "unavailable" fields path)]
    (fail (path ++ js ".status") (js "unknown negotiation status '" ++ status ++ js "'"))

def failureStatus (status path : JsString) : Decoded FailureStatus :=
  switch status [
    ("mismatch", .ok .mismatch),
    ("unsupported", .ok .unsupported),
    ("unavailable", .ok .unavailable),
    ("too_large", .ok .too_large)]
    (fail (path ++ js ".status") (js "success or unknown status '" ++ status ++ js "' is invalid on register_error"))

def decodeModelInterfaceFailure (value : Unknown) : Decoded ModelInterfaceFailure := do
  let path := js "modelInterface"
  let fields ← exactObject value path
    ["schema", "status", "code", "expectedSemanticDigest", "actualSemanticDigest", "provenanceDigest", "descriptorBytes"]
    ["schema", "status", "code"]
  expectText (fields.get (js "schema")) MODEL_INTERFACE_NEGOTIATION_SCHEMA (path ++ js ".schema")
  let status ← failureStatus (← string (fields.get (js "status")) (path ++ js ".status")) path
  let code ← string (fields.get (js "code")) (path ++ js ".code")
  failWhen (code = []) (path ++ js ".code") (js "must not be empty")
  let descriptorBytes ← optional (fields.get (js "descriptorBytes")) fun value =>
    nonnegativeInteger value (path ++ js ".descriptorBytes")
  let expectedSemanticDigest ← digestField fields "expectedSemanticDigest" path
  let actualSemanticDigest ← digestField fields "actualSemanticDigest" path
  let provenanceDigest ← digestField fields "provenanceDigest" path
  failWhen (status = .mismatch ∧ expectedSemanticDigest = none) (path ++ js ".expectedSemanticDigest")
    (js "required for mismatch")
  failWhen (status = .too_large ∧ descriptorBytes = none) (path ++ js ".descriptorBytes") (js "required for too_large")
  return { status, code, expectedSemanticDigest, actualSemanticDigest, provenanceDigest, descriptorBytes }

/-! ### The first message -/

inductive ModelInterfaceExtension where
  | reply (reply : ModelInterfaceReply)
  | failure (failure : ModelInterfaceFailure)

structure DecodedModelInterfaceMirrorMessage where
  message : AnyMessage
  modelInterface : Option ModelInterfaceExtension

/-- What the decoder of the first message throws. -/
inductive DecodeFailure where
  | protocol (error : ModelInterfaceProtocolError)
  | thrown (thrown : Thrown)

/-- The extension belongs to two kinds of message only. -/
def decodeExtension (step : JsString) (extension : Unknown) : Decoded (Option ModelInterfaceExtension) :=
  match extension with
  | none | some .null => .ok none
  | some extension => switch step [
      ("spec_validated", (fun reply => some (.reply reply)) <$> decodeModelInterfaceReply (some extension)),
      ("register_error", (fun failure => some (.failure failure)) <$> decodeModelInterfaceFailure (some extension))]
      (fail (js "mirror message.modelInterface") (js "allowed only on spec_validated or register_error"))

def isValidated : AnyMessage → Bool
  | .specValidated .valid => true
  | _ => false

variable [NumberConversion]

/-- The step and the extension of the raw message. -/
def decodeRaw (text : JsString) : Decoded (Option ModelInterfaceExtension) := do
  let raw ← object (some (← parseStrictJson text)) (js "mirror message")
  let step ← string (raw.get (js "proto_step")) (js "mirror message.proto_step")
  decodeExtension step (raw.get (js "modelInterface"))

/-- Strictly validate the raw first reply, then decode the ordinary fields of the message. -/
def decodeModelInterfaceMirrorMessage [NumberText] (text : JsString) :
    Except DecodeFailure DecodedModelInterfaceMirrorMessage := do
  let modelInterface ← (decodeRaw text).mapError .protocol
  let message ← (decodeMirrorMessage text).mapError .thrown
  match modelInterface with
  | some (.reply _) =>
    if isValidated message then return { message, modelInterface }
    else .error (.protocol
      ⟨js "mirror message.result" ++ js ": " ++ js "a negotiation reply requires a valid specification result"⟩)
  | _ => return { message, modelInterface }

end

end Mirror.Negotiation
