import MirrorECMA.Reproduction.Bundle

namespace Mirror.Reproduction

open ECMA
open ECMA.Reading (equalsText)
open Mirror.ModelInterface

/-! ### Evidence links -/

def validateRunRef (value : Json) : Checked Unit := do
  let r ← record value "runRef"
  exact r ["schemaVersion", "runId", "envelopeSha256", "projectionKind"] "runRef"
  let version ← own r "schemaVersion"
  let projection ← own r "projectionKind"
  demand ((equalsText version "mirrors.evidence-envelope/v1.0" && equalsText projection "private") ||
    (equalsText version "mirrors.evidence-public-summary/v1.0" && equalsText projection "public"))
    "evidence_ref_invalid" "runRef projection mismatch"
  let _ ← textOf r "runId" "runId" OPAQUE_ID
  let _ ← textOf r "envelopeSha256" "envelopeSha256" SHA256

def isBoolean : Json → Bool
  | .bool _ => true
  | _ => false

def validateComponentRef (value : Json) : Checked Unit := do
  let r ← record value "componentRef"
  let dirty ← own r "dirty"
  exact r (["componentId", "repository", "revision", "dirty"] ++ if dirty = .bool true then ["dirtyContent"] else [])
    "componentRef"
  let _ ← textOf r "componentId" "componentId" OPAQUE_ID
  let _ ← textOf r "repository" "repository" anyText
  let _ ← textOf r "revision" "revision" GIT_REVISION
  demand (isBoolean dirty) "evidence_ref_invalid" "component dirty flag invalid"

def ARTIFACT_ROLES : List String :=
  ["command-log", "cleanup-receipt", "producer-result", "diagnostic", "reproduction-input", "recovery-receipt"]

/-- A relative path without empty, `.` and `..` parts. -/
def logicalPath (path : JsString) : Bool :=
  !(js "/").isPrefixOf path && !decide (unit '\\' ∈ path) &&
    (splitAt (unit '/') path).all fun part => !(decide (part = js ".") || decide (part = js "..") || part.isEmpty)

def validateLocation (location : Fields Json) : Checked Unit := do
  let kind ← own location "kind"
  if equalsText kind "bundle" then
    exact location ["kind", "path"] "bundle location"
    let path ← textOf location "path" "logical path" anyText
    demand (logicalPath path) "evidence_ref_invalid" "logical path invalid"
  else if equalsText kind "external" then
    exact location ["kind", "immutableUri"] "external location"
    let uri ← textOf location "immutableUri" "immutableUri" anyText
    demand (immutableUri uri) "evidence_ref_invalid" "immutable URI invalid"
  else fail (js "evidence_ref_invalid") (js "artifact location invalid")

section

variable [NumberText]

def validateArtifactRef (value : Json) : Checked Unit := do
  let r ← record value "artifactRef"
  exact r ["artifactId", "mediaType", "role", "bytes", "sha256", "visibility", "requirement", "location"] "artifactRef"
  let _ ← textOf r "artifactId" "artifactId" OPAQUE_ID
  let _ ← textOf r "mediaType" "mediaType" anyText
  coerced r "role" ARTIFACT_ROLES "evidence_ref_invalid" "artifact role invalid"
  let _ ← integerOf r "bytes" "artifact bytes" 0 67108864
  let _ ← textOf r "sha256" "artifact sha256" SHA256
  coerced r "visibility" ["public", "private"] "evidence_ref_invalid" "artifact policy invalid"
  coerced r "requirement" ["required", "optional"] "evidence_ref_invalid" "artifact policy invalid"
  let location ← record (← own r "location") "artifact location"
  validateLocation location

end

def validateCatalogRef (value : Json) : Checked Unit := do
  let r ← record value "catalogSelectionRef"
  exact r ["schemaVersion", "selectionKind", "selectionValue"] "catalogSelectionRef"
  let version ← own r "schemaVersion"
  demand (equalsText version "mirrors.framework-catalog/v1") "catalog_ref_invalid" "catalog schema mismatch"
  let kind ← own r "selectionKind"
  let selected ← textOf r "selectionValue" "selectionValue" anyText
  demand ((equalsText kind "sha256" && SHA256 selected) || (equalsText kind "git-revision" && GIT_REVISION selected))
    "catalog_ref_invalid" "catalog selection invalid"

/-- `String(item[key])`. -/
def textAt [NumberText] (key : String) (item : Json) : Checked JsString :=
  let value := match item with
    | .object fields => Fields.get fields (js key)
    | _ => none
  match value with
  | none => .ok (js "undefined")
  | some value => match toText value with
    | some text => .ok text
    | none => .error .typeError

/-- The texts of one property differ from item to item. -/
def distinctTexts [NumberText] (items : List Json) (key code message : String) : Checked Unit := do
  let ids ← items.mapM (textAt key)
  demand (decide ids.Nodup) code message

def validateEvidenceArtifactReferences [NumberText] (value : Json) : Checked Unit := do
  let items ← array value 0 128 "evidence_ref_invalid" "artifact references invalid"
  items.forM validateArtifactRef
  distinctTexts items "artifactId" "evidence_ref_invalid" "duplicate artifact identity"

def validateComponentRefs [NumberText] (value : Json) : Checked Unit := do
  let items ← array value 1 64 "evidence_ref_invalid" "component references invalid"
  items.forM validateComponentRef
  distinctTexts items "componentId" "evidence_ref_invalid" "duplicate component identity"

/-! ### Identities -/

def validateSuite (value : Json) : Checked Unit := do
  let suite ← record value "suite"
  exact suite ["id", "definitionSha256"] "suite"
  let _ ← textOf suite "id" "suite id" STABLE_ID
  let _ ← textOf suite "definitionSha256" "suite digest" SHA256

def validateModel (value : Json) : Checked Unit := do
  let model ← record value "model"
  exact model ["sourceClosureSha256"] "model"
  let _ ← textOf model "sourceClosureSha256" "model digest" SHA256

def validateCorpus (value : Json) : Checked Unit := do
  let corpus ← record value "corpus"
  exact corpus ["orderedOccurrencesSha256", "traceCount"] "corpus"
  let _ ← textOf corpus "orderedOccurrencesSha256" "corpus digest" SHA256
  let _ ← integerOf corpus "traceCount" "trace count" 1 4096

def validateGeneratedInterface (value : Json) : Checked Unit := do
  let generated ← record value "generatedInterface"
  exact generated ["semanticDigest", "moduleSha256", "targetProfile", "stateComputerContractVersion"] "generatedInterface"
  let _ ← textOf generated "semanticDigest" "semanticDigest" SHA256
  let _ ← textOf generated "moduleSha256" "moduleSha256" SHA256
  let _ ← textOf generated "targetProfile" "targetProfile" STABLE_ID
  let _ ← textOf generated "stateComputerContractVersion" "computer contract" STABLE_ID

def validateImplementation (value : Json) : Checked Unit := do
  let implementation ← record value "implementation"
  exact implementation ["admissionId", "closureSha256"] "implementation"
  let _ ← textOf implementation "admissionId" "admissionId" STABLE_ID
  let _ ← textOf implementation "closureSha256" "implementation digest" SHA256

def validateExecutionProfile (value : Json) : Checked Unit := do
  let profile ← record value "executionProfile"
  exact profile ["id", "sha256"] "executionProfile"
  let _ ← textOf profile "id" "profile id" STABLE_ID
  let _ ← textOf profile "sha256" "profile digest" SHA256

def validateIdentities (value : Json) : Checked Unit := do
  let ids ← record value "identities"
  exact ids ["suite", "model", "corpus", "generatedInterface", "implementation", "executionProfile"] "identities"
  validateSuite (← own ids "suite")
  validateModel (← own ids "model")
  validateCorpus (← own ids "corpus")
  validateGeneratedInterface (← own ids "generatedInterface")
  validateImplementation (← own ids "implementation")
  validateExecutionProfile (← own ids "executionProfile")

/-! ### The signature -/

def STAGES : List String := ["registration", "factory", "action", "receive", "cleanup"]

def validateCleanup (cleanup : Fields Json) (status : Json) : Checked Unit :=
  if equalsText status "succeeded" then exact cleanup ["status"] "cleanup"
  else if equalsText status "failed" || equalsText status "unconfirmed" then do
    exact cleanup ["status", "code"] "cleanup"
    let _ ← textOf cleanup "code" "cleanup code" STABLE_ID
  else fail (js "signature_invalid") (js "cleanup status invalid")

def validateMismatch (primary : Fields Json) : Checked Unit := do
  exact primary ["kind", "code", "traceIndex", "stateIndex", "action"] "mismatch"
  let code ← own primary "code"
  demand (equalsText code "replay_mismatch") "signature_invalid" "mismatch code invalid"
  let _ ← integerOf primary "traceIndex" "traceIndex" 0 maxSafeInteger
  let _ ← integerOf primary "stateIndex" "stateIndex" 0 maxSafeInteger
  let _ ← textOf primary "action" "action" STABLE_ID

/-- The requirements are stable identifiers in order, each of them once. -/
def validateCoverage (primary : Fields Json) : Checked Unit := do
  exact primary ["kind", "requirements"] "coverage"
  let requirements ← array (← own primary "requirements") 1 128 "signature_invalid" "requirements invalid"
  let values ← requirements.zipIdx.mapM fun entry => text entry.1 (js "requirement " ++ decimal entry.2) STABLE_ID TEXT_BYTES
  demand (decide values.Nodup && decide (values = sort compareCodeUnits values))
    "signature_invalid" "requirements not sorted and unique"

section

variable [NumberText]

def validateTimeout (primary : Fields Json) : Checked Unit := do
  exact primary ["kind", "stage", "budgetMs"] "timeout"
  coerced primary "stage" STAGES "signature_invalid" "timeout stage invalid"
  let _ ← integerOf primary "budgetMs" "budgetMs" 1 0x7fffffff

def validateExecutionError (primary : Fields Json) : Checked Unit := do
  exact primary ["kind", "origin", "stage", "code"] "execution error"
  coerced primary "origin" ["observer", "implementation"] "signature_invalid" "execution error invalid"
  coerced primary "stage" ["factory", "action", "observation"] "signature_invalid" "execution error invalid"
  let _ ← textOf primary "code" "code" STABLE_ID

def validateCodecError (primary : Fields Json) : Checked Unit := do
  exact primary ["kind", "stage", "code"] "codec error"
  coerced primary "stage" ["input", "observation", "protocol"] "signature_invalid" "codec stage invalid"
  let _ ← textOf primary "code" "code" STABLE_ID

def validateCancellation (primary : Fields Json) : Checked Unit := do
  exact primary ["kind", "stage", "code"] "cancellation"
  coerced primary "stage" STAGES "signature_invalid" "cancellation stage invalid"
  let _ ← textOf primary "code" "code" STABLE_ID

def validatePrimary (primary : Fields Json) : Checked Unit := do
  let kind ← own primary "kind"
  if equalsText kind "behavioral_mismatch" then validateMismatch primary
  else if equalsText kind "timeout" then validateTimeout primary
  else if equalsText kind "execution_error" then validateExecutionError primary
  else if equalsText kind "codec_error" then validateCodecError primary
  else if equalsText kind "coverage_unmet" then validateCoverage primary
  else if equalsText kind "cancellation" then validateCancellation primary
  else fail (js "signature_invalid") (js "unknown primary signature")

def validateSignature (value : Json) : Checked Unit := do
  let s ← record value "signature"
  exact s ["primary", "cleanup"] "signature"
  let cleanup ← record (← own s "cleanup") "cleanup"
  let status ← own cleanup "status"
  validateCleanup cleanup status
  let p ← own s "primary"
  if p = .null then
    demand (!equalsText status "succeeded") "signature_invalid" "cleanup-only signature cannot succeed"
  else do
    let primary ← record p "primary"
    validatePrimary primary

end

/-! ### Captures and handling -/

/-- What `validateCapture` returns, with the bytes that are counted for an inline capture. -/
inductive CaptureKind where
  | inline (bytes : Int)
  | external

section

variable [Platform]

def validateInline (c : Fields Json) : Checked CaptureKind := do
  exact c ["role", "kind", "mediaType", "bytes", "sha256", "base64"] "inline capture"
  let media ← textOf c "mediaType" "mediaType" anyText
  let bytes ← integerOf c "bytes" "bytes" 0 REPRODUCTION_MAX_INLINE_BYTES
  let expected ← textOf c "sha256" "sha256" SHA256
  let encoded ← text (← own c "base64") (js "base64") anyText 349528
  demand (base64Text encoded) "capture_invalid" "base64 invalid"
  let decoded := Platform.fromBase64 encoded
  demand (decide (bytes.toInt? = some (decoded.length : Int)) && decide (Platform.toBase64 decoded = encoded) &&
    decide (Sha256.hexDigest decoded = expected)) "capture_digest_mismatch" "inline capture identity mismatch"
  demand (!(decide (media = js "text/plain") && credentialText (Platform.toUtf8 decoded)))
    "capture_credentials_forbidden" "credential content rejected"
  return .inline decoded.length

def validateExternal (c : Fields Json) : Checked CaptureKind := do
  exact c ["role", "kind", "type", "sha256", "resolver"] "external capture"
  let type ← textOf c "type" "external type" STABLE_ID
  demand (decide (type ∈ EXTERNAL_TYPES)) "external_type_unsupported" "external type unsupported"
  let _ ← textOf c "sha256" "external digest" SHA256
  let _ ← textOf c "resolver" "resolver" STABLE_ID
  return .external

def validateCapture (value : Json) : Checked CaptureKind := do
  let c ← record value "capture"
  let _ ← textOf c "role" "capture role" STABLE_ID
  let kind ← own c "kind"
  if equalsText kind "inline" then validateInline c
  else if equalsText kind "external" then validateExternal c
  else fail (js "capture_invalid") (js "unknown capture kind")

/-- The bytes of the inline captures and the number of the others. -/
def countCapture (counts : Int × Nat) : CaptureKind → Int × Nat
  | .inline bytes => (counts.1 + bytes, counts.2)
  | .external => (counts.1, counts.2 + 1)

def validateCaptures (value : Json) : Checked Unit := do
  let captures ← array value 1 128 "capture_invalid" "capture count invalid"
  let kinds ← captures.mapM validateCapture
  let counts := kinds.foldl countCapture (0, 0)
  demand (decide (counts.1 ≤ REPRODUCTION_MAX_TOTAL_INLINE_BYTES ∧ counts.2 ≤ 64))
    "capture_limit" "capture aggregate limit exceeded"

def validateHandling (value : Json) : Checked Unit := do
  let h ← record value "handling"
  exact h ["consentPolicyId", "redactionProfileId", "accessPolicyId", "retentionUntil", "deletionPolicyId"] "handling"
  ["consentPolicyId", "redactionProfileId", "accessPolicyId", "deletionPolicyId"].forM fun key => do
    let _ ← textOf h key key STABLE_ID
  let retention ← textOf h "retentionUntil" "retentionUntil" anyText
  demand (Platform.dateParse retention).isFinite "bundle_schema_invalid" "retentionUntil invalid"

/-! ### The bundle -/

variable [NumberText]

def validateEvidenceLinks (value : Json) : Checked Unit := do
  let links ← record value "evidenceLinks"
  exact links ["runRef", "componentRefs", "artifactRefs", "catalogSelectionRef"] "evidenceLinks"
  validateRunRef (← own links "runRef")
  validateComponentRefs (← own links "componentRefs")
  validateEvidenceArtifactReferences (← own links "artifactRefs")
  validateCatalogRef (← own links "catalogSelectionRef")

/-- The frozen copy has the own properties of the value, in their order. -/
def validateReproductionBundle (value : Json) : Checked Json := do
  boundedGraph value
  let b ← record value "bundle"
  exact b ["schema", "evidenceLinks", "identities", "signature", "captures", "handling"] "bundle"
  let schema ← own b "schema"
  ensure (decide (schema = .string REPRODUCTION_BUNDLE_SCHEMA)) (js "bundle_schema_unsupported")
    (js "unsupported reproduction schema")
  validateEvidenceLinks (← own b "evidenceLinks")
  validateIdentities (← own b "identities")
  validateSignature (← own b "signature")
  validateCaptures (← own b "captures")
  validateHandling (← own b "handling")
  return .object b

variable [NumberConversion]

def textValue : RawText → Checked JsString
  | .text raw => .ok raw
  | .bytes raw => match Platform.decodeUtf8 raw with
    | some raw => .ok raw
    | none => fail (js "bundle_utf8_invalid") (js "bundle is not valid UTF-8")

def parseBoundedJsonValue (raw : RawText) : Checked Json := do
  let raw ← textValue raw
  preflightJson raw
  match Grammar.jsonParse raw with
  | some json => return json
  | none => fail (js "bundle_json_invalid") (js "invalid JSON")

def decodeReproductionBundle (raw : RawText) : Checked Json := do
  validateReproductionBundle (← parseBoundedJsonValue raw)

end

end Mirror.Reproduction
