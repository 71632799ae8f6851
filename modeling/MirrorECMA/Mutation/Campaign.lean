import MirrorECMA.Reproduction.Validate

namespace Mirror.Mutation

open ECMA
open ECMA.Reading (equalsText)
open Mirror.Reproduction (BundleFailure Platform RawText STABLE_ID SHA256 GIT_REVISION parseBoundedJsonValue textAt)

/-- A `MutationCampaignError`, or an error of what the validators call. -/
inductive CampaignFailure where
  | campaign (code message : JsString)
  | bundle (failure : BundleFailure)
  | typeError
  deriving DecidableEq

abbrev Validated (α : Type) := Except CampaignFailure α

def campaignError (code : String) (message : JsString) : CampaignFailure := .campaign (js code) message

def schemaInvalid (message : JsString) : CampaignFailure := campaignError "campaign_schema_invalid" message

/-- `if (!condition) fail(code, message)`. -/
abbrev demand (condition : Bool) (code message : String) : Validated Unit :=
  Reading.check (campaignError code (js message)) condition

/-! ### Reading values -/

abbrev record (value : Json) (location : JsString) : Validated (Fields Json) :=
  Reading.record (schemaInvalid (location ++ js " must be an object")) value

abbrev own (value : Fields Json) (key : String) : Validated Json :=
  Reading.own (campaignError "campaign_non_data_property" (js key ++ js " must be a data property")) value key

abbrev exact (value : Fields Json) (keys : List String) (location : JsString) : Validated Unit :=
  Reading.exact (schemaInvalid (location ++ js " has unknown or missing fields")) value keys

abbrev text (value : Json) (location : JsString) (pattern : JsString → Bool) : Validated JsString :=
  Reading.text (schemaInvalid (location ++ js " is invalid")) pattern value

abbrev integer (value : Json) (location : String) : Validated Double :=
  Reading.integer (schemaInvalid (js location ++ js " is invalid")) 0 maxSafeInteger value

def identity (value : Json) (location : JsString) : Validated Unit := do
  let item ← record value location
  exact item ["id", "sha256"] location
  let _ ← text (← own item "id") (location ++ js ".id") STABLE_ID
  let _ ← text (← own item "sha256") (location ++ js ".sha256") SHA256

/-- A string that a pattern of its kind accepts. -/
def selectionValid (kind selected : Json) : Bool :=
  match selected with
  | .string selected => (equalsText kind "sha256" && SHA256 selected) || (equalsText kind "git-revision" && GIT_REVISION selected)
  | _ => false

def catalog (value : Json) : Validated Unit := do
  let item ← record value (js "catalogSelectionRef")
  exact item ["schemaVersion", "selectionKind", "selectionValue"] (js "catalogSelectionRef")
  let version ← own item "schemaVersion"
  demand (equalsText version "mirrors.framework-catalog/v1") "campaign_catalog_invalid" "catalog schema mismatch"
  let kind ← own item "selectionKind"
  let selected ← own item "selectionValue"
  demand (selectionValid kind selected) "campaign_catalog_invalid" "catalog selection invalid"

/-! ### What a campaign declares -/

inductive TestedPath where
  | onLocal
  | onGate
  deriving DecidableEq

/-- The entry of a mutant for one path, as the runner reads it. -/
structure MutationPathSupport where
  support : Json
  reason : Option Json

structure MutationDefinition where
  id : JsString
  implementation : Json
  expected : Json
  resetPlanId : JsString
  probeIds : List Json
  localPath : MutationPathSupport
  gatePath : MutationPathSupport

/-- `mutant.paths[path]`. -/
def MutationDefinition.paths (mutant : MutationDefinition) : TestedPath → MutationPathSupport
  | .onLocal => mutant.localPath
  | .onGate => mutant.gatePath

structure MutationCampaign where
  id : JsString
  revision : Double
  denominator : Double
  protectedInputs : Json
  correctImplementation : Json
  mutants : List MutationDefinition

section

variable [NumberText]

/-- Only `unsupported` is compared as it stands. -/
def path (value : Json) (location : String) : Validated MutationPathSupport := do
  let item ← record value (js location)
  let support ← own item "support"
  if equalsText support "unsupported" then
    exact item ["support", "reason"] (js location)
    let reason ← own item "reason"
    let _ ← Reading.text (schemaInvalid (js "unsupported path needs reason")) (fun s => !s.isEmpty) reason
    return ⟨support, some reason⟩
  else
    exact item ["support"] (js location)
    Reading.coerced .typeError (schemaInvalid (js "invalid path support")) ["required", "optional"] support
    return ⟨support, none⟩

def validateExpected (knownActions : Option (List JsString)) (value : Json) : Validated Unit := do
  let expected ← record value (js "expected")
  exact expected ["kind", "code", "traceIndex", "stateIndex", "action"] (js "expected")
  let action ← text (← own expected "action") (js "expected action") STABLE_ID
  let kind ← own expected "kind"
  demand (equalsText kind "behavioral_mismatch") "campaign_expected_invalid" "invalid expected mismatch"
  let code ← own expected "code"
  demand (equalsText code "replay_mismatch") "campaign_expected_invalid" "invalid expected mismatch"
  let _ ← integer (← own expected "traceIndex") "trace index"
  let _ ← integer (← own expected "stateIndex") "state index"
  demand (knownActions.all fun known => decide (action ∈ known)) "campaign_expected_invalid" "invalid expected mismatch"

/-- Equality as a `Set` has it; objects that were parsed are never the same. -/
def sameValue : Json → Json → Bool
  | .null, .null => true
  | .bool a, .bool b => a == b
  | .number a, .number b => decide (a.toInt? = some 0 ∧ b.toInt? = some 0) || decide (a = b)
  | .string a, .string b => decide (a = b)
  | _, _ => false

def distinctValues : List Json → Bool
  | [] => true
  | v :: rest => rest.all (fun w => !sameValue v w) && distinctValues rest

def validateProbeIds (protectedProbeIds : List JsString) (value : Json) : Validated (List Json) := do
  let probeIds ← match value with
    | .array items => pure items
    | _ => throw (campaignError "campaign_probe_invalid" (js "probe scope invalid"))
  demand (decide (probeIds.length ≠ 0) && distinctValues probeIds) "campaign_probe_invalid" "probe scope invalid"
  let ids ← probeIds.mapM fun probeId => text probeId (js "probe id") STABLE_ID
  demand (ids.all fun id => decide (id ∈ protectedProbeIds)) "campaign_probe_invalid"
    "mutant probe does not resolve to a protected probe"
  return probeIds

/-- One turn of the loop over the mutants, with those before it. -/
def validateMutant (knownActions : Option (List JsString)) (protectedProbeIds : List JsString)
    (mutants : List MutationDefinition) (entry : Json × Nat) : Validated (List MutationDefinition) := do
  let location := js "mutant[" ++ decimal entry.2 ++ js "]"
  let mutant ← record entry.1 location
  exact mutant ["id", "implementation", "expected", "resetPlanId", "probeIds", "paths"] location
  let id ← text (← own mutant "id") (js "mutant id") STABLE_ID
  demand (!decide (id ∈ mutants.map MutationDefinition.id)) "campaign_mutant_duplicate" "duplicate mutant id"
  let implementation ← own mutant "implementation"
  identity implementation (js "mutant implementation")
  let expected ← own mutant "expected"
  validateExpected knownActions expected
  let resetPlanId ← text (← own mutant "resetPlanId") (js "reset plan") STABLE_ID
  let probeIds ← validateProbeIds protectedProbeIds (← own mutant "probeIds")
  let paths ← record (← own mutant "paths") (js "paths")
  exact paths ["local", "gate"] (js "paths")
  let localPath ← path (← own paths "local") "local path"
  let gatePath ← path (← own paths "gate") "gate path"
  return mutants ++ [⟨id, implementation, expected, resetPlanId, probeIds, localPath, gatePath⟩]

/-- The identities under one key, by the texts of their ids. -/
def validateIdentities (protectedInputs : Fields Json) (key : String) : Validated (List JsString) := do
  let items ← Reading.array (schemaInvalid (js key ++ js " invalid")) 1 64 (← own protectedInputs key)
  items.zipIdx.forM fun entry => identity entry.1 (js key ++ js "[" ++ decimal entry.2 ++ js "]")
  let ids ← (items.mapM (textAt "id")).mapError CampaignFailure.bundle
  Reading.check (campaignError "campaign_identity_duplicate" (js "duplicate " ++ js key ++ js " identity")) (decide ids.Nodup)
  return ids

def PROTECTED_IDENTITIES : List String :=
  ["suite", "model", "generatedInterface", "corpus", "acceptance", "observer", "correctImplementation"]

/-- The protected inputs; the ids of the probes are returned. -/
def validateProtected (value : Json) : Validated (List JsString) := do
  let protectedInputs ← record value (js "protected")
  exact protectedInputs (PROTECTED_IDENTITIES ++ ["probes", "executionProfiles"]) (js "protected")
  PROTECTED_IDENTITIES.forM fun key => do
    identity (← own protectedInputs key) (js "protected." ++ js key)
  let probeIds ← validateIdentities protectedInputs "probes"
  let _ ← validateIdentities protectedInputs "executionProfiles"
  return probeIds

/-- An optional link. -/
def validateLink (links : Fields Json) (key : String) (validate : Json → Except BundleFailure Unit) : Validated Unit :=
  match Fields.get links (js key) with
  | some link => (validate link).mapError CampaignFailure.bundle
  | none => .ok ()

def validateLinks (value : Json) : Validated Unit := do
  let links ← record value (js "evidenceLinks")
  demand (Fields.has links (js "catalogSelectionRef") &&
    (Fields.keys links).all fun key => decide (key ∈ ["catalogSelectionRef", "runRef", "artifactRefs"].map js))
    "campaign_schema_invalid" "invalid evidence links"
  catalog (← own links "catalogSelectionRef")
  validateLink links "runRef" Reproduction.validateRunRef
  validateLink links "artifactRefs" Reproduction.validateEvidenceArtifactReferences

/-- One to 256 mutants, as many as the denominator says. -/
def mutantsOf (value : Json) (denominator : Double) : Validated (List Json) := do
  let failure := campaignError "campaign_denominator_invalid" (js "campaign denominator mismatch")
  let mutants ← Reading.array failure 1 256 value
  Reading.check failure (decide (denominator.toInt? = some (mutants.length : Int)))
  return mutants

def validateMutationCampaign (knownActions : Option (List JsString)) (value : Json) : Validated MutationCampaign := do
  let campaign ← record value (js "campaign")
  exact campaign ["schema", "id", "revision", "evidenceLinks", "denominator", "protected", "mutants"] (js "campaign")
  let schema ← own campaign "schema"
  demand (equalsText schema "mirrorecma.mutation-campaign/v1") "campaign_schema_unsupported" "unsupported campaign schema"
  let id ← text (← own campaign "id") (js "campaign id") STABLE_ID
  let revision ← integer (← own campaign "revision") "revision"
  demand (decide (revision.toInt? ≠ some 0)) "campaign_schema_invalid" "revision must be positive"
  validateLinks (← own campaign "evidenceLinks")
  let protectedInputs ← own campaign "protected"
  let protectedProbeIds ← validateProtected protectedInputs
  let mutants ← own campaign "mutants"
  let denominator ← integer (← own campaign "denominator") "denominator"
  let mutants ← mutantsOf mutants denominator
  let mutants ← mutants.zipIdx.foldlM (validateMutant knownActions protectedProbeIds) []
  return ⟨id, revision, denominator, protectedInputs,
    (protectedInputs.path ["correctImplementation"]).getD .null, mutants⟩

def decodeMutationCampaign [Platform] [NumberConversion] (raw : RawText) (knownActions : Option (List JsString)) :
    Validated MutationCampaign := do
  let json ← (parseBoundedJsonValue raw).mapError CampaignFailure.bundle
  validateMutationCampaign knownActions json

end

end Mirror.Mutation
