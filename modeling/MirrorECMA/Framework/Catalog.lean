import MirrorECMA.Framework.Manifest

namespace Mirror.Framework

open ECMA
open Mirror.Reproduction (Platform RawText)

def observationDimensions : List String :=
  ["sourceTested", "locallyAccepted", "installedConsumerAccepted", "hostedCiAccepted", "published"]

structure Product where
  name : JsString
  version : JsString

structure Component where
  componentRef : ComponentRef
  product : Product

structure Constraint where
  constraintId : JsString
  factKind : JsString
  factId : JsString
  operator : JsString
  values : List JsString

structure Observation where
  state : JsString
  evidenceId : Option JsString

structure Capability where
  capabilityId : JsString
  ownerComponentId : JsString
  declarationState : JsString
  constraints : List Constraint
  observations : Fields Observation

structure Dependency where
  dependencyId : JsString
  version : Option JsString
  className : JsString

structure DistributionProfile where
  profileId : JsString
  platform : PlatformIdentity
  requiredCapabilityIds : List JsString
  optionalCapabilityIds : List JsString
  requiredObservationDimensions : List JsString
  dependencies : List Dependency

structure Combination where
  combinationId : JsString
  componentIds : List JsString
  platform : PlatformIdentity
  capabilityIds : List JsString
  distributionProfileIds : List JsString
  declaredState : JsString

structure Catalog where
  schemaVersion : JsString
  catalogId : JsString
  visibility : JsString
  components : List Component
  capabilities : List Capability
  distributionProfiles : List DistributionProfile
  combinations : List Combination
  raw : Json

/-- An identifier that must be one of these texts. -/
def oneOf (result : JsString) (texts : List String) (path : JsString) (detail : String) : Checked Unit :=
  demand (decide (result ∈ texts.map js)) .catalog_invalid path detail

def checkRecord (path : JsString) (record : Json) (index : Nat) : Checked Unit := do
  let keys := ["recordId", "path", "recordKind"]
  let r ← object (some record) (at_ path index) keys keys
  let _ ← id (property r "recordId") (js "recordId")
  let _ ← pathValue (property r "path") (js "path")
  let _ ← id (property r "recordKind") (js "recordKind")

def parseComponent (entry : Json) (index : Nat) : Checked Component := do
  let path := at_ (js "$.components") index
  let keys := ["componentRef", "product", "records"]
  let item ← object (some entry) path keys keys
  let product ← object (property item "product") (dot path "product") ["name", "version"] ["name", "version"]
  forIndexed (checkRecord (dot path "records")) (← array (property item "records") (dot path "records") 256)
  let ref ← componentRef (property item "componentRef") (dot path "componentRef")
  let name ← text (property product "name") (js "product.name")
  let version ← text (property product "version") (js "product.version")
  return ⟨ref, name, version⟩

/-- The body of the loop over the evidence references; it collects `evidenceIds`. -/
def parseEvidence (evidenceIds : List JsString) (entry : Json × Nat) : Checked (List JsString) := do
  let item ← object (some entry.1) (at_ (js "$.evidenceRefs") entry.2) ["evidenceId", "runRef"] ["evidenceId", "runRef"]
  let evidenceId ← id (property item "evidenceId") (js "evidenceId")
  demand (!decide (evidenceId ∈ evidenceIds)) .catalog_invalid (js "$.evidenceRefs") "duplicate evidenceId"
  let keys := ["schemaVersion", "runId", "envelopeSha256", "projectionKind"]
  let ref ← object (property item "runRef") (js "runRef") keys keys
  let _ ← text (property ref "schemaVersion") (js "runRef.schemaVersion")
  let _ ← id (property ref "runId") (js "runRef.runId")
  let _ ← digest (property ref "envelopeSha256") (js "runRef.envelopeSha256")
  demand (isOneOf (property ref "projectionKind") ["public", "private"]) .catalog_invalid (js "runRef.projectionKind")
    "unsupported projection"
  return evidenceIds ++ [evidenceId]

def parseConstraint (constraint : Json) (index : Nat) : Checked Constraint := do
  let keys := ["constraintId", "fact", "operator", "values"]
  let c ← object (some constraint) (at_ (js "constraint") index) keys keys
  let fact ← object (property c "fact") (js "fact") ["kind", "id"] ["kind", "id"]
  let operator ← id (property c "operator") (js "operator")
  oneOf operator ["equals", "oneOf", "atLeastSemver"] (js "constraint.operator") "unsupported constraint operator"
  let constraintId ← id (property c "constraintId") (js "constraintId")
  let factKind ← id (property fact "kind") (js "fact.kind")
  let factId ← id (property fact "id") (js "fact.id")
  let values ← strings (property c "values") (js "values") 256
  return ⟨constraintId, factKind, factId, operator, values⟩

def checkLocation (location : Json) (index : Nat) : Checked Unit := do
  let l ← object (some location) (at_ (js "location") index) ["path", "symbol"] ["path"]
  let _ ← pathValue (property l "path") (js "location.path")
  let _ ← ifPresent (property l "symbol") fun value => text value (js "location.symbol")

/-- Whether the evidence of an observation does not fit its state. -/
def evidenceInvalid (evidenceIds : List JsString) (state : JsString) (evidence : Option JsString) : Bool :=
  (decide (state ∈ ["accepted", "rejected"].map js) && evidence.isNone) ||
    (decide (state ∈ ["notRun", "unknown"].map js) && evidence.isSome) ||
    evidence.any fun evidenceId => !decide (evidenceId ∈ evidenceIds)

/-- The observation of one dimension, under its name. -/
def parseObservation (evidenceIds : List JsString) (observations : Fields Json) (dimension : String) :
    Checked (JsString × Observation) := do
  let path := js "observations." ++ js dimension
  let observed ← object (property observations dimension) path ["state", "evidenceId"] ["state"]
  let state ← id (property observed "state") (dot (js dimension) "state")
  oneOf state ["accepted", "rejected", "unavailable", "notRun", "unknown"] (dot path "state") "unsupported observation state"
  let evidence ← ifPresent (property observed "evidenceId") fun value => id value (dot (js dimension) "evidenceId")
  demand (!evidenceInvalid evidenceIds state evidence) .catalog_invalid (dot path "evidenceId")
    "observation evidence reference is invalid"
  return (js dimension, ⟨state, evidence⟩)

def parseCapability (evidenceIds : List JsString) (entry : Json) (index : Nat) : Checked Capability := do
  let keys := ["capabilityId", "ownerComponentId", "description", "declaration", "sourceImplementation", "observations"]
  let item ← object (some entry) (at_ (js "$.capabilities") index) keys keys
  let declaration ← object (property item "declaration") (js "declaration") ["state", "constraints"] ["state", "constraints"]
  let constraints ← mapIndexed parseConstraint (← array (property declaration "constraints") (js "constraints") 256)
  let source ← object (property item "sourceImplementation") (js "sourceImplementation") ["state", "locations"] ["state", "locations"]
  let _ ← id (property source "state") (js "source.state")
  forIndexed checkLocation (← array (property source "locations") (js "locations") 256)
  let observations ← object (property item "observations") (js "observations") observationDimensions observationDimensions
  let decoded ← observationDimensions.mapM (parseObservation evidenceIds observations)
  let declarationState ← id (property declaration "state") (js "declaration.state")
  oneOf declarationState ["available", "experimental", "unavailable"] (js "declaration.state") "unsupported declaration state"
  let capabilityId ← id (property item "capabilityId") (js "capabilityId")
  let ownerComponentId ← id (property item "ownerComponentId") (js "ownerComponentId")
  return ⟨capabilityId, ownerComponentId, declarationState, constraints, decoded⟩

def parseDependency (dependency : Json) : Checked Dependency := do
  let d ← object (some dependency) (js "dependency") ["dependencyId", "version", "class"] ["dependencyId", "class"]
  let dependencyId ← id (property d "dependencyId") (js "dependencyId")
  let className ← id (property d "class") (js "dependency.class")
  let version ← ifPresent (property d "version") fun value => text value (js "dependency.version")
  return ⟨dependencyId, version, className⟩

def parseProfile (entry : Json) (index : Nat) : Checked DistributionProfile := do
  let keys := ["profileId", "platform", "requiredCapabilityIds", "optionalCapabilityIds", "requiredObservationDimensions", "dependencies"]
  let item ← object (some entry) (at_ (js "$.distributionProfiles") index) keys keys
  let dependencies ← (← array (property item "dependencies") (js "dependencies") 256).mapM parseDependency
  let profileId ← id (property item "profileId") (js "profileId")
  let platform ← platform (property item "platform") (js "profile.platform")
  let required ← strings (property item "requiredCapabilityIds") (js "requiredCapabilityIds") 256
  let optional ← strings (property item "optionalCapabilityIds") (js "optionalCapabilityIds") 256
  let dimensions ← strings (property item "requiredObservationDimensions") (js "requiredObservationDimensions") 256
  return ⟨profileId, platform, required, optional, dimensions, dependencies⟩

def checkEvidenceId (evidenceIds : List JsString) (evidenceId : JsString) : Checked Unit :=
  if evidenceId ∈ evidenceIds then .ok ()
  else refuse .catalog_invalid (js "combination.evidenceIds") (js "missing evidence " ++ evidenceId)

def parseCombination (evidenceIds : List JsString) (entry : Json) : Checked Combination := do
  let keys := ["combinationId", "componentIds", "platform", "capabilityIds", "distributionProfileIds", "declaredState", "evidenceIds"]
  let item ← object (some entry) (js "combination") keys keys
  (← strings (property item "evidenceIds") (js "evidenceIds") 4096).forM (checkEvidenceId evidenceIds)
  let declaredState ← id (property item "declaredState") (js "declaredState")
  oneOf declaredState ["candidate", "supported", "unsupported"] (js "combination.declaredState") "unsupported combination state"
  let combinationId ← id (property item "combinationId") (js "combinationId")
  let componentIds ← strings (property item "componentIds") (js "componentIds") 256
  let platform ← platform (property item "platform") (js "combination.platform")
  let capabilityIds ← strings (property item "capabilityIds") (js "capabilityIds") 256
  let profileIds ← strings (property item "distributionProfileIds") (js "distributionProfileIds") 256
  return ⟨combinationId, componentIds, platform, capabilityIds, profileIds, declaredState⟩

def unique (items : List JsString) (path : String) : Checked Unit :=
  demand (decide items.Nodup) .catalog_invalid (js path) "duplicate identity"

/-- Every one of the items is known. -/
def present (known items : List JsString) (path detail : String) : Checked Unit :=
  items.forM fun item => demand (decide (item ∈ known)) .catalog_invalid (js path) detail

def checkCombination (componentIds capabilityIds profileIds : List JsString) (combination : Combination) : Checked Unit := do
  present componentIds combination.componentIds "combination.componentIds" "missing component"
  present capabilityIds combination.capabilityIds "combination.capabilityIds" "missing capability"
  present profileIds combination.distributionProfileIds "combination.distributionProfileIds" "missing profile"

def Component.id (component : Component) : JsString := component.componentRef.componentId

/-- The identities of a catalog are its own, and every reference among its parts leads to one of them. -/
def checkReferences (components : List Component) (capabilities : List Capability) (profiles : List DistributionProfile)
    (combinations : List Combination) : Checked Unit := do
  let componentIds := components.map Component.id
  let capabilityIds := capabilities.map Capability.capabilityId
  let profileIds := profiles.map DistributionProfile.profileId
  unique componentIds "components"
  unique capabilityIds "capabilities"
  unique profileIds "profiles"
  unique (combinations.map Combination.combinationId) "combinations"
  present componentIds (capabilities.map Capability.ownerComponentId) "capability.ownerComponentId" "missing component"
  combinations.forM (checkCombination componentIds capabilityIds profileIds)

def parseCatalog [Platform] [NumberConversion] (raw : RawText) : Checked Catalog := do
  let parsed ← strictJson raw "catalog"
  let required := ["schemaVersion", "catalogId", "visibility", "components", "evidenceRefs", "capabilities", "distributionProfiles",
    "combinations"]
  let root ← object (some parsed) (js "$") (required ++ ["extensions"]) required
  demand (isText (property root "schemaVersion") "mirrors.framework-catalog/v1") .catalog_invalid (js "$.schemaVersion")
    "unsupported catalog schema"
  let visibility ← literal (property root "visibility") ["public", "private"] .catalog_invalid (js "$.visibility")
    "unsupported visibility"
  let components ← mapIndexed parseComponent (← array (property root "components") (js "$.components") 64)
  let evidenceIds ← (← array (property root "evidenceRefs") (js "$.evidenceRefs") 4096).zipIdx.foldlM parseEvidence []
  let capabilities ← mapIndexed (parseCapability evidenceIds) (← array (property root "capabilities") (js "$.capabilities") 4096)
  let profiles ← mapIndexed parseProfile (← array (property root "distributionProfiles") (js "$.distributionProfiles") 256)
  let combinations ← (← array (property root "combinations") (js "$.combinations") 1024).mapM (parseCombination evidenceIds)
  checkReferences components capabilities profiles combinations
  let catalogId ← id (property root "catalogId") (js "catalogId")
  return ⟨js "mirrors.framework-catalog/v1", catalogId, visibility, components, capabilities, profiles, combinations, parsed⟩

end Mirror.Framework
