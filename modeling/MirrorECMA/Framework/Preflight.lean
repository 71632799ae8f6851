import MirrorECMA.Framework.Catalog
import MirrorECMA.Framework.Distribution

namespace Mirror.Framework

open ECMA
open Mirror.ModelInterface (Sha256)
open Mirror.Reproduction (Platform RawText SHA256 splitAt)

structure PackageObservation where
  packageId : JsString
  componentId : JsString
  artifactId : JsString
  version : JsString
  sha256 : JsString

structure ExecutableObservation where
  role : JsString
  artifactId : JsString
  sha256 : JsString
  capabilityIds : List JsString

structure RequiredPackage where
  packageId : JsString
  componentId : JsString
  artifactId : JsString

structure RequiredExecutable where
  role : JsString
  artifactId : JsString
  requiredCapabilityIds : List JsString

structure RequiredRuntimeTree where
  runtimeId : JsString
  treeId : JsString
  requiredCapabilityIds : List JsString

structure RuntimeSupportPolicy where
  admission : JsString
  manifestProfileId : JsString
  catalogProfileId : JsString
  packages : List RequiredPackage
  executables : List RequiredExecutable
  runtimeTrees : List RequiredRuntimeTree

structure InstalledFrameworkObservation where
  distributionManifestRaw : RawText
  cacheIndexRaw : RawText
  componentRefs : List ComponentRef
  packages : List PackageObservation
  executables : List ExecutableObservation
  runtimeTrees : List RuntimeTreeIdentity
  platform : PlatformIdentity
  policy : RuntimeSupportPolicy

structure PublicRunRef where
  schemaVersion : JsString
  runId : JsString
  envelopeSha256 : JsString
  projectionKind : JsString

structure FrameworkApprovalDecision where
  schemaVersion : JsString
  qualificationClass : JsString
  selectedCatalogRef : CatalogSelectionRef
  approvalCatalogRef : CatalogSelectionRef
  combinationId : JsString
  distributionManifestSha256 : JsString
  cacheIndexSha256 : JsString
  publicRunRef : PublicRunRef
  qualification : JsString
  integrity : JsString
  executionProvenance : JsString

structure FrameworkPreflightInput where
  selectionRef : CatalogSelectionRef
  combinationId : JsString
  observed : InstalledFrameworkObservation
  approval : Option FrameworkApprovalDecision

structure FrameworkPreflightMatch where
  admission : JsString
  catalogState : JsString
  supportQualified : Bool
  approvalCatalogRef : Option CatalogSelectionRef
  approvalPublicRunRef : Option PublicRunRef
  catalogSelectionRef : CatalogSelectionRef
  combinationId : JsString
  componentRefs : List ComponentRef
  profileIds : List JsString
  platform : PlatformIdentity
  capabilityIds : List JsString
  distributionManifestSha256 : JsString
  buildInputs : List BuildInputIdentity
  buildProvenance : BuildProvenance
  packages : List PackageObservation
  executables : List ExecutableObservation
  runtimeTrees : List RuntimeTreeIdentity

inductive FrameworkPreflightResult where
  | matched (selection : FrameworkPreflightMatch)
  | refused (code : FrameworkRefusalCode) (predicate detail : JsString)

/-! ### Versions -/

/-- `0|[1-9][0-9]*`, as a number that is safe. -/
def versionPart (s : JsString) : Option Nat :=
  let shape := match s with
    | [] => false
    | u :: rest => decide (s = js "0") || (0x31 ≤ u.toNat && u.toNat ≤ 0x39 && rest.all isDigit)
  if shape && decide (decimalValue s ≤ maxSafeInteger) then some (decimalValue s) else none

def semver (value : JsString) : Option (Nat × Nat × Nat) :=
  match (splitAt (unit '.') value).map versionPart with
  | [some major, some minor, some patch] => some (major, minor, patch)
  | _ => none

def semverAtLeast (actual minimum : JsString) : Bool :=
  match semver actual, semver minimum with
  | some (a, b, c), some (x, y, z) =>
    if a > x then true else if a < x then false
    else if b > y then true else if b < y then false
    else decide (c ≥ z)
  | _, _ => false

/-! ### The selection -/

/-- `new Map(entries)`. -/
def mapOf {α : Type} (entries : List (JsString × α)) : JsMap JsString α :=
  entries.foldl (fun map entry => JsMap.set map entry.1 entry.2) []

def checkSelectionRef (selectionRef : CatalogSelectionRef) (catalogDigest : JsString) : Checked Unit :=
  demand (decide (selectionRef.schemaVersion = js "mirrors.framework-catalog/v1") && decide (selectionRef.selectionKind = js "sha256") &&
    decide (selectionRef.selectionValue = catalogDigest)) .catalog_selection_mismatch (js "catalogSelectionRef")
    "selected catalog digest does not match bytes"

/-- The combination of this name, when its declared state is admitted so far. -/
def selectCombination (catalog : Catalog) (input : FrameworkPreflightInput) : Checked Combination := do
  let combination ← match catalog.combinations.find? (fun item => decide (item.combinationId = input.combinationId)) with
    | some found => .ok found
    | none => refuse .combination_unsupported (js "combination.declaredState") (js "combination is absent or not supported")
  let admission := input.observed.policy.admission
  demand (decide (admission = js "support-required") || decide (admission = js "qualification-candidate")) .combination_unsupported
    (js "policy.admission") "unsupported admission policy"
  demand (!(decide (combination.declaredState = js "unsupported") ||
      (decide (admission = js "support-required") && decide (combination.declaredState ≠ js "supported") && input.approval.isNone)))
    .combination_unsupported (js "combination.declaredState") "combination is absent or not supported"
  return combination

/-- The bytes of the cache index have this digest. -/
def cacheDigest [Sha256] (input : FrameworkPreflightInput) : JsString :=
  Sha256.hexDigest (jsonInputBytes input.observed.cacheIndexRaw)

def approvalValid [Sha256] (approval : FrameworkApprovalDecision) (input : FrameworkPreflightInput) (combination : Combination)
    (manifestDigest : JsString) : Checked Bool := do
  if !(decide (approval.schemaVersion = js "mirrors.evidence-catalog-link/v1") &&
      decide (approval.qualificationClass ∈ ["local-candidate", "release-candidate"].map js)) then
    return false
  else do
    let selected ← same approval.selectedCatalogRef.json input.selectionRef.json
    let runRef := approval.publicRunRef
    return selected && decide (approval.approvalCatalogRef.schemaVersion = js "mirrors.framework-catalog/v1") &&
      decide (approval.approvalCatalogRef.selectionKind = js "sha256") && SHA256 approval.approvalCatalogRef.selectionValue &&
      decide (approval.approvalCatalogRef.selectionValue ≠ input.selectionRef.selectionValue) &&
      decide (approval.combinationId = combination.combinationId) &&
      decide (approval.distributionManifestSha256 = manifestDigest) && decide (approval.cacheIndexSha256 = cacheDigest input) &&
      decide (approval.qualification = js "accepted") && decide (approval.integrity = js "verified") &&
      decide (approval.executionProvenance = js "evidence-observed") &&
      decide (runRef.schemaVersion = js "mirrors.evidence-public-summary/v1.0") && decide (runRef.projectionKind = js "public") &&
      !runRef.runId.isEmpty && SHA256 runRef.envelopeSha256

/-- `approvedCandidate`, after the check of an approval that is there. -/
def checkApproval [Sha256] (input : FrameworkPreflightInput) (combination : Combination) (manifestDigest : JsString) :
    Checked Bool :=
  match input.approval with
  | none => return false
  | some approval => do
    demand (← approvalValid approval input combination manifestDigest) .combination_unsupported (js "approval")
      "trusted approval B does not bind catalog A, combination, and distribution manifest"
    return decide (combination.declaredState = js "candidate")

def checkDistribution (manifest : DistributionManifest) (input : FrameworkPreflightInput) : Checked Unit := do
  let selected ← same manifest.catalogSelectionRef.json input.selectionRef.json
  demand (selected && decide (manifest.profileId = input.observed.policy.manifestProfileId)) .distribution_identity_mismatch
    (js "distribution.selection") "distribution/cache selection or manifest identity differs"

def expectedComponent (components : JsMap JsString Component) (componentId : JsString) : Checked ComponentRef :=
  match JsMap.get components componentId with
  | some component => .ok component.componentRef
  | none => refuse .catalog_invalid (js "combination.componentIds") (js "missing component " ++ componentId)

def refList (refs : List ComponentRef) : Json := .array (refs.map ComponentRef.json)

/-- `same(first, expected) && same(second, expected)`. -/
def bothSame (first second expected : Json) : Checked Bool := do
  if ← same first expected then same second expected else return false

def checkComponents (manifest : DistributionManifest) (observed : InstalledFrameworkObservation) (expected : List ComponentRef) :
    Checked Unit := do
  demand (← bothSame (refList manifest.componentRefs) (refList observed.componentRefs) (refList expected)) .component_identity_mismatch
    (js "componentRefs") "installed component identities differ from combination"

/-- The profile of the policy, on the platform that was observed. -/
def selectProfile (catalog : Catalog) (combination : Combination) (observed : InstalledFrameworkObservation) :
    Checked DistributionProfile :=
  let profiles := mapOf (catalog.distributionProfiles.map fun item => (item.profileId, item))
  match JsMap.get profiles observed.policy.catalogProfileId with
  | none => refuse .platform_identity_mismatch (js "platform") (js "installed platform/profile differs from combination")
  | some profile => do
    let located ← if profile.profileId ∈ combination.distributionProfileIds then same profile.platform.json observed.platform.json
      else .ok false
    demand located .platform_identity_mismatch (js "platform") "installed platform/profile differs from combination"
    demand (decide (observed.policy.catalogProfileId ∈ combination.distributionProfileIds)) .distribution_identity_mismatch
      (js "profileId") "support policy selects a different catalog profile"
    return profile

/-! ### Capabilities -/

/-- A capability is selected and not declared unavailable. -/
def available (selected : List JsString) (capabilities : JsMap JsString Capability) (capabilityId : JsString) : Bool :=
  decide (capabilityId ∈ selected) &&
    !((JsMap.get capabilities capabilityId).any fun capability => decide (capability.declarationState = js "unavailable"))

def requireCaps (selected : List JsString) (capabilities : JsMap JsString Capability) (values : List JsString) (predicate : JsString) :
    Checked Unit :=
  values.forM fun capabilityId =>
    if available selected capabilities capabilityId then .ok ()
    else refuse .capability_unsupported predicate (js "unsupported capability " ++ capabilityId)

/-- What the constraints of a capability speak of. -/
structure Facts where
  platform : PlatformIdentity
  componentVersions : JsMap JsString JsString
  dependencyVersions : JsMap JsString (Option JsString)
  selected : List JsString

def platformField (platform : PlatformIdentity) (factId : JsString) : Option JsString :=
  if factId = js "os" then some platform.os
  else if factId = js "osRelease" then some platform.osRelease
  else if factId = js "architecture" then some platform.architecture
  else if factId = js "backend" then platform.backend
  else none

def Facts.actual (facts : Facts) (constraint : Constraint) : Option JsString :=
  if constraint.factKind = js "platformField" then platformField facts.platform constraint.factId
  else if constraint.factKind = js "componentVersion" then JsMap.get facts.componentVersions constraint.factId
  else if constraint.factKind = js "dependencyVersion" then (JsMap.get facts.dependencyVersions constraint.factId).join
  else if constraint.factKind = js "capabilitySelected" then
    some (if constraint.factId ∈ facts.selected then js "true" else js "false")
  else none

def Constraint.satisfiedBy (constraint : Constraint) (actual : Option JsString) : Bool :=
  match actual with
  | none => false
  | some actual =>
    if constraint.operator = js "equals" then decide (constraint.values = [actual])
    else if constraint.operator = js "oneOf" then decide (actual ∈ constraint.values)
    else if constraint.operator = js "atLeastSemver" then
      match constraint.values with
      | [minimum] => semverAtLeast actual minimum
      | _ => false
    else false

def checkConstraint (facts : Facts) (capabilityId : JsString) (constraint : Constraint) : Checked Unit :=
  demand (constraint.satisfiedBy (facts.actual constraint)) .capability_unsupported
    (js "capability." ++ capabilityId ++ js ".constraint." ++ constraint.constraintId) "catalog capability constraint is not satisfied"

def Observation.isAccepted (observation : Observation) : Bool :=
  decide (observation.state = js "accepted") && observation.evidenceId.isSome

def checkObservation (capability : Capability) (capabilityId dimension : JsString) : Checked Unit :=
  demand ((Fields.get capability.observations dimension).any Observation.isAccepted) .capability_unsupported
    (js "capability." ++ capabilityId ++ js ".observations." ++ dimension) "required capability observation is not accepted"

/-- The body of the loop over the required capabilities of the profile. -/
def checkCapability (capabilities : JsMap JsString Capability) (facts : Facts) (dimensions : List JsString) (capabilityId : JsString) :
    Checked Unit :=
  match JsMap.get capabilities capabilityId with
  | none => .error .typeError
  | some capability => do
    capability.constraints.forM (checkConstraint facts capabilityId)
    dimensions.forM (checkObservation capability capabilityId)

/-! ### What is installed -/

/-- What the identities of the installed parts are compared with. -/
structure Expected where
  artifacts : JsMap JsString Artifact
  components : JsMap JsString Component
  selected : List JsString
  capabilities : JsMap JsString Capability

def packageMatches (expected : Expected) (requirement : RequiredPackage) (installed : Option PackageObservation) : Bool :=
  match installed, JsMap.get expected.artifacts requirement.artifactId, JsMap.get expected.components requirement.componentId with
  | some installed, some artifact, some component =>
    decide (installed.componentId = requirement.componentId) && decide (installed.artifactId = requirement.artifactId) &&
      decide (installed.version = component.product.version) && decide (installed.sha256 = artifact.sha256)
  | _, _, _ => false

def checkPackages (expected : Expected) (observed : InstalledFrameworkObservation) : Checked Unit := do
  let packages ← mapBy observed.packages PackageObservation.packageId "installed.packages"
  observed.policy.packages.forM fun requirement =>
    demand (packageMatches expected requirement (JsMap.get packages requirement.packageId)) .package_identity_mismatch
      (js "package." ++ requirement.packageId) "installed package identity differs"
  demand (decide (packages.length = observed.policy.packages.length)) .package_identity_mismatch (js "packages")
    "unexpected installed package identity"

def executableMatches (expected : Expected) (requirement : RequiredExecutable) (installed : Option ExecutableObservation) :
    Checked Bool :=
  match installed, JsMap.get expected.artifacts requirement.artifactId with
  | some installed, some artifact =>
    if installed.artifactId = requirement.artifactId ∧ installed.sha256 = artifact.sha256 then
      same (textList installed.capabilityIds) (textList requirement.requiredCapabilityIds)
    else return false
  | _, _ => return false

def checkExecutable (expected : Expected) (executables : JsMap JsString ExecutableObservation) (requirement : RequiredExecutable) :
    Checked Unit := do
  requireCaps expected.selected expected.capabilities requirement.requiredCapabilityIds
    (js "executable." ++ requirement.role ++ js ".capabilities")
  demand (← executableMatches expected requirement (JsMap.get executables requirement.role)) .executable_identity_mismatch
    (js "executable." ++ requirement.role) "installed executable identity differs"

def checkExecutables (expected : Expected) (observed : InstalledFrameworkObservation) : Checked Unit := do
  let executables ← mapBy observed.executables ExecutableObservation.role "installed.executables"
  observed.policy.executables.forM (checkExecutable expected executables)
  demand (decide (executables.length = observed.policy.executables.length)) .executable_identity_mismatch (js "executables")
    "unexpected installed executable identity"

def treeMatches (wanted installed : Option RuntimeTreeIdentity) : Checked Bool :=
  match wanted, installed with
  | some wanted, some installed => same wanted.json installed.json
  | _, _ => return false

def checkRuntimeTree (expected : Expected) (expectedTrees installedTrees : JsMap JsString RuntimeTreeIdentity)
    (requirement : RequiredRuntimeTree) : Checked Unit := do
  requireCaps expected.selected expected.capabilities requirement.requiredCapabilityIds
    (js "runtime." ++ requirement.runtimeId ++ js ".capabilities")
  demand (← treeMatches (JsMap.get expectedTrees requirement.treeId) (JsMap.get installedTrees requirement.treeId))
    .runtime_identity_mismatch (js "runtime." ++ requirement.runtimeId) "installed runtime tree differs"

def checkRuntimeTrees (expected : Expected) (manifest : DistributionManifest) (observed : InstalledFrameworkObservation) :
    Checked Unit := do
  let expectedTrees ← mapBy manifest.runtimeTrees RuntimeTreeIdentity.treeId "manifest.runtimeTrees"
  let installedTrees ← mapBy observed.runtimeTrees RuntimeTreeIdentity.treeId "installed.runtimeTrees"
  expectedTrees.forM fun entry =>
    demand (decide (entry.2.sourceArtifactId ∈ JsMap.keys expected.artifacts)) .runtime_identity_mismatch
      (js "runtime." ++ entry.2.treeId ++ js ".sourceArtifactId") "runtime tree source artifact is absent"
  observed.policy.runtimeTrees.forM (checkRuntimeTree expected expectedTrees installedTrees)
  demand (decide (installedTrees.length = observed.policy.runtimeTrees.length)) .runtime_identity_mismatch (js "runtimeTrees")
    "unexpected installed runtime tree"

/-! ### `preflightFrameworkSelection` -/

/-- A candidate is admitted as supported only with an approval. -/
def checkApproved (admission : JsString) (combination : Combination) (approvedCandidate : Bool) : Checked Unit :=
  demand (!(decide (admission = js "support-required") && decide (combination.declaredState ≠ js "supported") && !approvedCandidate))
    .combination_unsupported (js "approval") "candidate catalog A requires a trusted E4 approval B"

def componentsOf (catalog : Catalog) : JsMap JsString Component := mapOf (catalog.components.map fun item => (item.id, item))

def capabilitiesOf (catalog : Catalog) : JsMap JsString Capability :=
  mapOf (catalog.capabilities.map fun item => (item.capabilityId, item))

def factsOf (catalog : Catalog) (combination : Combination) (profile : DistributionProfile) : Facts where
  platform := combination.platform
  componentVersions := mapOf (catalog.components.map fun item => (item.id, item.product.version))
  dependencyVersions := mapOf (profile.dependencies.map fun item => (item.dependencyId, item.version))
  selected := combination.capabilityIds

/-- The dimensions in which a required capability must be observed. -/
def dimensionsOf (profile : DistributionProfile) (admission : JsString) (approvedCandidate : Bool) : List JsString :=
  if admission = js "support-required" ∧ approvedCandidate = false then profile.requiredObservationDimensions else []

/-- The body of the `try`. -/
def preflight [Platform] [NumberConversion] (catalogRaw : RawText) (input : FrameworkPreflightInput) :
    Checked FrameworkPreflightMatch := do
  let observed := input.observed
  let admission := observed.policy.admission
  let catalog ← parseCatalog catalogRaw
  let catalogDigest ← frameworkCatalogDigest catalog.raw
  checkSelectionRef input.selectionRef catalogDigest
  let combination ← selectCombination catalog input
  let distribution ← validatedDistribution observed.distributionManifestRaw observed.cacheIndexRaw
  let manifest := distribution.manifest
  let approvedCandidate ← checkApproval input combination distribution.manifestDigest
  checkApproved admission combination approvedCandidate
  checkDistribution manifest input
  let expectedComponents ← combination.componentIds.mapM (expectedComponent (componentsOf catalog))
  checkComponents manifest observed expectedComponents
  let profile ← selectProfile catalog combination observed
  let capabilities := capabilitiesOf catalog
  requireCaps combination.capabilityIds capabilities profile.requiredCapabilityIds (js "profile.requiredCapabilityIds")
  profile.requiredCapabilityIds.forM
    (checkCapability capabilities (factsOf catalog combination profile) (dimensionsOf profile admission approvedCandidate))
  let expected : Expected := ⟨distribution.artifacts, componentsOf catalog, combination.capabilityIds, capabilities⟩
  checkPackages expected observed
  checkExecutables expected observed
  checkRuntimeTrees expected manifest observed
  return {
    admission
    catalogState := combination.declaredState
    supportQualified := decide (admission = js "support-required") &&
      (decide (combination.declaredState = js "supported") || approvedCandidate)
    approvalCatalogRef := input.approval.map (·.approvalCatalogRef)
    approvalPublicRunRef := input.approval.map (·.publicRunRef)
    catalogSelectionRef := input.selectionRef
    combinationId := combination.combinationId
    componentRefs := expectedComponents
    profileIds := combination.distributionProfileIds
    platform := combination.platform
    capabilityIds := combination.capabilityIds
    distributionManifestSha256 := distribution.manifestDigest
    buildInputs := manifest.buildInputs
    buildProvenance := manifest.buildProvenance
    packages := observed.packages
    executables := observed.executables
    runtimeTrees := observed.runtimeTrees }

def preflightFrameworkSelection [Platform] [NumberConversion] (catalogRaw : RawText) (input : FrameworkPreflightInput) :
    FrameworkPreflightResult :=
  match preflight catalogRaw input with
  | .ok selection => .matched selection
  | .error (.refused error) => .refused error.code error.predicate error.message
  | .error _ => .refused .catalog_invalid (js "internal") (js "framework preflight rejected malformed input")

end Mirror.Framework
