import MirrorECMA.Framework.Resolved
import Mathlib.Data.List.Perm.Subperm

namespace Mirror.Framework

open ECMA
open Mirror.Reproduction (Platform RawText)

/-! ### The comparisons of identities -/

/-- An installed package passed the comparison against this requirement, which names it. -/
structure PackagePassed (catalog : Catalog) (manifest : DistributionManifest) (requirement : RequiredPackage)
    (installed : PackageObservation) : Prop where
  packageId : installed.packageId = requirement.packageId
  componentId : installed.componentId = requirement.componentId
  artifactId : installed.artifactId = requirement.artifactId
  version : ∃ component ∈ catalog.components, component.id = requirement.componentId ∧
    installed.version = component.product.version
  sha256 : ∃ artifact ∈ manifest.artifacts, artifact.artifactId = requirement.artifactId ∧ installed.sha256 = artifact.sha256

structure ExecutablePassed (manifest : DistributionManifest) (requirement : RequiredExecutable) (installed : ExecutableObservation) :
    Prop where
  role : installed.role = requirement.role
  artifactId : installed.artifactId = requirement.artifactId
  sha256 : ∃ artifact ∈ manifest.artifacts, artifact.artifactId = requirement.artifactId ∧ installed.sha256 = artifact.sha256
  capabilityIds : same (textList installed.capabilityIds) (textList requirement.requiredCapabilityIds) = .ok true

structure RuntimeTreePassed (manifest : DistributionManifest) (requirement : RequiredRuntimeTree) (installed : RuntimeTreeIdentity) :
    Prop where
  treeId : installed.treeId = requirement.treeId
  identity : ∃ tree ∈ manifest.runtimeTrees, tree.treeId = requirement.treeId ∧ same tree.json installed.json = .ok true

/-- Both lists are covered: every installed item passed against a requirement, every requirement against an installed item. -/
structure Covered {ρ ι : Type} (Passed : ρ → ι → Prop) (requirements : List ρ) (installed : List ι) : Prop where
  items : ∀ item ∈ installed, ∃ requirement ∈ requirements, Passed requirement item
  policy : ∀ requirement ∈ requirements, ∃ item ∈ installed, Passed requirement item

section

variable {ρ ι : Type} {Passed : ρ → ι → Prop} {requirements : List ρ} {installed : List ι} {name : ρ → JsString}
  {key : ι → JsString}

/-- Where every requirement has passed and the counts agree, nothing is left out exactly when no name is required twice. -/
theorem covered_iff_nodup (distinct : (installed.map key).Nodup)
    (named : ∀ requirement item, Passed requirement item → key item = name requirement)
    (passed : ∀ requirement ∈ requirements, ∃ item ∈ installed, Passed requirement item)
    (length : installed.length = requirements.length) :
    Covered Passed requirements installed ↔ (requirements.map name).Nodup := by
  have inside : requirements.map name ⊆ installed.map key := by
    intro own member
    rcases List.mem_map.mp member with ⟨requirement, required, rfl⟩
    rcases passed requirement required with ⟨item, among, holds⟩
    rw [← named requirement item holds]
    exact List.mem_map_of_mem among
  have sizes : (installed.map key).length = (requirements.map name).length := by
    rw [List.length_map, List.length_map, length]
  constructor
  · intro covered
    have back : installed.map key ⊆ requirements.map name := by
      intro own member
      rcases List.mem_map.mp member with ⟨item, among, rfl⟩
      rcases covered.items item among with ⟨requirement, required, holds⟩
      rw [named requirement item holds]
      exact List.mem_map_of_mem required
    have perm := (List.subperm_of_subset distinct back).perm_of_length_le sizes.symm.le
    exact perm.nodup_iff.mp distinct
  · intro once
    have perm := (List.subperm_of_subset once inside).perm_of_length_le sizes.le
    refine ⟨fun item among => ?_, passed⟩
    rcases List.mem_map.mp (perm.symm.subset (List.mem_map_of_mem among)) with ⟨requirement, required, same⟩
    rcases passed requirement required with ⟨other, otherAmong, holds⟩
    have own : other = item := eq_of_key distinct otherAmong among ((named requirement other holds).trans same)
    exact ⟨requirement, required, own ▸ holds⟩

end

/-! ### What the checks of the installed parts establish -/

section

variable {catalog : Catalog} {manifest : DistributionManifest} {expected : Expected} {observed : InstalledFrameworkObservation}

/-- What is expected comes from a coherent catalog and a manifest of distinct artifacts. -/
structure Expected.From (expected : Expected) (catalog : Catalog) (manifest : DistributionManifest) : Prop where
  coherent : catalog.Coherent
  artifactIds : (manifest.artifacts.map (·.artifactId)).Nodup
  artifacts : expected.artifacts = keyed (·.artifactId) manifest.artifacts
  components : expected.components = componentsOf catalog

theorem Expected.From.artifact (source : expected.From catalog manifest) {artifactId : JsString} {artifact : Artifact}
    (found : JsMap.get expected.artifacts artifactId = some artifact) :
    artifact ∈ manifest.artifacts ∧ artifact.artifactId = artifactId := by
  rw [source.artifacts] at found
  exact (get_keyed source.artifactIds).mp found

theorem Expected.From.component (source : expected.From catalog manifest) {componentId : JsString} {component : Component}
    (found : JsMap.get expected.components componentId = some component) :
    component ∈ catalog.components ∧ component.id = componentId := by
  rw [source.components] at found
  exact (get_mapOf source.coherent.componentIds).mp found

theorem packageMatches_passed (source : expected.From catalog manifest) {requirement : RequiredPackage} {items : List PackageObservation}
    (distinct : (items.map PackageObservation.packageId).Nodup)
    (matched : packageMatches expected requirement (JsMap.get (keyed PackageObservation.packageId items) requirement.packageId) = true) :
    ∃ item ∈ items, PackagePassed catalog manifest requirement item := by
  unfold packageMatches at matched
  split at matched
  · rename_i item artifact component installed artifactFound componentFound
    have own := (get_keyed distinct).mp installed
    have artifactOwn := source.artifact artifactFound
    have componentOwn := source.component componentFound
    simp only [Bool.and_eq_true, decide_eq_true_eq] at matched
    rcases matched with ⟨⟨⟨componentId, artifactId⟩, version⟩, sha256⟩
    exact ⟨item, own.1, own.2, componentId, artifactId, ⟨component, componentOwn.1, componentOwn.2, version⟩,
      ⟨artifact, artifactOwn.1, artifactOwn.2, sha256⟩⟩
  · cases matched

theorem checkPackages_iff (source : expected.From catalog manifest) (checked : checkPackages expected observed = .ok ()) :
    Covered (PackagePassed catalog manifest) observed.policy.packages observed.packages ↔
      (observed.policy.packages.map RequiredPackage.packageId).Nodup := by
  unfold checkPackages at checked
  simp only [bind_eq_ok, exists_unit, mapBy_eq_ok, forM_eq_ok, demand_eq_ok, decide_eq_true_eq] at checked
  rcases checked with ⟨_, ⟨distinct, rfl⟩, each, length⟩
  apply covered_iff_nodup distinct fun requirement item passed => passed.packageId
  · exact fun requirement member => packageMatches_passed source distinct (each requirement member)
  · simpa [keyed] using length

theorem executableMatches_passed (source : expected.From catalog manifest) {requirement : RequiredExecutable}
    {items : List ExecutableObservation} (distinct : (items.map ExecutableObservation.role).Nodup)
    (matched : executableMatches expected requirement (JsMap.get (keyed ExecutableObservation.role items) requirement.role) =
      .ok true) : ∃ item ∈ items, ExecutablePassed manifest requirement item := by
  unfold executableMatches at matched
  split at matched
  · rename_i item artifact installed artifactFound
    have own := (get_keyed distinct).mp installed
    have artifactOwn := source.artifact artifactFound
    split at matched
    · rename_i identity
      exact ⟨item, own.1, own.2, identity.1, ⟨artifact, artifactOwn.1, artifactOwn.2, identity.2⟩, matched⟩
    · cases matched
  · cases matched

theorem checkExecutables_iff (source : expected.From catalog manifest) (checked : checkExecutables expected observed = .ok ()) :
    Covered (ExecutablePassed manifest) observed.policy.executables observed.executables ↔
      (observed.policy.executables.map RequiredExecutable.role).Nodup := by
  unfold checkExecutables at checked
  simp only [bind_eq_ok, exists_unit, mapBy_eq_ok, forM_eq_ok, demand_eq_ok, decide_eq_true_eq, checkExecutable] at checked
  rcases checked with ⟨_, ⟨distinct, rfl⟩, each, length⟩
  apply covered_iff_nodup distinct fun requirement item passed => passed.role
  · intro requirement member
    rcases (each requirement member).2 with ⟨_, matched, rfl⟩
    exact executableMatches_passed source distinct matched
  · simpa [keyed] using length

theorem treeMatches_passed {requirement : RequiredRuntimeTree} {trees items : List RuntimeTreeIdentity}
    (expectedDistinct : (trees.map RuntimeTreeIdentity.treeId).Nodup) (distinct : (items.map RuntimeTreeIdentity.treeId).Nodup)
    (matched : treeMatches (JsMap.get (keyed RuntimeTreeIdentity.treeId trees) requirement.treeId)
      (JsMap.get (keyed RuntimeTreeIdentity.treeId items) requirement.treeId) = .ok true) :
    ∃ item ∈ items, item.treeId = requirement.treeId ∧
      ∃ tree ∈ trees, tree.treeId = requirement.treeId ∧ same tree.json item.json = .ok true := by
  unfold treeMatches at matched
  split at matched
  · rename_i tree item wanted installed
    have treeOwn := (get_keyed expectedDistinct).mp wanted
    have own := (get_keyed distinct).mp installed
    exact ⟨item, own.1, own.2, tree, treeOwn.1, treeOwn.2, matched⟩
  · cases matched

theorem checkRuntimeTrees_iff (checked : checkRuntimeTrees expected manifest observed = .ok ()) :
    Covered (RuntimeTreePassed manifest) observed.policy.runtimeTrees observed.runtimeTrees ↔
      (observed.policy.runtimeTrees.map RequiredRuntimeTree.treeId).Nodup := by
  unfold checkRuntimeTrees at checked
  simp only [bind_eq_ok, exists_unit, mapBy_eq_ok, forM_eq_ok, demand_eq_ok, decide_eq_true_eq, checkRuntimeTree] at checked
  rcases checked with ⟨_, ⟨expectedDistinct, rfl⟩, _, ⟨distinct, rfl⟩, _, each, length⟩
  apply covered_iff_nodup distinct fun requirement item passed => passed.treeId
  · intro requirement member
    rcases (each requirement member).2 with ⟨_, matched, rfl⟩
    rcases treeMatches_passed expectedDistinct distinct matched with ⟨item, among, own, identity⟩
    exact ⟨item, among, own, identity⟩
  · simpa [keyed] using length

end

/-! ### Exactly the installed set -/

/-- Nothing that is installed went unchecked, and nothing that is required. -/
structure ExactlyInstalled (catalog : Catalog) (manifest : DistributionManifest) (observed : InstalledFrameworkObservation) :
    Prop where
  packages : Covered (PackagePassed catalog manifest) observed.policy.packages observed.packages
  executables : Covered (ExecutablePassed manifest) observed.policy.executables observed.executables
  runtimeTrees : Covered (RuntimeTreePassed manifest) observed.policy.runtimeTrees observed.runtimeTrees

/-- The policy names no package, no role and no tree twice. -/
structure RuntimeSupportPolicy.NamesOnce (policy : RuntimeSupportPolicy) : Prop where
  packages : (policy.packages.map RequiredPackage.packageId).Nodup
  executables : (policy.executables.map RequiredExecutable.role).Nodup
  runtimeTrees : (policy.runtimeTrees.map RequiredRuntimeTree.treeId).Nodup

section

variable [Platform] [NumberConversion]

theorem Resolved.expected_from {catalogRaw : RawText} {input : FrameworkPreflightInput} {r : Resolution}
    {selection : FrameworkPreflightMatch} (resolved : Resolved catalogRaw input r selection) :
    r.expected.From r.catalog r.distribution.manifest := by
  rcases validatedDistribution_eq_ok.mp resolved.distribution with ⟨cache, _, _, compared⟩
  exact ⟨parseCatalog_coherent resolved.catalog, compared.artifactIds, compared.artifacts, rfl⟩

/-- A matched preflight has checked exactly what is installed just when its policy names nothing twice. -/
theorem exactlyInstalled_iff {catalogRaw : RawText} {input : FrameworkPreflightInput} {selection : FrameworkPreflightMatch}
    (matched : preflightFrameworkSelection catalogRaw input = .matched selection) {catalog : Catalog}
    (parsed : parseCatalog catalogRaw = .ok catalog) {distribution : ValidatedDistribution}
    (validated : validatedDistribution input.observed.distributionManifestRaw input.observed.cacheIndexRaw = .ok distribution) :
    ExactlyInstalled catalog distribution.manifest input.observed ↔ input.observed.policy.NamesOnce := by
  rcases resolved_of_matched matched with ⟨r, resolved⟩
  have source := resolved.expected_from
  have catalogs : r.catalog = catalog := Except.ok.inj (resolved.catalog.symm.trans parsed)
  have distributions : r.distribution = distribution := Except.ok.inj (resolved.distribution.symm.trans validated)
  have packages := checkPackages_iff source resolved.packages
  have executables := checkExecutables_iff source resolved.executables
  have runtimeTrees := checkRuntimeTrees_iff resolved.runtimeTrees
  subst catalogs distributions
  constructor
  · intro installed
    exact ⟨packages.mp installed.packages, executables.mp installed.executables, runtimeTrees.mp installed.runtimeTrees⟩
  · intro once
    exact ⟨packages.mpr once.packages, executables.mpr once.executables, runtimeTrees.mpr once.runtimeTrees⟩

end

/-! ### A small framework -/

namespace Small

def record (fields : List (String × Json)) : Json := .object (fields.map fun field => (js field.1, field.2))

def word (s : String) : Json := .string (js s)

def words (texts : List String) : Json := .array (texts.map word)

def digits (letter : Char) : Json := .string (List.replicate 64 (unit letter))

def core : ComponentRef := ⟨js "core", js "repo", List.replicate 40 (unit 'a'), false, none⟩

def linux : PlatformIdentity := ⟨js "linux", js "1", js "x64", none⟩

def darwin : PlatformIdentity := ⟨js "darwin", js "1", js "x64", none⟩

def profile (name : String) (platform : PlatformIdentity) : Json :=
  record [("profileId", word name), ("platform", platform.json), ("requiredCapabilityIds", words ["run"]),
    ("optionalCapabilityIds", .array []), ("requiredObservationDimensions", words ["sourceTested"]), ("dependencies", .array [])]

def observations : Json :=
  record (("sourceTested", record [("state", word "accepted"), ("evidenceId", word "e")]) ::
    observationDimensions.tail.map fun dimension => (dimension, record [("state", word "notRun")]))

def capability : Json :=
  record [("capabilityId", word "run"), ("ownerComponentId", word "core"), ("description", word ""),
    ("declaration", record [("state", word "available"),
      ("constraints", .array [record [("constraintId", word "k"), ("fact", record [("kind", word "platformField"), ("id", word "os")]),
        ("operator", word "equals"), ("values", words ["linux"])]])]),
    ("sourceImplementation", record [("state", word "s"), ("locations", .array [])]), ("observations", observations)]

/-- One component on two platforms, of which one combination is supported. -/
def catalog : Json :=
  record [("schemaVersion", word "mirrors.framework-catalog/v1"), ("catalogId", word "c"), ("visibility", word "public"),
    ("components", .array [record [("componentRef", core.json),
      ("product", record [("name", word "core"), ("version", word "1.0.0")]), ("records", .array [])]]),
    ("evidenceRefs", .array [record [("evidenceId", word "e"), ("runRef", record [("schemaVersion", word "v1"), ("runId", word "r"),
      ("envelopeSha256", digits 'e'), ("projectionKind", word "public")])]]),
    ("capabilities", .array [capability]),
    ("distributionProfiles", .array [profile "linux" linux, profile "other" darwin]),
    ("combinations", .array [record [("combinationId", word "combo"), ("componentIds", words ["core"]), ("platform", linux.json),
      ("capabilityIds", words ["run"]), ("distributionProfileIds", words ["linux", "other"]), ("declaredState", word "supported"),
      ("evidenceIds", .array [])]])]

def catalogDigest : JsString :=
  ["8d69802a", "0fec88b3", "14399d8a", "e0dcd794", "2c7aa19e", "ca72e83b", "bc1b3d6a", "3c772acf"].flatMap js

def manifestDigest : JsString :=
  ["185702f4", "2c91de48", "4e122790", "336c6867", "48ed613f", "59daaa42", "b123e6ad", "d2e39e5e"].flatMap js

/-- SHA-256 of the texts below, which are told apart by their lengths. -/
def sha256 (bytes : List UInt8) : JsString :=
  if bytes.length = 1678 then catalogDigest else if bytes.length = 1270 then manifestDigest
  else ["d5fa6f8e", "89c4363f", "d9868cdb", "2aa6b2f8", "244d2059", "6dbd4d91", "e7f76864", "849a3622"].flatMap js

@[reducible] def platform : Platform where
  hexDigest := sha256
  decodeUtf8 _ := none
  fromBase64 _ := []
  toBase64 _ := []
  toUtf8 _ := []
  dateParse _ := .nan

def ref : CatalogSelectionRef := ⟨js "mirrors.framework-catalog/v1", js "sha256", catalogDigest⟩

def artifact : ArtifactIdentity := ⟨js "art", js "lib/core", .finite 1, List.replicate 64 (unit 'b'), js "0644"⟩

def lock (name : String) : Json :=
  record [("inputId", word name), ("path", word name), ("bytes", .number (.finite 1)), ("sha256", digits 'c')]

def manifest : Json :=
  record [("schemaVersion", word "mirrors.reference-distribution-manifest/v1"), ("distributionId", word "d"),
    ("catalogSelectionRef", ref.json), ("profileId", word "linux"), ("componentRefs", .array [core.json]),
    ("buildInputs", .array (LOCKS.map lock)),
    ("buildProvenance", record [("snapshotIndexSha256", digits 'd'), ("tools", .array []), ("trees", .array [])]),
    ("artifacts", .array [.object (artifact.fields ++ [(js "kind", word "file"), (js "mediaType", word "m"),
      (js "source", record [("kind", word "component-build"), ("id", word "s")])])]),
    ("runtimeTrees", .array []), ("hostRequirements", .array []), ("publication", word "unclaimed")]

def cache : Json :=
  record [("schemaVersion", word "mirrors.reference-cache-index/v1"), ("profileId", word "linux"), ("catalogSelectionRef", ref.json),
    ("distributionManifestSha256", .string manifestDigest), ("entries", .array [artifact.json])]

/-- The canonical text. -/
def raw (json : Json) : JsString := (written json).render

def package (name : String) : PackageObservation :=
  ⟨js name, js "core", js "art", js "1.0.0", List.replicate 64 (unit 'b')⟩

def required (name : String) : RequiredPackage := ⟨js name, js "core", js "art"⟩

/-- An installation of these packages, required by these names, on a platform with its profile. -/
def input (installed names : List String) (profile : String) (observed : PlatformIdentity) : FrameworkPreflightInput where
  selectionRef := ref
  combinationId := js "combo"
  observed := {
    distributionManifestRaw := .text (raw manifest)
    cacheIndexRaw := .text (raw cache)
    componentRefs := [core]
    packages := installed.map package
    executables := []
    runtimeTrees := []
    platform := observed
    policy := ⟨js "support-required", js "linux", js profile, names.map required, [], []⟩ }
  approval := none

/-- The preflight is matched, on this platform. -/
def matchedOn (platform : PlatformIdentity) : FrameworkPreflightResult → Bool
  | .matched selection => decide (selection.platform = platform)
  | .refused _ _ _ => false

theorem matchedOn_iff {platform : PlatformIdentity} {result : FrameworkPreflightResult} :
    matchedOn platform result = true ↔ ∃ selection, result = .matched selection ∧ selection.platform = platform := by
  cases result <;> simp [matchedOn]

def even : FrameworkPreflightInput := input ["a"] ["a"] "linux" linux

/-- A package is required twice and another one never, on the platform of another profile. -/
def odd : FrameworkPreflightInput := input ["a", "b"] ["a", "a"] "other" darwin

/-- The catalog with a blank before it. -/
def spaced : JsString := js " " ++ raw catalog

theorem both_matched : (matchedOn linux (@preflightFrameworkSelection platform integerLiterals (.text spaced) even) &&
    matchedOn linux (@preflightFrameworkSelection platform integerLiterals (.text spaced) odd)) = true := by
  decide +kernel

theorem even_matched : matchedOn linux (@preflightFrameworkSelection platform integerLiterals (.text spaced) even) = true :=
  (Bool.and_eq_true_iff.mp both_matched).1

theorem odd_matched : matchedOn linux (@preflightFrameworkSelection platform integerLiterals (.text spaced) odd) = true :=
  (Bool.and_eq_true_iff.mp both_matched).2

end Small

/-- What is parsed and validated on the way of a matched preflight. -/
theorem sources_of_matched [Platform] [NumberConversion] {catalogRaw : RawText} {input : FrameworkPreflightInput} {selection : FrameworkPreflightMatch}
    (matched : preflightFrameworkSelection catalogRaw input = .matched selection) : ∃ catalog distribution,
      parseCatalog catalogRaw = .ok catalog ∧
        validatedDistribution input.observed.distributionManifestRaw input.observed.cacheIndexRaw = .ok distribution := by
  rcases resolved_of_matched matched with ⟨r, resolved⟩
  exact ⟨r.catalog, r.distribution, resolved.catalog, resolved.distribution⟩

theorem even_exactlyInstalled : letI := Small.platform; letI := integerLiterals; ∃ catalog distribution,
    parseCatalog (.text Small.spaced) = .ok catalog ∧
      validatedDistribution Small.even.observed.distributionManifestRaw Small.even.observed.cacheIndexRaw = .ok distribution ∧
      (ExactlyInstalled catalog distribution.manifest Small.even.observed ↔ Small.even.observed.policy.NamesOnce) := by
  let _ := Small.platform
  let _ := integerLiterals
  rcases Small.matchedOn_iff.mp Small.even_matched with ⟨selection, matched, _⟩
  rcases sources_of_matched matched with ⟨catalog, distribution, parsed, validated⟩
  exact ⟨catalog, distribution, parsed, validated, exactlyInstalled_iff matched parsed validated⟩

/-- A matched preflight lists a package as installed that no requirement names. -/
theorem odd_unchecked : letI := Small.platform; letI := integerLiterals; ∃ selection,
    preflightFrameworkSelection (.text Small.spaced) Small.odd = .matched selection ∧ ∃ installed ∈ selection.packages,
      ∀ requirement ∈ Small.odd.observed.policy.packages, requirement.packageId ≠ installed.packageId := by
  let _ := Small.platform
  let _ := integerLiterals
  rcases Small.matchedOn_iff.mp Small.odd_matched with ⟨selection, matched, _⟩
  rcases resolved_of_matched matched with ⟨r, resolved⟩
  refine ⟨selection, matched, Small.package "b", ?_, by decide⟩
  rw [resolved.installed.1]
  show Small.package "b" ∈ ["a", "b"].map Small.package
  exact List.mem_map_of_mem (by decide)

end Mirror.Framework
