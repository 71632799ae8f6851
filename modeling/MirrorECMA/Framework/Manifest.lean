import MirrorECMA.Framework.Identity

namespace Mirror.Framework

open ECMA
open Mirror.ModelInterface (Sha256)
open Mirror.Reproduction (Platform RawText)

structure BuildInputIdentity where
  inputId : JsString
  path : JsString
  bytes : Double
  sha256 : JsString

structure BuildTool where
  toolId : JsString
  version : JsString
  bytes : Double
  sha256 : JsString

structure BuildTree where
  inputId : JsString
  algorithm : JsString
  digest : JsString
  entryCount : Double
  bytes : Double

structure BuildProvenance where
  snapshotIndexSha256 : JsString
  tools : List BuildTool
  trees : List BuildTree

structure DynamicLibrary where
  soname : JsString
  path : JsString
  sha256 : JsString

structure Artifact extends ArtifactIdentity where
  kind : JsString
  mediaType : JsString
  dynamicLibraries : Option (List DynamicLibrary)

structure DistributionManifest where
  catalogSelectionRef : CatalogSelectionRef
  profileId : JsString
  componentRefs : List ComponentRef
  buildInputs : List BuildInputIdentity
  buildProvenance : BuildProvenance
  artifacts : List Artifact
  runtimeTrees : List RuntimeTreeIdentity
  hostRequirements : List Json
  raw : Json

structure CacheIndex where
  profileId : JsString
  catalogSelectionRef : CatalogSelectionRef
  distributionManifestSha256 : JsString
  entries : List ArtifactIdentity

/-- `value.forEach(check)` with the index of every item. -/
def forIndexed {α : Type} (check : α → Nat → Checked Unit) (items : List α) : Checked Unit :=
  items.zipIdx.forM fun entry => check entry.1 entry.2

/-! ### `parseManifest` -/

def LOCKS : List String := ["profiles-lock", "component-lock", "dependency-lock"]

def parseBuildInput (entry : Json) (index : Nat) : Checked BuildInputIdentity := do
  let path := at_ (js "buildInputs") index
  let keys := ["inputId", "path", "bytes", "sha256"]
  let item ← object (some entry) path keys keys
  let inputId ← literal (property item "inputId") LOCKS .distribution_identity_mismatch (dot path "inputId") "unsupported build input"
  let own ← pathValue (property item "path") (dot path "path")
  let bytes ← integer (property item "bytes") (dot path "bytes") 1 MAX_BYTES
  let sha256 ← digest (property item "sha256") (dot path "sha256")
  return ⟨inputId, own, bytes, sha256⟩

def parseTool (entry : Json) (index : Nat) : Checked BuildTool := do
  let keys := ["toolId", "version", "bytes", "sha256"]
  let tool ← object (some entry) (at_ (js "buildProvenance.tools") index) keys keys
  let toolId ← id (property tool "toolId") (js "buildProvenance.toolId")
  let version ← text (property tool "version") (js "buildProvenance.tool.version")
  let bytes ← integer (property tool "bytes") (js "buildProvenance.tool.bytes") 0 maxSafeInteger
  let sha256 ← digest (property tool "sha256") (js "buildProvenance.tool.sha256")
  return ⟨toolId, version, bytes, sha256⟩

def parseTree (entry : Json) (index : Nat) : Checked BuildTree := do
  let path := at_ (js "buildProvenance.trees") index
  let keys := ["inputId", "algorithm", "digest", "entryCount", "bytes"]
  let tree ← object (some entry) path keys keys
  demand (isText (property tree "algorithm") "mirrors-runtime-tree-v1") .distribution_identity_mismatch (dot path "algorithm")
    "unsupported build provenance tree algorithm"
  let inputId ← id (property tree "inputId") (js "buildProvenance.tree.inputId")
  let digest ← digest (property tree "digest") (js "buildProvenance.tree.digest")
  let entryCount ← integer (property tree "entryCount") (js "buildProvenance.tree.entryCount") 0 100000
  let bytes ← integer (property tree "bytes") (js "buildProvenance.tree.bytes") 0 2147483648
  return ⟨inputId, js "mirrors-runtime-tree-v1", digest, entryCount, bytes⟩

def parseProvenance (value : Option Json) : Checked BuildProvenance := do
  let keys := ["snapshotIndexSha256", "tools", "trees"]
  let provenance ← object value (js "buildProvenance") keys keys
  let snapshot ← digest (property provenance "snapshotIndexSha256") (js "buildProvenance.snapshotIndexSha256")
  let tools ← mapIndexed parseTool (← array (property provenance "tools") (js "buildProvenance.tools") 64)
  let trees ← mapIndexed parseTree (← array (property provenance "trees") (js "buildProvenance.trees") 64)
  return ⟨snapshot, tools, trees⟩

def parseLibrary (path : JsString) (library : Json) (index : Nat) : Checked DynamicLibrary := do
  let own := at_ path index
  let keys := ["soname", "path", "sha256"]
  let dynamic ← object (some library) own keys keys
  let hostPath ← text (property dynamic "path") (dot own "path")
  demand ((js "/").isPrefixOf hostPath) .distribution_identity_mismatch (dot own "path") "dynamic library path must be absolute"
  let soname ← text (property dynamic "soname") (js "dynamicLibrary.soname")
  let sha256 ← digest (property dynamic "sha256") (js "dynamicLibrary.sha256")
  return ⟨soname, hostPath, sha256⟩

/-- `dynamicLibraries?.length` is neither absent nor 0. -/
def anyLibrary (libraries : Option (List DynamicLibrary)) : Bool := libraries.any fun libraries => !libraries.isEmpty

def parseArtifact (entry : Json) (index : Nat) : Checked Artifact := do
  let path := at_ (js "artifacts") index
  let fields := ["artifactId", "path", "kind", "mediaType", "bytes", "sha256", "mode", "source"]
  let item ← object (some entry) path (fields ++ ["dynamicLibraries"]) fields
  let kind ← literal (property item "kind") ["file", "archive"] .distribution_identity_mismatch path "unsupported artifact shape"
  let mode ← literal (property item "mode") ["0644", "0755"] .distribution_identity_mismatch path "unsupported artifact shape"
  let source ← object (property item "source") (js "artifact.source") ["kind", "id"] ["kind", "id"]
  demand (isOneOf (property source "kind") ["component-build", "dependency-lock"]) .distribution_identity_mismatch
    (js "artifact.source.kind") "unsupported source"
  let _ ← id (property source "id") (js "source.id")
  let libraries := dot path "dynamicLibraries"
  let dynamicLibraries ← ifPresent (property item "dynamicLibraries") fun value => do
    mapIndexed (parseLibrary libraries) (← array value libraries 64)
  demand (!(decide (mode = js "0755") && !anyLibrary dynamicLibraries)) .distribution_identity_mismatch libraries
    "executable artifact requires dynamic library identities"
  let artifactId ← id (property item "artifactId") (js "artifactId")
  let own ← pathValue (property item "path") (js "artifact.path")
  let mediaType ← text (property item "mediaType") (js "artifact.mediaType")
  let bytes ← integer (property item "bytes") (js "artifact.bytes") 0 536870912
  let sha256 ← digest (property item "sha256") (js "artifact.sha256")
  return { artifactId, path := own, bytes, sha256, mode, kind, mediaType, dynamicLibraries }

def parseRuntimeTree (entry : Json) (index : Nat) : Checked RuntimeTreeIdentity := do
  let path := at_ (js "runtimeTrees") index
  let keys := ["treeId", "sourceArtifactId", "selectionId", "path", "algorithm", "digest", "entryCount", "bytes"]
  let item ← object (some entry) path keys keys
  demand (isText (property item "algorithm") "mirrors-runtime-tree-v1") .runtime_identity_mismatch (dot path "algorithm")
    "unsupported runtime identity"
  let treeId ← id (property item "treeId") (js "treeId")
  let sourceArtifactId ← id (property item "sourceArtifactId") (js "sourceArtifactId")
  let selectionId ← id (property item "selectionId") (js "selectionId")
  let own ← pathValue (property item "path") (js "runtime.path")
  let digest ← digest (property item "digest") (js "runtime.digest")
  let entryCount ← integer (property item "entryCount") (js "entryCount") 1 100000
  let bytes ← integer (property item "bytes") (js "runtime.bytes") 1 2147483648
  return ⟨treeId, sourceArtifactId, selectionId, own, js "mirrors-runtime-tree-v1", digest, entryCount, bytes⟩

def checkHostRequirement (entry : Json) (index : Nat) : Checked Unit := do
  let path := at_ (js "hostRequirements") index
  let item ← object (some entry) path ["id", "minimumVersion", "observedVersion", "requirement"] ["id"]
  let _ ← id (property item "id") (js "host.id")
  let predicates := ["minimumVersion", "observedVersion", "requirement"]
  demand (predicates.any fun key => (property item key).isSome) .distribution_identity_mismatch path
    "host requirement predicate is empty"
  predicates.forM fun key => do
    let _ ← ifPresent (property item key) fun value => text value (dot (js "host") key)

def parseManifest [Platform] [NumberConversion] (raw : RawText) : Checked DistributionManifest := do
  let parsed ← strictJson raw "distribution manifest"
  let keys := ["schemaVersion", "distributionId", "catalogSelectionRef", "profileId", "componentRefs", "buildInputs",
    "buildProvenance", "artifacts", "runtimeTrees", "hostRequirements", "publication"]
  let root ← object (some parsed) (js "manifest") keys keys
  demand (isText (property root "schemaVersion") "mirrors.reference-distribution-manifest/v1" &&
      isText (property root "publication") "unclaimed")
    .distribution_identity_mismatch (js "manifest.schemaVersion") "unsupported distribution manifest"
  let _ ← id (property root "distributionId") (js "distributionId")
  let buildInputs ← mapIndexed parseBuildInput (← array (property root "buildInputs") (js "buildInputs") 3)
  let ids := buildInputs.map BuildInputIdentity.inputId
  demand (decide (buildInputs.length = 3) && decide ids.Nodup && LOCKS.all fun lock => decide (js lock ∈ ids))
    .distribution_identity_mismatch (js "buildInputs") "exact I2 lock input set required"
  let buildProvenance ← parseProvenance (property root "buildProvenance")
  let artifacts ← mapIndexed parseArtifact (← array (property root "artifacts") (js "artifacts") 1024)
  let runtimeTrees ← mapIndexed parseRuntimeTree (← array (property root "runtimeTrees") (js "runtimeTrees") 64)
  let hostRequirements ← array (property root "hostRequirements") (js "hostRequirements") 64
  forIndexed checkHostRequirement hostRequirements
  let catalogSelectionRef ← selection (property root "catalogSelectionRef") (js "manifest.catalogSelectionRef")
  let profileId ← id (property root "profileId") (js "manifest.profileId")
  let componentRefs ← mapIndexed (fun entry index => componentRef (some entry) (at_ (js "componentRefs") index))
    (← array (property root "componentRefs") (js "componentRefs") 64)
  return ⟨catalogSelectionRef, profileId, componentRefs, buildInputs, buildProvenance, artifacts, runtimeTrees, hostRequirements,
    parsed⟩

/-! ### `parseCache` -/

def parseEntry (entry : Json) (index : Nat) : Checked ArtifactIdentity := do
  let path := at_ (js "entries") index
  let keys := ["artifactId", "path", "bytes", "sha256", "mode"]
  let item ← object (some entry) path keys keys
  let mode ← literal (property item "mode") ["0644", "0755"] .artifact_identity_mismatch (dot path "mode") "unsupported mode"
  let artifactId ← id (property item "artifactId") (js "artifactId")
  let own ← pathValue (property item "path") (js "entry.path")
  let bytes ← integer (property item "bytes") (js "entry.bytes") 0 536870912
  let sha256 ← digest (property item "sha256") (js "entry.sha256")
  return ⟨artifactId, own, bytes, sha256, mode⟩

def parseCache [Platform] [NumberConversion] (raw : RawText) : Checked CacheIndex := do
  let parsed ← strictJson raw "cache index"
  let keys := ["schemaVersion", "profileId", "catalogSelectionRef", "distributionManifestSha256", "entries"]
  let root ← object (some parsed) (js "cache") keys keys
  demand (isText (property root "schemaVersion") "mirrors.reference-cache-index/v1") .distribution_identity_mismatch
    (js "cache.schemaVersion") "unsupported cache index"
  let entries ← mapIndexed parseEntry (← array (property root "entries") (js "cache.entries") 2048)
  let profileId ← id (property root "profileId") (js "cache.profileId")
  let catalogSelectionRef ← selection (property root "catalogSelectionRef") (js "cache.catalogSelectionRef")
  let distributionManifestSha256 ← digest (property root "distributionManifestSha256") (js "cache.distributionManifestSha256")
  return ⟨profileId, catalogSelectionRef, distributionManifestSha256, entries⟩

/-! ### What was read can be rendered -/

theorem demand_eq_ok {condition : Bool} {code : FrameworkRefusalCode} {predicate : JsString} {detail : String} :
    demand condition code predicate detail = .ok () ↔ condition = true := by
  unfold demand refuse
  by_cases holds : condition = true <;> simp [holds]

theorem text_wellFormed {value : Option Json} {path result : JsString} (read : text value path = .ok result) :
    isWellFormed result = true := by
  unfold text at read
  split at read
  · split at read
    · unfold scalarString at read
      split at read
      · rename_i valid
        cases read
        exact valid
      · cases read
    · cases read
  · cases read

theorem id_wellFormed {value : Option Json} {path result : JsString} (read : id value path = .ok result) :
    isWellFormed result = true := by
  unfold id at read
  rcases bind_eq_ok.mp read with ⟨found, own, read⟩
  rcases bind_eq_ok.mp read with ⟨_, _, returned⟩
  cases returned
  exact text_wellFormed own

theorem digest_wellFormed {value : Option Json} {path result : JsString} (read : digest value path = .ok result) :
    isWellFormed result = true := by
  unfold digest at read
  rcases bind_eq_ok.mp read with ⟨found, own, read⟩
  rcases bind_eq_ok.mp read with ⟨_, _, returned⟩
  cases returned
  exact text_wellFormed own

theorem pathValue_wellFormed {value : Option Json} {path result : JsString} (read : pathValue value path = .ok result) :
    isWellFormed result = true := by
  unfold pathValue at read
  rcases bind_eq_ok.mp read with ⟨found, own, read⟩
  rcases bind_eq_ok.mp read with ⟨_, _, returned⟩
  cases returned
  exact text_wellFormed own

theorem literal_mem {value : Option Json} {literals : List String} {code : FrameworkRefusalCode} {path result : JsString}
    {detail : String} (read : literal value literals code path detail = .ok result) : ∃ found ∈ literals, result = js found := by
  unfold literal at read
  split at read
  · rename_i found first
    cases read
    exact ⟨found, List.mem_of_find?_eq_some first, rfl⟩
  · cases read

theorem integer_safe {value : Option Json} {path : JsString} {min max : Nat} {result : Double}
    (read : integer value path min max = .ok result) : result.isSafeInteger = true := by
  unfold integer at read
  split at read
  · split at read
    · split at read
      · rename_i bounded
        cases read
        simp only [Bool.and_eq_true] at bounded
        exact bounded.1.1
      · cases read
    · cases read
  · cases read

end Mirror.Framework
