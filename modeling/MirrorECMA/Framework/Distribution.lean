import MirrorECMA.ECMA.JsMap
import MirrorECMA.Framework.Manifest

namespace Mirror.Framework

open ECMA
open Mirror.ModelInterface (Sha256)
open Mirror.Reproduction (Platform RawText)

/-- The body of the loop of `mapBy`. -/
def addEntry {α : Type} (key : α → JsString) (path : String) (result : JsMap JsString α) (item : α) : Checked (JsMap JsString α) :=
  match JsMap.get result (key item) with
  | some _ => refuse .distribution_identity_mismatch (js path) (js "duplicate " ++ key item)
  | none => .ok (JsMap.set result (key item) item)

def mapBy {α : Type} (items : List α) (key : α → JsString) (path : String) : Checked (JsMap JsString α) :=
  items.foldlM (addEntry key path) []

structure ValidatedDistribution where
  manifest : DistributionManifest
  manifestDigest : JsString
  artifacts : JsMap JsString Artifact

/-- `observed !== undefined && same(expected, observed)`. -/
def sameAs (expected : Json) (observed : Option Json) : Checked Bool :=
  match observed with
  | none => .ok false
  | some observed => same expected observed

/-- The body of the loop over the artifacts of the manifest. -/
def checkArtifact (cacheEntries : JsMap JsString ArtifactIdentity) (entry : JsString × Artifact) : Checked Unit := do
  let matched ← sameAs entry.2.toArtifactIdentity.json ((JsMap.get cacheEntries entry.1).map ArtifactIdentity.json)
  demand matched .artifact_identity_mismatch (js "artifact." ++ entry.1) "installed artifact identity differs"

def validatedDistribution [Platform] [NumberConversion] (distributionManifestRaw cacheIndexRaw : RawText) :
    Checked ValidatedDistribution := do
  let manifest ← parseManifest distributionManifestRaw
  let cache ← parseCache cacheIndexRaw
  let manifestDigest ← frameworkCatalogDigest manifest.raw
  let selected ← same cache.catalogSelectionRef.json manifest.catalogSelectionRef.json
  demand (selected && decide (cache.distributionManifestSha256 = manifestDigest) && decide (cache.profileId = manifest.profileId))
    .distribution_identity_mismatch (js "distribution.selection") "distribution/cache selection or manifest identity differs"
  let artifacts ← mapBy manifest.artifacts (·.artifactId) "manifest.artifacts"
  let cacheEntries ← mapBy cache.entries ArtifactIdentity.artifactId "cache.entries"
  demand (decide (artifacts.length = cacheEntries.length)) .artifact_identity_mismatch (js "cache.entries")
    "artifact set differs from manifest"
  artifacts.forM (checkArtifact cacheEntries)
  return ⟨manifest, manifestDigest, artifacts⟩

/-! ### `mapBy` -/

/-- The entries of the map of so many items. -/
def keyed {α : Type} (key : α → JsString) (items : List α) : JsMap JsString α := items.map fun item => (key item, item)

theorem keys_keyed {α : Type} (key : α → JsString) (items : List α) : JsMap.keys (keyed key items) = items.map key := by
  unfold JsMap.keys keyed
  rw [List.map_map]
  rfl

theorem addEntry_eq_ok {α : Type} {key : α → JsString} {path : String} {done : List α} {item : α} {next : JsMap JsString α} :
    addEntry key path (keyed key done) item = .ok next ↔ key item ∉ done.map key ∧ next = keyed key (done ++ [item]) := by
  have known : key item ∈ done.map key ↔ key item ∈ JsMap.keys (keyed key done) := by rw [keys_keyed]
  unfold addEntry
  cases found : JsMap.get (keyed key done) (key item) with
  | some other =>
    have present : key item ∈ done.map key := known.mpr (List.mem_map_of_mem (JsMap.mem_of_get found))
    simp [refuse, List.mem_map.mp present]
  | none =>
    have absent := JsMap.get_eq_none.mp found
    have extended : JsMap.set (keyed key done) (key item) item = keyed key (done ++ [item]) := by
      rw [JsMap.set_fresh absent]
      unfold keyed
      rw [List.map_append]
      rfl
    rw [extended, Except.ok.injEq, eq_comm]
    exact ⟨fun same => ⟨fun member => absent (known.mp member), same⟩, And.right⟩

theorem addEntries_eq_ok {α : Type} {key : α → JsString} {path : String} {done items : List α} {map : JsMap JsString α} :
    items.foldlM (addEntry key path) (keyed key done) = .ok map ↔
      (items.map key).Nodup ∧ (∀ item ∈ items, key item ∉ done.map key) ∧ map = keyed key (done ++ items) := by
  induction items generalizing done with
  | nil => simp [eq_comm]
  | cons item rest ih =>
    simp only [List.foldlM_cons, bind_eq_ok, addEntry_eq_ok, List.map_cons, List.nodup_cons, List.forall_mem_cons]
    constructor
    · rintro ⟨_, ⟨absent, rfl⟩, others⟩
      rcases ih.mp others with ⟨nodup, fresh, rfl⟩
      have own : key item ∉ rest.map key := by
        intro member
        rcases List.mem_map.mp member with ⟨other, inside, same⟩
        exact fresh other inside (by simp [same])
      refine ⟨⟨own, nodup⟩, ⟨absent, fun other member present => fresh other member ?_⟩, by rw [List.append_assoc]; rfl⟩
      rw [List.map_append]
      exact List.mem_append_left _ present
    · rintro ⟨⟨own, nodup⟩, ⟨absent, fresh⟩, rfl⟩
      refine ⟨_, ⟨absent, rfl⟩, ih.mpr ⟨nodup, fun other member present => ?_, by rw [List.append_assoc]; rfl⟩⟩
      rw [List.map_append, List.mem_append, List.map_singleton, List.mem_singleton] at present
      rcases present with before | same
      · exact fresh other member before
      · exact own (same ▸ List.mem_map_of_mem member)

/-- The map is made when no two items have one key, and then it holds every item. -/
theorem mapBy_eq_ok {α : Type} {items : List α} {key : α → JsString} {path : String} {map : JsMap JsString α} :
    mapBy items key path = .ok map ↔ (items.map key).Nodup ∧ map = keyed key items := by
  have whole := @addEntries_eq_ok α key path [] items map
  simp only [List.map_nil, List.not_mem_nil, not_false_eq_true, implies_true, true_and, List.nil_append] at whole
  exact whole

theorem get_keyed {α : Type} {key : α → JsString} {items : List α} (distinct : (items.map key).Nodup) {k : JsString} {item : α} :
    JsMap.get (keyed key items) k = some item ↔ item ∈ items ∧ key item = k := by
  constructor
  · intro found
    rcases List.mem_map.mp (JsMap.mem_of_get found) with ⟨own, member, same⟩
    cases same
    exact ⟨member, rfl⟩
  · rintro ⟨member, rfl⟩
    apply JsMap.get_of_mem
    · unfold JsMap.Distinct
      rw [keys_keyed]
      exact distinct
    · exact List.mem_map_of_mem member

/-! ### What a validated distribution is -/

/-- What `validatedDistribution` has compared when it returns. -/
structure Compared [Sha256] (distribution : ValidatedDistribution) (cache : CacheIndex) : Prop where
  digested : frameworkCatalogDigest distribution.manifest.raw = .ok distribution.manifestDigest
  selection : same cache.catalogSelectionRef.json distribution.manifest.catalogSelectionRef.json = .ok true
  digest : cache.distributionManifestSha256 = distribution.manifestDigest
  profile : cache.profileId = distribution.manifest.profileId
  artifactIds : (distribution.manifest.artifacts.map (·.artifactId)).Nodup
  entryIds : (cache.entries.map ArtifactIdentity.artifactId).Nodup
  artifacts : distribution.artifacts = keyed (·.artifactId) distribution.manifest.artifacts
  length : distribution.manifest.artifacts.length = cache.entries.length
  entries : ∀ artifact ∈ distribution.manifest.artifacts, ∃ entry ∈ cache.entries, entry.artifactId = artifact.artifactId ∧
    same artifact.toArtifactIdentity.json entry.json = .ok true

theorem checkArtifact_eq_ok {entries : List ArtifactIdentity} (distinct : (entries.map ArtifactIdentity.artifactId).Nodup)
    {entry : JsString × Artifact} : checkArtifact (keyed ArtifactIdentity.artifactId entries) entry = .ok () ↔
      ∃ observed ∈ entries, observed.artifactId = entry.1 ∧ same entry.2.toArtifactIdentity.json observed.json = .ok true := by
  unfold checkArtifact
  simp only [bind_eq_ok, demand_eq_ok, exists_eq_right]
  cases found : JsMap.get (keyed ArtifactIdentity.artifactId entries) entry.1 with
  | none =>
    constructor
    · intro matched
      cases matched
    · rintro ⟨observed, member, own, _⟩
      have present := (get_keyed distinct).mpr ⟨member, own⟩
      rw [found] at present
      cases present
  | some held =>
    have own := (get_keyed distinct).mp found
    constructor
    · intro matched
      exact ⟨held, own.1, own.2, matched⟩
    · rintro ⟨observed, member, name, matched⟩
      have present := (get_keyed distinct).mpr ⟨member, name⟩
      rw [found] at present
      cases present
      exact matched

theorem validatedDistribution_eq_ok [Platform] [NumberConversion] {manifestRaw cacheRaw : RawText}
    {distribution : ValidatedDistribution} : validatedDistribution manifestRaw cacheRaw = .ok distribution ↔
      ∃ cache, parseManifest manifestRaw = .ok distribution.manifest ∧ parseCache cacheRaw = .ok cache ∧
        Compared distribution cache := by
  unfold validatedDistribution
  simp only [bind_eq_ok, exists_unit, pure_eq_ok, demand_eq_ok, mapBy_eq_ok, forM_eq_ok, Bool.and_eq_true, decide_eq_true_eq,
    Except.ok.injEq]
  constructor
  · rintro ⟨manifest, manifestRead, cache, cacheRead, manifestDigest, digested, selected, selection, ⟨⟨rfl, digest⟩, profile⟩,
      _, ⟨artifactIds, rfl⟩, _, ⟨entryIds, rfl⟩, length, entries, rfl⟩
    have each : ∀ artifact ∈ manifest.artifacts, ∃ entry ∈ cache.entries, entry.artifactId = artifact.artifactId ∧
        same artifact.toArtifactIdentity.json entry.json = .ok true := by
      intro artifact member
      exact (checkArtifact_eq_ok entryIds).mp (entries (artifact.artifactId, artifact) (List.mem_map_of_mem member))
    have sizes : manifest.artifacts.length = cache.entries.length := by simpa [keyed] using length
    exact ⟨cache, manifestRead, cacheRead, digested, selection, digest, profile, artifactIds, entryIds, rfl, sizes, each⟩
  · rintro ⟨cache, manifestRead, cacheRead, compared⟩
    refine ⟨_, manifestRead, cache, cacheRead, _, compared.digested, true, compared.selection,
      ⟨⟨rfl, compared.digest⟩, compared.profile⟩, _, ⟨compared.artifactIds, rfl⟩, _, ⟨compared.entryIds, rfl⟩, ?_, ?_, ?_⟩
    · simpa [keyed] using compared.length
    · intro entry member
      rcases List.mem_map.mp member with ⟨artifact, inside, rfl⟩
      exact (checkArtifact_eq_ok compared.entryIds).mpr (compared.entries artifact inside)
    · rw [← compared.artifacts]

end Mirror.Framework
