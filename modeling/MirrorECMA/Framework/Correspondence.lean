import MirrorECMA.Framework.Distribution
import Mathlib.Data.List.Perm.Subperm

namespace Mirror.Framework

open ECMA
open Mirror.ModelInterface (Sha256)
open Mirror.Reproduction (Platform RawText)

/-! ### Artifacts as they are compared -/

/-- An artifact with its byte count as a number of bytes, for which `-0` and 0 are one. -/
structure CountedArtifact where
  artifactId : JsString
  path : JsString
  byteCount : Option Int
  sha256 : JsString
  mode : JsString

namespace ArtifactIdentity

def counted (artifact : ArtifactIdentity) : CountedArtifact :=
  ⟨artifact.artifactId, artifact.path, artifact.bytes.toInt?, artifact.sha256, artifact.mode⟩

structure Plain (artifact : ArtifactIdentity) : Prop where
  artifactId : isWellFormed artifact.artifactId = true
  path : isWellFormed artifact.path = true
  bytes : artifact.bytes.isSafeInteger = true
  sha256 : isWellFormed artifact.sha256 = true
  mode : isWellFormed artifact.mode = true

theorem keysDistinct (artifact : ArtifactIdentity) : artifact.json.KeysDistinct := by
  apply Json.KeysDistinct.object
  · show List.Nodup [js "artifactId", js "path", js "bytes", js "sha256", js "mode"]
    decide
  · simp only [fields, List.forall_mem_cons]
    exact ⟨.string _, .string _, .number _, .string _, .string _, by simp⟩

theorem Plain.renderable {artifact : ArtifactIdentity} (plain : artifact.Plain) : Renderable artifact.json := by
  apply renderable_object.mpr
  simp only [fields, List.forall_mem_cons]
  exact ⟨⟨by decide, .string plain.artifactId⟩, ⟨by decide, .string plain.path⟩, ⟨by decide, .number plain.bytes⟩,
    ⟨by decide, .string plain.sha256⟩, ⟨by decide, .string plain.mode⟩, by simp⟩

theorem counted_of_same {artifact other : ArtifactIdentity} (compared : same artifact.json other.json = .ok true) :
    artifact.counted = other.counted := by
  have alike := (alike_of_same artifact.keysDistinct other.keysDistinct compared).get (by cases artifact.keysDistinct; assumption)
  have artifactId := text_of_rel (alike (js "artifactId"))
  have path := text_of_rel (alike (js "path"))
  have bytes : artifact.bytes.toInt? = other.bytes.toInt? := by
    have numbers := alike (js "bytes")
    have unsigned (d : Double) : d.unsigned.toInt? = d.toInt? := by cases d <;> rfl
    cases numbers with
    | some numbers => rw [← unsigned, Json.alike_number.mp numbers, unsigned]
  have sha256 := text_of_rel (alike (js "sha256"))
  have mode := text_of_rel (alike (js "mode"))
  unfold counted
  rw [artifactId, path, bytes, sha256, mode]

/-- The comparison of the code reads no more of an artifact than this. -/
theorem same_iff_counted {artifact other : ArtifactIdentity} (plain : artifact.Plain) :
    same artifact.json other.json = .ok true ↔ artifact.counted = other.counted := by
  constructor
  · exact counted_of_same
  · intro same
    simp only [counted, CountedArtifact.mk.injEq] at same
    rcases same with ⟨artifactId, path, bytes, sha256, mode⟩
    have number : canonicalFrameworkJson (.number artifact.bytes) = canonicalFrameworkJson (.number other.bytes) := by
      have safe : artifact.bytes.isSafeInteger = other.bytes.isSafeInteger := by
        unfold Double.isSafeInteger
        rw [bytes]
      rw [canonicalFrameworkJson, canonicalFrameworkJson, safe, bytes]
    have rendered : canonicalFrameworkJson artifact.json = canonicalFrameworkJson other.json := by
      unfold json fields
      rw [canonicalFrameworkJson, canonicalFrameworkJson, artifactId, path, sha256, mode]
      simp only [canonicalFields, number]
    exact same_iff.mpr ⟨_, canonical_ok.mpr ⟨plain.renderable, rfl⟩, rendered ▸ canonical_ok.mpr ⟨plain.renderable, rfl⟩⟩

end ArtifactIdentity

/-! ### What the parsers read -/

theorem mem_mapIndexed {α β : Type} {read : α → Nat → Checked β} {items : List α} {results : List β}
    (mapped : mapIndexed read items = .ok results) {result : β} (member : result ∈ results) :
    ∃ item index, read item index = .ok result := by
  rcases forall₂_right (mapM_eq_ok.mp mapped) member with ⟨entry, _, found⟩
  exact ⟨entry.1, entry.2, found⟩

theorem wellFormed_literal {value : Option Json} {literals : List String} {code : FrameworkRefusalCode} {path result : JsString}
    {detail : String} (ascii : ∀ found ∈ literals, isWellFormed (js found) = true)
    (read : literal value literals code path detail = .ok result) : isWellFormed result = true := by
  rcases literal_mem read with ⟨found, member, rfl⟩
  exact ascii found member

theorem parseArtifact_plain {entry : Json} {index : Nat} {artifact : Artifact} (read : parseArtifact entry index = .ok artifact) :
    artifact.toArtifactIdentity.Plain := by
  unfold parseArtifact at read
  simp only [bind_eq_ok, exists_unit, demand_eq_ok, pure_eq_ok, Except.ok.injEq] at read
  rcases read with ⟨_, _, _, _, mode, modeRead, _, _, _, _, _, _, _, _, artifactId, idRead, path, pathRead, _, _, bytes, bytesRead,
    sha256, digestRead, rfl⟩
  exact ⟨id_wellFormed idRead, pathValue_wellFormed pathRead, integer_safe bytesRead, digest_wellFormed digestRead,
    wellFormed_literal (by decide) modeRead⟩

theorem parseEntry_plain {entry : Json} {index : Nat} {artifact : ArtifactIdentity} (read : parseEntry entry index = .ok artifact) :
    artifact.Plain := by
  unfold parseEntry at read
  simp only [bind_eq_ok, pure_eq_ok, Except.ok.injEq] at read
  rcases read with ⟨_, _, mode, modeRead, artifactId, idRead, path, pathRead, bytes, bytesRead, sha256, digestRead, rfl⟩
  exact ⟨id_wellFormed idRead, pathValue_wellFormed pathRead, integer_safe bytesRead, digest_wellFormed digestRead,
    wellFormed_literal (by decide) modeRead⟩

theorem selection_renderable {value : Option Json} {path : JsString} {ref : CatalogSelectionRef}
    (read : selection value path = .ok ref) : Renderable ref.json := by
  unfold selection at read
  simp only [bind_eq_ok, exists_unit, demand_eq_ok, pure_eq_ok, Except.ok.injEq] at read
  rcases read with ⟨_, _, _, selectionValue, digestRead, rfl⟩
  apply renderable_object.mpr
  simp only [CatalogSelectionRef.fields, List.forall_mem_cons]
  exact ⟨⟨by decide, .string (by decide)⟩, ⟨by decide, .string (by decide)⟩,
    ⟨by decide, .string (digest_wellFormed digestRead)⟩, by simp⟩

section

variable [Platform] [NumberConversion]

theorem parseManifest_plain {raw : RawText} {manifest : DistributionManifest} (read : parseManifest raw = .ok manifest) :
    Renderable manifest.catalogSelectionRef.json ∧ ∀ artifact ∈ manifest.artifacts, artifact.toArtifactIdentity.Plain := by
  unfold parseManifest at read
  simp only [bind_eq_ok, exists_unit, demand_eq_ok, pure_eq_ok, Except.ok.injEq] at read
  rcases read with ⟨_, _, _, _, _, _, _, _, _, _, _, _, _, _, _, _, artifacts, artifactsRead, _, _, _, _, _, _, _,
    ref, selectionRead, _, _, _, _, _, _, rfl⟩
  refine ⟨selection_renderable selectionRead, fun artifact member => ?_⟩
  rcases mem_mapIndexed artifactsRead member with ⟨entry, index, own⟩
  exact parseArtifact_plain own

theorem parseCache_plain {raw : RawText} {cache : CacheIndex} (read : parseCache raw = .ok cache) :
    Renderable cache.catalogSelectionRef.json := by
  unfold parseCache at read
  simp only [bind_eq_ok, exists_unit, demand_eq_ok, pure_eq_ok, Except.ok.injEq] at read
  rcases read with ⟨_, _, _, _, _, _, _, _, _, _, _, ref, selectionRead, _, _, rfl⟩
  exact selection_renderable selectionRead

end

/-! ### The exact correspondence -/

section

variable [Platform]

/-- A manifest and a cache of the same artifacts, made for each other. -/
structure Corresponds (manifest : DistributionManifest) (cache : CacheIndex) : Prop where
  artifactIds : (manifest.artifacts.map (·.artifactId)).Nodup
  entryIds : (cache.entries.map (·.artifactId)).Nodup
  bijection : (manifest.artifacts.map fun artifact => artifact.toArtifactIdentity.counted).Perm
    (cache.entries.map ArtifactIdentity.counted)
  digest : frameworkCatalogDigest manifest.raw = .ok cache.distributionManifestSha256
  profile : cache.profileId = manifest.profileId
  selection : cache.catalogSelectionRef = manifest.catalogSelectionRef

theorem Compared.corresponds {distribution : ValidatedDistribution} {cache : CacheIndex} (compared : Compared distribution cache) :
    Corresponds distribution.manifest cache where
  artifactIds := compared.artifactIds
  entryIds := compared.entryIds
  bijection := by
    have distinct : (distribution.manifest.artifacts.map fun artifact => artifact.toArtifactIdentity.counted).Nodup := by
      apply List.Nodup.of_map CountedArtifact.artifactId
      rw [List.map_map]
      exact compared.artifactIds
    have inside : (distribution.manifest.artifacts.map fun artifact => artifact.toArtifactIdentity.counted) ⊆
        cache.entries.map ArtifactIdentity.counted := by
      intro counted member
      rcases List.mem_map.mp member with ⟨artifact, own, rfl⟩
      rcases compared.entries artifact own with ⟨entry, among, _, same⟩
      rw [ArtifactIdentity.counted_of_same same]
      exact List.mem_map_of_mem among
    apply (List.subperm_of_subset distinct inside).perm_of_length_le
    rw [List.length_map, List.length_map, compared.length]
  digest := compared.digest ▸ compared.digested
  profile := compared.profile
  selection := CatalogSelectionRef.eq_of_same compared.selection

theorem Corresponds.compared {manifest : DistributionManifest} {cache : CacheIndex} (corresponds : Corresponds manifest cache)
    (ref : Renderable cache.catalogSelectionRef.json) (plain : ∀ artifact ∈ manifest.artifacts, artifact.toArtifactIdentity.Plain) :
    Compared ⟨manifest, cache.distributionManifestSha256, keyed (·.artifactId) manifest.artifacts⟩ cache where
  digested := corresponds.digest
  selection := by
    rw [← corresponds.selection]
    exact same_iff.mpr ⟨_, canonical_ok.mpr ⟨ref, rfl⟩, canonical_ok.mpr ⟨ref, rfl⟩⟩
  digest := rfl
  profile := corresponds.profile
  artifactIds := corresponds.artifactIds
  entryIds := corresponds.entryIds
  artifacts := rfl
  length := by simpa using corresponds.bijection.length_eq
  entries := by
    intro artifact member
    have among := corresponds.bijection.subset (List.mem_map_of_mem member)
    rcases List.mem_map.mp among with ⟨entry, inside, same⟩
    exact ⟨entry, inside, congrArg CountedArtifact.artifactId same,
      (ArtifactIdentity.same_iff_counted (plain artifact member)).mpr same.symm⟩

theorem validated_iff_corresponds [NumberConversion] (distributionManifestRaw cacheIndexRaw : RawText) :
    (∃ distribution, validatedDistribution distributionManifestRaw cacheIndexRaw = .ok distribution) ↔
      ∃ manifest cache, parseManifest distributionManifestRaw = .ok manifest ∧ parseCache cacheIndexRaw = .ok cache ∧
        Corresponds manifest cache := by
  constructor
  · intro validated
    rcases validated with ⟨distribution, returned⟩
    rcases validatedDistribution_eq_ok.mp returned with ⟨cache, manifestRead, cacheRead, compared⟩
    exact ⟨distribution.manifest, cache, manifestRead, cacheRead, compared.corresponds⟩
  · intro corresponding
    rcases corresponding with ⟨manifest, cache, manifestRead, cacheRead, corresponds⟩
    have compared := corresponds.compared (parseCache_plain cacheRead) (parseManifest_plain manifestRead).2
    exact ⟨_, validatedDistribution_eq_ok.mpr ⟨cache, manifestRead, cacheRead, compared⟩⟩

end

end Mirror.Framework
