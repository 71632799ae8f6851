import MirrorECMA.Framework.Correspondence
import MirrorECMA.Framework.Installed

namespace Mirror.Framework

open ECMA
open Mirror.ModelInterface (Sha256)
open Mirror.Reproduction (Platform RawText SHA256)

/-! ### The platform -/

/-- Every constraint on the platform of a capability that the profile requires holds of this platform. -/
def PlatformConstraintsHold (catalog : Catalog) (profile : DistributionProfile) (platform : PlatformIdentity) : Prop :=
  ∀ capability ∈ catalog.capabilities, capability.capabilityId ∈ profile.requiredCapabilityIds →
    ∀ constraint ∈ capability.constraints, constraint.factKind = js "platformField" →
      constraint.satisfiedBy (platformField platform constraint.factId) = true

section

variable [Platform] [NumberConversion] {catalogRaw : RawText} {input : FrameworkPreflightInput} {selection : FrameworkPreflightMatch}

theorem Resolved.platformConstraints {r : Resolution} (resolved : Resolved catalogRaw input r selection) :
    PlatformConstraintsHold r.catalog r.profile r.combination.platform := by
  intro capability member required constraint among kind
  have coherent := parseCatalog_coherent resolved.catalog
  rcases checkCapability_ok coherent (resolved.capabilities _ required) with ⟨found, inside, name, constraints, _⟩
  have own : found = capability := eq_of_key coherent.capabilityIds inside member name
  subst own
  have holds := constraints constraint among
  unfold Facts.actual at holds
  rw [if_pos kind] at holds
  exact holds

/-- A matched preflight qualifies the observed platform just when the combination and the profile are for one platform. -/
theorem platform_qualified_iff (matched : preflightFrameworkSelection catalogRaw input = .matched selection) {catalog : Catalog}
    (parsed : parseCatalog catalogRaw = .ok catalog) {combination : Combination} (known : combination ∈ catalog.combinations)
    (chosen : combination.combinationId = input.combinationId) {profile : DistributionProfile}
    (listed : profile ∈ catalog.distributionProfiles) (named : profile.profileId = input.observed.policy.catalogProfileId) :
    selection.platform = input.observed.platform ∧ PlatformConstraintsHold catalog profile input.observed.platform ↔
      combination.platform = profile.platform := by
  rcases resolved_of_matched matched with ⟨r, resolved⟩
  have catalogs : r.catalog = catalog := Except.ok.inj (resolved.catalog.symm.trans parsed)
  subst catalogs
  have coherent := parseCatalog_coherent parsed
  rcases selectCombination_ok resolved.combination with ⟨combinationMember, combinationName, _⟩
  rcases selectProfile_ok coherent resolved.profile with ⟨profileMember, profileName, located⟩
  have combinations : r.combination = combination :=
    eq_of_key coherent.combinationIds combinationMember known (combinationName.trans chosen.symm)
  have profiles : r.profile = profile := eq_of_key coherent.profileIds profileMember listed (profileName.trans named.symm)
  subst combinations profiles
  rw [resolved.platform, located]
  constructor
  · exact And.left
  · intro same
    exact ⟨same, same ▸ resolved.platformConstraints⟩

/-- The combination and the profile of a matched preflight. -/
theorem parts_of_matched (matched : preflightFrameworkSelection catalogRaw input = .matched selection) :
    ∃ catalog combination profile, parseCatalog catalogRaw = .ok catalog ∧ combination ∈ catalog.combinations ∧
      combination.combinationId = input.combinationId ∧ profile ∈ catalog.distributionProfiles ∧
      profile.profileId = input.observed.policy.catalogProfileId := by
  rcases resolved_of_matched matched with ⟨r, resolved⟩
  rcases selectCombination_ok resolved.combination with ⟨known, chosen, _⟩
  rcases selectProfile_ok (parseCatalog_coherent resolved.catalog) resolved.profile with ⟨listed, named, _⟩
  exact ⟨r.catalog, r.combination, r.profile, resolved.catalog, known, chosen, listed, named⟩

end

theorem even_platform_qualified : letI := Small.platform; letI := integerLiterals;
    ∃ (selection : FrameworkPreflightMatch) (catalog : Catalog) (combination : Combination) (profile : DistributionProfile),
    preflightFrameworkSelection (.text Small.spaced) Small.even = .matched selection ∧
      (selection.platform = Small.even.observed.platform ∧ PlatformConstraintsHold catalog profile Small.even.observed.platform ↔
        combination.platform = profile.platform) := by
  let _ := Small.platform
  let _ := integerLiterals
  rcases Small.matchedOn_iff.mp Small.even_matched with ⟨selection, matched, _⟩
  rcases parts_of_matched matched with ⟨catalog, combination, profile, parsed, known, chosen, listed, named⟩
  exact ⟨selection, catalog, combination, profile, matched, platform_qualified_iff matched parsed known chosen listed named⟩

/-- A matched preflight returns another platform than the one that was observed. -/
theorem odd_platform : letI := Small.platform; letI := integerLiterals; ∃ selection,
    preflightFrameworkSelection (.text Small.spaced) Small.odd = .matched selection ∧
      selection.platform ≠ Small.odd.observed.platform := by
  let _ := Small.platform
  let _ := integerLiterals
  rcases Small.matchedOn_iff.mp Small.odd_matched with ⟨selection, matched, platform⟩
  refine ⟨selection, matched, ?_⟩
  rw [platform]
  decide

/-! ### The evidence of the catalog -/

/-- The catalog has an evidence reference of this identifier. -/
def Defines (raw : Json) (evidenceId : JsString) : Prop :=
  ∃ root refs item, raw = .object root ∧ Fields.get root (js "evidenceRefs") = some (.array refs) ∧ .object item ∈ refs ∧
    Fields.get item (js "evidenceId") = some (.string evidenceId)

/-- What an evidence list of the catalog defines. -/
def DefinedIn (refs : List Json) (evidenceId : JsString) : Prop :=
  ∃ item, .object item ∈ refs ∧ Fields.get item (js "evidenceId") = some (.string evidenceId)

theorem object_ok {value : Option Json} {path : JsString} {keys required : List String} {fields : Fields Json}
    (read : object value path keys required = .ok fields) : value = some (.object fields) := by
  unfold object at read
  split at read
  · simp only [bind_eq_ok, exists_unit, pure_eq_ok, Except.ok.injEq] at read
    rcases read with ⟨_, _, rfl⟩
    rfl
  · cases read

theorem array_ok {value : Option Json} {path : JsString} {max : Nat} {items : List Json} (read : array value path max = .ok items) :
    value = some (.array items) := by
  unfold array at read
  split at read
  · split at read
    · cases read
      rfl
    · cases read
  · cases read

theorem text_ok {value : Option Json} {path result : JsString} (read : text value path = .ok result) :
    value = some (.string result) := by
  unfold text at read
  split at read
  · split at read
    · unfold scalarString at read
      split at read
      · cases read
        rfl
      · cases read
    · cases read
  · cases read

theorem id_ok {value : Option Json} {path result : JsString} (read : id value path = .ok result) :
    value = some (.string result) := by
  unfold id at read
  simp only [bind_eq_ok, exists_unit, pure_eq_ok, Except.ok.injEq] at read
  rcases read with ⟨found, own, _, rfl⟩
  exact text_ok own

/-- One more evidence reference keeps every identifier defined. -/
theorem parseEvidence_defined {ids next : List JsString} {done : List (Json × Nat)} {entry : Json × Nat}
    (known : ∀ id ∈ ids, DefinedIn (done.map Prod.fst) id) (read : parseEvidence ids entry = .ok next) :
    ∀ id ∈ next, DefinedIn ((done ++ [entry]).map Prod.fst) id := by
  unfold parseEvidence at read
  simp only [bind_eq_ok, exists_unit, pure_eq_ok, Except.ok.injEq] at read
  rcases read with ⟨item, itemRead, evidenceId, idRead, _, _, _, _, _, _, _, _, _, _, rfl⟩
  intro id member
  rw [List.map_append]
  rcases List.mem_append.mp member with before | own
  · rcases known id before with ⟨other, among, found⟩
    exact ⟨other, List.mem_append_left _ among, found⟩
  · have same := List.mem_singleton.mp own
    subst same
    have shape : entry.1 = .object item := Option.some.inj (object_ok itemRead)
    exact ⟨item, List.mem_append_right _ (by simp [shape]), id_ok idRead⟩

theorem parseObservation_ok {ids : List JsString} {observations : Fields Json} {dimension : String} {result : JsString × Observation}
    (read : parseObservation ids observations dimension = .ok result) {evidenceId : JsString}
    (referenced : result.2.evidenceId = some evidenceId) : evidenceId ∈ ids := by
  unfold parseObservation at read
  simp only [bind_eq_ok, exists_unit, demand_eq_ok, pure_eq_ok, Except.ok.injEq] at read
  rcases read with ⟨_, _, state, _, _, evidence, _, valid, rfl⟩
  have own : evidence = some evidenceId := referenced
  subst own
  unfold evidenceInvalid at valid
  simp only [Option.any_some, Bool.not_or, Bool.and_eq_true, Bool.not_not, decide_eq_true_eq] at valid
  exact valid.2

theorem parseCapability_evidence {ids : List JsString} {entry : Json} {index : Nat} {capability : Capability}
    (read : parseCapability ids entry index = .ok capability) {dimension : JsString} {observation : Observation}
    (observed : Fields.get capability.observations dimension = some observation) {evidenceId : JsString}
    (referenced : observation.evidenceId = some evidenceId) : evidenceId ∈ ids := by
  unfold parseCapability at read
  simp only [bind_eq_ok, exists_unit, pure_eq_ok, Except.ok.injEq] at read
  rcases read with ⟨_, _, _, _, _, _, _, _, _, _, _, _, _, _, _, _, _, decoded, decodedRead, _, _, _, _, _, _, _, rfl⟩
  rcases forall₂_right (mapM_eq_ok.mp decodedRead) (Fields.mem_of_get observed) with ⟨_, _, own⟩
  exact parseObservation_ok own referenced

theorem parseCombination_state {ids : List JsString} {entry : Json} {combination : Combination}
    (read : parseCombination ids entry = .ok combination) :
    combination.declaredState ∈ ["candidate", "supported", "unsupported"].map js := by
  unfold parseCombination at read
  simp only [bind_eq_ok, exists_unit, oneOf, demand_eq_ok, decide_eq_true_eq, pure_eq_ok, Except.ok.injEq] at read
  rcases read with ⟨_, _, _, _, _, declaredState, _, state, _, _, _, _, _, _, _, _, _, _, rfl⟩
  exact state

/-- What parsing the catalog has checked of its evidence and its states. -/
structure Catalog.Evidenced (catalog : Catalog) : Prop where
  evidence : ∀ capability ∈ catalog.capabilities, ∀ dimension observation,
    Fields.get capability.observations dimension = some observation → ∀ evidenceId, observation.evidenceId = some evidenceId →
      Defines catalog.raw evidenceId
  states : ∀ combination ∈ catalog.combinations, combination.declaredState ∈ ["candidate", "supported", "unsupported"].map js

theorem parseCatalog_evidenced [Platform] [NumberConversion] {raw : RawText} {catalog : Catalog}
    (parsed : parseCatalog raw = .ok catalog) : catalog.Evidenced := by
  unfold parseCatalog at parsed
  simp only [bind_eq_ok, exists_unit, pure_eq_ok, Except.ok.injEq] at parsed
  rcases parsed with ⟨json, _, root, rootRead, _, _, _, _, _, _, _, refs, refsRead, ids, idsRead, _, _, capabilities, capabilitiesRead,
    _, _, _, _, _, _, combinations, combinationsRead, _, _, _, rfl⟩
  have defined := foldlM_ok (P := fun ids done => ∀ id ∈ ids, DefinedIn (done.map Prod.fst) id)
    (fun _ _ _ _ known read => parseEvidence_defined known read) (by simp) idsRead
  rw [List.zipIdx_map_fst] at defined
  refine ⟨?_, ?_⟩
  · intro capability member dimension observation observed evidenceId referenced
    rcases mem_mapIndexed capabilitiesRead member with ⟨entry, index, read⟩
    rcases defined evidenceId (parseCapability_evidence read observed referenced) with ⟨item, among, found⟩
    exact ⟨root, refs, item, Option.some.inj (object_ok rootRead), array_ok refsRead, among, found⟩
  · intro combination member
    rcases forall₂_right (mapM_eq_ok.mp combinationsRead) member with ⟨entry, _, read⟩
    exact parseCombination_state read

/-! ### What qualifies as supported -/

/-- Every required capability is accepted in every required dimension, with evidence that the catalog defines. -/
def ObservedAccepted (catalog : Catalog) (profile : DistributionProfile) : Prop :=
  ∀ capabilityId ∈ profile.requiredCapabilityIds, ∃ capability ∈ catalog.capabilities, capability.capabilityId = capabilityId ∧
    ∀ dimension ∈ profile.requiredObservationDimensions, ∃ observation,
      Fields.get capability.observations dimension = some observation ∧ observation.state = js "accepted" ∧
        ∃ evidenceId, observation.evidenceId = some evidenceId ∧ Defines catalog.raw evidenceId

/-- An accepted and verified approval of these parts. -/
structure Approves [Sha256] (approval : FrameworkApprovalDecision) (catalogDigest combinationId manifestDigest : JsString)
    (cacheIndexRaw : RawText) : Prop where
  accepted : approval.qualification = js "accepted"
  verified : approval.integrity = js "verified"
  catalog : approval.selectedCatalogRef.selectionValue = catalogDigest
  other : approval.approvalCatalogRef.selectionValue ≠ catalogDigest
  digest : SHA256 approval.approvalCatalogRef.selectionValue = true
  combination : approval.combinationId = combinationId
  manifest : approval.distributionManifestSha256 = manifestDigest
  cache : approval.cacheIndexSha256 = Sha256.hexDigest (jsonInputBytes cacheIndexRaw)

theorem checkApproval_ok [Sha256] {input : FrameworkPreflightInput} {combination : Combination} {manifestDigest : JsString}
    {approvedCandidate : Bool} (checked : checkApproval input combination manifestDigest = .ok approvedCandidate) :
    (approvedCandidate = true → combination.declaredState = js "candidate") ∧
      (approvedCandidate = true → ∃ approval, input.approval = some approval ∧
        Approves approval input.selectionRef.selectionValue combination.combinationId manifestDigest input.observed.cacheIndexRaw) := by
  unfold checkApproval at checked
  split at checked
  · cases checked
    simp
  · rename_i approval present
    simp only [bind_eq_ok, exists_unit, demand_eq_ok, pure_eq_ok, Except.ok.injEq] at checked
    rcases checked with ⟨valid, validated, rfl, rfl⟩
    refine ⟨fun candidate => of_decide_eq_true candidate, fun _ => ⟨approval, present, ?_⟩⟩
    unfold approvalValid at validated
    split at validated
    · cases validated
    · simp only [bind_eq_ok, pure_eq_ok, Except.ok.injEq, Bool.and_eq_true, decide_eq_true_eq] at validated
      rcases validated with ⟨selected, compared, ⟨⟨⟨⟨⟨⟨⟨⟨⟨⟨⟨⟨⟨rfl, _⟩, _⟩, digest⟩, other⟩, name⟩, manifest⟩, cache⟩, accepted⟩, verified⟩, _⟩,
        _⟩, _⟩, _⟩, _⟩
      have same := CatalogSelectionRef.eq_of_same compared
      exact ⟨accepted, verified, congrArg CatalogSelectionRef.selectionValue same, other, digest, name, manifest, cache⟩

section

variable [Platform] [NumberConversion] {catalogRaw : RawText} {input : FrameworkPreflightInput} {selection : FrameworkPreflightMatch}

theorem Resolved.observedAccepted {r : Resolution} (resolved : Resolved catalogRaw input r selection)
    (admission : input.observed.policy.admission = js "support-required") (unapproved : r.approvedCandidate = false) :
    ObservedAccepted r.catalog r.profile := by
  intro capabilityId required
  have coherent := parseCatalog_coherent resolved.catalog
  rcases checkCapability_ok coherent (resolved.capabilities capabilityId required) with ⟨capability, member, name, _, dimensions⟩
  refine ⟨capability, member, name, fun dimension among => ?_⟩
  unfold dimensionsOf at dimensions
  rw [if_pos ⟨admission, unapproved⟩] at dimensions
  rcases dimensions dimension among with ⟨observation, found, accepted⟩
  unfold Observation.isAccepted at accepted
  simp only [Bool.and_eq_true, decide_eq_true_eq] at accepted
  rcases Option.isSome_iff_exists.mp accepted.2 with ⟨evidenceId, referenced⟩
  exact ⟨observation, found, accepted.1, evidenceId, referenced,
    (parseCatalog_evidenced resolved.catalog).evidence capability member dimension observation found evidenceId referenced⟩

/-- What a matched preflight says of support is earned. -/
theorem supportQualified_earned (matched : preflightFrameworkSelection catalogRaw input = .matched selection) {catalog : Catalog}
    (parsed : parseCatalog catalogRaw = .ok catalog) {combination : Combination} (known : combination ∈ catalog.combinations)
    (chosen : combination.combinationId = input.combinationId) {profile : DistributionProfile}
    (listed : profile ∈ catalog.distributionProfiles) (named : profile.profileId = input.observed.policy.catalogProfileId)
    {distribution : ValidatedDistribution}
    (validated : validatedDistribution input.observed.distributionManifestRaw input.observed.cacheIndexRaw = .ok distribution) :
    (combination.declaredState = js "supported" ∨ combination.declaredState = js "candidate") ∧
      frameworkCatalogDigest catalog.raw = .ok selection.catalogSelectionRef.selectionValue ∧
      (selection.supportQualified = true → input.observed.policy.admission = js "support-required" ∧
        (combination.declaredState = js "supported" ∧ ObservedAccepted catalog profile ∨
          combination.declaredState = js "candidate" ∧ ∃ approval, input.approval = some approval ∧
            ∃ manifestDigest, frameworkCatalogDigest distribution.manifest.raw = .ok manifestDigest ∧
              Approves approval selection.catalogSelectionRef.selectionValue combination.combinationId manifestDigest
                input.observed.cacheIndexRaw)) := by
  rcases resolved_of_matched matched with ⟨r, resolved⟩
  have catalogs : r.catalog = catalog := Except.ok.inj (resolved.catalog.symm.trans parsed)
  have distributions : r.distribution = distribution := Except.ok.inj (resolved.distribution.symm.trans validated)
  subst catalogs distributions
  have coherent := parseCatalog_coherent parsed
  rcases selectCombination_ok resolved.combination with ⟨combinationMember, combinationName, supported⟩
  rcases selectProfile_ok coherent resolved.profile with ⟨profileMember, profileName, _⟩
  have combinations : r.combination = combination :=
    eq_of_key coherent.combinationIds combinationMember known (combinationName.trans chosen.symm)
  have profiles : r.profile = profile := eq_of_key coherent.profileIds profileMember listed (profileName.trans named.symm)
  subst combinations profiles
  have states := (parseCatalog_evidenced parsed).states r.combination known
  simp only [List.map_cons, List.map_nil, List.mem_cons, List.not_mem_nil, or_false] at states
  have state : r.combination.declaredState = js "supported" ∨ r.combination.declaredState = js "candidate" := by
    rcases states with candidate | isSupported | unsupported
    · exact .inr candidate
    · exact .inl isSupported
    · exact absurd unsupported supported
  have digest : frameworkCatalogDigest r.catalog.raw = .ok selection.catalogSelectionRef.selectionValue := by
    rcases resolved.digest with ⟨catalogDigest, digested, selected⟩
    unfold checkSelectionRef at selected
    simp only [demand_eq_ok, Bool.and_eq_true, decide_eq_true_eq] at selected
    rw [resolved.selectionRef, selected.2]
    exact digested
  refine ⟨state, digest, fun qualified => ?_⟩
  rw [resolved.supportQualified, Bool.and_eq_true, decide_eq_true_eq] at qualified
  rcases qualified with ⟨admission, _⟩
  refine ⟨admission, ?_⟩
  have approval := checkApproval_ok resolved.approval
  cases approved : r.approvedCandidate with
  | false =>
    have isSupported : r.combination.declaredState = js "supported" := by
      have checked := resolved.approved
      unfold checkApproved at checked
      rw [demand_eq_ok, approved, admission] at checked
      simpa using checked
    exact .inl ⟨isSupported, resolved.observedAccepted admission approved⟩
  | true =>
    rcases approval.2 approved with ⟨decision, present, approves⟩
    rcases validatedDistribution_eq_ok.mp validated with ⟨_, _, _, compared⟩
    rw [← resolved.selectionRef] at approves
    exact .inr ⟨approval.1 approved, decision, present, r.distribution.manifestDigest, compared.digested, approves⟩

end

theorem even_support_earned : letI := Small.platform; letI := integerLiterals;
    ∃ (selection : FrameworkPreflightMatch) (catalog : Catalog) (combination : Combination),
    preflightFrameworkSelection (.text Small.spaced) Small.even = .matched selection ∧
      parseCatalog (.text Small.spaced) = .ok catalog ∧
      (combination.declaredState = js "supported" ∨ combination.declaredState = js "candidate") ∧
      frameworkCatalogDigest catalog.raw = .ok selection.catalogSelectionRef.selectionValue := by
  let _ := Small.platform
  let _ := integerLiterals
  rcases Small.matchedOn_iff.mp Small.even_matched with ⟨selection, matched, _⟩
  rcases parts_of_matched matched with ⟨catalog, combination, profile, parsed, known, chosen, listed, named⟩
  rcases sources_of_matched matched with ⟨_, distribution, _, validated⟩
  have earned := supportQualified_earned matched parsed known chosen listed named validated
  exact ⟨selection, catalog, combination, matched, parsed, earned.1, earned.2.1⟩

/-- The digest of a matched selection is not the one of the bytes of the catalog. -/
theorem spaced_digest : letI := Small.platform; letI := integerLiterals; ∃ selection,
    preflightFrameworkSelection (.text Small.spaced) Small.odd = .matched selection ∧
      selection.catalogSelectionRef.selectionValue ≠ Sha256.hexDigest (jsonInputBytes (.text Small.spaced)) := by
  let _ := Small.platform
  let _ := integerLiterals
  rcases Small.matchedOn_iff.mp Small.odd_matched with ⟨selection, matched, _⟩
  rcases resolved_of_matched matched with ⟨r, resolved⟩
  refine ⟨selection, matched, ?_⟩
  rw [resolved.selectionRef]
  show Small.catalogDigest ≠ Small.sha256 (utf8Bytes Small.spaced)
  decide +kernel

end Mirror.Framework
