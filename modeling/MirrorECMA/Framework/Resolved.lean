import MirrorECMA.Framework.Preflight

namespace Mirror.Framework

open ECMA
open Mirror.Reproduction (Platform RawText)

/-! ### Maps of what has its own key -/

theorem foldl_set_keyed {α : Type} {key : α → JsString} {items : List α} (distinct : (items.map key).Nodup) {done : List α}
    (fresh : ∀ item ∈ items, key item ∉ done.map key) :
    (keyed key items).foldl (fun map entry => JsMap.set map entry.1 entry.2) (keyed key done) = keyed key (done ++ items) := by
  induction items generalizing done with
  | nil => simp [keyed]
  | cons item rest ih =>
    have absent : key item ∉ JsMap.keys (keyed key done) := by
      rw [keys_keyed]
      exact fresh item List.mem_cons_self
    have extended : JsMap.set (keyed key done) (key item) item = keyed key (done ++ [item]) := by
      rw [JsMap.set_fresh absent]
      unfold keyed
      rw [List.map_append]
      rfl
    rw [List.map_cons, List.nodup_cons] at distinct
    have others : ∀ other ∈ rest, key other ∉ (done ++ [item]).map key := by
      intro other member known
      rw [List.map_append, List.mem_append, List.map_singleton, List.mem_singleton] at known
      rcases known with before | same
      · exact fresh other (List.mem_cons_of_mem item member) before
      · exact distinct.1 (same ▸ List.mem_map_of_mem member)
    show (keyed key rest).foldl _ (JsMap.set (keyed key done) (key item) item) = _
    rw [extended, ih distinct.2 others, List.append_assoc]
    rfl

theorem get_mapOf {α : Type} {key : α → JsString} {items : List α} (distinct : (items.map key).Nodup) {k : JsString} {item : α} :
    JsMap.get (mapOf (items.map fun item => (key item, item))) k = some item ↔ item ∈ items ∧ key item = k := by
  have made : mapOf (items.map fun item => (key item, item)) = keyed key items :=
    foldl_set_keyed distinct (show ∀ item ∈ items, key item ∉ ([] : List α).map key by simp)
  rw [made]
  exact get_keyed distinct

/-! ### What the catalog has checked of itself -/

structure Catalog.Coherent (catalog : Catalog) : Prop where
  componentIds : (catalog.components.map Component.id).Nodup
  capabilityIds : (catalog.capabilities.map Capability.capabilityId).Nodup
  profileIds : (catalog.distributionProfiles.map DistributionProfile.profileId).Nodup
  combinationIds : (catalog.combinations.map Combination.combinationId).Nodup
  capabilities : ∀ combination ∈ catalog.combinations, ∀ capabilityId ∈ combination.capabilityIds,
    capabilityId ∈ catalog.capabilities.map Capability.capabilityId

theorem unique_eq_ok {items : List JsString} {path : String} : unique items path = .ok () ↔ items.Nodup := by
  unfold unique
  rw [demand_eq_ok, decide_eq_true_eq]

theorem present_eq_ok {known items : List JsString} {path detail : String} :
    present known items path detail = .ok () ↔ ∀ item ∈ items, item ∈ known := by
  unfold present
  simp only [forM_eq_ok, demand_eq_ok, decide_eq_true_eq]

theorem parseCatalog_coherent [Platform] [NumberConversion] {raw : RawText} {catalog : Catalog}
    (parsed : parseCatalog raw = .ok catalog) : catalog.Coherent := by
  unfold parseCatalog at parsed
  simp only [bind_eq_ok, exists_unit, demand_eq_ok, pure_eq_ok, Except.ok.injEq] at parsed
  rcases parsed with ⟨_, _, _, _, _, _, _, _, _, components, _, _, _, _, _, _, _, capabilities, _, _, _, profiles, _, _, _,
    combinations, _, references, _, _, rfl⟩
  unfold checkReferences at references
  simp only [bind_eq_ok, exists_unit, unique_eq_ok, present_eq_ok, forM_eq_ok] at references
  rcases references with ⟨componentIds, capabilityIds, profileIds, combinationIds, _, each⟩
  refine ⟨componentIds, capabilityIds, profileIds, combinationIds, fun combination member => ?_⟩
  have checked := each combination member
  unfold checkCombination at checked
  simp only [bind_eq_ok, exists_unit, present_eq_ok] at checked
  exact checked.2.1

/-! ### What a matched preflight has resolved -/

/-- What the preflight finds on its way. -/
structure Resolution where
  catalog : Catalog
  combination : Combination
  distribution : ValidatedDistribution
  approvedCandidate : Bool
  profile : DistributionProfile

def Resolution.expected (r : Resolution) : Expected :=
  ⟨r.distribution.artifacts, componentsOf r.catalog, r.combination.capabilityIds, capabilitiesOf r.catalog⟩

/-- Every step of the preflight has passed. -/
structure Resolved [Platform] [NumberConversion] (catalogRaw : RawText) (input : FrameworkPreflightInput) (r : Resolution)
    (selection : FrameworkPreflightMatch) : Prop where
  catalog : parseCatalog catalogRaw = .ok r.catalog
  digest : ∃ catalogDigest, frameworkCatalogDigest r.catalog.raw = .ok catalogDigest ∧
    checkSelectionRef input.selectionRef catalogDigest = .ok ()
  combination : selectCombination r.catalog input = .ok r.combination
  distribution : validatedDistribution input.observed.distributionManifestRaw input.observed.cacheIndexRaw = .ok r.distribution
  approval : checkApproval input r.combination r.distribution.manifestDigest = .ok r.approvedCandidate
  approved : checkApproved input.observed.policy.admission r.combination r.approvedCandidate = .ok ()
  selected : checkDistribution r.distribution.manifest input = .ok ()
  profile : selectProfile r.catalog r.combination input.observed = .ok r.profile
  required : requireCaps r.combination.capabilityIds (capabilitiesOf r.catalog) r.profile.requiredCapabilityIds
    (js "profile.requiredCapabilityIds") = .ok ()
  capabilities : ∀ capabilityId ∈ r.profile.requiredCapabilityIds, checkCapability (capabilitiesOf r.catalog)
    (factsOf r.catalog r.combination r.profile) (dimensionsOf r.profile input.observed.policy.admission r.approvedCandidate)
    capabilityId = .ok ()
  packages : checkPackages r.expected input.observed = .ok ()
  executables : checkExecutables r.expected input.observed = .ok ()
  runtimeTrees : checkRuntimeTrees r.expected r.distribution.manifest input.observed = .ok ()
  admission : selection.admission = input.observed.policy.admission
  catalogState : selection.catalogState = r.combination.declaredState
  supportQualified : selection.supportQualified = (decide (input.observed.policy.admission = js "support-required") &&
    (decide (r.combination.declaredState = js "supported") || r.approvedCandidate))
  selectionRef : selection.catalogSelectionRef = input.selectionRef
  platform : selection.platform = r.combination.platform
  installed : selection.packages = input.observed.packages ∧ selection.executables = input.observed.executables ∧
    selection.runtimeTrees = input.observed.runtimeTrees

theorem selectCombination_ok {catalog : Catalog} {input : FrameworkPreflightInput} {combination : Combination}
    (selected : selectCombination catalog input = .ok combination) : combination ∈ catalog.combinations ∧
      combination.combinationId = input.combinationId ∧ combination.declaredState ≠ js "unsupported" := by
  unfold selectCombination at selected
  dsimp only at selected
  split at selected
  · rename_i item first
    simp only [ok_bind, bind_eq_ok, exists_unit, demand_eq_ok, pure_eq_ok, Except.ok.injEq] at selected
    rcases selected with ⟨_, admitted, rfl⟩
    have name : item.combinationId = input.combinationId := by simpa using List.find?_some first
    have supported : item.declaredState ≠ js "unsupported" := by
      intro same
      rw [same] at admitted
      simp at admitted
    exact ⟨List.mem_of_find?_eq_some first, name, supported⟩
  · cases selected

theorem selectProfile_ok {catalog : Catalog} {combination : Combination} {observed : InstalledFrameworkObservation}
    {profile : DistributionProfile} (coherent : catalog.Coherent)
    (selected : selectProfile catalog combination observed = .ok profile) : profile ∈ catalog.distributionProfiles ∧
      profile.profileId = observed.policy.catalogProfileId ∧ profile.platform = observed.platform := by
  unfold selectProfile at selected
  dsimp only at selected
  split at selected
  · cases selected
  · rename_i found looked
    have own := (get_mapOf coherent.profileIds).mp looked
    split at selected
    · simp only [bind_eq_ok, exists_unit, demand_eq_ok, pure_eq_ok, Except.ok.injEq] at selected
      rcases selected with ⟨located, compared, rfl, _, rfl⟩
      exact ⟨own.1, own.2, PlatformIdentity.eq_of_same compared⟩
    · cases selected

theorem checkCapability_ok {catalog : Catalog} {facts : Facts} {dimensions : List JsString} {capabilityId : JsString}
    (coherent : catalog.Coherent) (checked : checkCapability (capabilitiesOf catalog) facts dimensions capabilityId = .ok ()) :
    ∃ capability ∈ catalog.capabilities, capability.capabilityId = capabilityId ∧
      (∀ constraint ∈ capability.constraints, constraint.satisfiedBy (facts.actual constraint) = true) ∧
      ∀ dimension ∈ dimensions, ∃ observation, Fields.get capability.observations dimension = some observation ∧
        observation.isAccepted = true := by
  unfold checkCapability at checked
  split at checked
  · cases checked
  · rename_i capability looked
    have own := (get_mapOf coherent.capabilityIds).mp looked
    simp only [bind_eq_ok, exists_unit, forM_eq_ok, checkConstraint, checkObservation, demand_eq_ok] at checked
    refine ⟨capability, own.1, own.2, checked.1, fun dimension member => ?_⟩
    exact (Option.any_eq_true _ _).mp (checked.2 dimension member)

/-- The one member of a list with this key. -/
theorem eq_of_key {α : Type} {key : α → JsString} {items : List α} (distinct : (items.map key).Nodup) {first second : α}
    (member : first ∈ items) (other : second ∈ items) (same : key first = key second) : first = second :=
  List.inj_on_of_nodup_map distinct member other same

variable [Platform] [NumberConversion] {catalogRaw : RawText} {input : FrameworkPreflightInput} {selection : FrameworkPreflightMatch}

theorem preflight_of_matched (matched : preflightFrameworkSelection catalogRaw input = .matched selection) :
    preflight catalogRaw input = .ok selection := by
  unfold preflightFrameworkSelection at matched
  split at matched
  · rename_i found returned
    cases matched
    exact returned
  · cases matched
  · cases matched

theorem resolved_of_matched (matched : preflightFrameworkSelection catalogRaw input = .matched selection) :
    ∃ r, Resolved catalogRaw input r selection := by
  have returned := preflight_of_matched matched
  unfold preflight at returned
  simp only [bind_eq_ok, exists_unit, forM_eq_ok, pure_eq_ok, Except.ok.injEq] at returned
  rcases returned with ⟨catalog, parsed, catalogDigest, digested, selectionRef, combination, combined, distribution, validated,
    approvedCandidate, approval, approved, selected, _, _, _, profile, profiled, required, capabilities, packages, executables,
    runtimeTrees, rfl⟩
  exact ⟨⟨catalog, combination, distribution, approvedCandidate, profile⟩, {
    catalog := parsed
    digest := ⟨catalogDigest, digested, selectionRef⟩
    combination := combined
    distribution := validated
    approval := approval
    approved := approved
    selected := selected
    profile := profiled
    required := required
    capabilities := capabilities
    packages := packages
    executables := executables
    runtimeTrees := runtimeTrees
    admission := rfl
    catalogState := rfl
    supportQualified := rfl
    selectionRef := rfl
    platform := rfl
    installed := ⟨rfl, rfl, rfl⟩ }⟩

end Mirror.Framework
