import MirrorECMA.ModelInterface.OrderInvariance

namespace Mirror.ModelInterface

open ECMA

/-! ### Rearranged descriptors stay well-formed -/

def ContractPathSegment.KeysDistinct : ContractPathSegment → Prop
  | .mapKey key => key.KeysDistinct
  | _ => True

def ResolvedAction.KeysDistinct (action : ResolvedAction) : Prop :=
  ∀ input ∈ action.inputs, ∀ segment ∈ input.from.path, segment.KeysDistinct

/-- No record in a `mapKey` literal repeats a field name and no map a key. -/
def SemanticDescriptor.KeysDistinct (descriptor : SemanticDescriptor) : Prop :=
  ∀ action ∈ descriptor.allActions, action.KeysDistinct

theorem ContractPathSegment.Reordered.accepted {segment other : ContractPathSegment}
    (reordered : segment.Reordered other) (accepted : segment.Accepted) : other.Accepted := by
  cases reordered with
  | field name => exact accepted
  | index same =>
    obtain ⟨safe, nonnegative⟩ := accepted
    rw [Double.isSafeInteger_iff, same] at safe
    exact ⟨Double.isSafeInteger_iff.mpr safe, same ▸ nonnegative⟩
  | mapKey same => exact same.accepted accepted
  | variantValue tag => exact accepted

theorem ContractPathSegment.Reordered.canonical {segment other : ContractPathSegment}
    (reordered : segment.Reordered other) (accepted : segment.Accepted) (distinct : segment.KeysDistinct) :
    segment.canonical = other.canonical := by
  cases reordered with
  | field name => rfl
  | index same => simp only [ContractPathSegment.canonical, same]
  | mapKey same => simp only [ContractPathSegment.canonical, same.canonical accepted distinct]
  | variantValue tag => rfl

theorem ModelType.Reordered.valid {type other : ModelType} (reordered : type.Reordered other) (valid : type.Valid) :
    other.Valid := ⟨reordered.accepted valid.1, reordered.named valid.2⟩

theorem ResolvedInput.Reordered.accepted {input other : ResolvedInput} (reordered : input.Reordered other) {phase : Phase}
    (accepted : input.Accepted phase) : other.Accepted phase where
  id := reordered.id ▸ accepted.id
  root := reordered.root ▸ accepted.root
  segments := reordered.path.rearranged.length ▸ accepted.segments
  path := reordered.path.rearranged.each accepted.path ContractPathSegment.Reordered.accepted
  type := reordered.type.valid accepted.type

theorem ResolvedInput.Reordered.canonical {input other : ResolvedInput} (reordered : input.Reordered other) {phase : Phase}
    (accepted : input.Accepted phase) (distinct : ∀ segment ∈ input.from.path, segment.KeysDistinct) :
    input.canonical = other.canonical := by
  have path := reordered.path.map_eq (f := ContractPathSegment.canonical) fun segment member other same =>
    same.canonical (accepted.path segment member) (distinct segment member)
  simp only [ResolvedInput.canonical, reordered.id, reordered.root, path, reordered.type.canonical accepted.type.2]

theorem ResolvedAction.Reordered.labels {action other : ResolvedAction} (reordered : action.Reordered other) :
    action.labels.Perm other.labels := by
  rw [ResolvedAction.labels, ResolvedAction.labels, reordered.wireAction]
  exact reordered.wireAliases.cons _

theorem ResolvedAction.Reordered.accepted {action other : ResolvedAction} (reordered : action.Reordered other)
    {phase : Phase} (accepted : action.Accepted phase) : other.Accepted phase where
  id := reordered.id ▸ accepted.id
  phase := reordered.phase ▸ accepted.phase
  label := reordered.wireAction ▸ accepted.label
  aliasCount := reordered.wireAliases.length_eq ▸ accepted.aliasCount
  aliases label member := accepted.aliases label (reordered.wireAliases.symm.subset member)
  labels := reordered.labels.nodup_iff.mp accepted.labels
  inputCount := reordered.inputs.length ▸ accepted.inputCount
  inputs := reordered.inputs.each accepted.inputs fun same => same.accepted
  inputIds := (reordered.inputs.map_perm fun _ _ _ same => same.id).nodup_iff.mp accepted.inputIds

theorem ResolvedAction.Reordered.nodes {action other : ResolvedAction} (reordered : action.Reordered other) :
    action.nodes = other.nodes :=
  (reordered.inputs.map_perm fun _ _ _ same => same.type.nodes).sum_nat

theorem ResolvedAction.Reordered.canonical {action other : ResolvedAction} (reordered : action.Reordered other)
    {phase : Phase} (accepted : action.Accepted phase) (distinct : action.KeysDistinct) :
    action.canonical = other.canonical := by
  have aliases : sort compareUnicodeScalars action.wireAliases = sort compareUnicodeScalars other.wireAliases :=
    sort_eq_of_perm compareUnicodeScalars_consistent (fun _ _ _ _ => compareUnicodeScalars_antisymm) reordered.wireAliases
  have perm := reordered.inputs.map_perm (f := ResolvedInput.canonical) fun input member other same =>
    same.canonical (accepted.inputs input member) (distinct input member)
  have ids : ((action.inputs.map ResolvedInput.canonical).map (·.id)).Nodup := by
    rw [List.map_map]
    exact accepted.inputIds
  have inputs : sort compareInputs (action.inputs.map ResolvedInput.canonical) =
      sort compareInputs (other.inputs.map ResolvedInput.canonical) := sort_eq_of_perm_keyed ids perm
  simp only [ResolvedAction.canonical, reordered.id, reordered.phase, reordered.wireAction, aliases, inputs]

theorem ResolvedObservation.Reordered.accepted {observation other : ResolvedObservation}
    (reordered : observation.Reordered other) (accepted : observation.Accepted) : other.Accepted where
  id := reordered.id ▸ accepted.id
  wireName := reordered.wireName ▸ accepted.wireName
  type := reordered.type.valid accepted.type

theorem ResolvedObservation.Reordered.canonical {observation other : ResolvedObservation}
    (reordered : observation.Reordered other) (accepted : observation.Accepted) :
    observation.canonical = other.canonical := by
  simp only [ResolvedObservation.canonical, reordered.type.canonical accepted.type.2, reordered.id, reordered.wireName]

theorem nodup_eraseDups (values : List JsString) : values.eraseDups.Nodup := by
  induction size : values.length using Nat.strongRecOn generalizing values with
  | ind n ih =>
    cases values with
    | nil => exact List.nodup_nil
    | cons value rest =>
      have smaller : (rest.filter fun other => !other == value).length < n := by
        rw [← size]
        exact Nat.lt_succ_of_le (List.length_filter_le _ rest)
      rw [List.eraseDups_cons]
      exact List.nodup_cons.mpr ⟨by simp [List.mem_eraseDups], ih _ smaller _ rfl⟩

theorem sortedUnique_perm {xs ys : List JsString} (same : xs.Perm ys) : sortedUnique xs = sortedUnique ys := by
  refine sort_eq_of_perm compareUnicodeScalars_consistent (fun _ _ _ _ => compareUnicodeScalars_antisymm) ?_
  refine (List.perm_ext_iff_of_nodup (nodup_eraseDups xs) (nodup_eraseDups ys)).mpr fun value => ?_
  rw [List.mem_eraseDups, List.mem_eraseDups, same.mem_iff]

theorem ResolvedRunProfile.Reordered.accepted {profile other : ResolvedRunProfile} (reordered : profile.Reordered other)
    (accepted : profile.Accepted) : other.Accepted where
  configured := reordered.configuredParamVar ▸ accepted.configured
  itf name member := accepted.itf name (reordered.itfParamVars.symm.subset member)
  distinct := reordered.itfParamVars.nodup_iff.mp accepted.distinct
  effective := by
    rw [← reordered.effectiveParamVars, ← reordered.configuredParamVar, accepted.effective]
    exact sortedUnique_perm (reordered.itfParamVars.append_right _)

theorem ResolvedRunProfile.Reordered.canonical {profile other : ResolvedRunProfile} (reordered : profile.Reordered other) :
    profile.canonical = other.canonical := by
  have itf : sort compareUnicodeScalars profile.itfParamVars = sort compareUnicodeScalars other.itfParamVars :=
    sort_eq_of_perm compareUnicodeScalars_consistent (fun _ _ _ _ => compareUnicodeScalars_antisymm) reordered.itfParamVars
  simp only [ResolvedRunProfile.canonical, reordered.configuredParamVar, reordered.effectiveParamVars, itf]

theorem SemanticDescriptor.Reordered.wellFormed {descriptor other : SemanticDescriptor}
    (reordered : descriptor.Reordered other) (wellFormed : descriptor.WellFormed) : other.WellFormed := by
  have actions : Rearranged ResolvedAction.Reordered descriptor.allActions other.allActions :=
    reordered.initializers.append reordered.actions
  refine ⟨reordered.interfaceVersion ▸ wellFormed.version, reordered.module ▸ wellFormed.module,
    reordered.runProfile.accepted wellFormed.runProfile, reordered.initializers.length ▸ wellFormed.someInitializer,
    reordered.initializers.length ▸ wellFormed.initializerCount,
    reordered.initializers.each wellFormed.initializers fun same => same.accepted,
    reordered.actions.length ▸ wellFormed.actionCount,
    reordered.actions.each wellFormed.actions fun same => same.accepted,
    (actions.map_perm fun _ _ _ same => same.id).nodup_iff.mp wellFormed.actionIds,
    (actions.flatMap_perm ResolvedAction.Reordered.labels).nodup_iff.mp wellFormed.labels,
    reordered.observations.length ▸ wellFormed.observationCount,
    reordered.observations.each wellFormed.observations ResolvedObservation.Reordered.accepted,
    (reordered.observations.map_perm fun _ _ _ same => same.id).nodup_iff.mp wellFormed.observationIds,
    (reordered.observations.map_perm fun _ _ _ same => same.wireName).nodup_iff.mp wellFormed.wireNames, ?_⟩
  have nodes := wellFormed.nodes
  unfold SemanticDescriptor.nodes at nodes ⊢
  rwa [← (reordered.initializers.map_perm fun _ _ _ same => same.nodes).sum_nat,
    ← (reordered.actions.map_perm fun _ _ _ same => same.nodes).sum_nat,
    ← (reordered.observations.map_perm (f := ResolvedObservation.nodes) fun _ _ _ same => same.type.nodes).sum_nat]

theorem SemanticDescriptor.Reordered.canonical {descriptor other : SemanticDescriptor}
    (reordered : descriptor.Reordered other) (wellFormed : descriptor.WellFormed) (distinct : descriptor.KeysDistinct) :
    descriptor.canonical = other.canonical := by
  have sorted {phase : Phase} {xs ys : List ResolvedAction} (same : Rearranged ResolvedAction.Reordered xs ys)
      (accepted : ∀ action ∈ xs, action.Accepted phase) (keys : ∀ action ∈ xs, action.KeysDistinct)
      (ids : (xs.map (·.id)).Nodup) :
      sort compareActions (xs.map ResolvedAction.canonical) = sort compareActions (ys.map ResolvedAction.canonical) := by
    refine sort_eq_of_perm_keyed (by rw [List.map_map]; exact ids) (same.map_perm fun action member other related => ?_)
    exact related.canonical (accepted action member) (keys action member)
  have ids := List.map_append ▸ wellFormed.actionIds
  have initializers := sorted reordered.initializers wellFormed.initializers
    (fun action member => distinct action (List.mem_append_left _ member)) (List.nodup_append.mp ids).1
  have actions := sorted reordered.actions wellFormed.actions
    (fun action member => distinct action (List.mem_append_right _ member)) (List.nodup_append.mp ids).2.1
  have observations : sort compareObservations (descriptor.observations.map ResolvedObservation.canonical) =
      sort compareObservations (other.observations.map ResolvedObservation.canonical) :=
    sort_eq_of_perm_keyed (by rw [List.map_map]; exact wellFormed.observationIds)
      (reordered.observations.map_perm fun observation member _ same =>
        same.canonical (wellFormed.observations observation member))
  simp only [SemanticDescriptor.canonical, reordered.interfaceVersion, reordered.module, reordered.runProfile.canonical,
    initializers, actions, observations]

end Mirror.ModelInterface
