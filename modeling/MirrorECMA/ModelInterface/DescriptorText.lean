import MirrorECMA.ModelInterface.CanonicalDescriptor

namespace Mirror.ModelInterface

open ECMA ECMA.Grammar

/-! ### A descriptor is a rearrangement of its normal form -/

theorem ContractPathSegment.index_accepted {position : Double} (accepted : (index position).Accepted) :
    ∃ n : Nat, n ≤ maxSafeInteger ∧ position.toInt? = some (n : Int) ∧ (index position).canonical = .index (.ofNat n) := by
  obtain ⟨i, value, safe⟩ := Double.isSafeInteger_iff.mp accepted.1
  have nonnegative := accepted.2
  rw [value, Option.getD_some] at nonnegative
  obtain ⟨n, rfl⟩ := Int.eq_ofNat_of_zero_le nonnegative
  refine ⟨n, by simpa using safe, value, ?_⟩
  rw [canonical, value, Option.getD_some, Double.ofNat]
  rfl

theorem ContractPathSegment.reordered_canonical {segment : ContractPathSegment} (accepted : segment.Accepted) :
    segment.Reordered segment.canonical := by
  cases segment with
  | field name => exact .field name
  | index position =>
    obtain ⟨n, -, value, form⟩ := index_accepted accepted
    rw [form]
    exact .index (by rw [value, Double.toInt?_ofNat])
  | mapKey key => exact .mapKey (CanonicalItfLiteral.reordered_of_canonical key.canonical_canonical.symm)
  | variantValue tag => exact .variantValue tag

theorem rearranged_sort {α : Type} {r : α → α → Prop} {f : α → α} {compare : α → α → Int} {xs : List α}
    (each : ∀ x ∈ xs, r x (f x)) : Rearranged r xs (sort compare (xs.map f)) := by
  refine ⟨xs.map fun x => (x, f x), ?_, ?_, List.forall_mem_map.mpr each⟩
  · rw [List.map_map]
    exact List.Perm.of_eq (List.map_id xs)
  · rw [List.map_map]
    exact (sort_perm compare (xs.map f)).symm

theorem ModelType.reordered_canonical (type : ModelType) : type.Reordered type.canonical :=
  reordered_of_canonical type.canonical_canonical.symm

theorem ResolvedInput.reordered_canonical {phase : Phase} {input : ResolvedInput} (accepted : input.Accepted phase) :
    input.Reordered input.canonical := by
  refine ⟨rfl, rfl, ⟨input.from.path.map fun segment => (segment, segment.canonical), ?_, ?_,
    List.forall_mem_map.mpr fun segment member => ?_⟩, input.type.reordered_canonical⟩
  · rw [List.map_map]
    exact List.map_id _
  · rw [List.map_map]
    rfl
  · exact ContractPathSegment.reordered_canonical (accepted.path segment member)

theorem ResolvedAction.reordered_canonical {phase : Phase} {action : ResolvedAction} (accepted : action.Accepted phase) :
    action.Reordered action.canonical :=
  ⟨rfl, rfl, rfl, (sort_perm compareUnicodeScalars action.wireAliases).symm, rearranged_sort fun input member =>
    ResolvedInput.reordered_canonical (accepted.inputs input member)⟩

theorem ResolvedObservation.reordered_canonical (observation : ResolvedObservation) :
    observation.Reordered observation.canonical :=
  ⟨rfl, rfl, observation.type.reordered_canonical⟩

theorem ResolvedRunProfile.reordered_canonical {profile : ResolvedRunProfile} (accepted : profile.Accepted) :
    profile.Reordered profile.canonical :=
  ⟨rfl, (sort_perm compareUnicodeScalars profile.itfParamVars).symm, by
    rw [canonical, accepted.effective, sortedUnique_sort]⟩

theorem SemanticDescriptor.reordered_canonical {descriptor : SemanticDescriptor} (wellFormed : descriptor.WellFormed) :
    descriptor.Reordered descriptor.canonical :=
  ⟨rfl, rfl, ResolvedRunProfile.reordered_canonical wellFormed.runProfile,
    rearranged_sort fun action member => ResolvedAction.reordered_canonical (wellFormed.initializers action member),
    rearranged_sort fun action member => ResolvedAction.reordered_canonical (wellFormed.actions action member),
    rearranged_sort fun observation _ => observation.reordered_canonical⟩

/-- The normal form of an accepted descriptor is accepted. -/
theorem SemanticDescriptor.canonical_accepted {descriptor : SemanticDescriptor} (wellFormed : descriptor.WellFormed)
    (fits : descriptor.Fits) : descriptor.canonical.WellFormed ∧ descriptor.canonical.Fits := by
  have normal := (reordered_canonical wellFormed).wellFormed wellFormed
  obtain ⟨text, compressed, small⟩ := fits
  refine ⟨normal, text, ?_, small⟩
  rw [compress_descriptor normal, canonical_canonical, ← compress_descriptor wellFormed, compressed]

/-! ### Normal forms are plain data -/

theorem plain_text (label : String) : PlainJson (.string (js label)) := .string (isWellFormed_js label)

theorem plain_strings {texts : List JsString} (valid : ∀ text ∈ texts, isWellFormed text = true) :
    PlainJson (.array (texts.map .string)) :=
  .array (List.forall_mem_map.mpr fun text member => .string (valid text member))

theorem ModelType.Accepted.plain {type : ModelType} {levels : Nat} (accepted : type.Accepted levels) :
    PlainJson type.toJson := by
  induction accepted with
  | scalar => exact plain_object ["kind"] rfl (by decide) (by simp [plain_text])
  | collection _ ih => exact plain_object ["element", "kind"] rfl (by decide) (by simp [plain_text, ih])
  | tuple _ ih =>
    have items := PlainJson.array (List.forall_mem_map.mpr ih)
    exact plain_object ["elements", "kind"] rfl (by decide) (by simp [plain_text, items])
  | @record levels fields short _ ih =>
    have field (field : JsString × ModelType) (member : field ∈ fields) :
        PlainJson (.object [(js "type", field.2.toJson), (js "wireName", .string field.1)]) :=
      plain_object ["type", "wireName"] rfl (by decide)
        (by simp [PlainJson.string (short field member).1, ih field member])
    have items := PlainJson.array (List.forall_mem_map.mpr field)
    exact plain_object ["fields", "kind"] rfl (by decide) (by simp [plain_text, Function.comp_def, items])
  | map _ _ key value => exact plain_object ["key", "kind", "value"] rfl (by decide) (by simp [plain_text, key, value])
  | @variant levels cases short _ ih =>
    have item (item : JsString × ModelType) (member : item ∈ cases) :
        PlainJson (.object [(js "payload", item.2.toJson), (js "tag", .string item.1)]) :=
      plain_object ["payload", "tag"] rfl (by decide)
        (by simp [PlainJson.string (short item member).1, ih item member])
    have items := PlainJson.array (List.forall_mem_map.mpr item)
    exact plain_object ["cases", "kind"] rfl (by decide) (by simp [plain_text, Function.comp_def, items])
  | opaqueItf short =>
    exact plain_object ["description", "kind"] rfl (by decide) (by simp [plain_text, PlainJson.string short.1])

theorem ModelType.Valid.canonical_plain {type : ModelType} (valid : type.Valid) : PlainJson type.canonical.toJson :=
  (type.reordered_canonical.accepted valid.1).plain

theorem ContractPathSegment.Accepted.canonical_plain {segment : ContractPathSegment} (accepted : segment.Accepted) :
    PlainJson segment.canonical.toJson := by
  cases segment with
  | field name => exact plain_object ["field"] rfl (by decide) (by simp [PlainJson.string accepted.1])
  | index position =>
    obtain ⟨n, safe, -, form⟩ := index_accepted accepted
    rw [form]
    exact plain_object ["index"] rfl (by decide) (by simp [PlainJson.number safe])
  | mapKey key =>
    exact plain_object ["mapKey"] rfl (by decide) (by simp [(CanonicalItfLiteral.Accepted.canonical accepted).plain])
  | variantValue tag => exact plain_object ["variantValue"] rfl (by decide) (by simp [PlainJson.string accepted.1])

theorem ResolvedInput.Accepted.canonical_plain {phase : Phase} {input : ResolvedInput} (accepted : input.Accepted phase) :
    PlainJson input.canonical.toJson := by
  have path : PlainJson (.array ((input.from.path.map ContractPathSegment.canonical).map ContractPathSegment.toJson)) := by
    refine .array (List.forall_mem_map.mpr (List.forall_mem_map.mpr fun segment member => ?_))
    exact (accepted.path segment member).canonical_plain
  have source : PlainJson (.object [(js "path",
      .array ((input.from.path.map ContractPathSegment.canonical).map ContractPathSegment.toJson)),
      (js "root", .string (js input.from.root.name))]) :=
    plain_object ["path", "root"] rfl (by decide) (by simp only [List.forall_mem_cons, path, plain_text]; simp)
  refine plain_object ["from", "id", "type"] rfl (by decide) ?_
  simp only [ResolvedInput.canonical, List.forall_mem_cons, source, PlainJson.string accepted.id.1.1,
    accepted.type.canonical_plain]
  simp

theorem plain_sorted {α : Type} {toJson : α → Json} {compare : α → α → Int} {canonical : α → α} {xs : List α}
    (each : ∀ x ∈ xs, PlainJson (toJson (canonical x))) :
    PlainJson (.array ((sort compare (xs.map canonical)).map toJson)) := by
  refine .array (List.forall_mem_map.mpr fun y member => ?_)
  obtain ⟨x, inside, rfl⟩ := List.mem_map.mp (mem_sort.mp member)
  exact each x inside

theorem ResolvedAction.Accepted.canonical_plain {phase : Phase} {action : ResolvedAction}
    (accepted : action.Accepted phase) : PlainJson action.canonical.toJson := by
  have inputs : PlainJson (.array (action.canonical.inputs.map ResolvedInput.toJson)) :=
    plain_sorted fun input member => (accepted.inputs input member).canonical_plain
  have aliases : PlainJson (.array (action.canonical.wireAliases.map .string)) :=
    plain_strings fun label member => (accepted.aliases label (mem_sort.mp member)).1
  refine plain_object ["id", "inputs", "phase", "wireAction", "wireAliases"] rfl (by decide) ?_
  simp only [List.forall_mem_cons, inputs, aliases, plain_text]
  simp [ResolvedAction.canonical, PlainJson.string accepted.id.1.1, PlainJson.string accepted.label.1.1]

theorem ResolvedObservation.Accepted.canonical_plain {observation : ResolvedObservation}
    (accepted : observation.Accepted) : PlainJson observation.canonical.toJson := by
  refine plain_object ["id", "provenance", "type", "wireName"] rfl (by decide) ?_
  simp [ResolvedObservation.canonical, plain_text, PlainJson.string accepted.id.1.1, accepted.type.canonical_plain,
    PlainJson.string accepted.wireName.1.1]

theorem ResolvedRunProfile.Accepted.canonical_plain {profile : ResolvedRunProfile} (accepted : profile.Accepted) :
    PlainJson profile.canonical.toJson := by
  have configured : PlainJson (nullable profile.canonical.configuredParamVar) := by
    show PlainJson (nullable profile.configuredParamVar)
    cases named : profile.configuredParamVar with
    | none => exact .null
    | some name => exact .string (accepted.configured name named)
  have effective : PlainJson (.array (profile.canonical.effectiveParamVars.map .string)) := by
    refine plain_strings fun name member => ?_
    have inside := mem_sort.mp member
    rw [accepted.effective, mem_sortedUnique, List.mem_append, Option.mem_toList] at inside
    exact inside.elim (accepted.itf name) (accepted.configured name)
  have itf : PlainJson (.array (profile.canonical.itfParamVars.map .string)) :=
    plain_strings fun name member => accepted.itf name (mem_sort.mp member)
  refine plain_object ["actionVariable", "configuredParamVar", "effectiveParamVars", "itfParamVars"] rfl (by decide) ?_
  simp only [List.forall_mem_cons, configured, effective, itf, plain_text]
  simp

theorem SemanticDescriptor.WellFormed.canonical_plain {descriptor : SemanticDescriptor}
    (wellFormed : descriptor.WellFormed) : PlainJson descriptor.canonical.toJson := by
  have actions : PlainJson (.array (descriptor.canonical.actions.map ResolvedAction.toJson)) :=
    plain_sorted fun action member => (wellFormed.actions action member).canonical_plain
  have initializers : PlainJson (.array (descriptor.canonical.initializers.map ResolvedAction.toJson)) :=
    plain_sorted fun action member => (wellFormed.initializers action member).canonical_plain
  have observations : PlainJson (.array (descriptor.canonical.observations.map ResolvedObservation.toJson)) :=
    plain_sorted fun observation member => (wellFormed.observations observation member).canonical_plain
  have model : PlainJson (.object [(js "module", .string descriptor.canonical.module)]) :=
    plain_object ["module"] rfl (by decide) (by simp [canonical, PlainJson.string wellFormed.module.1.1])
  have profile : PlainJson descriptor.canonical.runProfile.toJson := wellFormed.runProfile.canonical_plain
  have version : PlainJson (.string descriptor.canonical.interfaceVersion) := .string wellFormed.version.1.1
  refine plain_object ["actions", "comparisonPolicyVersion", "initializers", "interfaceVersion", "model", "observations",
    "resolverSemanticsVersion", "runProfile", "schema"] rfl (by decide) ?_
  simp only [List.forall_mem_cons, actions, initializers, observations, model, profile, version, plain_text]
  simp

/-! ### How deep a canonical text goes -/

theorem nesting_object (fields : Fields Json) :
    nesting (.object fields) = maximum (fields.map fun field => nesting field.2) + 1 := by
  rw [nesting, fieldNestings_eq]

theorem nesting_map {α : Type} {xs : List α} {f g : α → Json} (each : ∀ x ∈ xs, nesting (f x) = nesting (g x)) :
    nesting (.array (xs.map f)) = nesting (.array (xs.map g)) := by
  simp only [nesting, nestings_eq, List.map_map, Function.comp_def, List.map_congr_left each]

theorem nesting_segment (segment : ContractPathSegment) :
    nesting (canonicalPathSegmentValue segment) = nesting segment.canonical.toJson := by
  cases segment with
  | mapKey key => rw [canonicalPathSegmentValue, canonicalLiteralValue_eq]; rfl
  | _ => rfl

theorem nesting_input (input : ResolvedInput) :
    nesting (canonicalResolvedInputValue input) = nesting input.canonical.toJson := by
  have segments := nesting_map fun segment (_ : segment ∈ input.from.path) => nesting_segment segment
  simp only [canonicalResolvedInputValue, ResolvedInput.canonical, ResolvedInput.toJson, List.map_map,
    Function.comp_def, canonicalModelTypeValue_eq, nesting_object, List.map_cons, segments]

theorem nesting_action (action : ResolvedAction) :
    nesting (canonicalResolvedActionValue action) = nesting action.canonical.toJson := by
  have inputs := nesting_map fun input (_ : input ∈ sort compareInputs action.inputs) => nesting_input input
  have sorted : sort compareInputs (action.inputs.map ResolvedInput.canonical) =
      (sort compareInputs action.inputs).map ResolvedInput.canonical := sort_map _ _ _
  simp only [canonicalResolvedActionValue, ResolvedAction.canonical, ResolvedAction.toJson, sorted, List.map_map,
    Function.comp_def, nesting_object, List.map_cons, inputs]

theorem nesting_descriptor (descriptor : SemanticDescriptor) :
    nesting (canonicalDescriptorValue descriptor) = nesting descriptor.canonical.toJson := by
  have actions (actions : List ResolvedAction) :
      nesting (.array ((sort compareActions actions).map canonicalResolvedActionValue)) =
        nesting (.array ((sort compareActions (actions.map ResolvedAction.canonical)).map ResolvedAction.toJson)) := by
    have sorted : sort compareActions (actions.map ResolvedAction.canonical) =
        (sort compareActions actions).map ResolvedAction.canonical := sort_map _ _ _
    rw [sorted, List.map_map]
    exact nesting_map fun action _ => nesting_action action
  have sorted : sort compareObservations (descriptor.observations.map ResolvedObservation.canonical) =
      (sort compareObservations descriptor.observations).map ResolvedObservation.canonical := sort_map _ _ _
  have observations : (sort compareObservations descriptor.observations).map canonicalResolvedObservationValue =
      (sort compareObservations descriptor.observations).map fun observation => observation.canonical.toJson :=
    List.map_congr_left fun observation _ => canonicalResolvedObservationValue_eq observation
  simp only [canonicalDescriptorValue, SemanticDescriptor.canonical, SemanticDescriptor.toJson,
    ResolvedRunProfile.canonical, ResolvedRunProfile.toJson, sorted, observations, List.map_map, Function.comp_def,
    nesting_object, List.map_cons]
  rw [actions, actions]

/-- What `canonicalSemanticDescriptorString` returns. -/
theorem canonicalSemanticDescriptorString_written {value : Unknown} {descriptor : SemanticDescriptor}
    (decoded : decodeSemanticDescriptor value = .ok descriptor) :
    canonicalSemanticDescriptorString value = .ok (written descriptor.canonical.toJson).render := by
  have wellFormed := (decodeSemanticDescriptor_accepted decoded).1
  unfold decodeSemanticDescriptor at decoded
  rw [canonicalSemanticDescriptorString, decoded, ok_bind, compress_descriptor wellFormed,
    compress_written wellFormed.canonical_plain]

theorem SemanticDescriptor.Fits.written {descriptor : SemanticDescriptor} (wellFormed : descriptor.WellFormed)
    (fits : descriptor.Fits) :
    utf8Length (written descriptor.canonical.toJson).render ≤ MAX_MODEL_INTERFACE_DESCRIPTOR_BYTES := by
  obtain ⟨text, compressed, small⟩ := fits
  rw [compress_descriptor wellFormed, compress_written wellFormed.canonical_plain] at compressed
  exact Except.ok.inj compressed ▸ small

end Mirror.ModelInterface
