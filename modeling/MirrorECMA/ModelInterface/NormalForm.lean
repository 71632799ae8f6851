import MirrorECMA.ModelInterface.AcceptedDescriptor

namespace Mirror.ModelInterface

open ECMA ECMA.Grammar

/-! ### The text of a literal -/

theorem compressItems_exists {items : List Json} (each : ∀ item ∈ items, ∃ text, compressCanonicalJson item = .ok text) :
    ∃ texts, compressItems items = .ok texts := by
  induction items with
  | nil => exact ⟨[], rfl⟩
  | cons item rest ih =>
    obtain ⟨text, head⟩ := each item List.mem_cons_self
    obtain ⟨texts, tail⟩ := ih fun other member => each other (List.mem_cons_of_mem _ member)
    exact ⟨text :: texts, by rw [compressItems, head, tail]; rfl⟩

theorem compressFields_exists {fields : List (JsString × Json)}
    (each : ∀ field ∈ fields, ∃ text, compressCanonicalJson field.2 = .ok text) :
    ∃ texts, compressFields fields = .ok texts := by
  induction fields with
  | nil => exact ⟨[], rfl⟩
  | cons field rest ih =>
    obtain ⟨text, head⟩ := each field List.mem_cons_self
    obtain ⟨texts, tail⟩ := ih fun other member => each other (List.mem_cons_of_mem _ member)
    exact ⟨_, by rw [compressFields, head, tail]; rfl⟩

theorem compressArray_exists {items : List Json} (each : ∀ item ∈ items, ∃ text, compressCanonicalJson item = .ok text) :
    ∃ text, compressCanonicalJson (.array items) = .ok text := by
  obtain ⟨texts, found⟩ := compressItems_exists each
  exact ⟨_, by rw [compressCanonicalJson, found]; rfl⟩

theorem compressObject_exists {fields : List (JsString × Json)}
    (each : ∀ field ∈ fields, ∃ text, compressCanonicalJson field.2 = .ok text) :
    ∃ text, compressCanonicalJson (.object fields) = .ok text := by
  obtain ⟨texts, found⟩ := compressFields_exists each
  exact ⟨_, by rw [compressCanonicalJson, found]; rfl⟩

/-- No literal holds a number, so `compressCanonicalJson` refuses none of them. -/
theorem compressLiteral_exists (literal : CanonicalItfLiteral) :
    ∃ text, compressCanonicalJson literal.toJson = .ok text := by
  have string (text : JsString) : ∃ rendered, compressCanonicalJson (.string text) = .ok rendered :=
    ⟨_, by rw [compressCanonicalJson]⟩
  have bool (value : Bool) : ∃ rendered, compressCanonicalJson (.bool value) = .ok rendered :=
    ⟨_, by rw [compressCanonicalJson]⟩
  induction literal using CanonicalItfLiteral.children_induct with
  | int value => exact compressObject_exists (by simp [string])
  | bool value => exact compressObject_exists (by simp [string, bool])
  | str value => exact compressObject_exists (by simp [string])
  | null => exact compressObject_exists (by simp [string])
  | collection kind values ih =>
    have items : ∃ text, compressCanonicalJson (.array (values.map CanonicalItfLiteral.toJson)) = .ok text :=
      compressArray_exists (List.forall_mem_map.mpr ih)
    exact compressObject_exists (by simp [string, items])
  | record fields ih =>
    have field (field : JsString × CanonicalItfLiteral) (member : field ∈ fields) : ∃ text, compressCanonicalJson
        (.object [(js "name", .string field.1), (js "value", field.2.toJson)]) = .ok text :=
      compressObject_exists (by simp [string, ih field member])
    have items := compressArray_exists (List.forall_mem_map.mpr field)
    exact compressObject_exists (by simp [string, Function.comp_def, items])
  | map entries ih =>
    have entry (entry : CanonicalItfLiteral × CanonicalItfLiteral) (member : entry ∈ entries) :
        ∃ text, compressCanonicalJson
          (.object [(js "key", entry.1.toJson), (js "value", entry.2.toJson)]) = .ok text :=
      compressObject_exists (by simp [ih entry member])
    have items := compressArray_exists (List.forall_mem_map.mpr entry)
    exact compressObject_exists (by simp [string, Function.comp_def, items])
  | variant tag payload ih => exact compressObject_exists (by simp [string, ih])

def CanonicalItfLiteral.text (literal : CanonicalItfLiteral) : JsString :=
  (compressCanonicalJson literal.toJson).toOption.getD []

theorem compress_literal (literal : CanonicalItfLiteral) :
    compressCanonicalJson literal.toJson = .ok literal.text := by
  obtain ⟨text, found⟩ := compressLiteral_exists literal
  rw [CanonicalItfLiteral.text, found]
  rfl

def compareTexts (a b : CanonicalItfLiteral) : Int := compareUnicodeScalars a.text b.text

theorem compareCompressed_literals (a b : CanonicalItfLiteral) :
    compareCompressed a.toJson b.toJson = compareTexts a b := by
  rw [compareCompressed, compress_literal, compress_literal]
  rfl

theorem compareTexts_consistent : Consistent compareTexts :=
  compareUnicodeScalars_consistent.on CanonicalItfLiteral.text

/-! ### Normal forms -/

mutual

/-- The representative of a literal among its rearrangements. -/
def CanonicalItfLiteral.canonical : CanonicalItfLiteral → CanonicalItfLiteral
  | .int value => .int value
  | .bool value => .bool value
  | .str value => .str value
  | .null => .null
  | .collection .set values => .collection .set (sort compareTexts (canonicals values))
  | .collection kind values => .collection kind (canonicals values)
  | .record fields => .record (sort compareNamed (canonicalFields fields))
  | .map entries => .map (sort (fun a b => compareTexts a.1 b.1) (canonicalEntries entries))
  | .variant tag payload => .variant tag payload.canonical

def CanonicalItfLiteral.canonicals : List CanonicalItfLiteral → List CanonicalItfLiteral
  | [] => []
  | literal :: rest => literal.canonical :: canonicals rest

def CanonicalItfLiteral.canonicalFields :
    List (JsString × CanonicalItfLiteral) → List (JsString × CanonicalItfLiteral)
  | [] => []
  | (name, literal) :: rest => (name, literal.canonical) :: canonicalFields rest

def CanonicalItfLiteral.canonicalEntries :
    List (CanonicalItfLiteral × CanonicalItfLiteral) → List (CanonicalItfLiteral × CanonicalItfLiteral)
  | [] => []
  | (key, value) :: rest => (key.canonical, value.canonical) :: canonicalEntries rest

end

mutual

def ModelType.canonical : ModelType → ModelType
  | .scalar kind => .scalar kind
  | .collection kind element => .collection kind element.canonical
  | .tuple elements => .tuple (canonicals elements)
  | .record fields => .record (sort compareNamed (canonicalFields fields))
  | .map key value => .map key.canonical value.canonical
  | .variant cases => .variant (sort compareNamed (canonicalFields cases))
  | .opaqueItf description => .opaqueItf description

def ModelType.canonicals : List ModelType → List ModelType
  | [] => []
  | type :: rest => type.canonical :: canonicals rest

def ModelType.canonicalFields : List (JsString × ModelType) → List (JsString × ModelType)
  | [] => []
  | (name, type) :: rest => (name, type.canonical) :: canonicalFields rest

end

/-- An index is a nonnegative integer, with `-0` read as 0. -/
def ContractPathSegment.canonical : ContractPathSegment → ContractPathSegment
  | .field name => .field name
  | .index position => .index (.finite (position.toInt?.getD 0))
  | .mapKey key => .mapKey key.canonical
  | .variantValue tag => .variantValue tag

def ResolvedInput.canonical (input : ResolvedInput) : ResolvedInput :=
  { id := input.id
    «from» := { root := input.from.root, path := input.from.path.map ContractPathSegment.canonical }
    type := input.type.canonical }

def ResolvedAction.canonical (action : ResolvedAction) : ResolvedAction :=
  { id := action.id
    phase := action.phase
    wireAction := action.wireAction
    wireAliases := sort compareUnicodeScalars action.wireAliases
    inputs := sort compareInputs (action.inputs.map ResolvedInput.canonical) }

def ResolvedObservation.canonical (observation : ResolvedObservation) : ResolvedObservation :=
  { observation with type := observation.type.canonical }

def ResolvedRunProfile.canonical (profile : ResolvedRunProfile) : ResolvedRunProfile :=
  { configuredParamVar := profile.configuredParamVar
    itfParamVars := sort compareUnicodeScalars profile.itfParamVars
    effectiveParamVars := sort compareUnicodeScalars profile.effectiveParamVars }

def SemanticDescriptor.canonical (descriptor : SemanticDescriptor) : SemanticDescriptor :=
  { interfaceVersion := descriptor.interfaceVersion
    module := descriptor.module
    runProfile := descriptor.runProfile.canonical
    initializers := sort compareActions (descriptor.initializers.map ResolvedAction.canonical)
    actions := sort compareActions (descriptor.actions.map ResolvedAction.canonical)
    observations := sort compareObservations (descriptor.observations.map ResolvedObservation.canonical) }

/-! ### The lists of the mutual definitions are maps -/

@[simp] theorem canonicalLiteralValues_eq (values : List CanonicalItfLiteral) :
    canonicalLiteralValues values = values.map canonicalLiteralValue :=
  eq_map rfl (fun _ _ => rfl) values

@[simp] theorem canonicalLiteralFields_eq (fields : List (JsString × CanonicalItfLiteral)) :
    canonicalLiteralFields fields = fields.map fun field => (field.1, canonicalLiteralValue field.2) :=
  eq_map rfl (fun _ _ => rfl) fields

@[simp] theorem canonicalLiteralEntries_eq (entries : List (CanonicalItfLiteral × CanonicalItfLiteral)) :
    canonicalLiteralEntries entries =
      entries.map fun entry => (canonicalLiteralValue entry.1, canonicalLiteralValue entry.2) :=
  eq_map rfl (fun _ _ => rfl) entries

@[simp] theorem canonicalModelTypeValues_eq (types : List ModelType) :
    canonicalModelTypeValues types = types.map canonicalModelTypeValue :=
  eq_map rfl (fun _ _ => rfl) types

@[simp] theorem canonicalModelTypeFields_eq (fields : List (JsString × ModelType)) :
    canonicalModelTypeFields fields = fields.map fun field => (field.1, canonicalModelTypeValue field.2) :=
  eq_map rfl (fun _ _ => rfl) fields

@[simp] theorem CanonicalItfLiteral.canonicals_eq (values : List CanonicalItfLiteral) :
    canonicals values = values.map canonical :=
  eq_map rfl (fun _ _ => rfl) values

@[simp] theorem CanonicalItfLiteral.canonicalFields_eq (fields : List (JsString × CanonicalItfLiteral)) :
    canonicalFields fields = fields.map fun field => (field.1, field.2.canonical) :=
  eq_map rfl (fun _ _ => rfl) fields

@[simp] theorem CanonicalItfLiteral.canonicalEntries_eq (entries : List (CanonicalItfLiteral × CanonicalItfLiteral)) :
    canonicalEntries entries = entries.map fun entry => (entry.1.canonical, entry.2.canonical) :=
  eq_map rfl (fun _ _ => rfl) entries

@[simp] theorem ModelType.canonicals_eq (types : List ModelType) : canonicals types = types.map canonical :=
  eq_map rfl (fun _ _ => rfl) types

@[simp] theorem ModelType.canonicalFields_eq (fields : List (JsString × ModelType)) :
    canonicalFields fields = fields.map fun field => (field.1, field.2.canonical) :=
  eq_map rfl (fun _ _ => rfl) fields

/-! ### The canonical value is the plain data of the normal form -/

theorem canonicalLiteralValue_eq (literal : CanonicalItfLiteral) :
    canonicalLiteralValue literal = literal.canonical.toJson := by
  induction literal using CanonicalItfLiteral.children_induct with
  | int value => rfl
  | bool value => rfl
  | str value => rfl
  | null => rfl
  | collection kind values ih =>
    have each : values.map canonicalLiteralValue = (values.map CanonicalItfLiteral.canonical).map CanonicalItfLiteral.toJson := by
      rw [List.map_map]
      exact List.map_congr_left ih
    have comparator : (fun a b : CanonicalItfLiteral => compareCompressed a.toJson b.toJson) = compareTexts :=
      funext fun a => funext fun b => compareCompressed_literals a b
    cases kind with
    | set =>
      simp only [canonicalLiteralValue, CanonicalItfLiteral.canonical, CanonicalItfLiteral.toJson,
        canonicalLiteralValues_eq, CanonicalItfLiteral.canonicals_eq, CanonicalItfLiteral.toJsons_eq, each, sort_map,
        comparator, ValuesKind.name]
    | seq =>
      simp only [canonicalLiteralValue, CanonicalItfLiteral.canonical, CanonicalItfLiteral.toJson,
        canonicalLiteralValues_eq, CanonicalItfLiteral.canonicals_eq, CanonicalItfLiteral.toJsons_eq, each]
    | tuple =>
      simp only [canonicalLiteralValue, CanonicalItfLiteral.canonical, CanonicalItfLiteral.toJson,
        canonicalLiteralValues_eq, CanonicalItfLiteral.canonicals_eq, CanonicalItfLiteral.toJsons_eq, each]
  | record fields ih =>
    have each : fields.map (fun field => (field.1, canonicalLiteralValue field.2)) =
        (fields.map fun field => (field.1, field.2.canonical)).map fun field => (field.1, field.2.toJson) := by
      rw [List.map_map]
      exact List.map_congr_left fun field member => by rw [ih field member]; rfl
    simp only [canonicalLiteralValue, CanonicalItfLiteral.canonical, CanonicalItfLiteral.toJson,
      canonicalLiteralFields_eq, CanonicalItfLiteral.canonicalFields_eq, CanonicalItfLiteral.toJsonFields_eq, each,
      sort_map]
    rfl
  | map entries ih =>
    have each : entries.map (fun entry => (canonicalLiteralValue entry.1, canonicalLiteralValue entry.2)) =
        (entries.map fun entry => (entry.1.canonical, entry.2.canonical)).map
          fun entry => (entry.1.toJson, entry.2.toJson) := by
      rw [List.map_map]
      exact List.map_congr_left fun entry member => by rw [(ih entry member).1, (ih entry member).2]; rfl
    have comparator : (fun a b : CanonicalItfLiteral × CanonicalItfLiteral => compareCompressed a.1.toJson b.1.toJson) =
        fun a b => compareTexts a.1 b.1 := funext fun a => funext fun b => compareCompressed_literals a.1 b.1
    simp only [canonicalLiteralValue, CanonicalItfLiteral.canonical, CanonicalItfLiteral.toJson,
      canonicalLiteralEntries_eq, CanonicalItfLiteral.canonicalEntries_eq, CanonicalItfLiteral.toJsonEntries_eq, each,
      sort_map, comparator]
  | variant tag payload ih =>
    rw [canonicalLiteralValue, ih]
    rfl

theorem canonicalModelTypeValue_eq (type : ModelType) : canonicalModelTypeValue type = type.canonical.toJson := by
  have named {fields : List (JsString × ModelType)}
      (ih : ∀ field ∈ fields, canonicalModelTypeValue field.2 = field.2.canonical.toJson) :
      sort compareNamed (canonicalModelTypeFields fields) =
        ModelType.toJsonFields (sort compareNamed (ModelType.canonicalFields fields)) := by
    have each : fields.map (fun field => (field.1, canonicalModelTypeValue field.2)) =
        (fields.map fun field => (field.1, field.2.canonical)).map fun field => (field.1, field.2.toJson) := by
      rw [List.map_map]
      exact List.map_congr_left fun field member => by rw [ih field member]; rfl
    rw [canonicalModelTypeFields_eq, ModelType.canonicalFields_eq, ModelType.toJsonFields_eq, each, sort_map]
    rfl
  induction type using ModelType.children_induct with
  | scalar kind => rfl
  | collection kind element ih =>
    rw [canonicalModelTypeValue, ih]
    rfl
  | tuple elements ih =>
    have each : elements.map canonicalModelTypeValue = (elements.map ModelType.canonical).map ModelType.toJson := by
      rw [List.map_map]
      exact List.map_congr_left ih
    rw [canonicalModelTypeValue, canonicalModelTypeValues_eq, each, ModelType.canonical, ModelType.toJson,
      ModelType.canonicals_eq, ModelType.toJsons_eq]
  | record fields ih =>
    rw [canonicalModelTypeValue, named ih]
    rfl
  | map key value ihKey ihValue =>
    rw [canonicalModelTypeValue, ihKey, ihValue]
    rfl
  | variant cases ih =>
    rw [canonicalModelTypeValue, named ih]
    rfl
  | opaqueItf description => rfl

theorem compress_array (items : List Json) : compressCanonicalJson (.array items) =
    (do return openBracket :: ((js ",").intercalate (← compressItems items) ++ [closeBracket])) := by
  rw [compressCanonicalJson]

theorem compress_object (fields : List (JsString × Json)) : compressCanonicalJson (.object fields) =
    (do return openBrace :: ((js ",").intercalate (← compressFields fields) ++ [closeBrace])) := by
  rw [compressCanonicalJson]

theorem compressItems_congr {α : Type} (xs : List α) {f g : α → Json}
    (each : ∀ x ∈ xs, compressCanonicalJson (f x) = compressCanonicalJson (g x)) :
    compressCanonicalJson (.array (xs.map f)) = compressCanonicalJson (.array (xs.map g)) := by
  have items : compressItems (xs.map f) = compressItems (xs.map g) := by
    induction xs with
    | nil => rfl
    | cons x rest ih =>
      rw [List.map_cons, List.map_cons, compressItems, compressItems, each x List.mem_cons_self,
        ih fun y member => each y (List.mem_cons_of_mem _ member)]
  rw [compress_array, compress_array, items]

/-- An index prints the same before and after its sign of zero is dropped. -/
theorem compress_index {position : Double} (safe : position.isSafeInteger = true) :
    compressCanonicalJson (.number position) = compressCanonicalJson (.number (.finite (position.toInt?.getD 0))) := by
  obtain ⟨i, value, small⟩ := Double.isSafeInteger_iff.mp safe
  have safe' : (Double.finite i).isSafeInteger = true := Double.isSafeInteger_iff.mpr ⟨i, Double.toInt?_intCast i, small⟩
  rw [compressCanonicalJson, compressCanonicalJson, value, Option.getD_some, if_pos safe, if_pos safe',
    Double.toInt?_intCast, Option.getD_some]

theorem compress_segment {segment : ContractPathSegment} (accepted : segment.Accepted) :
    compressCanonicalJson (canonicalPathSegmentValue segment) = compressCanonicalJson segment.canonical.toJson := by
  cases segment with
  | field name => rfl
  | index position =>
    simp only [canonicalPathSegmentValue, ContractPathSegment.canonical, ContractPathSegment.toJson, compress_object,
      compressFields, compress_index accepted.1]
  | mapKey key => rw [canonicalPathSegmentValue, canonicalLiteralValue_eq]; rfl
  | variantValue tag => rfl

theorem compress_input {phase : Phase} {input : ResolvedInput} (accepted : input.Accepted phase) :
    compressCanonicalJson (canonicalResolvedInputValue input) = compressCanonicalJson input.canonical.toJson := by
  have segments := compressItems_congr input.from.path fun segment member => compress_segment (accepted.path segment member)
  simp only [canonicalResolvedInputValue, ResolvedInput.canonical, ResolvedInput.toJson, compress_object, compressFields,
    segments, canonicalModelTypeValue_eq, List.map_map, Function.comp_def]

theorem compress_action {phase : Phase} {action : ResolvedAction} (accepted : action.Accepted phase) :
    compressCanonicalJson (canonicalResolvedActionValue action) = compressCanonicalJson action.canonical.toJson := by
  have inputs := compressItems_congr (sort compareInputs action.inputs)
    fun input member => compress_input (accepted.inputs input (mem_sort.mp member))
  have sorted : sort compareInputs (action.inputs.map ResolvedInput.canonical) =
      (sort compareInputs action.inputs).map ResolvedInput.canonical := sort_map _ _ _
  simp only [canonicalResolvedActionValue, ResolvedAction.canonical, ResolvedAction.toJson, compress_object,
    compressFields, inputs, sorted, List.map_map, Function.comp_def]

theorem canonicalResolvedObservationValue_eq (observation : ResolvedObservation) :
    canonicalResolvedObservationValue observation = observation.canonical.toJson := by
  rw [canonicalResolvedObservationValue, canonicalModelTypeValue_eq]
  rfl

/-- The canonical string is the compact text of the normal form. -/
theorem compress_descriptor {descriptor : SemanticDescriptor} (wellFormed : descriptor.WellFormed) :
    compressCanonicalJson (canonicalDescriptorValue descriptor) = compressCanonicalJson descriptor.canonical.toJson := by
  have initializers := compressItems_congr (sort compareActions descriptor.initializers)
    fun action member => compress_action (wellFormed.initializers action (mem_sort.mp member))
  have actions := compressItems_congr (sort compareActions descriptor.actions)
    fun action member => compress_action (wellFormed.actions action (mem_sort.mp member))
  have sorted (actions : List ResolvedAction) : sort compareActions (actions.map ResolvedAction.canonical) =
      (sort compareActions actions).map ResolvedAction.canonical := sort_map _ _ _
  have sortedObservations : sort compareObservations (descriptor.observations.map ResolvedObservation.canonical) =
      (sort compareObservations descriptor.observations).map ResolvedObservation.canonical := sort_map _ _ _
  have observations : (sort compareObservations descriptor.observations).map canonicalResolvedObservationValue =
      (sort compareObservations descriptor.observations).map fun observation => observation.canonical.toJson :=
    List.map_congr_left fun observation _ => canonicalResolvedObservationValue_eq observation
  simp only [canonicalDescriptorValue, SemanticDescriptor.canonical, SemanticDescriptor.toJson,
    ResolvedRunProfile.canonical, ResolvedRunProfile.toJson, compress_object, compressFields, initializers, actions, sorted,
    sortedObservations, observations, List.map_map, Function.comp_def]

/-! ### A normal form is its own normal form -/

theorem CanonicalItfLiteral.canonical_canonical (literal : CanonicalItfLiteral) :
    literal.canonical.canonical = literal.canonical := by
  induction literal using CanonicalItfLiteral.children_induct with
  | int value => rfl
  | bool value => rfl
  | str value => rfl
  | null => rfl
  | collection kind values ih =>
    have fixed : (values.map canonical).map canonical = values.map canonical := by
      rw [List.map_map]
      exact List.map_congr_left ih
    cases kind with
    | set => simp only [canonical, canonicals_eq, sort_map_idem compareTexts_consistent ih]
    | seq => simp only [canonical, canonicals_eq, fixed]
    | tuple => simp only [canonical, canonicals_eq, fixed]
  | record fields ih =>
    simp only [canonical, canonicalFields_eq]
    rw [sort_map_idem compareNamed_consistent fun field member => by rw [ih field member]]
  | map entries ih =>
    simp only [canonical, canonicalEntries_eq]
    rw [sort_map_idem (compareTexts_consistent.on Prod.fst) fun entry member => by
      rw [(ih entry member).1, (ih entry member).2]]
  | variant tag payload ih => simp only [canonical, ih]

theorem ModelType.canonical_canonical (type : ModelType) : type.canonical.canonical = type.canonical := by
  induction type using ModelType.children_induct with
  | scalar kind => rfl
  | collection kind element ih => simp only [canonical, ih]
  | tuple elements ih =>
    have fixed : (elements.map canonical).map canonical = elements.map canonical := by
      rw [List.map_map]
      exact List.map_congr_left ih
    simp only [canonical, canonicals_eq, fixed]
  | record fields ih =>
    simp only [canonical, canonicalFields_eq]
    rw [sort_map_idem compareNamed_consistent fun field member => by rw [ih field member]]
  | map key value ihKey ihValue => simp only [canonical, ihKey, ihValue]
  | variant cases ih =>
    simp only [canonical, canonicalFields_eq]
    rw [sort_map_idem compareNamed_consistent fun case member => by rw [ih case member]]
  | opaqueItf description => rfl

theorem ContractPathSegment.canonical_canonical (segment : ContractPathSegment) :
    segment.canonical.canonical = segment.canonical := by
  cases segment with
  | field name => rfl
  | index position => simp only [canonical, Double.toInt?_intCast, Option.getD_some]
  | mapKey key => simp only [canonical, key.canonical_canonical]
  | variantValue tag => rfl

theorem ResolvedInput.canonical_canonical (input : ResolvedInput) : input.canonical.canonical = input.canonical := by
  have path : (input.from.path.map ContractPathSegment.canonical).map ContractPathSegment.canonical =
      input.from.path.map ContractPathSegment.canonical := by
    rw [List.map_map]
    exact List.map_congr_left fun segment _ => segment.canonical_canonical
  simp only [canonical, path, input.type.canonical_canonical]

theorem ResolvedAction.canonical_canonical (action : ResolvedAction) : action.canonical.canonical = action.canonical := by
  simp only [canonical, sort_sort compareUnicodeScalars_consistent,
    sort_map_idem compareInputs_consistent fun input _ => input.canonical_canonical]

theorem ResolvedObservation.canonical_canonical (observation : ResolvedObservation) :
    observation.canonical.canonical = observation.canonical := by
  simp only [canonical, observation.type.canonical_canonical]

theorem SemanticDescriptor.canonical_canonical (descriptor : SemanticDescriptor) :
    descriptor.canonical.canonical = descriptor.canonical := by
  simp only [canonical, ResolvedRunProfile.canonical, sort_sort compareUnicodeScalars_consistent,
    sort_map_idem compareActions_consistent fun action _ => action.canonical_canonical,
    sort_map_idem compareObservations_consistent fun observation _ => observation.canonical_canonical]

end Mirror.ModelInterface
