import MirrorECMA.ModelInterface.CanonicalText

namespace Mirror.ModelInterface

open ECMA

/-! ### Rearrangements -/

/-- Equal up to the order of set elements, record fields and map entries, at every depth. -/
inductive CanonicalItfLiteral.Reordered : CanonicalItfLiteral → CanonicalItfLiteral → Prop
  | int (value : JsString) : Reordered (.int value) (.int value)
  | bool (value : Bool) : Reordered (.bool value) (.bool value)
  | str (value : JsString) : Reordered (.str value) (.str value)
  | null : Reordered .null .null
  | collection (kind : ValuesKind) {pairs : List (CanonicalItfLiteral × CanonicalItfLiteral)} :
    (∀ p ∈ pairs, Reordered p.1 p.2) →
    Reordered (.collection kind (pairs.map Prod.fst)) (.collection kind (pairs.map Prod.snd))
  | set {pairs : List (CanonicalItfLiteral × CanonicalItfLiteral)} {xs ys : List CanonicalItfLiteral} :
    (∀ p ∈ pairs, Reordered p.1 p.2) → (pairs.map Prod.fst).Perm xs → (pairs.map Prod.snd).Perm ys →
    Reordered (.collection .set xs) (.collection .set ys)
  | record {pairs : List ((JsString × CanonicalItfLiteral) × (JsString × CanonicalItfLiteral))}
    {xs ys : List (JsString × CanonicalItfLiteral)} :
    (∀ p ∈ pairs, p.1.1 = p.2.1) → (∀ p ∈ pairs, Reordered p.1.2 p.2.2) →
    (pairs.map Prod.fst).Perm xs → (pairs.map Prod.snd).Perm ys → Reordered (.record xs) (.record ys)
  | map {pairs : List ((CanonicalItfLiteral × CanonicalItfLiteral) × (CanonicalItfLiteral × CanonicalItfLiteral))}
    {xs ys : List (CanonicalItfLiteral × CanonicalItfLiteral)} :
    (∀ p ∈ pairs, Reordered p.1.1 p.2.1) → (∀ p ∈ pairs, Reordered p.1.2 p.2.2) →
    (pairs.map Prod.fst).Perm xs → (pairs.map Prod.snd).Perm ys → Reordered (.map xs) (.map ys)
  | variant (tag : JsString) {payload other : CanonicalItfLiteral} : Reordered payload other →
    Reordered (.variant tag payload) (.variant tag other)

/-- Equal up to the order of record fields and variant cases, at every depth. -/
inductive ModelType.Reordered : ModelType → ModelType → Prop
  | scalar (kind : ScalarKind) : Reordered (.scalar kind) (.scalar kind)
  | collection (kind : ElementKind) {element other : ModelType} : Reordered element other →
    Reordered (.collection kind element) (.collection kind other)
  | tuple {pairs : List (ModelType × ModelType)} : (∀ p ∈ pairs, Reordered p.1 p.2) →
    Reordered (.tuple (pairs.map Prod.fst)) (.tuple (pairs.map Prod.snd))
  | record {pairs : List ((JsString × ModelType) × (JsString × ModelType))} {xs ys : List (JsString × ModelType)} :
    (∀ p ∈ pairs, p.1.1 = p.2.1) → (∀ p ∈ pairs, Reordered p.1.2 p.2.2) →
    (pairs.map Prod.fst).Perm xs → (pairs.map Prod.snd).Perm ys → Reordered (.record xs) (.record ys)
  | map {key key' value value' : ModelType} : Reordered key key' → Reordered value value' →
    Reordered (.map key value) (.map key' value')
  | variant {pairs : List ((JsString × ModelType) × (JsString × ModelType))} {xs ys : List (JsString × ModelType)} :
    (∀ p ∈ pairs, p.1.1 = p.2.1) → (∀ p ∈ pairs, Reordered p.1.2 p.2.2) →
    (pairs.map Prod.fst).Perm xs → (pairs.map Prod.snd).Perm ys → Reordered (.variant xs) (.variant ys)
  | opaqueItf (description : JsString) : Reordered (.opaqueItf description) (.opaqueItf description)

/-- Indices are compared as `===` does, so `-0` is 0. -/
inductive ContractPathSegment.Reordered : ContractPathSegment → ContractPathSegment → Prop
  | field (name : JsString) : Reordered (.field name) (.field name)
  | index {position other : Double} : position.toInt? = other.toInt? → Reordered (.index position) (.index other)
  | mapKey {key other : CanonicalItfLiteral} : key.Reordered other → Reordered (.mapKey key) (.mapKey other)
  | variantValue (tag : JsString) : Reordered (.variantValue tag) (.variantValue tag)

/-- The elements of two lists pair up under `r`, in the same order. -/
def Aligned {α : Type} (r : α → α → Prop) (xs ys : List α) : Prop :=
  ∃ pairs : List (α × α), pairs.map Prod.fst = xs ∧ pairs.map Prod.snd = ys ∧ ∀ p ∈ pairs, r p.1 p.2

/-- The elements of two lists pair up under `r`, in any order. -/
def Rearranged {α : Type} (r : α → α → Prop) (xs ys : List α) : Prop :=
  ∃ pairs : List (α × α), (pairs.map Prod.fst).Perm xs ∧ (pairs.map Prod.snd).Perm ys ∧ ∀ p ∈ pairs, r p.1 p.2

structure ResolvedInput.Reordered (input other : ResolvedInput) : Prop where
  id : input.id = other.id
  root : input.from.root = other.from.root
  path : Aligned ContractPathSegment.Reordered input.from.path other.from.path
  type : input.type.Reordered other.type

structure ResolvedAction.Reordered (action other : ResolvedAction) : Prop where
  id : action.id = other.id
  phase : action.phase = other.phase
  wireAction : action.wireAction = other.wireAction
  wireAliases : action.wireAliases.Perm other.wireAliases
  inputs : Rearranged ResolvedInput.Reordered action.inputs other.inputs

structure ResolvedObservation.Reordered (observation other : ResolvedObservation) : Prop where
  id : observation.id = other.id
  wireName : observation.wireName = other.wireName
  type : observation.type.Reordered other.type

structure ResolvedRunProfile.Reordered (profile other : ResolvedRunProfile) : Prop where
  configuredParamVar : profile.configuredParamVar = other.configuredParamVar
  itfParamVars : profile.itfParamVars.Perm other.itfParamVars
  effectiveParamVars : profile.effectiveParamVars = other.effectiveParamVars

/-- Equal up to the order of the parts of a descriptor that have none. -/
structure SemanticDescriptor.Reordered (descriptor other : SemanticDescriptor) : Prop where
  interfaceVersion : descriptor.interfaceVersion = other.interfaceVersion
  module : descriptor.module = other.module
  runProfile : descriptor.runProfile.Reordered other.runProfile
  initializers : Rearranged ResolvedAction.Reordered descriptor.initializers other.initializers
  actions : Rearranged ResolvedAction.Reordered descriptor.actions other.actions
  observations : Rearranged ResolvedObservation.Reordered descriptor.observations other.observations

/-! ### Equal normal forms are rearrangements -/

/-- How the values of a collection are put in order. -/
def arranged (kind : ValuesKind) (values : List CanonicalItfLiteral) : List CanonicalItfLiteral :=
  match kind with
  | .set => sort compareTexts values
  | .seq | .tuple => values

theorem CanonicalItfLiteral.canonical_collection (kind : ValuesKind) (values : List CanonicalItfLiteral) :
    (collection kind values).canonical = .collection kind (arranged kind (values.map canonical)) := by
  cases kind <;> simp only [canonical, canonicals_eq, arranged]

theorem CanonicalItfLiteral.reordered_of_canonical {literal other : CanonicalItfLiteral}
    (same : literal.canonical = other.canonical) : literal.Reordered other := by
  induction literal using CanonicalItfLiteral.children_induct generalizing other with
  | int value =>
    cases other <;> simp only [canonical, canonical_collection, reduceCtorEq, int.injEq] at same
    exact same ▸ .int value
  | bool value =>
    cases other <;> simp only [canonical, canonical_collection, reduceCtorEq, bool.injEq] at same
    exact same ▸ .bool value
  | str value =>
    cases other <;> simp only [canonical, canonical_collection, reduceCtorEq, str.injEq] at same
    exact same ▸ .str value
  | null =>
    cases other <;> simp only [canonical, canonical_collection, reduceCtorEq] at same
    exact .null
  | collection kind values ih =>
    cases other <;> simp only [canonical, canonical_collection, reduceCtorEq, collection.injEq] at same
    rename_i others
    obtain ⟨rfl, same⟩ := same
    cases kind with
    | set =>
      obtain ⟨pairs, first, second, each⟩ := exists_pairs_of_perm (perm_of_sort_eq same)
      exact .set (fun p member => ih p.1 (mem_of_pairs first member) (each p member)) first second
    | seq =>
      obtain ⟨pairs, rfl, rfl, each⟩ := exists_pairs same
      exact .collection .seq fun p member => ih p.1 (List.mem_map_of_mem member) (each p member)
    | tuple =>
      obtain ⟨pairs, rfl, rfl, each⟩ := exists_pairs same
      exact .collection .tuple fun p member => ih p.1 (List.mem_map_of_mem member) (each p member)
  | record fields ih =>
    cases other <;> simp only [canonical, canonical_collection, reduceCtorEq, record.injEq, canonicalFields_eq] at same
    obtain ⟨pairs, first, second, each⟩ := exists_pairs_of_perm (perm_of_sort_eq same)
    exact .record (fun p member => (Prod.ext_iff.mp (each p member)).1)
      (fun p member => ih p.1 (mem_of_pairs first member) (Prod.ext_iff.mp (each p member)).2) first second
  | map entries ih =>
    cases other <;> simp only [canonical, canonical_collection, reduceCtorEq, map.injEq, canonicalEntries_eq] at same
    obtain ⟨pairs, first, second, each⟩ := exists_pairs_of_perm (perm_of_sort_eq same)
    exact .map (fun p member => (ih p.1 (mem_of_pairs first member)).1 (Prod.ext_iff.mp (each p member)).1)
      (fun p member => (ih p.1 (mem_of_pairs first member)).2 (Prod.ext_iff.mp (each p member)).2) first second
  | variant tag payload ih =>
    cases other <;> simp only [canonical, canonical_collection, reduceCtorEq, variant.injEq] at same
    obtain ⟨rfl, same⟩ := same
    exact .variant tag (ih same)

theorem ModelType.reordered_of_canonical {type other : ModelType} (same : type.canonical = other.canonical) :
    type.Reordered other := by
  induction type using ModelType.children_induct generalizing other with
  | scalar kind =>
    cases other <;> simp only [canonical, reduceCtorEq, scalar.injEq] at same
    exact same ▸ .scalar kind
  | collection kind element ih =>
    cases other <;> simp only [canonical, reduceCtorEq, collection.injEq] at same
    obtain ⟨rfl, same⟩ := same
    exact .collection kind (ih same)
  | tuple elements ih =>
    cases other <;> simp only [canonical, reduceCtorEq, tuple.injEq, canonicals_eq] at same
    obtain ⟨pairs, rfl, rfl, each⟩ := exists_pairs same
    exact .tuple fun p member => ih p.1 (List.mem_map_of_mem member) (each p member)
  | record fields ih =>
    cases other <;> simp only [canonical, reduceCtorEq, record.injEq, canonicalFields_eq] at same
    obtain ⟨pairs, first, second, each⟩ := exists_pairs_of_perm (perm_of_sort_eq same)
    exact .record (fun p member => (Prod.ext_iff.mp (each p member)).1)
      (fun p member => ih p.1 (mem_of_pairs first member) (Prod.ext_iff.mp (each p member)).2) first second
  | map key value ihKey ihValue =>
    cases other <;> simp only [canonical, reduceCtorEq, map.injEq] at same
    exact .map (ihKey same.1) (ihValue same.2)
  | variant cases ih =>
    cases other <;> simp only [canonical, reduceCtorEq, variant.injEq, canonicalFields_eq] at same
    obtain ⟨pairs, first, second, each⟩ := exists_pairs_of_perm (perm_of_sort_eq same)
    exact .variant (fun p member => (Prod.ext_iff.mp (each p member)).1)
      (fun p member => ih p.1 (mem_of_pairs first member) (Prod.ext_iff.mp (each p member)).2) first second
  | opaqueItf description =>
    cases other <;> simp only [canonical, reduceCtorEq, opaqueItf.injEq] at same
    exact same ▸ .opaqueItf description

theorem ContractPathSegment.reordered_of_canonical {segment other : ContractPathSegment} (accepted : segment.Accepted)
    (otherAccepted : other.Accepted) (same : segment.canonical = other.canonical) : segment.Reordered other := by
  cases segment with
  | field name =>
    cases other <;> simp only [canonical, reduceCtorEq, field.injEq] at same
    exact same ▸ .field name
  | index position =>
    cases other <;> simp only [canonical, reduceCtorEq, index.injEq, Double.finite.injEq, Rat.intCast_inj] at same
    obtain ⟨i, value, -⟩ := Double.isSafeInteger_iff.mp accepted.1
    obtain ⟨j, otherValue, -⟩ := Double.isSafeInteger_iff.mp otherAccepted.1
    rw [value, otherValue, Option.getD_some, Option.getD_some] at same
    exact .index (by rw [value, otherValue, same])
  | mapKey key =>
    cases other <;> simp only [canonical, reduceCtorEq, mapKey.injEq] at same
    exact .mapKey (CanonicalItfLiteral.reordered_of_canonical same)
  | variantValue tag =>
    cases other <;> simp only [canonical, reduceCtorEq, variantValue.injEq] at same
    exact same ▸ .variantValue tag

theorem rearranged_of_sort {α β : Type} {r : α → α → Prop} {f : α → β} {compare : β → β → Int} {xs ys : List α}
    (each : ∀ x ∈ xs, ∀ y ∈ ys, f x = f y → r x y) (same : sort compare (xs.map f) = sort compare (ys.map f)) :
    Rearranged r xs ys := by
  obtain ⟨pairs, first, second, images⟩ := exists_pairs_of_perm (perm_of_sort_eq same)
  exact ⟨pairs, first, second, fun p member =>
    each p.1 (mem_of_pairs first member) p.2 (second.subset (List.mem_map_of_mem member)) (images p member)⟩

theorem ResolvedInput.reordered_of_canonical {phase phase' : Phase} {input other : ResolvedInput}
    (accepted : input.Accepted phase) (otherAccepted : other.Accepted phase')
    (same : input.canonical = other.canonical) : input.Reordered other := by
  simp only [canonical, ResolvedInput.mk.injEq, InputSource.mk.injEq] at same
  obtain ⟨id, ⟨root, path⟩, type⟩ := same
  obtain ⟨pairs, first, second, images⟩ := exists_pairs path
  refine ⟨id, root, ⟨pairs, first, second, fun p member => ?_⟩, ModelType.reordered_of_canonical type⟩
  exact ContractPathSegment.reordered_of_canonical (accepted.path _ (first ▸ List.mem_map_of_mem member))
    (otherAccepted.path _ (second ▸ List.mem_map_of_mem member)) (images p member)

theorem ResolvedAction.reordered_of_canonical {phase : Phase} {action other : ResolvedAction}
    (accepted : action.Accepted phase) (otherAccepted : other.Accepted phase)
    (same : action.canonical = other.canonical) : action.Reordered other := by
  simp only [canonical, ResolvedAction.mk.injEq] at same
  obtain ⟨id, phase, wireAction, wireAliases, inputs⟩ := same
  exact ⟨id, phase, wireAction, perm_of_sort_eq wireAliases, rearranged_of_sort (fun input member input' member' =>
    ResolvedInput.reordered_of_canonical (accepted.inputs input member) (otherAccepted.inputs input' member')) inputs⟩

theorem ResolvedObservation.reordered_of_canonical {observation other : ResolvedObservation}
    (same : observation.canonical = other.canonical) : observation.Reordered other := by
  simp only [canonical, ResolvedObservation.mk.injEq] at same
  exact ⟨same.1, same.2.1, ModelType.reordered_of_canonical same.2.2⟩

theorem sortedUnique_sort (values : List JsString) : sort compareUnicodeScalars (sortedUnique values) = sortedUnique values :=
  sort_sort compareUnicodeScalars_consistent _

theorem ResolvedRunProfile.reordered_of_canonical {profile other : ResolvedRunProfile} (accepted : profile.Accepted)
    (otherAccepted : other.Accepted) (same : profile.canonical = other.canonical) : profile.Reordered other := by
  simp only [canonical, ResolvedRunProfile.mk.injEq] at same
  obtain ⟨configured, itf, effective⟩ := same
  refine ⟨configured, perm_of_sort_eq itf, ?_⟩
  rw [accepted.effective, otherAccepted.effective, sortedUnique_sort, sortedUnique_sort] at effective
  rw [accepted.effective, otherAccepted.effective, effective]

/-- Well-formed descriptors with one normal form differ in the order of unordered parts only. -/
theorem SemanticDescriptor.reordered_of_canonical {descriptor other : SemanticDescriptor}
    (wellFormed : descriptor.WellFormed) (otherWellFormed : other.WellFormed)
    (same : descriptor.canonical = other.canonical) : descriptor.Reordered other := by
  simp only [canonical, SemanticDescriptor.mk.injEq] at same
  obtain ⟨version, module, runProfile, initializers, actions, observations⟩ := same
  refine ⟨version, module, ResolvedRunProfile.reordered_of_canonical wellFormed.runProfile otherWellFormed.runProfile
    runProfile, rearranged_of_sort (fun action member action' member' => ?_) initializers,
    rearranged_of_sort (fun action member action' member' => ?_) actions,
    rearranged_of_sort (fun _ _ _ _ => ResolvedObservation.reordered_of_canonical) observations⟩
  · exact ResolvedAction.reordered_of_canonical (wellFormed.initializers action member)
      (otherWellFormed.initializers action' member')
  · exact ResolvedAction.reordered_of_canonical (wellFormed.actions action member)
      (otherWellFormed.actions action' member')

end Mirror.ModelInterface
