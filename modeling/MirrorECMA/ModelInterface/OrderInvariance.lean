import MirrorECMA.ModelInterface.Reordered

namespace Mirror.ModelInterface

open ECMA

/-! ### Rearranged lists -/

section

variable {α β : Type} {r : α → α → Prop} {xs ys : List α}

theorem Rearranged.length (rearranged : Rearranged r xs ys) : xs.length = ys.length := by
  obtain ⟨pairs, first, second, -⟩ := rearranged
  rw [← first.length_eq, ← second.length_eq, List.length_map, List.length_map]

theorem each_of_pairs {P : α → Prop} {Q : β → Prop} {pairs : List (α × β)} {xs : List α} {ys : List β}
    (first : (pairs.map Prod.fst).Perm xs) (second : (pairs.map Prod.snd).Perm ys) (all : ∀ x ∈ xs, P x)
    (step : ∀ p ∈ pairs, P p.1 → Q p.2) : ∀ y ∈ ys, Q y := by
  intro y member
  obtain ⟨p, inside, rfl⟩ := List.mem_map.mp (second.symm.subset member)
  exact step p inside (all p.1 (mem_of_pairs first inside))

theorem Rearranged.each {P Q : α → Prop} (rearranged : Rearranged r xs ys) (all : ∀ x ∈ xs, P x)
    (step : ∀ {x y}, r x y → P x → Q y) : ∀ y ∈ ys, Q y := by
  obtain ⟨pairs, first, second, related⟩ := rearranged
  exact each_of_pairs first second all fun p member => step (related p member)

theorem Rearranged.map_perm {f : α → β} (rearranged : Rearranged r xs ys)
    (same : ∀ x ∈ xs, ∀ y, r x y → f x = f y) : (xs.map f).Perm (ys.map f) := by
  obtain ⟨pairs, first, second, related⟩ := rearranged
  have images : (pairs.map Prod.fst).map f = (pairs.map Prod.snd).map f := by
    rw [List.map_map, List.map_map]
    exact List.map_congr_left fun p member => same p.1 (mem_of_pairs first member) p.2 (related p member)
  exact (first.symm.map f).trans (images ▸ second.map f)

theorem Rearranged.flatMap_perm {f : α → List β} (rearranged : Rearranged r xs ys)
    (same : ∀ {x y}, r x y → (f x).Perm (f y)) : (xs.flatMap f).Perm (ys.flatMap f) := by
  obtain ⟨pairs, first, second, related⟩ := rearranged
  have images : ((pairs.map Prod.fst).flatMap f).Perm ((pairs.map Prod.snd).flatMap f) := by
    clear first second
    induction pairs with
    | nil => exact .nil
    | cons p rest ih =>
      exact (same (related p List.mem_cons_self)).append
        (ih fun q member => related q (List.mem_cons_of_mem _ member))
  exact (first.symm.flatMap_right f).trans (images.trans (second.flatMap_right f))

theorem Rearranged.append {xs' ys' : List α} (left : Rearranged r xs ys) (right : Rearranged r xs' ys') :
    Rearranged r (xs ++ xs') (ys ++ ys') := by
  obtain ⟨pairs, first, second, related⟩ := left
  obtain ⟨pairs', first', second', related'⟩ := right
  refine ⟨pairs ++ pairs', ?_, ?_, fun p member => ?_⟩
  · rw [List.map_append]
    exact first.append first'
  · rw [List.map_append]
    exact second.append second'
  · exact (List.mem_append.mp member).elim (related p) (related' p)

theorem Aligned.rearranged (aligned : Aligned r xs ys) : Rearranged r xs ys := by
  obtain ⟨pairs, rfl, rfl, related⟩ := aligned
  exact ⟨pairs, .refl _, .refl _, related⟩

theorem Aligned.map_eq {f : α → β} (aligned : Aligned r xs ys) (same : ∀ x ∈ xs, ∀ y, r x y → f x = f y) :
    xs.map f = ys.map f := by
  obtain ⟨pairs, rfl, rfl, related⟩ := aligned
  rw [List.map_map, List.map_map]
  exact List.map_congr_left fun p member => same p.1 (List.mem_map_of_mem member) p.2 (related p member)

end

/-! ### Literals -/

theorem CanonicalItfLiteral.Reordered.accepted {literal other : CanonicalItfLiteral} (reordered : literal.Reordered other)
    {levels : Nat} (accepted : literal.Accepted levels) : other.Accepted levels := by
  induction reordered generalizing levels with
  | int | bool | str | null => exact accepted
  | collection kind _ ih =>
    cases accepted with
    | collection all =>
      refine .collection (List.forall_mem_map.mpr fun p member => ih p member (all p.1 (List.mem_map_of_mem member)))
  | set _ first second ih =>
    cases accepted with
    | collection all => exact .collection (each_of_pairs first second all fun p member => ih p member)
  | record names _ first second ih =>
    cases accepted with
    | record valid all =>
      exact .record (each_of_pairs first second valid fun p member valid => names p member ▸ valid)
        (each_of_pairs first second all fun p member => ih p member)
  | map _ _ first second ihKeys ihValues =>
    cases accepted with
    | map keys values =>
      exact .map (each_of_pairs first second keys fun p member => ihKeys p member)
        (each_of_pairs first second values fun p member => ihValues p member)
  | variant tag _ ih =>
    cases accepted with
    | variant valid inner => exact .variant valid (ih inner)

theorem CanonicalItfLiteral.Accepted.canonical {literal : CanonicalItfLiteral} {levels : Nat}
    (accepted : literal.Accepted levels) : literal.canonical.Accepted levels :=
  (reordered_of_canonical literal.canonical_canonical.symm).accepted accepted

theorem plain_object {fields : Fields Json} (labels : List String) (keys : fields.keys = labels.map js)
    (distinct : labels.Nodup) (each : ∀ field ∈ fields, PlainJson field.2) : PlainJson (.object fields) := by
  refine .object ?_ ?_ each
  · rw [Fields.Distinct, keys]
    exact distinct.map fun _ _ => js_inj.mp
  · rw [keys]
    exact List.forall_mem_map.mpr fun label _ => isWellFormed_js label

theorem CanonicalItfLiteral.Accepted.plain {literal : CanonicalItfLiteral} {levels : Nat}
    (accepted : literal.Accepted levels) : PlainJson literal.toJson := by
  have text (label : String) : PlainJson (.string (js label)) := .string (isWellFormed_js label)
  induction accepted with
  | int valid _ => exact plain_object ["kind", "value"] rfl (by decide) (by simp [text, PlainJson.string valid])
  | bool => exact plain_object ["kind", "value"] rfl (by decide) (by simp [text, PlainJson.bool])
  | str valid => exact plain_object ["kind", "value"] rfl (by decide) (by simp [text, PlainJson.string valid])
  | null => exact plain_object ["kind"] rfl (by decide) (by simp [text])
  | @collection levels kind values _ ih =>
    have items := PlainJson.array (List.forall_mem_map.mpr ih)
    exact plain_object ["kind", "values"] rfl (by decide) (by simp [text, items])
  | @record levels fields valid _ ih =>
    have field (field : JsString × CanonicalItfLiteral) (member : field ∈ fields) :
        PlainJson (.object [(js "name", .string field.1), (js "value", field.2.toJson)]) :=
      plain_object ["name", "value"] rfl (by decide) (by simp [PlainJson.string (valid field member), ih field member])
    have items := PlainJson.array (List.forall_mem_map.mpr field)
    exact plain_object ["fields", "kind"] rfl (by decide) (by simp [text, Function.comp_def, items])
  | @map levels entries _ _ keys values =>
    have entry (entry : CanonicalItfLiteral × CanonicalItfLiteral) (member : entry ∈ entries) :
        PlainJson (.object [(js "key", entry.1.toJson), (js "value", entry.2.toJson)]) :=
      plain_object ["key", "value"] rfl (by decide) (by simp [keys entry member, values entry member])
    have items := PlainJson.array (List.forall_mem_map.mpr entry)
    exact plain_object ["entries", "kind"] rfl (by decide) (by simp [text, Function.comp_def, items])
  | variant valid _ ih =>
    exact plain_object ["kind", "payload", "tag"] rfl (by decide) (by simp [text, PlainJson.string valid, ih])

/-- Literals of one level are told apart by their canonical text. -/
theorem CanonicalItfLiteral.text_injective {literal other : CanonicalItfLiteral} {levels : Nat}
    (accepted : literal.Accepted levels) (otherAccepted : other.Accepted levels) (same : literal.text = other.text) :
    literal = other := by
  have json : literal.toJson = other.toJson :=
    compress_injective accepted.plain otherAccepted.plain (by rw [compress_literal, compress_literal, same])
  have decoded := decodeLiteral_plain accepted []
  rw [json, decodeLiteral_plain otherAccepted []] at decoded
  exact (Except.ok.inj decoded).symm

/-- No record of the literal repeats a field name and no map a key, compared by canonical form. -/
inductive CanonicalItfLiteral.KeysDistinct : CanonicalItfLiteral → Prop
  | int (value : JsString) : KeysDistinct (.int value)
  | bool (value : Bool) : KeysDistinct (.bool value)
  | str (value : JsString) : KeysDistinct (.str value)
  | null : KeysDistinct .null
  | collection {kind : ValuesKind} {values : List CanonicalItfLiteral} : (∀ literal ∈ values, KeysDistinct literal) →
    KeysDistinct (.collection kind values)
  | record {fields : List (JsString × CanonicalItfLiteral)} : (fields.map Prod.fst).Nodup →
    (∀ field ∈ fields, KeysDistinct field.2) → KeysDistinct (.record fields)
  | map {entries : List (CanonicalItfLiteral × CanonicalItfLiteral)} :
    (entries.map fun entry => canonicalLiteralValue entry.1).Nodup → (∀ entry ∈ entries, KeysDistinct entry.1) →
    (∀ entry ∈ entries, KeysDistinct entry.2) → KeysDistinct (.map entries)
  | variant {tag : JsString} {payload : CanonicalItfLiteral} : KeysDistinct payload →
    KeysDistinct (.variant tag payload)

theorem map_perm_of_pairs {α β : Type} {f : α → β} {pairs : List (α × α)} {xs ys : List α}
    (first : (pairs.map Prod.fst).Perm xs) (second : (pairs.map Prod.snd).Perm ys)
    (same : ∀ p ∈ pairs, f p.1 = f p.2) : (xs.map f).Perm (ys.map f) := by
  have images : (pairs.map Prod.fst).map f = (pairs.map Prod.snd).map f := by
    rw [List.map_map, List.map_map]
    exact List.map_congr_left same
  exact (first.symm.map f).trans (images ▸ second.map f)

theorem CanonicalItfLiteral.Reordered.canonical {literal other : CanonicalItfLiteral}
    (reordered : literal.Reordered other) {levels : Nat} (accepted : literal.Accepted levels)
    (distinct : literal.KeysDistinct) : literal.canonical = other.canonical := by
  induction reordered generalizing levels with
  | int | bool | str | null => rfl
  | @collection kind pairs _ ih =>
    cases accepted with
    | collection all =>
      cases distinct with
      | collection inner =>
        have each : (pairs.map Prod.fst).map CanonicalItfLiteral.canonical =
            (pairs.map Prod.snd).map CanonicalItfLiteral.canonical := by
          rw [List.map_map, List.map_map]
          exact List.map_congr_left fun p member =>
            ih p member (all p.1 (List.mem_map_of_mem member)) (inner p.1 (List.mem_map_of_mem member))
        rw [canonical_collection, canonical_collection, each]
  | @set pairs xs ys _ first second ih =>
    cases accepted with
    | collection all =>
      cases distinct with
      | collection inner =>
        have same := map_perm_of_pairs first second fun p member =>
          ih p member (all p.1 (mem_of_pairs first member)) (inner p.1 (mem_of_pairs first member))
        simp only [CanonicalItfLiteral.canonical, canonicals_eq]
        rw [sort_eq_of_perm compareTexts_consistent (fun a left b right le ge => ?_) same]
        obtain ⟨a, insideA, rfl⟩ := List.mem_map.mp left
        obtain ⟨b, insideB, rfl⟩ := List.mem_map.mp right
        exact text_injective (all a insideA).canonical (all b insideB).canonical (compareUnicodeScalars_antisymm le ge)
  | @record pairs xs ys names _ first second ih =>
    cases accepted with
    | record valid all =>
      cases distinct with
      | record unique inner =>
        have same := map_perm_of_pairs (f := fun field => (field.1, field.2.canonical)) first second fun p member => by
          rw [names p member, ih p member (all p.1 (mem_of_pairs first member)) (inner p.1 (mem_of_pairs first member))]
        have keys : ((xs.map fun field => (field.1, field.2.canonical)).map Prod.fst).Nodup := by
          rw [List.map_map]
          exact unique
        simp only [CanonicalItfLiteral.canonical, canonicalFields_eq]
        exact congrArg CanonicalItfLiteral.record (sort_eq_of_perm_keyed keys same)
  | @map pairs xs ys _ _ first second ihKeys ihValues =>
    cases accepted with
    | map keys values =>
      cases distinct with
      | map unique innerKeys innerValues =>
        have same := map_perm_of_pairs (f := fun entry => (entry.1.canonical, entry.2.canonical)) first second
          fun p member => by
            have inside := mem_of_pairs first member
            rw [ihKeys p member (keys p.1 inside) (innerKeys p.1 inside),
              ihValues p member (values p.1 inside) (innerValues p.1 inside)]
        have texts : ((xs.map fun entry => (entry.1.canonical, entry.2.canonical)).map fun entry => entry.1.text).Nodup := by
          rw [List.map_map]
          refine List.pairwise_map.mpr ((List.pairwise_map.mp unique).imp_of_mem fun {a b} left right apart same => apart ?_)
          rw [canonicalLiteralValue_eq, canonicalLiteralValue_eq,
            text_injective (keys a left).canonical (keys b right).canonical same]
        simp only [CanonicalItfLiteral.canonical, canonicalEntries_eq]
        exact congrArg CanonicalItfLiteral.map (sort_eq_of_perm_keyed texts same)
  | variant tag _ ih =>
    cases accepted with
    | variant valid inner =>
      cases distinct with
      | variant distinct => simp only [CanonicalItfLiteral.canonical, ih inner distinct]

/-! ### Types -/

theorem ModelType.Reordered.accepted {type other : ModelType} (reordered : type.Reordered other) {levels : Nat}
    (accepted : type.Accepted levels) : other.Accepted levels := by
  induction reordered generalizing levels with
  | scalar | opaqueItf => exact accepted
  | collection kind _ ih =>
    cases accepted with
    | collection inner => exact .collection (ih inner)
  | tuple _ ih =>
    cases accepted with
    | tuple all =>
      exact .tuple (List.forall_mem_map.mpr fun p member => ih p member (all p.1 (List.mem_map_of_mem member)))
  | record names _ first second ih =>
    cases accepted with
    | record short all =>
      exact .record (each_of_pairs first second short fun p member short => names p member ▸ short)
        (each_of_pairs first second all fun p member => ih p member)
  | map _ _ ihKey ihValue =>
    cases accepted with
    | map key value => exact .map (ihKey key) (ihValue value)
  | variant names _ first second ih =>
    cases accepted with
    | variant short all =>
      exact .variant (each_of_pairs first second short fun p member short => names p member ▸ short)
        (each_of_pairs first second all fun p member => ih p member)

theorem names_perm {α : Type} {pairs : List ((JsString × α) × (JsString × α))} {xs ys : List (JsString × α)}
    (names : ∀ p ∈ pairs, p.1.1 = p.2.1) (first : (pairs.map Prod.fst).Perm xs) (second : (pairs.map Prod.snd).Perm ys) :
    (xs.map Prod.fst).Perm (ys.map Prod.fst) := map_perm_of_pairs first second names

theorem ModelType.Reordered.named {type other : ModelType} (reordered : type.Reordered other) (named : type.Named) :
    other.Named := by
  induction reordered with
  | scalar | opaqueItf => exact named
  | collection kind _ ih =>
    cases named with
    | collection inner => exact .collection (ih inner)
  | tuple _ ih =>
    cases named with
    | tuple all => exact .tuple (List.forall_mem_map.mpr fun p member => ih p member (all p.1 (List.mem_map_of_mem member)))
  | record names _ first second ih =>
    cases named with
    | record filled unique all =>
      have same := names_perm names first second
      exact .record (fun member => filled (same.symm.subset member)) (same.nodup_iff.mp unique)
        (each_of_pairs first second all fun p member => ih p member)
  | map _ _ ihKey ihValue =>
    cases named with
    | map key value => exact .map (ihKey key) (ihValue value)
  | variant names _ first second ih =>
    cases named with
    | variant filled unique all =>
      have same := names_perm names first second
      exact .variant (fun member => filled (same.symm.subset member)) (same.nodup_iff.mp unique)
        (each_of_pairs first second all fun p member => ih p member)

theorem ModelType.Reordered.nodes {type other : ModelType} (reordered : type.Reordered other) : type.nodes = other.nodes := by
  induction reordered with
  | scalar | opaqueItf => rfl
  | collection kind _ ih => simp only [ModelType.nodes, ih]
  | tuple _ ih =>
    simp only [ModelType.nodes, ModelType.nodesSum_eq, List.map_map]
    exact congrArg (fun nodes => nodes.sum + 1) (List.map_congr_left ih)
  | record _ _ first second ih =>
    have same := map_perm_of_pairs (f := fun field => field.2.nodes) first second ih
    simp only [ModelType.nodes, ModelType.namedNodesSum_eq, same.sum_nat]
  | map _ _ ihKey ihValue => simp only [ModelType.nodes, ihKey, ihValue]
  | variant _ _ first second ih =>
    have same := map_perm_of_pairs (f := fun field => field.2.nodes) first second ih
    simp only [ModelType.nodes, ModelType.namedNodesSum_eq, same.sum_nat]

theorem ModelType.Reordered.canonical {type other : ModelType} (reordered : type.Reordered other) (named : type.Named) :
    type.canonical = other.canonical := by
  have sorted {pairs : List ((JsString × ModelType) × (JsString × ModelType))} {xs ys : List (JsString × ModelType)}
      (names : ∀ p ∈ pairs, p.1.1 = p.2.1) (first : (pairs.map Prod.fst).Perm xs) (second : (pairs.map Prod.snd).Perm ys)
      (unique : (xs.map Prod.fst).Nodup) (same : ∀ p ∈ pairs, p.1.2.canonical = p.2.2.canonical) :
      sort compareNamed (canonicalFields xs) = sort compareNamed (canonicalFields ys) := by
    have perm := map_perm_of_pairs (f := fun field => (field.1, field.2.canonical)) first second fun p member => by
      rw [names p member, same p member]
    rw [canonicalFields_eq, canonicalFields_eq]
    refine sort_eq_of_perm_keyed ?_ perm
    rw [List.map_map]
    exact unique
  induction reordered with
  | scalar | opaqueItf => rfl
  | collection kind _ ih =>
    cases named with
    | collection inner => simp only [ModelType.canonical, ih inner]
  | tuple _ ih =>
    cases named with
    | tuple all =>
      simp only [ModelType.canonical, canonicals_eq, List.map_map]
      exact congrArg ModelType.tuple
        (List.map_congr_left fun p member => ih p member (all p.1 (List.mem_map_of_mem member)))
  | record names _ first second ih =>
    cases named with
    | record _ unique all =>
      simp only [ModelType.canonical, sorted names first second unique fun p member =>
        ih p member (all p.1 (mem_of_pairs first member))]
  | map _ _ ihKey ihValue =>
    cases named with
    | map key value => simp only [ModelType.canonical, ihKey key, ihValue value]
  | variant names _ first second ih =>
    cases named with
    | variant _ unique all =>
      simp only [ModelType.canonical, sorted names first second unique fun p member =>
        ih p member (all p.1 (mem_of_pairs first member))]

end Mirror.ModelInterface
