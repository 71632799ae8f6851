import MirrorECMA.DynamicBinding.LiteralValue

namespace Mirror.DynamicBinding

open ECMA Mirror.Protocol Mirror.OpaqueItf
open Mirror.ModelInterface (CanonicalItfLiteral Unknown ValuesKind isCanonicalInteger canonicalLiteralValue
  canonicalLiteralValue_eq compressCanonicalJson compress_literal decodeLiteral decodeLiteral_accepted decodeLiteral_plain)

/-! ### Literals without a signed zero -/

mutual

/-- The literal with `-0` spelled `0` throughout. -/
def unsigned : CanonicalItfLiteral → CanonicalItfLiteral
  | .int value => .int (unsignedText value)
  | .bool value => .bool value
  | .str value => .str value
  | .null => .null
  | .collection kind values => .collection kind (unsignedItems values)
  | .record fields => .record (unsignedFields fields)
  | .map entries => .map (unsignedEntries entries)
  | .variant tag payload => .variant tag (unsigned payload)

def unsignedItems : List CanonicalItfLiteral → List CanonicalItfLiteral
  | [] => []
  | literal :: rest => unsigned literal :: unsignedItems rest

def unsignedFields : List (JsString × CanonicalItfLiteral) → List (JsString × CanonicalItfLiteral)
  | [] => []
  | (name, literal) :: rest => (name, unsigned literal) :: unsignedFields rest

def unsignedEntries :
    List (CanonicalItfLiteral × CanonicalItfLiteral) → List (CanonicalItfLiteral × CanonicalItfLiteral)
  | [] => []
  | (key, value) :: rest => (unsigned key, unsigned value) :: unsignedEntries rest

end

theorem unsignedItems_eq (values : List CanonicalItfLiteral) : unsignedItems values = values.map unsigned :=
  eq_map rfl (fun _ _ => rfl) values

theorem unsignedFields_eq (fields : List (JsString × CanonicalItfLiteral)) :
    unsignedFields fields = fields.map fun field => (field.1, unsigned field.2) := eq_map rfl (fun _ _ => rfl) fields

theorem unsignedEntries_eq (entries : List (CanonicalItfLiteral × CanonicalItfLiteral)) :
    unsignedEntries entries = entries.map fun entry => (unsigned entry.1, unsigned entry.2) :=
  eq_map rfl (fun _ _ => rfl) entries

theorem integerOf_unsignedText (text : JsString) : integerOf (unsignedText text) = integerOf text := by
  by_cases zero : text = js "-0"
  · subst zero
    decide
  · rw [unsignedText, if_neg zero]

theorem denoted_collection (kind : ValuesKind) (values : List CanonicalItfLiteral) :
    denoted (.collection kind values) = match kind with
      | .set => .set (values.map denoted)
      | .seq => .seq (values.map denoted)
      | .tuple => .tuple (values.map denoted) := by
  cases kind <;> rw [denoted, denotedItems_eq]

theorem denoted_unsigned (literal : CanonicalItfLiteral) : denoted (unsigned literal) = denoted literal := by
  induction literal using CanonicalItfLiteral.children_induct with
  | int text => rw [unsigned, denoted, denoted, integerOf_unsignedText]
  | bool _ | str _ | null => rfl
  | collection kind values ih =>
    have same : (values.map unsigned).map denoted = values.map denoted := by
      rw [List.map_map]
      exact List.map_congr_left ih
    rw [unsigned, unsignedItems_eq, denoted_collection, denoted_collection, same]
  | record fields ih =>
    have same : (fields.map fun field => (field.1, unsigned field.2)).map (fun field => (field.1, denoted field.2)) =
        fields.map fun field => (field.1, denoted field.2) := by
      rw [List.map_map]
      exact List.map_congr_left fun field member => Prod.ext rfl (ih field member)
    rw [unsigned, unsignedFields_eq, denoted, denoted, denotedFields_eq, denotedFields_eq, same]
  | map entries ih =>
    have same : (entries.map fun entry => (unsigned entry.1, unsigned entry.2)).map
        (fun entry => (denoted entry.1, denoted entry.2)) = entries.map fun entry => (denoted entry.1, denoted entry.2) := by
      rw [List.map_map]
      exact List.map_congr_left fun entry member => Prod.ext (ih entry member).1 (ih entry member).2
    rw [unsigned, unsignedEntries_eq, denoted, denoted, denotedEntries_eq, denotedEntries_eq, same]
  | variant tag payload ih => rw [unsigned, denoted, denoted, ih]

/-! ### Rearranged literals give equal values -/

theorem map_pairs {α β : Type} (f : α → β) (pairs : List (α × α)) :
    (pairs.map (Prod.map f f)).map Prod.fst = (pairs.map Prod.fst).map f ∧
      (pairs.map (Prod.map f f)).map Prod.snd = (pairs.map Prod.snd).map f := by
  simp [Function.comp_def]

theorem perm_pairs {α β : Type} (f : α → β) {pairs : List (α × α)} {xs ys : List α}
    (first : (pairs.map Prod.fst).Perm xs) (second : (pairs.map Prod.snd).Perm ys) :
    ((pairs.map (Prod.map f f)).map Prod.fst).Perm (xs.map f) ∧
      ((pairs.map (Prod.map f f)).map Prod.snd).Perm (ys.map f) := by
  rw [(map_pairs f pairs).1, (map_pairs f pairs).2]
  exact ⟨first.map f, second.map f⟩

theorem equal_of_reordered {literal other : CanonicalItfLiteral} (reordered : literal.Reordered other) :
    Equal (denoted literal) (denoted other) := by
  induction reordered with
  | int value => exact .int _
  | bool value => exact .bool value
  | str value => exact .str value
  | null => exact .null
  | @collection kind pairs _ ih =>
    have each : ∀ q ∈ pairs.map (Prod.map denoted denoted), Equal q.1 q.2 := List.forall_mem_map.mpr ih
    rw [denoted_collection, denoted_collection, ← (map_pairs denoted pairs).1, ← (map_pairs denoted pairs).2]
    cases kind with
    | set => exact .set each (.refl _) (.refl _)
    | seq => exact .seq each
    | tuple => exact .tuple each
  | @set pairs xs ys _ first second ih =>
    have each : ∀ q ∈ pairs.map (Prod.map denoted denoted), Equal q.1 q.2 := List.forall_mem_map.mpr ih
    obtain ⟨left, right⟩ := perm_pairs denoted first second
    rw [denoted_collection, denoted_collection]
    exact .set each left right
  | @record pairs xs ys names _ first second ih =>
    let field (f : JsString × CanonicalItfLiteral) : JsString × Value := (f.1, denoted f.2)
    have own : ∀ q ∈ pairs.map (Prod.map field field), q.1.1 = q.2.1 := List.forall_mem_map.mpr names
    have each : ∀ q ∈ pairs.map (Prod.map field field), Equal q.1.2 q.2.2 := List.forall_mem_map.mpr ih
    obtain ⟨left, right⟩ := perm_pairs field first second
    rw [denoted, denoted, denotedFields_eq, denotedFields_eq]
    exact .record own each left right
  | @map pairs xs ys _ _ first second ihKeys ih =>
    let entry (e : CanonicalItfLiteral × CanonicalItfLiteral) : Value × Value := (denoted e.1, denoted e.2)
    have keys : ∀ q ∈ pairs.map (Prod.map entry entry), Equal q.1.1 q.2.1 := List.forall_mem_map.mpr ihKeys
    have each : ∀ q ∈ pairs.map (Prod.map entry entry), Equal q.1.2 q.2.2 := List.forall_mem_map.mpr ih
    obtain ⟨left, right⟩ := perm_pairs entry first second
    rw [denoted, denoted, denotedEntries_eq, denotedEntries_eq]
    exact .map keys each left right
  | variant tag _ ih =>
    rw [denoted, denoted]
    exact .variant tag ih

/-! ### Equal values come from rearranged literals -/

def identified (literal : CanonicalItfLiteral) : CanonicalValue := canonical (denoted literal)

theorem identified_collection (kind : ValuesKind) (values : List CanonicalItfLiteral) :
    identified (.collection kind values) = match kind with
      | .set => tagged "set" [.array (sorted (values.map identified))]
      | .seq => tagged "seq" [.array (values.map identified)]
      | .tuple => tagged "tuple" [.array (values.map identified)] := by
  rw [identified, denoted_collection]
  cases kind <;> simp only [canonical, canonicals_eq, List.map_map] <;> rfl

theorem identified_record (fields : List (JsString × CanonicalItfLiteral)) : identified (.record fields) =
    tagged "record" [.array ((sort (fun a b => compareCodeUnits a.1 b.1)
      (fields.map fun field => (field.1, identified field.2))).map fun field => .array [.string field.1, field.2])] := by
  rw [identified, denoted, canonical, denotedFields_eq, canonicalFields_eq, List.map_map]
  rfl

theorem identified_map (entries : List (CanonicalItfLiteral × CanonicalItfLiteral)) : identified (.map entries) =
    tagged "map" [.array (sorted (entries.map fun entry => .array [identified entry.1, identified entry.2]))] := by
  rw [identified, denoted, canonical, denotedEntries_eq, canonicalEntries_eq, List.map_map]
  rfl

theorem tagged_inj {tag other : String} {parts rest : List CanonicalValue} :
    tagged tag parts = tagged other rest ↔ tag = other ∧ parts = rest := by
  simp [tagged]

theorem unsignedText_eq {text other : JsString} (canonical : isCanonicalInteger text = true)
    (otherCanonical : isCanonicalInteger other = true) (same : integerOf text = integerOf other) :
    unsignedText text = unsignedText other := by
  rw [← integerText_integerOf canonical, ← integerText_integerOf otherCanonical, same]

theorem reordered_items (kind : ValuesKind) {depth : Nat} {values others : List CanonicalItfLiteral}
    (step : ∀ literal ∈ values, ∀ {other : CanonicalItfLiteral} {depth : Nat}, other.Accepted depth →
      identified literal = identified other → (unsigned literal).Reordered (unsigned other))
    (accepted : ∀ other ∈ others, other.Accepted depth) (same : values.map identified = others.map identified) :
    (CanonicalItfLiteral.collection kind (values.map unsigned)).Reordered (.collection kind (others.map unsigned)) := by
  obtain ⟨pairs, rfl, rfl, each⟩ := exists_pairs same
  have related : ∀ q ∈ pairs.map (Prod.map unsigned unsigned), q.1.Reordered q.2 :=
    List.forall_mem_map.mpr fun p member => step p.1 (List.mem_map_of_mem member)
      (accepted p.2 (List.mem_map_of_mem member)) (each p member)
  rw [← (map_pairs unsigned pairs).1, ← (map_pairs unsigned pairs).2]
  exact .collection kind related

theorem reordered_of_identified {literal other : CanonicalItfLiteral} {depth depth' : Nat}
    (accepted : literal.Accepted depth) (otherAccepted : other.Accepted depth')
    (same : identified literal = identified other) : (unsigned literal).Reordered (unsigned other) := by
  induction accepted generalizing other depth' with
  | @int _ text _ integer =>
    cases otherAccepted with
    | @int _ text' _ integer' =>
      have texts : integerText (integerOf text) = integerText (integerOf text') := by
        simpa [identified, denoted, canonical, tagged] using same
      rw [unsigned, unsigned, unsignedText_eq integer integer' (integerText_injective texts)]
      exact .int _
    | @collection _ kind values =>
      cases kind <;> simp [identified, denoted, canonical, tagged_inj] at same
    | _ => simp [identified, denoted, canonical, tagged_inj] at same
  | @bool _ b =>
    cases otherAccepted with
    | @bool _ c =>
      have values : b = c := by simpa [identified, denoted, canonical, tagged] using same
      rw [values]
      exact .bool c
    | @collection _ kind values =>
      cases kind <;> simp [identified, denoted, canonical, tagged_inj] at same
    | _ => simp [identified, denoted, canonical, tagged_inj] at same
  | @str _ s _ =>
    cases otherAccepted with
    | @str _ t _ =>
      have texts : s = t := by simpa [identified, denoted, canonical, tagged] using same
      rw [texts]
      exact .str t
    | @collection _ kind values =>
      cases kind <;> simp [identified, denoted, canonical, tagged_inj] at same
    | _ => simp [identified, denoted, canonical, tagged_inj] at same
  | null =>
    cases otherAccepted with
    | null => exact .null
    | @collection _ kind values =>
      cases kind <;> simp [identified, denoted, canonical, tagged_inj] at same
    | _ => simp [identified, denoted, canonical, tagged_inj] at same
  | @collection _ kind values _ ih =>
    cases otherAccepted with
    | @collection _ kind' values' each' =>
      rw [unsigned, unsigned, unsignedItems_eq, unsignedItems_eq]
      cases kind with
      | set =>
        cases kind' <;> simp [identified_collection, tagged_inj] at same
        obtain ⟨pairs, first, second, each⟩ := exists_pairs_of_perm (perm_of_sort_eq same)
        have related : ∀ q ∈ pairs.map (Prod.map unsigned unsigned), q.1.Reordered q.2 :=
          List.forall_mem_map.mpr fun p member => ih p.1 (mem_of_pairs first member)
            (each' p.2 (second.subset (List.mem_map_of_mem member))) (each p member)
        obtain ⟨left, right⟩ := perm_pairs unsigned first second
        exact .set related left right
      | seq =>
        cases kind' <;> simp [identified_collection, tagged_inj] at same
        exact reordered_items .seq (fun literal member => ih literal member) each' same
      | tuple =>
        cases kind' <;> simp [identified_collection, tagged_inj] at same
        exact reordered_items .tuple (fun literal member => ih literal member) each' same
    | _ => cases kind <;> simp [identified, denoted, canonical, tagged_inj] at same
  | @record _ fields _ _ ih =>
    cases otherAccepted with
    | @record _ fields' _ each' =>
      rw [identified_record, identified_record] at same
      have rows := perm_of_sort_eq (canonicalField_injective.list_map.eq_iff.mp
        (CanonicalValue.array.inj (List.cons.inj (tagged_inj.mp same).2).1))
      obtain ⟨pairs, first, second, each⟩ := exists_pairs_of_perm rows
      let field (f : JsString × CanonicalItfLiteral) : JsString × CanonicalItfLiteral := (f.1, unsigned f.2)
      have names : ∀ q ∈ pairs.map (Prod.map field field), q.1.1 = q.2.1 :=
        List.forall_mem_map.mpr fun p member => (Prod.mk.inj (each p member)).1
      have related : ∀ q ∈ pairs.map (Prod.map field field), q.1.2.Reordered q.2.2 :=
        List.forall_mem_map.mpr fun p member => ih p.1 (mem_of_pairs first member)
          (each' p.2 (second.subset (List.mem_map_of_mem member))) (Prod.mk.inj (each p member)).2
      obtain ⟨left, right⟩ := perm_pairs field first second
      rw [unsigned, unsigned, unsignedFields_eq, unsignedFields_eq]
      exact .record names related left right
    | @collection _ kind values =>
      cases kind <;> simp [identified, denoted, canonical, tagged_inj] at same
    | _ => simp [identified, denoted, canonical, tagged_inj] at same
  | @map _ entries _ _ ihKeys ih =>
    cases otherAccepted with
    | @map _ entries' keys' each' =>
      rw [identified_map, identified_map] at same
      have rows := perm_of_sort_eq (CanonicalValue.array.inj (List.cons.inj (tagged_inj.mp same).2).1)
      obtain ⟨pairs, first, second, each⟩ := exists_pairs_of_perm rows
      have parts (p) (member : p ∈ pairs) :
          identified p.1.1 = identified p.2.1 ∧ identified p.1.2 = identified p.2.2 := by
        simpa using each p member
      let entry (e : CanonicalItfLiteral × CanonicalItfLiteral) : CanonicalItfLiteral × CanonicalItfLiteral :=
        (unsigned e.1, unsigned e.2)
      have inside {p} (member : p ∈ pairs) : p.2 ∈ entries' := second.subset (List.mem_map_of_mem member)
      have keys : ∀ q ∈ pairs.map (Prod.map entry entry), q.1.1.Reordered q.2.1 :=
        List.forall_mem_map.mpr fun p member => ihKeys p.1 (mem_of_pairs first member)
          (keys' p.2 (inside member)) (parts p member).1
      have related : ∀ q ∈ pairs.map (Prod.map entry entry), q.1.2.Reordered q.2.2 :=
        List.forall_mem_map.mpr fun p member => ih p.1 (mem_of_pairs first member)
          (each' p.2 (inside member)) (parts p member).2
      obtain ⟨left, right⟩ := perm_pairs entry first second
      rw [unsigned, unsigned, unsignedEntries_eq, unsignedEntries_eq]
      exact .map keys related left right
    | @collection _ kind values =>
      cases kind <;> simp [identified, denoted, canonical, tagged_inj] at same
    | _ => simp [identified, denoted, canonical, tagged_inj] at same
  | @variant _ tag payload _ _ ih =>
    cases otherAccepted with
    | @variant _ tag' payload' _ accepted' =>
      have both : tag = tag' ∧ identified payload = identified payload' := by
        simpa [identified, denoted, canonical, tagged] using same
      rw [unsigned, unsigned, both.1]
      exact .variant tag' (ih accepted' both.2)
    | @collection _ kind values =>
      cases kind <;> simp [identified, denoted, canonical, tagged_inj] at same
    | _ => simp [identified, denoted, canonical, tagged_inj] at same

/-! ### Canonical texts -/

theorem compress_literals_eq {literal other : CanonicalItfLiteral} {depth : Nat} (accepted : literal.Accepted depth)
    (otherAccepted : other.Accepted depth) :
    compressCanonicalJson (canonicalLiteralValue literal) = compressCanonicalJson (canonicalLiteralValue other) ↔
      literal.canonical = other.canonical := by
  rw [canonicalLiteralValue_eq, canonicalLiteralValue_eq]
  constructor
  · intro same
    rw [compress_literal, compress_literal, Except.ok.injEq] at same
    exact CanonicalItfLiteral.text_injective accepted.canonical otherAccepted.canonical same
  · intro same
    rw [same]

theorem identity_of_reordered {literal other : CanonicalItfLiteral} (reordered : literal.Reordered other)
    (distinct : (denoted literal).EveryRecord Fields.Distinct) : identity (denoted literal) = identity (denoted other) :=
  (identity_iff distinct).mpr (equal_of_reordered reordered)

/-- A literal whose value is accepted repeats no key in canonical form. -/
theorem keysDistinct_of_fits {literal : CanonicalItfLiteral} {depth levels : Nat} (accepted : literal.Accepted depth)
    (distinct : (denoted literal).EveryRecord Fields.Distinct) (fits : Fits levels (denoted literal)) :
    literal.KeysDistinct := by
  induction accepted generalizing levels with
  | int _ _ => exact .int _
  | bool => exact .bool _
  | str _ => exact .str _
  | null => exact .null
  | @collection _ kind values _ ih =>
    rw [denoted_collection] at distinct fits
    cases kind with
    | set =>
      rw [Value.everyRecord_set, List.forall_mem_map] at distinct
      cases fits with
      | set fits _ =>
        rw [List.forall_mem_map] at fits
        exact .collection fun literal member => ih literal member (distinct literal member) (fits literal member)
    | seq =>
      rw [Value.everyRecord_seq, List.forall_mem_map] at distinct
      cases fits with
      | seq fits =>
        rw [List.forall_mem_map] at fits
        exact .collection fun literal member => ih literal member (distinct literal member) (fits literal member)
    | tuple =>
      rw [Value.everyRecord_tuple, List.forall_mem_map] at distinct
      cases fits with
      | tuple fits =>
        rw [List.forall_mem_map] at fits
        exact .collection fun literal member => ih literal member (distinct literal member) (fits literal member)
  | @record _ fields _ _ ih =>
    rw [denoted, denotedFields_eq] at distinct fits
    rw [Value.everyRecord_record, List.forall_mem_map] at distinct
    cases fits with
    | record fits =>
      have names : (fields.map Prod.fst).Nodup := by
        have own := distinct.1
        rw [Fields.Distinct, Fields.keys, List.map_map] at own
        exact own
      exact .record names fun field member =>
        ih field member (distinct.2 field member) (List.forall_mem_map.mp fits field member)
  | @map _ entries keys _ ihKeys ih =>
    rw [denoted, denotedEntries_eq] at distinct fits
    rw [Value.everyRecord_map, List.forall_mem_map] at distinct
    cases fits with
    | map keyFits fits apart =>
      rw [List.forall_mem_map] at keyFits fits
      have names : (entries.map fun entry => canonicalLiteralValue entry.1).Nodup := by
        rw [List.map_map, List.Nodup, List.pairwise_map] at apart
        rw [List.Nodup, List.pairwise_map]
        refine apart.imp_of_mem fun {a b} left right away same => away ?_
        have texts := (compress_literals_eq (keys a left) (keys b right)).mp (congrArg compressCanonicalJson same)
        exact identity_of_reordered (CanonicalItfLiteral.reordered_of_canonical texts) (distinct a left).1
      exact .map names (fun entry member => ihKeys entry member (distinct entry member).1 (keyFits entry member))
        fun entry member => ih entry member (distinct entry member).2 (fits entry member)
  | variant _ _ ih =>
    rw [denoted] at distinct fits
    rw [Value.everyRecord_variant] at distinct
    cases fits with
    | variant fits => exact .variant (ih distinct fits)

/-- The canonical texts of two literals and the identities of their values agree exactly where literals that are
rearrangements of each other with `-0` spelled `0` are so as they are spelled. -/
theorem literalText_identity {value other : Unknown} {path otherPath : JsString} {l m : CanonicalItfLiteral}
    (decoded : decodeLiteral 128 value path = .ok l) (otherDecoded : decodeLiteral 128 other otherPath = .ok m)
    {v w : Value} (found : literalValue l = .ok v) (otherFound : literalValue m = .ok w) {a b : JsString}
    (identified : itfValueIdentity v = .ok a) (otherIdentified : itfValueIdentity w = .ok b) :
    (compressCanonicalJson (canonicalLiteralValue l) = compressCanonicalJson (canonicalLiteralValue m) ↔ a = b) ↔
      ((unsigned l).Reordered (unsigned m) → l.Reordered m) := by
  have accepted := decodeLiteral_accepted decoded
  have otherAccepted := decodeLiteral_accepted otherDecoded
  have usable := (literalValue_usable accepted).mp ⟨v, a, found, identified⟩
  have otherUsable := (literalValue_usable otherAccepted).mp ⟨w, b, otherFound, otherIdentified⟩
  obtain ⟨rfl, _⟩ := gives l v found
  obtain ⟨rfl, _⟩ := gives m w otherFound
  obtain rfl : identity (denoted l) = a := Except.ok.inj (usable.identity.symm.trans identified)
  obtain rfl : identity (denoted m) = b := Except.ok.inj (otherUsable.identity.symm.trans otherIdentified)
  have texts : compressCanonicalJson (canonicalLiteralValue l) = compressCanonicalJson (canonicalLiteralValue m) ↔
      l.Reordered m := by
    rw [compress_literals_eq accepted otherAccepted]
    constructor
    · exact CanonicalItfLiteral.reordered_of_canonical
    · exact fun reordered => reordered.canonical accepted (keysDistinct_of_fits accepted usable.distinct usable.fits)
  have identities : identity (denoted l) = identity (denoted m) ↔ (unsigned l).Reordered (unsigned m) := by
    constructor
    · exact fun same => reordered_of_identified accepted otherAccepted (identity_eq_iff.mp same)
    · intro reordered
      have same := identity_of_reordered reordered (denoted_unsigned l ▸ usable.distinct)
      rwa [denoted_unsigned, denoted_unsigned] at same
  rw [texts, identities]
  constructor
  · exact fun agree => agree.mpr
  · intro spelled
    refine ⟨fun reordered => ?_, spelled⟩
    exact identities.mp (identity_of_reordered reordered usable.distinct)

def twoTrue : CanonicalItfLiteral := .collection .set [.int (js "2"), .bool true]

def trueTwo : CanonicalItfLiteral := .collection .set [.bool true, .int (js "2")]

theorem twoTrue_text : compressCanonicalJson (canonicalLiteralValue twoTrue) =
    compressCanonicalJson (canonicalLiteralValue trueTwo) := by
  have reordered : twoTrue.Reordered trueTwo := by
    have each : ∀ p ∈ [(CanonicalItfLiteral.int (js "2"), CanonicalItfLiteral.int (js "2")), (.bool true, .bool true)],
        p.1.Reordered p.2 := by simp [CanonicalItfLiteral.Reordered.int, CanonicalItfLiteral.Reordered.bool]
    exact .set each (.refl _) (.swap _ _ [])
  have two : CanonicalItfLiteral.Accepted 127 (.int (js "2")) := .int (by decide) (by decide)
  have accepted : twoTrue.Accepted 128 := .collection (by simp [two, CanonicalItfLiteral.Accepted.bool])
  have otherAccepted : trueTwo.Accepted 128 := .collection (by simp [two, CanonicalItfLiteral.Accepted.bool])
  have key : itfValueIdentity (.set [.int 2, .bool true]) = .ok (js "[\"set\",[[\"bool\",true],[\"int\",\"2\"]]]") := by
    decide +kernel
  have otherKey : itfValueIdentity (.set [.bool true, .int 2]) = .ok (js "[\"set\",[[\"bool\",true],[\"int\",\"2\"]]]") := by
    decide +kernel
  exact ((literalText_identity (decodeLiteral_plain accepted []) (decodeLiteral_plain otherAccepted []) rfl rfl key
    otherKey).mpr fun _ => reordered).mpr rfl

/-- Zero and `-0` select one entry of a map, and are written apart. -/
theorem signedZero_apart : decodeLiteral 128 (some (CanonicalItfLiteral.int (js "-0")).toJson) [] = .ok (.int (js "-0")) ∧
    decodeLiteral 128 (some (CanonicalItfLiteral.int (js "0")).toJson) [] = .ok (.int (js "0")) ∧
    literalValue (.int (js "-0")) = .ok (.int 0) ∧ literalValue (.int (js "0")) = .ok (.int 0) ∧
    itfValueIdentity (.int 0) = .ok (js "[\"int\",\"0\"]") ∧
    compressCanonicalJson (canonicalLiteralValue (.int (js "-0"))) ≠
      compressCanonicalJson (canonicalLiteralValue (.int (js "0"))) := by
  have signed : CanonicalItfLiteral.Accepted 128 (.int (js "-0")) := .int (by decide) (by decide)
  have plain : CanonicalItfLiteral.Accepted 128 (.int (js "0")) := .int (by decide) (by decide)
  exact ⟨decodeLiteral_plain signed [], decodeLiteral_plain plain [], rfl, rfl, by decide +kernel, by decide +kernel⟩

end Mirror.DynamicBinding
