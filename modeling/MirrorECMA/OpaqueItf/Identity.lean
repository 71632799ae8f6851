import MirrorECMA.ECMA.BigInt
import MirrorECMA.ModelInterface.Reordered
import MirrorECMA.OpaqueItf.Accepted
import MirrorECMA.OpaqueItf.CanonicalText

namespace Mirror.OpaqueItf

open ECMA Mirror.Protocol

/-- Equal up to the order of set elements, map entries and record fields, at every depth. -/
inductive Equal : Value → Value → Prop
  | null : Equal .null .null
  | int (val : Int) : Equal (.int val) (.int val)
  | bool (val : Bool) : Equal (.bool val) (.bool val)
  | str (val : JsString) : Equal (.str val) (.str val)
  | unserializable (val : JsString) : Equal (.unserializable val) (.unserializable val)
  | set {pairs : List (Value × Value)} {xs ys : List Value} : (∀ p ∈ pairs, Equal p.1 p.2) →
    (pairs.map Prod.fst).Perm xs → (pairs.map Prod.snd).Perm ys → Equal (.set xs) (.set ys)
  | seq {pairs : List (Value × Value)} : (∀ p ∈ pairs, Equal p.1 p.2) →
    Equal (.seq (pairs.map Prod.fst)) (.seq (pairs.map Prod.snd))
  | tuple {pairs : List (Value × Value)} : (∀ p ∈ pairs, Equal p.1 p.2) →
    Equal (.tuple (pairs.map Prod.fst)) (.tuple (pairs.map Prod.snd))
  | record {pairs : List ((JsString × Value) × (JsString × Value))} {xs ys : List (JsString × Value)} :
    (∀ p ∈ pairs, p.1.1 = p.2.1) → (∀ p ∈ pairs, Equal p.1.2 p.2.2) → (pairs.map Prod.fst).Perm xs →
    (pairs.map Prod.snd).Perm ys → Equal (.record xs) (.record ys)
  | map {pairs : List ((Value × Value) × (Value × Value))} {xs ys : List (Value × Value)} :
    (∀ p ∈ pairs, Equal p.1.1 p.2.1) → (∀ p ∈ pairs, Equal p.1.2 p.2.2) → (pairs.map Prod.fst).Perm xs →
    (pairs.map Prod.snd).Perm ys → Equal (.map xs) (.map ys)
  | variant (tag : JsString) {value other : Value} : Equal value other → Equal (.variant tag value) (.variant tag other)

theorem identity_eq_iff {value other : Value} : identity value = identity other ↔ canonical value = canonical other :=
  stringify_injective.eq_iff

theorem canonicals_eq (values : List Value) : canonicals values = values.map canonical :=
  eq_map (by rw [canonicals]) (fun value rest => by rw [canonicals]) values

theorem canonicalFields_eq (fields : List (JsString × Value)) :
    canonicalFields fields = fields.map fun field => (field.1, canonical field.2) :=
  eq_map (by rw [canonicalFields]) (fun field rest => by rw [canonicalFields]) fields

theorem canonicalEntries_eq (entries : List (Value × Value)) :
    canonicalEntries entries = entries.map fun entry => .array [canonical entry.1, canonical entry.2] :=
  eq_map (by rw [canonicalEntries]) (fun entry rest => by rw [canonicalEntries]) entries

/-! ### Equal identities -/

/-- The text that stands for one field of a record. -/
theorem canonicalField_injective :
    Function.Injective fun field : JsString × CanonicalValue => CanonicalValue.array [.string field.1, field.2] := by
  intro first second same
  simp only [CanonicalValue.array.injEq, List.cons.injEq, CanonicalValue.string.injEq, and_true] at same
  exact Prod.ext same.1 same.2

theorem equal_of_canonical {value other : Value} (same : canonical value = canonical other) : Equal value other := by
  induction value using Value.parts_induct generalizing other with
  | null =>
    cases other <;> simp [canonical, tagged] at same
    exact .null
  | int val =>
    cases other <;> simp [canonical, tagged] at same
    exact integerText_injective same ▸ .int val
  | bool val =>
    cases other <;> simp [canonical, tagged] at same
    exact same ▸ .bool val
  | str val =>
    cases other <;> simp [canonical, tagged] at same
    exact same ▸ .str val
  | unserializable val =>
    cases other <;> simp [canonical, tagged] at same
    exact same ▸ .unserializable val
  | set val ih =>
    cases other <;> simp [canonical, tagged, canonicals_eq] at same
    rcases exists_pairs_of_perm (perm_of_sort_eq same) with ⟨pairs, first, second, each⟩
    exact .set (fun p member => ih p.1 (mem_of_pairs first member) (each p member)) first second
  | seq val ih =>
    cases other <;> simp [canonical, tagged, canonicals_eq] at same
    rcases exists_pairs same with ⟨pairs, rfl, rfl, each⟩
    exact .seq fun p member => ih p.1 (List.mem_map_of_mem member) (each p member)
  | tuple val ih =>
    cases other <;> simp [canonical, tagged, canonicals_eq] at same
    rcases exists_pairs same with ⟨pairs, rfl, rfl, each⟩
    exact .tuple fun p member => ih p.1 (List.mem_map_of_mem member) (each p member)
  | record val ih =>
    cases other <;> simp [canonical, tagged, canonicalFields_eq, canonicalField_injective.list_map.eq_iff] at same
    rcases exists_pairs_of_perm (perm_of_sort_eq same) with ⟨pairs, first, second, each⟩
    exact .record (fun p member => (Prod.ext_iff.mp (each p member)).1)
      (fun p member => ih p.1 (mem_of_pairs first member) (Prod.ext_iff.mp (each p member)).2) first second
  | map val ih =>
    cases other <;> simp [canonical, tagged, canonicalEntries_eq] at same
    rcases exists_pairs_of_perm (perm_of_sort_eq same) with ⟨pairs, first, second, each⟩
    have parts (p) (member : p ∈ pairs) : canonical p.1.1 = canonical p.2.1 ∧ canonical p.1.2 = canonical p.2.2 := by
      simpa using each p member
    exact .map (fun p member => (ih p.1 (mem_of_pairs first member)).1 (parts p member).1)
      (fun p member => (ih p.1 (mem_of_pairs first member)).2 (parts p member).2) first second
  | variant tag value ih =>
    cases other <;> simp [canonical, tagged] at same
    rcases same with ⟨rfl, same⟩
    exact .variant tag (ih same)

/-! ### Identities of equal values -/

theorem sorted_eq_of_perm {xs ys : List CanonicalValue} (same : xs.Perm ys) : sorted xs = sorted ys := by
  apply sort_eq_of_perm (compareCodeUnits_consistent.on CanonicalValue.stringify) _ same
  intro first _ second _ below above
  exact stringify_injective (eq_of_compareCodeUnits below above)

theorem canonical_of_equal {value other : Value} (same : Equal value other)
    (distinct : value.EveryRecord Fields.Distinct) : canonical value = canonical other := by
  induction same with
  | null => rfl
  | int val => rfl
  | bool val => rfl
  | str val => rfl
  | unserializable val => rfl
  | @set pairs xs ys each first second ih =>
    rw [Value.everyRecord_set] at distinct
    have images : (xs.map canonical).Perm (ys.map canonical) :=
      images_perm first second fun p member => ih p member (distinct p.1 (mem_of_pairs first member))
    simp only [canonical, canonicals_eq, sorted_eq_of_perm images]
  | @seq pairs each ih =>
    rw [Value.everyRecord_seq] at distinct
    have images : (pairs.map Prod.fst).map canonical = (pairs.map Prod.snd).map canonical := by
      rw [List.map_map, List.map_map]
      exact List.map_congr_left fun p member => ih p member (distinct p.1 (List.mem_map_of_mem member))
    simp only [canonical, canonicals_eq, images]
  | @tuple pairs each ih =>
    rw [Value.everyRecord_tuple] at distinct
    have images : (pairs.map Prod.fst).map canonical = (pairs.map Prod.snd).map canonical := by
      rw [List.map_map, List.map_map]
      exact List.map_congr_left fun p member => ih p member (distinct p.1 (List.mem_map_of_mem member))
    simp only [canonical, canonicals_eq, images]
  | @record pairs xs ys names each first second ih =>
    rw [Value.everyRecord_record] at distinct
    have images : (canonicalFields xs).Perm (canonicalFields ys) := by
      rw [canonicalFields_eq, canonicalFields_eq]
      apply images_perm first second
      intro p member
      exact Prod.ext (names p member) (ih p member (distinct.2 p.1 (mem_of_pairs first member)))
    have own : Fields.Distinct (canonicalFields xs) := by
      rw [canonicalFields_eq, Fields.Distinct, Fields.keys, List.map_map]
      exact distinct.1
    simp only [canonical, Fields.sort_eq_of_perm own images]
  | @map pairs xs ys keys each first second ihKeys ih =>
    rw [Value.everyRecord_map] at distinct
    have images : (canonicalEntries xs).Perm (canonicalEntries ys) := by
      rw [canonicalEntries_eq, canonicalEntries_eq]
      apply images_perm first second
      intro p member
      have own := distinct p.1 (mem_of_pairs first member)
      rw [ihKeys p member own.1, ih p member own.2]
    simp only [canonical, sorted_eq_of_perm images]
  | variant tag same ih =>
    rw [Value.everyRecord_variant] at distinct
    simp only [canonical, ih distinct]

theorem identity_iff {value other : Value} (distinct : value.EveryRecord Fields.Distinct) :
    identity value = identity other ↔ Equal value other :=
  identity_eq_iff.trans ⟨equal_of_canonical, fun same => canonical_of_equal same distinct⟩

/-- The identities of two accepted values tell whether they are equal up to the order of unordered parts. -/
theorem itfValueIdentity_iff {value other snapshot otherSnapshot : Value} (distinct : value.EveryRecord Fields.Distinct)
    (otherDistinct : other.EveryRecord Fields.Distinct) (accepted : snapshotItfValue (foreign value) = .ok snapshot)
    (otherAccepted : snapshotItfValue (foreign other) = .ok otherSnapshot) :
    itfValueIdentity value = itfValueIdentity other ↔ Equal value other := by
  have own := ((snapshot_foreign distinct).mp accepted).1
  have otherOwn := ((snapshot_foreign otherDistinct).mp otherAccepted).1
  subst own otherOwn
  rw [itfValueIdentity, itfValueIdentity, accepted, otherAccepted]
  simp only [Functor.map, Except.map, Except.ok.injEq]
  exact identity_iff distinct

def pins : Value := .set [.int 2, .record [(js "pin", .str (js "a")), (js "level", .tuple [.null])]]

def turnedPins : Value := .set [.record [(js "level", .tuple [.null]), (js "pin", .str (js "a"))], .int 2]

theorem pins_distinct : pins.EveryRecord Fields.Distinct ∧ turnedPins.EveryRecord Fields.Distinct := by
  have leaf {value : Value} (plain : ∀ record, ¬ value.RecordIn record) : value.EveryRecord Fields.Distinct :=
    fun record inside => (plain record inside).elim
  simp only [pins, turnedPins, Value.everyRecord_set, Value.everyRecord_record, Value.everyRecord_tuple,
    List.forall_mem_cons, List.not_mem_nil, false_implies, implies_true, and_true]
  have int : (Value.int 2).EveryRecord Fields.Distinct := leaf (by rintro _ ⟨⟩)
  have str : (Value.str (js "a")).EveryRecord Fields.Distinct := leaf (by rintro _ ⟨⟩)
  have null : Value.null.EveryRecord Fields.Distinct := leaf (by rintro _ ⟨⟩)
  exact ⟨⟨int, by decide, str, null⟩, ⟨by decide, null, str⟩, int⟩

theorem pins_identified : itfValueIdentity pins = itfValueIdentity turnedPins ↔ Equal pins turnedPins :=
  itfValueIdentity_iff pins_distinct.1 pins_distinct.2 (show snapshotItfValue (foreign pins) = .ok pins from rfl)
    (show snapshotItfValue (foreign turnedPins) = .ok turnedPins from rfl)

end Mirror.OpaqueItf
