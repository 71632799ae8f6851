import MirrorECMA.DynamicBinding.SameMaps
import MirrorECMA.ModelInterface.AcceptedDescriptor

namespace Mirror.DynamicBinding

open ECMA Mirror.Protocol Mirror.OpaqueItf
open Mirror.ModelInterface (ModelType ScalarKind validateModelType validateModelType_ok)

/-! ### The checks -/

theorem exactKeys_ok {keys expected : List JsString} {path : JsString} {done : Unit} :
    exactKeys keys expected path = .ok done ↔ keys.Perm expected := by
  have apart : ∀ a ∈ keys, ∀ b ∈ keys, compareCodeUnits a b ≤ 0 → compareCodeUnits b a ≤ 0 → a = b :=
    fun _ _ _ _ => eq_of_compareCodeUnits
  unfold exactKeys
  by_cases same : sort compareCodeUnits keys = sort compareCodeUnits expected
  · simp only [same, ne_eq, not_true_eq_false, ↓reduceIte, true_iff]
    exact perm_of_sort_eq same
  · simp only [same, ne_eq, not_false_eq_true, ↓reduceIte, reduceCtorEq, false_iff]
    intro perm
    exact same (sort_eq_of_perm compareCodeUnits_consistent apart perm)

theorem assertUniqueAfter_ok {path : JsString} {seen : List JsString} {values : List Value} {done : Unit} :
    assertUniqueAfter path seen values = .ok done ↔
      ∃ keys : List JsString, values.map valueIdentity = keys.map .ok ∧ keys.Nodup ∧ ∀ key ∈ keys, key ∉ seen := by
  induction values generalizing seen with
  | nil =>
    constructor
    · intro _
      exact ⟨[], rfl, List.nodup_nil, by simp⟩
    · intro _
      rfl
  | cons value rest ih =>
    simp only [assertUniqueAfter, bind_eq_ok]
    constructor
    · rintro ⟨key, accepted, checked⟩
      by_cases found : key ∈ seen
      · rw [if_pos found] at checked
        cases checked
      · rw [if_neg found, ih] at checked
        rcases checked with ⟨keys, texts, apart, fresh⟩
        refine ⟨key :: keys, ?_, ?_, ?_⟩
        · rw [List.map_cons, List.map_cons, accepted, texts]
        · exact List.nodup_cons.mpr ⟨fun member => fresh key member List.mem_cons_self, apart⟩
        · exact List.forall_mem_cons.mpr ⟨found, fun other member inside => fresh other member (List.mem_cons_of_mem _ inside)⟩
    · rintro ⟨keys, texts, apart, fresh⟩
      cases keys with
      | nil => cases texts
      | cons key keys =>
        rw [List.map_cons, List.map_cons, List.cons.injEq] at texts
        rw [List.nodup_cons] at apart
        rw [List.forall_mem_cons] at fresh
        refine ⟨key, texts.1, ?_⟩
        rw [if_neg fresh.1, ih]
        refine ⟨keys, texts.2, apart.2, fun other member inside => ?_⟩
        rcases List.mem_cons.mp inside with here | earlier
        · exact apart.1 (here ▸ member)
        · exact fresh.2 other member earlier

theorem assertUniqueValues_ok {values : List Value} {path : JsString} {done : Unit} :
    assertUniqueValues values path = .ok done ↔ ∃ keys : List JsString, values.map valueIdentity = keys.map .ok ∧ keys.Nodup := by
  simp only [assertUniqueValues, assertUniqueAfter_ok, List.not_mem_nil, not_false_eq_true, implies_true, and_true]

/-- Rearranging the records in the elements of a set or the keys of a map leaves them unique. -/
theorem assertUnique_of_sameMaps {pairs : List (Value × Value)} (each : ∀ p ∈ pairs, SameMaps p.1 p.2)
    (distinct : ∀ p ∈ pairs, p.1.EveryRecord Fields.Distinct) {path : JsString} {done : Unit}
    (unique : assertUniqueValues (pairs.map Prod.fst) path = .ok done) (other : JsString) :
    assertUniqueValues (pairs.map Prod.snd) other = .ok () := by
  rw [assertUniqueValues_ok] at unique ⊢
  rcases unique with ⟨keys, texts, apart⟩
  refine ⟨keys, ?_, apart⟩
  rw [← texts]
  refine (images_eq fun p member => ?_).symm
  have listed : valueIdentity p.1 ∈ (pairs.map Prod.fst).map valueIdentity :=
    List.mem_map_of_mem (List.mem_map_of_mem member)
  rw [texts] at listed
  rcases List.mem_map.mp listed with ⟨key, -, accepted⟩
  rw [← accepted, valueIdentity_of_sameMaps (each p member) (distinct p member) accepted.symm]

/-- An object is the list of its properties, in any order. -/
theorem entries_perm {α : Type} {fields : Fields α} {entries : List (JsString × α)} (distinct : Fields.Distinct fields)
    (names : (Fields.keys fields).Perm (entries.map Prod.fst))
    (own : ∀ entry ∈ entries, fields.get entry.1 = some entry.2) : entries.Perm fields := by
  have entriesDistinct : (entries.map Prod.fst).Nodup := names.nodup_iff.mp distinct
  apply (List.perm_ext_iff_of_nodup (List.Nodup.of_map _ entriesDistinct) (List.Nodup.of_map _ distinct)).mpr
  intro entry
  constructor
  · intro member
    exact Fields.mem_of_get (own entry member)
  · intro member
    have named : entry.1 ∈ entries.map Prod.fst := names.subset (List.mem_map_of_mem member)
    rcases List.mem_map.mp named with ⟨found, inside, same⟩
    have read := own found inside
    rw [same, Fields.get_of_mem distinct member] at read
    rw [← Prod.ext same (Option.some.inj read).symm]
    exact inside

/-! ### Lists -/

theorem mapItems_back {α β γ : Type} {f : α → JsString → Checked β} {g : β → JsString → Checked γ} {r : α → γ → Prop}
    {items : List α} (each : ∀ a ∈ items, ∀ path b, f a path = .ok b → ∃ c, r a c ∧ ∀ path, g b path = .ok c)
    {path : JsString} {index : Nat} {results : List β} (mapped : mapItems f path index items = .ok results) :
    ∃ pairs : List (α × γ), pairs.map Prod.fst = items ∧ (∀ p ∈ pairs, r p.1 p.2) ∧
      ∀ path index, mapItems g path index results = .ok (pairs.map Prod.snd) := by
  induction items generalizing index results with
  | nil =>
    cases mapped
    exact ⟨[], rfl, by simp, fun _ _ => rfl⟩
  | cons item rest ih =>
    simp only [mapItems, bind_eq_ok, pure_eq_ok, Except.ok.injEq] at mapped
    rcases mapped with ⟨head, first, tail, more, rfl⟩
    rcases each item List.mem_cons_self _ _ first with ⟨back, related, read⟩
    rcases ih (fun a member => each a (List.mem_cons_of_mem _ member)) more with ⟨pairs, rfl, all, reads⟩
    refine ⟨(item, back) :: pairs, rfl, List.forall_mem_cons.mpr ⟨related, all⟩, fun path index => ?_⟩
    simp only [mapItems, read, reads, ok_bind, pure_eq_ok, List.map_cons]

/-! ### Protocol values, read back -/

/-- What is decoded at a type is encoded at it as the value it came from. -/
def Recovered (shape : ModelType) : Prop :=
  ∀ value path native, value.EveryRecord Fields.Distinct → decodeNative value shape path = .ok native →
    ∃ back, SameMaps value back ∧ ∀ path, encodeNative native shape path = .ok back

theorem elements_recovered {elements : List ModelType} (each : ∀ type ∈ elements, Recovered type) {values : List Value}
    (distinct : ∀ value ∈ values, value.EveryRecord Fields.Distinct) (arity : values.length = elements.length)
    {path : JsString} {index : Nat} {natives : List NativeModelValue}
    (decoded : decodeElements values elements path index = .ok natives) :
    natives.length = elements.length ∧ ∃ pairs : List (Value × Value), pairs.map Prod.fst = values ∧
      (∀ p ∈ pairs, SameMaps p.1 p.2) ∧ ∀ path index, encodeElements natives elements path index = .ok (pairs.map Prod.snd) := by
  induction elements generalizing values index natives with
  | nil =>
    cases values with
    | nil =>
      rw [decodeElements] at decoded
      · cases decoded
        refine ⟨rfl, [], rfl, by simp, fun path index => ?_⟩
        rw [encodeElements]
        · rfl
        · simp
      · simp
    | cons value rest => cases arity
  | cons type types ih =>
    cases values with
    | nil => cases arity
    | cons value rest =>
      simp only [decodeElements, bind_eq_ok, pure_eq_ok, Except.ok.injEq] at decoded
      rcases decoded with ⟨head, first, tail, more, rfl⟩
      rcases each type List.mem_cons_self _ _ _ (distinct value List.mem_cons_self) first with ⟨back, same, read⟩
      rcases ih (fun type member => each type (List.mem_cons_of_mem _ member))
        (fun value member => distinct value (List.mem_cons_of_mem _ member)) (Nat.succ.inj arity) more with
        ⟨length, pairs, rfl, all, reads⟩
      refine ⟨congrArg Nat.succ length, (value, back) :: pairs, rfl, List.forall_mem_cons.mpr ⟨same, all⟩, ?_⟩
      intro path index
      simp only [encodeElements, read, reads, ok_bind, pure_eq_ok, List.map_cons]

theorem fields_recovered {fields : List (JsString × ModelType)} (each : ∀ field ∈ fields, Recovered field.2)
    {val : Fields Value} (distinct : ∀ field ∈ val, field.2.EveryRecord Fields.Distinct) {path : JsString}
    {natives : List (JsString × NativeModelValue)} (decoded : decodeFields val fields path = .ok natives) :
    natives.map Prod.fst = fields.map Prod.fst ∧ ∃ pairs : List ((JsString × Value) × (JsString × Value)),
      (pairs.map Prod.fst).map Prod.fst = fields.map Prod.fst ∧ (∀ p ∈ pairs, p.1.1 = p.2.1) ∧
      (∀ p ∈ pairs, SameMaps p.1.2 p.2.2) ∧ (∀ p ∈ pairs, val.get p.1.1 = some p.1.2) ∧
      ∀ record : Fields NativeModelValue, (∀ native ∈ natives, record.get native.1 = some native.2) →
        ∀ path, encodeFields record fields path = .ok (pairs.map Prod.snd) := by
  induction fields generalizing natives with
  | nil =>
    rw [decodeFields] at decoded
    cases decoded
    exact ⟨rfl, [], rfl, by simp, by simp, by simp, fun record reads path => by rw [encodeFields]; rfl⟩
  | cons field rest ih =>
    rcases field with ⟨wireName, type⟩
    cases found : val.get wireName with
    | none =>
      simp only [decodeFields, found, error_bind, reduceCtorEq] at decoded
    | some value =>
      simp only [decodeFields, found, bind_eq_ok, pure_eq_ok, Except.ok.injEq] at decoded
      rcases decoded with ⟨head, first, tail, more, rfl⟩
      have objects := distinct (wireName, value) (Fields.mem_of_get found)
      rcases each (wireName, type) List.mem_cons_self _ _ _ objects first with ⟨back, same, read⟩
      rcases ih (fun field member => each field (List.mem_cons_of_mem _ member)) more with
        ⟨names, pairs, pairNames, renamed, all, own, reads⟩
      refine ⟨by rw [List.map_cons, List.map_cons, names], ((wireName, value), (wireName, back)) :: pairs, ?_, ?_, ?_, ?_, ?_⟩
      · rw [List.map_cons, List.map_cons, List.map_cons, pairNames]
      · exact List.forall_mem_cons.mpr ⟨rfl, renamed⟩
      · exact List.forall_mem_cons.mpr ⟨same, all⟩
      · exact List.forall_mem_cons.mpr ⟨found, own⟩
      · intro record holds path
        rw [List.forall_mem_cons] at holds
        simp only [encodeFields, holds.1, Option.getD_some, read, reads record holds.2, ok_bind, pure_eq_ok, List.map_cons]

theorem case_recovered {cases : List (JsString × ModelType)} (each : ∀ case ∈ cases, Recovered case.2)
    {variantTag : JsString} {payload : Value} (distinct : payload.EveryRecord Fields.Distinct) {path : JsString}
    {native : NativeModelValue} (decoded : decodeCase variantTag payload cases path = .ok (some native)) :
    ∃ back, SameMaps payload back ∧ ∀ path, encodeCase variantTag native cases path = .ok (some back) := by
  induction cases with
  | nil =>
    rw [decodeCase] at decoded
    cases decoded
  | cons case rest ih =>
    rcases case with ⟨tag, type⟩
    rw [decodeCase] at decoded
    by_cases hit : tag = variantTag
    · rw [if_pos hit, fmap_eq_ok] at decoded
      rcases decoded with ⟨found, first, same⟩
      cases same
      rcases each (tag, type) List.mem_cons_self _ _ _ distinct first with ⟨back, same, read⟩
      refine ⟨back, same, fun path => ?_⟩
      rw [encodeCase, if_pos hit, read]
      rfl
    · rw [if_neg hit] at decoded
      rcases ih (fun case member => each case (List.mem_cons_of_mem _ member)) decoded with ⟨back, same, read⟩
      refine ⟨back, same, fun path => ?_⟩
      rw [encodeCase, if_neg hit, read]

theorem decodeScalar_some {kind : ScalarKind} {value : Value} {native : NativeModelValue}
    (decoded : decodeScalar kind value = some native) : encodeScalar kind native = some value := by
  cases kind <;> cases value <;> simp only [decodeScalar, Option.some.injEq, reduceCtorEq] at decoded <;>
    (subst decoded; rfl)

/-- The encoder of one map entry. -/
def encodeEntry (keyType valueType : ModelType) (entry : NativeModelValue) (path : JsString) : Checked (Value × Value) :=
  match entry with
  | .array [key, item] => do
    let key ← encodeNative key keyType (path ++ js ".key")
    return (key, ← encodeNative item valueType (path ++ js ".value"))
  | _ => .error (path ++ js ": expected map entry")

theorem encodeNative_map (keyType valueType : ModelType) (items : List NativeModelValue) (path : JsString) :
    encodeNative (.array items) (.map keyType valueType) path = (do
      let val ← mapItems (encodeEntry keyType valueType) path 0 items
      assertUniqueValues (val.map Prod.fst) path
      return .map val) := by
  rw [encodeNative]
  rfl

theorem entry_recovered {keyType valueType : ModelType} (keys : Recovered keyType) (values : Recovered valueType)
    {entry : Value × Value} (distinct : entry.1.EveryRecord Fields.Distinct ∧ entry.2.EveryRecord Fields.Distinct)
    {path : JsString} {native : NativeModelValue}
    (decoded : (do
      let key ← decodeNative entry.1 keyType (path ++ js ".key")
      let item ← decodeNative entry.2 valueType (path ++ js ".value")
      return NativeModelValue.array [key, item]) = Except.ok native) :
    ∃ back : Value × Value, (SameMaps entry.1 back.1 ∧ SameMaps entry.2 back.2) ∧
      ∀ path, encodeEntry keyType valueType native path = .ok back := by
  simp only [bind_eq_ok, pure_eq_ok, Except.ok.injEq] at decoded
  rcases decoded with ⟨key, decodedKey, item, decodedItem, rfl⟩
  rcases keys _ _ _ distinct.1 decodedKey with ⟨keyBack, sameKey, readKey⟩
  rcases values _ _ _ distinct.2 decodedItem with ⟨itemBack, sameItem, readItem⟩
  refine ⟨(keyBack, itemBack), ⟨sameKey, sameItem⟩, fun path => ?_⟩
  simp only [encodeEntry, readKey, readItem, ok_bind, pure_eq_ok]

theorem decode_then_encode (shape : ModelType) : Recovered shape := by
  induction shape using ModelType.children_induct with
  | scalar kind =>
    intro value path native distinct decoded
    cases found : decodeScalar kind value with
    | none =>
      rw [decodeNative, found] at decoded
      cases decoded
    | some result =>
      rw [decodeNative, found] at decoded
      cases decoded
      refine ⟨value, .refl value, fun path => ?_⟩
      rw [encodeNative, decodeScalar_some found]
  | collection kind element ih =>
    intro value path native distinct decoded
    cases kind with
    | set =>
      cases value <;> simp only [decodeNative, decodeMismatch, reduceCtorEq] at decoded
      rename_i val
      simp only [bind_eq_ok, pure_eq_ok, Except.ok.injEq] at decoded
      rcases decoded with ⟨_, unique, natives, mapped, rfl⟩
      rw [Value.everyRecord_set] at distinct
      rcases mapItems_back (fun a member path b => ih a _ b (distinct a member)) mapped with ⟨pairs, rfl, same, reads⟩
      have stays := assertUnique_of_sameMaps same (List.forall_mem_map.mp distinct) unique
      refine ⟨_, .set same, fun path => ?_⟩
      simp only [encodeNative, reads, stays, ok_bind, pure_eq_ok]
    | seq =>
      cases value <;> simp only [decodeNative, decodeMismatch, reduceCtorEq] at decoded
      rename_i val
      simp only [bind_eq_ok, pure_eq_ok, Except.ok.injEq] at decoded
      rcases decoded with ⟨natives, mapped, rfl⟩
      rw [Value.everyRecord_seq] at distinct
      rcases mapItems_back (fun a member path b => ih a _ b (distinct a member)) mapped with ⟨pairs, rfl, same, reads⟩
      refine ⟨_, .seq same, fun path => ?_⟩
      simp only [encodeNative, reads, ok_bind, pure_eq_ok]
  | tuple elements ih =>
    intro value path native distinct decoded
    cases value <;> simp only [decodeNative, decodeMismatch, reduceCtorEq] at decoded
    rename_i val
    by_cases arity : val.length = elements.length
    · simp only [arity, ↓reduceIte, bind_eq_ok, pure_eq_ok, Except.ok.injEq] at decoded
      rcases decoded with ⟨natives, mapped, rfl⟩
      rw [Value.everyRecord_tuple] at distinct
      rcases elements_recovered ih distinct arity mapped with ⟨length, pairs, rfl, same, reads⟩
      refine ⟨_, .tuple same, fun path => ?_⟩
      simp only [encodeNative, length, ↓reduceIte, reads, ok_bind, pure_eq_ok]
    · simp only [arity, ↓reduceIte, reduceCtorEq] at decoded
  | record fields ih =>
    intro value path native distinct decoded
    cases value <;> simp only [decodeNative, decodeMismatch, reduceCtorEq] at decoded
    rename_i val
    simp only [bind_eq_ok, pure_eq_ok, Except.ok.injEq, exactKeys_ok] at decoded
    rcases decoded with ⟨_, perm, natives, mapped, rfl⟩
    rw [Value.everyRecord_record] at distinct
    rcases fields_recovered ih distinct.2 mapped with ⟨names, pairs, pairNames, renamed, same, own, reads⟩
    have apart : (fields.map Prod.fst).Nodup := perm.nodup_iff.mp distinct.1
    have nativeDistinct : Fields.Distinct natives := by
      rw [Fields.Distinct, Fields.keys, names]
      exact apart
    have backNames : (pairs.map Prod.snd).map Prod.fst = fields.map Prod.fst :=
      (images_eq renamed).symm.trans pairNames
    have backDistinct : Fields.Distinct (pairs.map Prod.snd) := by
      rw [Fields.Distinct, Fields.keys, backNames]
      exact apart
    have entries : (pairs.map Prod.fst).Perm val :=
      entries_perm distinct.1 (pairNames ▸ perm) (List.forall_mem_map.mpr own)
    refine ⟨_, .record renamed same entries (List.Perm.refl _), fun path => ?_⟩
    have encoded := reads natives (fun native member => Fields.get_of_mem nativeDistinct member) path
    have keys : exactKeys (Fields.keys natives) (fields.map Prod.fst) path = .ok () :=
      exactKeys_ok.mpr (List.Perm.of_eq names)
    simp only [encodeNative, ownRecord, Fields.ofEntries_eq nativeDistinct, keys, encoded,
      Fields.ofEntries_eq backDistinct, ok_bind, pure_eq_ok]
  | map keyType valueType ihKey ihValue =>
    intro value path native distinct decoded
    cases value <;> simp only [decodeNative, decodeMismatch, reduceCtorEq] at decoded
    rename_i val
    rw [bind_eq_ok] at decoded
    rcases decoded with ⟨_, unique, decoded⟩
    rw [bind_eq_ok] at decoded
    rcases decoded with ⟨natives, mapped, built⟩
    cases built
    rw [Value.everyRecord_map] at distinct
    rcases mapItems_back (fun entry member path native => entry_recovered ihKey ihValue (distinct entry member)) mapped with
      ⟨pairs, rfl, same, reads⟩
    have distinctPairs := List.forall_mem_map.mp distinct
    have keyPairs : ∀ q ∈ pairs.map fun p => (p.1.1, p.2.1), SameMaps q.1 q.2 :=
      List.forall_mem_map.mpr fun p member => (same p member).1
    have keyDistinct : ∀ q ∈ pairs.map fun p => (p.1.1, p.2.1), q.1.EveryRecord Fields.Distinct :=
      List.forall_mem_map.mpr fun p member => (distinctPairs p member).1
    have listed : (pairs.map Prod.fst).map Prod.fst = (pairs.map fun p => (p.1.1, p.2.1)).map Prod.fst := by
      simp only [List.map_map, Function.comp_def]
    have backListed : (pairs.map Prod.snd).map Prod.fst = (pairs.map fun p => (p.1.1, p.2.1)).map Prod.snd := by
      simp only [List.map_map, Function.comp_def]
    rw [listed] at unique
    have stays := assertUnique_of_sameMaps keyPairs keyDistinct unique
    refine ⟨_, .map (fun p member => (same p member).1) (fun p member => (same p member).2), fun path => ?_⟩
    simp only [encodeNative_map, reads, backListed, stays, ok_bind, pure_eq_ok]
  | variant cases ih =>
    intro value path native distinct decoded
    cases value <;> simp only [decodeNative, decodeMismatch, reduceCtorEq] at decoded
    rename_i variantTag payload
    rw [bind_eq_ok] at decoded
    rcases decoded with ⟨found, first, built⟩
    cases found with
    | none => cases built
    | some inner =>
      cases built
      rw [Value.everyRecord_variant] at distinct
      rcases case_recovered ih distinct first with ⟨back, same, read⟩
      refine ⟨_, .variant variantTag same, fun path => ?_⟩
      have keys : exactKeys [js "tag", js "value"] [js "tag", js "value"] path = .ok () :=
        exactKeys_ok.mpr (List.Perm.refl _)
      simp only [encodeNative, ownRecord, Fields.get, Fields.keys, List.map_cons, List.map_nil, js_inj, String.reduceEq,
        ↓reduceIte, Option.getD_some, keys, read, ok_bind, pure_eq_ok]
  | opaqueItf description =>
    intro value path native distinct decoded
    simp only [decodeNative, bind_eq_ok, pure_eq_ok, Except.ok.injEq] at decoded
    rcases decoded with ⟨wrapped, created, rfl⟩
    rw [OpaqueItfValue.create_eq_ok, snapshot_foreign distinct] at created
    refine ⟨value, .refl value, fun path => ?_⟩
    rw [encodeNative, OpaqueItfValue.encode_eq, created.1]

/-! ### Native values, read back -/

/-- Equal with objects compared as finite maps, and arrays in their order. -/
inductive SameObjects : NativeModelValue → NativeModelValue → Prop
  | refl (value : NativeModelValue) : SameObjects value value
  | array {pairs : List (NativeModelValue × NativeModelValue)} : (∀ p ∈ pairs, SameObjects p.1 p.2) →
    SameObjects (.array (pairs.map Prod.fst)) (.array (pairs.map Prod.snd))
  | object {pairs : List ((JsString × NativeModelValue) × (JsString × NativeModelValue))}
    {xs ys : List (JsString × NativeModelValue)} : (∀ p ∈ pairs, p.1.1 = p.2.1) → (∀ p ∈ pairs, SameObjects p.1.2 p.2.2) →
    (pairs.map Prod.fst).Perm xs → (pairs.map Prod.snd).Perm ys → SameObjects (.object xs) (.object ys)

/-- What is encoded at a type is decoded at it as the native value it came from. -/
def Restored (shape : ModelType) : Prop :=
  ∀ native path value, encodeNative native shape path = .ok value →
    ∃ back, SameObjects native back ∧ ∀ path, decodeNative value shape path = .ok back

theorem elements_restored {elements : List ModelType} (each : ∀ type ∈ elements, Restored type)
    {natives : List NativeModelValue} (arity : natives.length = elements.length) {path : JsString} {index : Nat}
    {values : List Value} (encoded : encodeElements natives elements path index = .ok values) :
    values.length = elements.length ∧ ∃ pairs : List (NativeModelValue × NativeModelValue), pairs.map Prod.fst = natives ∧
      (∀ p ∈ pairs, SameObjects p.1 p.2) ∧
      ∀ path index, decodeElements values elements path index = .ok (pairs.map Prod.snd) := by
  induction elements generalizing natives index values with
  | nil =>
    cases natives with
    | nil =>
      rw [encodeElements] at encoded
      · cases encoded
        refine ⟨rfl, [], rfl, by simp, fun path index => ?_⟩
        rw [decodeElements]
        · rfl
        · simp
      · simp
    | cons native rest => cases arity
  | cons type types ih =>
    cases natives with
    | nil => cases arity
    | cons native rest =>
      simp only [encodeElements, bind_eq_ok, pure_eq_ok, Except.ok.injEq] at encoded
      rcases encoded with ⟨head, first, tail, more, rfl⟩
      rcases each type List.mem_cons_self _ _ _ first with ⟨back, same, read⟩
      rcases ih (fun type member => each type (List.mem_cons_of_mem _ member)) (Nat.succ.inj arity) more with
        ⟨length, pairs, rfl, all, reads⟩
      refine ⟨congrArg Nat.succ length, (native, back) :: pairs, rfl, List.forall_mem_cons.mpr ⟨same, all⟩, ?_⟩
      intro path index
      simp only [decodeElements, read, reads, ok_bind, pure_eq_ok, List.map_cons]

theorem fields_restored {fields : List (JsString × ModelType)} (each : ∀ field ∈ fields, Restored field.2)
    {record : Fields NativeModelValue} (present : ∀ field ∈ fields, ∃ native, record.get field.1 = some native)
    {path : JsString} {values : List (JsString × Value)} (encoded : encodeFields record fields path = .ok values) :
    values.map Prod.fst = fields.map Prod.fst ∧
      ∃ pairs : List ((JsString × NativeModelValue) × (JsString × NativeModelValue)),
      (pairs.map Prod.fst).map Prod.fst = fields.map Prod.fst ∧ (∀ p ∈ pairs, p.1.1 = p.2.1) ∧
      (∀ p ∈ pairs, SameObjects p.1.2 p.2.2) ∧ (∀ p ∈ pairs, record.get p.1.1 = some p.1.2) ∧
      ∀ val : Fields Value, (∀ field ∈ values, val.get field.1 = some field.2) →
        ∀ path, decodeFields val fields path = .ok (pairs.map Prod.snd) := by
  induction fields generalizing values with
  | nil =>
    rw [encodeFields] at encoded
    cases encoded
    exact ⟨rfl, [], rfl, by simp, by simp, by simp, fun val reads path => by rw [decodeFields]; rfl⟩
  | cons field rest ih =>
    rcases field with ⟨wireName, type⟩
    rcases present (wireName, type) List.mem_cons_self with ⟨native, found⟩
    simp only [encodeFields, found, Option.getD_some, bind_eq_ok, pure_eq_ok, Except.ok.injEq] at encoded
    rcases encoded with ⟨head, first, tail, more, rfl⟩
    rcases each (wireName, type) List.mem_cons_self _ _ _ first with ⟨back, same, read⟩
    rcases ih (fun field member => each field (List.mem_cons_of_mem _ member))
      (fun field member => present field (List.mem_cons_of_mem _ member)) more with
      ⟨names, pairs, pairNames, renamed, all, own, reads⟩
    refine ⟨by rw [List.map_cons, List.map_cons, names], ((wireName, native), (wireName, back)) :: pairs, ?_, ?_, ?_, ?_, ?_⟩
    · rw [List.map_cons, List.map_cons, List.map_cons, pairNames]
    · exact List.forall_mem_cons.mpr ⟨rfl, renamed⟩
    · exact List.forall_mem_cons.mpr ⟨same, all⟩
    · exact List.forall_mem_cons.mpr ⟨found, own⟩
    · intro val holds path
      rw [List.forall_mem_cons] at holds
      simp only [decodeFields, holds.1, read, reads val holds.2, ok_bind, pure_eq_ok, List.map_cons]

theorem case_restored {cases : List (JsString × ModelType)} (each : ∀ case ∈ cases, Restored case.2)
    {variantTag : JsString} {payload : NativeModelValue} {path : JsString} {value : Value}
    (encoded : encodeCase variantTag payload cases path = .ok (some value)) :
    ∃ back, SameObjects payload back ∧ ∀ path, decodeCase variantTag value cases path = .ok (some back) := by
  induction cases with
  | nil =>
    rw [encodeCase] at encoded
    cases encoded
  | cons case rest ih =>
    rcases case with ⟨tag, type⟩
    rw [encodeCase] at encoded
    by_cases hit : tag = variantTag
    · rw [if_pos hit, fmap_eq_ok] at encoded
      rcases encoded with ⟨found, first, same⟩
      cases same
      rcases each (tag, type) List.mem_cons_self _ _ _ first with ⟨back, same, read⟩
      refine ⟨back, same, fun path => ?_⟩
      rw [decodeCase, if_pos hit, read]
      rfl
    · rw [if_neg hit] at encoded
      rcases ih (fun case member => each case (List.mem_cons_of_mem _ member)) encoded with ⟨back, same, read⟩
      refine ⟨back, same, fun path => ?_⟩
      rw [decodeCase, if_neg hit, read]

theorem encodeScalar_some {kind : ScalarKind} {native : NativeModelValue} {value : Value}
    (encoded : encodeScalar kind native = some value) : decodeScalar kind value = some native := by
  cases kind <;> cases native <;> simp only [encodeScalar, Option.some.injEq, reduceCtorEq] at encoded <;>
    (subst encoded; rfl)

theorem entry_restored {keyType valueType : ModelType} (keys : Restored keyType) (values : Restored valueType)
    {native : NativeModelValue} {path : JsString} {entry : Value × Value}
    (encoded : encodeEntry keyType valueType native path = .ok entry) :
    ∃ back, SameObjects native back ∧ ∀ path, (do
      let key ← decodeNative entry.1 keyType (path ++ js ".key")
      let item ← decodeNative entry.2 valueType (path ++ js ".value")
      return NativeModelValue.array [key, item]) = Except.ok back := by
  unfold encodeEntry at encoded
  split at encoded
  · rename_i key item
    simp only [bind_eq_ok, pure_eq_ok, Except.ok.injEq] at encoded
    rcases encoded with ⟨keyValue, encodedKey, itemValue, encodedItem, rfl⟩
    rcases keys _ _ _ encodedKey with ⟨keyBack, sameKey, readKey⟩
    rcases values _ _ _ encodedItem with ⟨itemBack, sameItem, readItem⟩
    have pairs : ∀ p ∈ [(key, keyBack), (item, itemBack)], SameObjects p.1 p.2 := by
      simp only [List.forall_mem_cons, List.not_mem_nil, false_implies, implies_true, and_true]
      exact ⟨sameKey, sameItem⟩
    refine ⟨_, .array pairs, fun path => ?_⟩
    simp only [readKey, readItem, ok_bind, pure_eq_ok, List.map_cons, List.map_nil]
  · cases encoded

theorem unique_at {values : List Value} {path : JsString} {done : Unit}
    (unique : assertUniqueValues values path = .ok done) (other : JsString) : assertUniqueValues values other = .ok () :=
  assertUniqueValues_ok.mpr (assertUniqueValues_ok.mp unique)

theorem encode_then_decode {shape : ModelType} (named : shape.Named) : Restored shape := by
  induction shape using ModelType.children_induct with
  | scalar kind =>
    intro native path value encoded
    cases found : encodeScalar kind native with
    | none =>
      rw [encodeNative, found] at encoded
      cases encoded
    | some result =>
      rw [encodeNative, found] at encoded
      cases encoded
      refine ⟨native, .refl native, fun path => ?_⟩
      rw [decodeNative, encodeScalar_some found]
  | collection kind element ih =>
    intro native path value encoded
    cases named with
    | collection named =>
    cases native <;> simp only [encodeNative, encodeMismatch, reduceCtorEq] at encoded
    rename_i items
    rw [bind_eq_ok] at encoded
    rcases encoded with ⟨val, mapped, encoded⟩
    rcases mapItems_back (fun a _ path b => ih named a path b) mapped with ⟨pairs, rfl, same, reads⟩
    cases kind with
    | set =>
      simp only [bind_eq_ok, pure_eq_ok, Except.ok.injEq] at encoded
      rcases encoded with ⟨_, unique, rfl⟩
      refine ⟨_, .array same, fun path => ?_⟩
      simp only [decodeNative, unique_at unique, reads, ok_bind, pure_eq_ok]
    | seq =>
      cases encoded
      refine ⟨_, .array same, fun path => ?_⟩
      simp only [decodeNative, reads, ok_bind, pure_eq_ok]
  | tuple elements ih =>
    intro native path value encoded
    cases named with
    | tuple named =>
    cases native <;> simp only [encodeNative, encodeMismatch, reduceCtorEq] at encoded
    rename_i items
    by_cases arity : items.length = elements.length
    · simp only [arity, ↓reduceIte, bind_eq_ok, pure_eq_ok, Except.ok.injEq] at encoded
      rcases encoded with ⟨values, mapped, rfl⟩
      rcases elements_restored (fun type member => ih type member (named type member)) arity mapped with
        ⟨length, pairs, rfl, same, reads⟩
      refine ⟨_, .array same, fun path => ?_⟩
      simp only [decodeNative, length, ↓reduceIte, reads, ok_bind, pure_eq_ok]
    · simp only [arity, ↓reduceIte, reduceCtorEq] at encoded
  | record fields ih =>
    intro native path value encoded
    cases named with
    | record _ apart named =>
    cases native <;> simp only [encodeNative, ownRecord, encodeMismatch, reduceCtorEq] at encoded
    rename_i record
    simp only [bind_eq_ok, pure_eq_ok, Except.ok.injEq, exactKeys_ok] at encoded
    rcases encoded with ⟨_, perm, values, mapped, rfl⟩
    have distinct : Fields.Distinct record := perm.nodup_iff.mpr apart
    have present : ∀ field ∈ fields, ∃ native, Fields.get record field.1 = some native := by
      intro field member
      have listed : field.1 ∈ Fields.keys record := perm.mem_iff.mpr (List.mem_map_of_mem member)
      exact Option.isSome_iff_exists.mp (Fields.get_isSome.mpr listed)
    rcases fields_restored (fun field member => ih field member (named field member)) present mapped with
      ⟨names, pairs, pairNames, renamed, same, own, reads⟩
    have valuesDistinct : Fields.Distinct values := by
      rw [Fields.Distinct, Fields.keys, names]
      exact apart
    have backNames : (pairs.map Prod.snd).map Prod.fst = fields.map Prod.fst :=
      (images_eq renamed).symm.trans pairNames
    have backDistinct : Fields.Distinct (pairs.map Prod.snd) := by
      rw [Fields.Distinct, Fields.keys, backNames]
      exact apart
    have entries : (pairs.map Prod.fst).Perm record :=
      entries_perm distinct (pairNames ▸ perm) (List.forall_mem_map.mpr own)
    refine ⟨_, .object renamed same entries (List.Perm.refl _), fun path => ?_⟩
    have decoded := reads values (fun field member => Fields.get_of_mem valuesDistinct member) path
    have keys : exactKeys (Fields.keys values) (fields.map Prod.fst) path = .ok () :=
      exactKeys_ok.mpr (List.Perm.of_eq names)
    simp only [decodeNative, Fields.ofEntries_eq valuesDistinct, keys, decoded, Fields.ofEntries_eq backDistinct, ok_bind,
      pure_eq_ok]
  | map keyType valueType ihKey ihValue =>
    intro native path value encoded
    cases named with
    | map namedKey namedValue =>
    cases native with
    | array items =>
      rw [encodeNative_map, bind_eq_ok] at encoded
      rcases encoded with ⟨val, mapped, encoded⟩
      rw [bind_eq_ok] at encoded
      rcases encoded with ⟨_, unique, built⟩
      cases built
      have back := fun entry (_ : entry ∈ items) path found =>
        @entry_restored _ _ (ihKey namedKey) (ihValue namedValue) entry path found
      rcases mapItems_back back mapped with ⟨pairs, rfl, same, reads⟩
      refine ⟨_, .array same, fun path => ?_⟩
      rw [decodeNative]
      simp only [unique_at unique, ok_bind]
      rw [reads]
      rfl
    | _ => simp only [encodeNative, encodeMismatch, reduceCtorEq] at encoded
  | variant cases ih =>
    intro native path value encoded
    cases named with
    | variant _ apart named =>
    cases native <;> simp only [encodeNative, ownRecord, encodeMismatch, reduceCtorEq] at encoded
    rename_i record
    split at encoded
    · rename_i tag read
      simp only [bind_eq_ok, exactKeys_ok] at encoded
      rcases encoded with ⟨_, perm, found, first, built⟩
      cases found with
      | none => cases built
      | some inner =>
        cases built
        have names : ([js "tag", js "value"] : List JsString).Nodup := by decide
        have distinct : Fields.Distinct record := perm.nodup_iff.mpr names
        have listed : js "value" ∈ Fields.keys record := perm.mem_iff.mpr (by simp)
        rcases Option.isSome_iff_exists.mp (Fields.get_isSome.mpr listed) with ⟨payload, readPayload⟩
        rw [readPayload, Option.getD_some] at first
        rcases case_restored (fun case member => ih case member (named case member)) first with ⟨back, same, reads⟩
        have entries : [(js "tag", NativeModelValue.string tag), (js "value", payload)].Perm record := by
          have listed : (Fields.keys record).Perm ([(js "tag", NativeModelValue.string tag), (js "value", payload)].map Prod.fst) :=
            perm
          apply entries_perm distinct listed
          simp only [List.forall_mem_cons, List.not_mem_nil, false_implies, implies_true, and_true]
          exact ⟨read, readPayload⟩
        refine ⟨.object [(js "tag", .string tag), (js "value", back)], ?_, fun path => ?_⟩
        · let pairs := [((js "tag", NativeModelValue.string tag), (js "tag", NativeModelValue.string tag)),
            ((js "value", payload), (js "value", back))]
          have renamed : ∀ p ∈ pairs, p.1.1 = p.2.1 := by simp [pairs]
          have related : ∀ p ∈ pairs, SameObjects p.1.2 p.2.2 := by
            simp only [pairs, List.forall_mem_cons, List.not_mem_nil, false_implies, implies_true, and_true]
            exact ⟨.refl _, same⟩
          exact .object renamed related entries (List.Perm.refl _)
        · simp only [decodeNative, reads, ok_bind, pure_eq_ok]
    · cases encoded
  | opaqueItf description =>
    intro native path value encoded
    cases native <;> simp only [encodeNative, reduceCtorEq] at encoded
    rename_i wrapped
    rw [OpaqueItfValue.encode_eq, Except.ok.injEq] at encoded
    subst encoded
    refine ⟨.wrapped wrapped, .refl _, fun path => ?_⟩
    rw [decodeNative, OpaqueItfValue.create_eq_ok.mpr wrapped.checked]
    rfl

/-- Decoding and encoding at a type that `validateModelType` accepts undo each other. -/
theorem codec_roundTrip {shape : ModelType} {typePath : JsString} (valid : validateModelType shape typePath = .ok ())
    (path other : JsString) :
    (∀ value native, value.EveryRecord Fields.Distinct → decodeNative value shape path = .ok native →
      ∃ back, encodeNative native shape other = .ok back ∧ SameMaps value back) ∧
    ∀ native value, encodeNative native shape path = .ok value →
      ∃ back, decodeNative value shape other = .ok back ∧ SameObjects native back := by
  constructor
  · intro value native distinct decoded
    rcases decode_then_encode shape value path native distinct decoded with ⟨back, same, read⟩
    exact ⟨back, read other, same⟩
  · intro native value encoded
    rcases encode_then_decode ((validateModelType_ok shape typePath).mp valid) native path value encoded with
      ⟨back, same, read⟩
    exact ⟨back, read other, same⟩

def lampType : ModelType := .record [(js "on", .collection .set (.scalar .int)), (js "up", .scalar .bool)]

def lampValue : Value := .record [(js "up", .bool true), (js "on", .set [.int 1, .int 2])]

def lampNative : NativeModelValue := .object [(js "on", .array [.bigint 1, .bigint 2]), (js "up", .boolean true)]

theorem lamp_roundTrip : ∃ back, encodeNative lampNative lampType [] = .ok back ∧ SameMaps lampValue back := by
  have valid : validateModelType lampType [] = .ok () := (validateModelType_ok _ _).mpr
    (.record (by decide) (by decide) (by simp [ModelType.Named.collection, ModelType.Named.scalar]))
  have leaf {value : Value} (plain : ∀ record, ¬ value.RecordIn record) : value.EveryRecord Fields.Distinct :=
    fun record inside => (plain record inside).elim
  have distinct : lampValue.EveryRecord Fields.Distinct := by
    simp only [lampValue, Value.everyRecord_record, Value.everyRecord_set, List.forall_mem_cons, List.not_mem_nil,
      false_implies, implies_true, and_true]
    exact ⟨by decide, leaf (by rintro _ ⟨⟩), leaf (by rintro _ ⟨⟩), leaf (by rintro _ ⟨⟩)⟩
  exact (codec_roundTrip valid [] []).1 lampValue lampNative distinct (by rfl)

end Mirror.DynamicBinding
