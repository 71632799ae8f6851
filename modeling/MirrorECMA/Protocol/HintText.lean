import MirrorECMA.ECMA.NearestRoundTrip
import MirrorECMA.ECMA.Alike
import MirrorECMA.ModelInterface.Descriptor
import MirrorECMA.Protocol.Prettify
import MirrorECMA.Protocol.Value

namespace Mirror.Protocol

open ECMA
open Mirror.ModelInterface (ModelType)

/-! ### Values as they are shown -/

/-- What a value of the protocol is shown as. -/
def shown (v : Value) : Json := (prettifyValue v.toAny).getD .null

theorem prettifyValue_toAny (v : Value) : prettifyValue v.toAny = some (shown v) := by
  cases v <;> rfl

theorem prettifyValues_toAnys (vs : List Value) : prettifyValues (Value.toAnys vs) = vs.map shown := by
  induction vs with
  | nil => rfl
  | cons v rest ih => rw [Value.toAnys, prettifyValues, ih, prettifyValue_toAny]; rfl

theorem prettifyEntries_toAny (entries : List (Value × Value)) :
    prettifyEntries (Value.toAnyEntries entries) = entries.map fun entry => .array [shown entry.1, shown entry.2] := by
  induction entries with
  | nil => rfl
  | cons entry rest ih =>
    rw [Value.toAnyEntries, prettifyEntries, ih, prettifyValue_toAny, prettifyValue_toAny]
    rfl

theorem prettifyFields_toAny (fields : List (JsString × Value)) :
    prettifyFields (Value.toAnyFields fields) = fields.map fun field => (field.1, shown field.2) := by
  induction fields with
  | nil => rfl
  | cons field rest ih =>
    rw [Value.toAnyFields, prettifyFields, ih, prettifyValue_toAny]
    rfl

/-- The fields of a record that its copy has. -/
def visible (fields : List (JsString × Value)) : List (JsString × Value) :=
  fields.filter fun field => field.1 ≠ js "__proto__"

theorem visible_distinct {fields : List (JsString × Value)} (distinct : Fields.Distinct fields) :
    Fields.Distinct (visible fields) :=
  distinct.sublist (List.filter_sublist.map Prod.fst)

theorem shown_set (vs : List Value) : shown (.set vs) = .array (vs.map shown) :=
  congrArg Json.array (prettifyValues_toAnys vs)

theorem shown_seq (vs : List Value) : shown (.seq vs) = .array (vs.map shown) :=
  congrArg Json.array (prettifyValues_toAnys vs)

theorem shown_tuple (vs : List Value) : shown (.tuple vs) = .array (vs.map shown) :=
  congrArg Json.array (prettifyValues_toAnys vs)

theorem shown_map (entries : List (Value × Value)) :
    shown (.map entries) = .array (entries.map fun entry => .array [shown entry.1, shown entry.2]) :=
  congrArg Json.array (prettifyEntries_toAny entries)

theorem shown_variant (tag : JsString) (v : Value) :
    shown (.variant tag v) = .object [(js "tag", .string tag), (js "value", shown v)] := by
  unfold shown
  rw [Value.toAny, prettifyValue, prettifyValue_toAny]
  rfl

theorem shown_record {fields : List (JsString × Value)} (distinct : Fields.Distinct fields) :
    shown (.record fields) = .object ((visible fields).map fun field => (field.1, shown field.2)) := by
  have kept : Fields.Distinct ((visible fields).map fun field => (field.1, shown field.2)) := by
    unfold Fields.Distinct Fields.keys
    rw [List.map_map]
    exact visible_distinct distinct
  have filtered : (fields.map fun field => (field.1, shown field.2)).filter (fun entry => entry.1 ≠ js "__proto__") =
      (visible fields).map fun field => (field.1, shown field.2) := List.filter_map
  have assigned : assignFields (prettifyFields (Value.toAnyFields fields)) =
      (visible fields).map fun field => (field.1, shown field.2) := by
    rw [assignFields, prettifyFields_toAny, filtered, Fields.ofEntries_eq kept]
  exact congrArg Json.object assigned

/-! ### Values of a model type -/

/-- A value of a model type, with no part of an opaque type. -/
inductive HasType : ModelType → Value → Prop
  | int (val : Int) : HasType (.scalar .int) (.int val)
  | bool (val : Bool) : HasType (.scalar .bool) (.bool val)
  | str (val : JsString) : HasType (.scalar .str) (.str val)
  | null : HasType (.scalar .null) .null
  | set {element : ModelType} {vs : List Value} : (∀ v ∈ vs, HasType element v) →
    HasType (.collection .set element) (.set vs)
  | seq {element : ModelType} {vs : List Value} : (∀ v ∈ vs, HasType element v) →
    HasType (.collection .seq element) (.seq vs)
  | tuple {types : List ModelType} {vs : List Value} : types.length = vs.length →
    (∀ part ∈ types.zip vs, HasType part.1 part.2) → HasType (.tuple types) (.tuple vs)
  | record {types : List (JsString × ModelType)} {fields : List (JsString × Value)} : Fields.Distinct fields →
    (Fields.keys fields).Perm (Fields.keys types) →
    (∀ field ∈ fields, ∀ type, Fields.get types field.1 = some type → HasType type field.2) →
    HasType (.record types) (.record fields)
  | map {key value : ModelType} {entries : List (Value × Value)} : (∀ entry ∈ entries, HasType key entry.1) →
    (∀ entry ∈ entries, HasType value entry.2) → HasType (.map key value) (.map entries)
  | variant {cases : List (JsString × ModelType)} {tag : JsString} {payload : ModelType} {v : Value} :
    Fields.get cases tag = some payload → HasType payload v → HasType (.variant cases) (.variant tag v)

theorem hasType_distinct {type : ModelType} {v : Value} (typed : HasType type v) : v.EveryRecord Fields.Distinct := by
  induction typed with
  | int _ | bool _ | str _ | null => exact fun _ inside => nomatch inside
  | set _ ih => exact Value.everyRecord_set.mpr ih
  | seq _ ih => exact Value.everyRecord_seq.mpr ih
  | @tuple types vs same _ ih =>
    refine Value.everyRecord_tuple.mpr fun v member => ?_
    have zipped : v ∈ (types.zip vs).map Prod.snd := by
      rw [List.map_snd_zip (Nat.le_of_eq same.symm)]
      exact member
    rcases List.mem_map.mp zipped with ⟨part, inZip, rfl⟩
    exact ih part inZip
  | @record types fields distinct declared _ ih =>
    refine Value.everyRecord_record.mpr ⟨distinct, fun field member => ?_⟩
    have known : field.1 ∈ Fields.keys types := declared.subset (List.mem_map_of_mem member)
    rcases Option.isSome_iff_exists.mp (Fields.get_isSome.mpr known) with ⟨type, found⟩
    exact ih field member type found
  | map _ _ keys values => exact Value.everyRecord_map.mpr fun entry member => ⟨keys entry member, values entry member⟩
  | variant _ _ ih => exact Value.everyRecord_variant.mpr ih

/-! ### Values that read the same -/

/-- Integers with one nearest double, or both beyond the doubles, where `null` is written. -/
def RoundedAlike (i j : Int) : Prop :=
  numberOfBigInt i = numberOfBigInt j ∨ (numberOfBigInt i).isFinite = false ∧ (numberOfBigInt j).isFinite = false

/-- Equal up to the rounding of integers and to the fields named `__proto__`. -/
inductive ShownAlike : Value → Value → Prop
  | int {i j : Int} : RoundedAlike i j → ShownAlike (.int i) (.int j)
  | bool (b : Bool) : ShownAlike (.bool b) (.bool b)
  | str (s : JsString) : ShownAlike (.str s) (.str s)
  | null : ShownAlike .null .null
  | set {pairs : List (Value × Value)} : (∀ p ∈ pairs, ShownAlike p.1 p.2) →
    ShownAlike (.set (pairs.map Prod.fst)) (.set (pairs.map Prod.snd))
  | seq {pairs : List (Value × Value)} : (∀ p ∈ pairs, ShownAlike p.1 p.2) →
    ShownAlike (.seq (pairs.map Prod.fst)) (.seq (pairs.map Prod.snd))
  | tuple {pairs : List (Value × Value)} : (∀ p ∈ pairs, ShownAlike p.1 p.2) →
    ShownAlike (.tuple (pairs.map Prod.fst)) (.tuple (pairs.map Prod.snd))
  | map {pairs : List ((Value × Value) × (Value × Value))} : (∀ p ∈ pairs, ShownAlike p.1.1 p.2.1) →
    (∀ p ∈ pairs, ShownAlike p.1.2 p.2.2) → ShownAlike (.map (pairs.map Prod.fst)) (.map (pairs.map Prod.snd))
  | record {pairs : List ((JsString × Value) × (JsString × Value))} {xs ys : List (JsString × Value)} :
    (∀ p ∈ pairs, p.1.1 = p.2.1) → (∀ p ∈ pairs, ShownAlike p.1.2 p.2.2) → visible xs = pairs.map Prod.fst →
    visible ys = pairs.map Prod.snd → ShownAlike (.record xs) (.record ys)
  | variant (tag : JsString) {v w : Value} : ShownAlike v w → ShownAlike (.variant tag v) (.variant tag w)

theorem roundedAlike_iff {i j : Int} : (shown (.int i)).normal = (shown (.int j)).normal ↔ RoundedAlike i j := by
  have shows (k : Int) : shown (.int k) = .number (numberOfBigInt k) := rfl
  have unsigned (k : Int) : (numberOfBigInt k).unsigned = numberOfBigInt k := by
    unfold numberOfBigInt
    dsimp only
    split <;> rfl
  rw [shows, shows, Json.normal, Json.normal, unsigned, unsigned]
  unfold RoundedAlike
  cases numberOfBigInt i <;> cases numberOfBigInt j <;> simp [Double.isFinite]

theorem normal_images {α : Type} (f : α → Json) {pairs : List (α × α)} (each : ∀ p ∈ pairs, (f p.1).normal = (f p.2).normal) :
    (Json.array ((pairs.map Prod.fst).map f)).normal = (Json.array ((pairs.map Prod.snd).map f)).normal := by
  rw [Json.normal_array, Json.normal_array, List.map_map, List.map_map, List.map_map, List.map_map]
  exact congrArg Json.array (List.map_congr_left each)

theorem normal_of_shownAlike {v w : Value} (same : ShownAlike v w) (distinct : v.EveryRecord Fields.Distinct)
    (otherDistinct : w.EveryRecord Fields.Distinct) : (shown v).normal = (shown w).normal := by
  induction same with
  | int rounded => exact roundedAlike_iff.mpr rounded
  | bool _ | str _ | null => rfl
  | @set pairs _ ih =>
    rw [Value.everyRecord_set, List.forall_mem_map] at distinct otherDistinct
    rw [shown_set, shown_set]
    exact normal_images shown fun p member => ih p member (distinct p member) (otherDistinct p member)
  | @seq pairs _ ih =>
    rw [Value.everyRecord_seq, List.forall_mem_map] at distinct otherDistinct
    rw [shown_seq, shown_seq]
    exact normal_images shown fun p member => ih p member (distinct p member) (otherDistinct p member)
  | @tuple pairs _ ih =>
    rw [Value.everyRecord_tuple, List.forall_mem_map] at distinct otherDistinct
    rw [shown_tuple, shown_tuple]
    exact normal_images shown fun p member => ih p member (distinct p member) (otherDistinct p member)
  | @map pairs _ _ keys values =>
    rw [Value.everyRecord_map, List.forall_mem_map] at distinct otherDistinct
    rw [shown_map, shown_map]
    refine normal_images (fun entry : Value × Value => .array [shown entry.1, shown entry.2]) fun p member => ?_
    simp only [Json.normal_array, List.map_cons, List.map_nil,
      keys p member (distinct p member).1 (otherDistinct p member).1,
      values p member (distinct p member).2 (otherDistinct p member).2]
  | @record pairs xs ys names _ first second ih =>
    rw [Value.everyRecord_record] at distinct otherDistinct
    have inFirst (p) (member : p ∈ pairs) : p.1 ∈ xs :=
      (List.mem_filter.mp (first ▸ List.mem_map_of_mem member : p.1 ∈ visible xs)).1
    have inSecond (p) (member : p ∈ pairs) : p.2 ∈ ys :=
      (List.mem_filter.mp (second ▸ List.mem_map_of_mem member : p.2 ∈ visible ys)).1
    have field (p) (member : p ∈ pairs) : (p.1.1, (shown p.1.2).normal) = (p.2.1, (shown p.2.2).normal) :=
      Prod.ext (names p member) (ih p member (distinct.2 _ (inFirst p member)) (otherDistinct.2 _ (inSecond p member)))
    rw [shown_record distinct.1, shown_record otherDistinct.1, first, second, Json.normal_object, Json.normal_object,
      List.map_map, List.map_map, List.map_map, List.map_map]
    exact congrArg Json.object (List.map_congr_left field)
  | variant tag _ ih =>
    rw [Value.everyRecord_variant] at distinct otherDistinct
    simp only [shown_variant, Json.normal_object, List.map_cons, List.map_nil, ih distinct otherDistinct]

/-- The parts of tuples of one type that are shown alike. -/
theorem exists_parts {types : List ModelType} {vs ws : List Value}
    (each : ∀ part ∈ types.zip vs, ∀ w, HasType part.1 w → (shown part.2).normal = (shown w).normal → ShownAlike part.2 w)
    (enough : types.length = vs.length) (otherEnough : types.length = ws.length)
    (typed : ∀ part ∈ types.zip ws, HasType part.1 part.2)
    (same : vs.map (fun v => (shown v).normal) = ws.map fun w => (shown w).normal) :
    ∃ pairs : List (Value × Value), pairs.map Prod.fst = vs ∧ pairs.map Prod.snd = ws ∧ ∀ p ∈ pairs, ShownAlike p.1 p.2 := by
  induction types generalizing vs ws with
  | nil => exact ⟨[], (List.length_eq_zero_iff.mp enough.symm).symm, (List.length_eq_zero_iff.mp otherEnough.symm).symm, by simp⟩
  | cons type rest ih =>
    match vs, ws with
    | [], _ => cases enough
    | _, [] => cases otherEnough
    | v :: vs, w :: ws =>
      rw [List.zip_cons_cons, List.forall_mem_cons] at each typed
      rw [List.map_cons, List.map_cons, List.cons.injEq] at same
      rcases ih each.2 (Nat.succ.inj enough) (Nat.succ.inj otherEnough) typed.2 same.2 with ⟨pairs, rfl, rfl, alike⟩
      exact ⟨(v, w) :: pairs, rfl, rfl, List.forall_mem_cons.mpr ⟨each.1 w typed.1 same.1, alike⟩⟩

/-- Values of one type that are shown alike are equal up to what is lost. -/
theorem shownAlike_of_normal {type : ModelType} {v w : Value} (typed : HasType type v) (other : HasType type w)
    (same : (shown v).normal = (shown w).normal) : ShownAlike v w := by
  induction typed generalizing w with
  | int i =>
    cases other
    exact .int (roundedAlike_iff.mp same)
  | bool b =>
    cases other
    exact (Json.bool.inj same) ▸ .bool b
  | str s =>
    cases other
    exact (Json.string.inj same) ▸ .str s
  | null =>
    cases other
    exact .null
  | set _ ih =>
    cases other with
    | set otherTyped =>
      rw [shown_set, shown_set, Json.normal_array, Json.normal_array, Json.array.injEq, List.map_map, List.map_map] at same
      rcases exists_pairs same with ⟨pairs, rfl, rfl, each⟩
      exact .set fun p member =>
        ih p.1 (List.mem_map_of_mem member) (otherTyped p.2 (List.mem_map_of_mem member)) (each p member)
  | seq _ ih =>
    cases other with
    | seq otherTyped =>
      rw [shown_seq, shown_seq, Json.normal_array, Json.normal_array, Json.array.injEq, List.map_map, List.map_map] at same
      rcases exists_pairs same with ⟨pairs, rfl, rfl, each⟩
      exact .seq fun p member =>
        ih p.1 (List.mem_map_of_mem member) (otherTyped p.2 (List.mem_map_of_mem member)) (each p member)
  | tuple enough _ ih =>
    cases other with
    | tuple otherEnough otherTyped =>
      rw [shown_tuple, shown_tuple, Json.normal_array, Json.normal_array, Json.array.injEq, List.map_map, List.map_map] at same
      rcases exists_parts (fun part member w typed same => ih part member typed same) enough otherEnough otherTyped same with
        ⟨pairs, rfl, rfl, alike⟩
      exact .tuple alike
  | @record types fields distinct declared _ ih =>
    cases other with
    | record otherDistinct _ otherTyped =>
      rw [shown_record distinct, shown_record otherDistinct, Json.normal_object, Json.normal_object, Json.object.injEq,
        List.map_map, List.map_map] at same
      rcases exists_pairs same with ⟨pairs, first, second, each⟩
      have parts (p) (member : p ∈ pairs) : p.1.1 = p.2.1 ∧ (shown p.1.2).normal = (shown p.2.2).normal :=
        Prod.ext_iff.mp (each p member)
      refine .record (fun p member => (parts p member).1) (fun p member => ?_) first.symm second.symm
      have inFirst : p.1 ∈ fields := (List.mem_filter.mp (first ▸ List.mem_map_of_mem member : p.1 ∈ visible fields)).1
      have inSecond := (List.mem_filter.mp (second ▸ List.mem_map_of_mem member : p.2 ∈ visible _)).1
      have known : p.1.1 ∈ Fields.keys types := declared.subset (List.mem_map_of_mem inFirst)
      rcases Option.isSome_iff_exists.mp (Fields.get_isSome.mpr known) with ⟨type, found⟩
      exact ih p.1 inFirst type found (otherTyped p.2 inSecond type ((parts p member).1 ▸ found)) (parts p member).2
  | map _ _ keys values =>
    cases other with
    | map otherKeys otherValues =>
      rw [shown_map, shown_map, Json.normal_array, Json.normal_array, Json.array.injEq, List.map_map, List.map_map] at same
      rcases exists_pairs same with ⟨pairs, rfl, rfl, each⟩
      have parts (p) (member : p ∈ pairs) : (shown p.1.1).normal = (shown p.2.1).normal ∧
          (shown p.1.2).normal = (shown p.2.2).normal := by
        have entry := each p member
        simp only [Function.comp_apply, Json.normal_array, List.map_cons, List.map_nil, Json.array.injEq, List.cons.injEq,
          and_true] at entry
        exact entry
      exact .map (fun p member => keys p.1 (List.mem_map_of_mem member) (otherKeys p.2 (List.mem_map_of_mem member)) (parts p member).1)
        fun p member => values p.1 (List.mem_map_of_mem member) (otherValues p.2 (List.mem_map_of_mem member)) (parts p member).2
  | @variant cases tag payload v found _ ih =>
    cases other with
    | @variant _ otherTag otherPayload w otherFound otherTyped =>
      rw [shown_variant, shown_variant, Json.normal_object, Json.normal_object] at same
      simp only [List.map_cons, List.map_nil, Json.object.injEq, List.cons.injEq, Prod.mk.injEq, true_and, and_true,
        Json.normal, Json.string.injEq] at same
      rcases same with ⟨rfl, same⟩
      rw [found] at otherFound
      cases otherFound
      exact .variant tag (ih otherTyped same)

/-! ### The texts of a mismatch -/

theorem shown_keysDistinct (v : Value) (distinct : v.EveryRecord Fields.Distinct) : (shown v).KeysDistinct := by
  induction v using Value.parts_induct with
  | int i => exact .number _
  | bool b => exact .bool b
  | str s => exact .string s
  | unserializable s => exact .string s
  | null => exact .null
  | set vs ih =>
    rw [shown_set]
    exact .array (List.forall_mem_map.mpr fun v member => ih v member (Value.everyRecord_set.mp distinct v member))
  | seq vs ih =>
    rw [shown_seq]
    exact .array (List.forall_mem_map.mpr fun v member => ih v member (Value.everyRecord_seq.mp distinct v member))
  | tuple vs ih =>
    rw [shown_tuple]
    exact .array (List.forall_mem_map.mpr fun v member => ih v member (Value.everyRecord_tuple.mp distinct v member))
  | map entries ih =>
    rw [shown_map]
    refine .array (List.forall_mem_map.mpr fun entry member => .array ?_)
    have own := Value.everyRecord_map.mp distinct entry member
    simp only [List.mem_cons, List.not_mem_nil, or_false, forall_eq_or_imp, forall_eq]
    exact ⟨(ih entry member).1 own.1, (ih entry member).2 own.2⟩
  | record fields ih =>
    have own := Value.everyRecord_record.mp distinct
    rw [shown_record own.1]
    refine .object ?_ (List.forall_mem_map.mpr fun field member => ?_)
    · unfold Fields.Distinct Fields.keys
      rw [List.map_map]
      exact visible_distinct own.1
    · have inside := (List.mem_filter.mp member).1
      exact ih field inside (own.2 field inside)
  | variant tag v ih =>
    have names : [js "tag", js "value"].Nodup := by decide
    rw [shown_variant]
    refine .object names ?_
    simp only [List.mem_cons, List.not_mem_nil, or_false, forall_eq_or_imp, forall_eq]
    exact ⟨.string tag, ih (Value.everyRecord_variant.mp distinct)⟩

section

variable [NearestRoundTrip]

theorem shown_literal (v : Value) (distinct : v.EveryRecord Fields.Distinct) : (shown v).EveryNumber Double.Literal := by
  induction v using Value.parts_induct with
  | int i => exact .number (numberOfBigInt_literal i)
  | bool b => exact .bool b
  | str s => exact .string s
  | unserializable s => exact .string s
  | null => exact .null
  | set vs ih =>
    rw [shown_set]
    exact .array (List.forall_mem_map.mpr fun v member => ih v member (Value.everyRecord_set.mp distinct v member))
  | seq vs ih =>
    rw [shown_seq]
    exact .array (List.forall_mem_map.mpr fun v member => ih v member (Value.everyRecord_seq.mp distinct v member))
  | tuple vs ih =>
    rw [shown_tuple]
    exact .array (List.forall_mem_map.mpr fun v member => ih v member (Value.everyRecord_tuple.mp distinct v member))
  | map entries ih =>
    rw [shown_map]
    refine .array (List.forall_mem_map.mpr fun entry member => .array ?_)
    have own := Value.everyRecord_map.mp distinct entry member
    simp only [List.mem_cons, List.not_mem_nil, or_false, forall_eq_or_imp, forall_eq]
    exact ⟨(ih entry member).1 own.1, (ih entry member).2 own.2⟩
  | record fields ih =>
    have own := Value.everyRecord_record.mp distinct
    rw [shown_record own.1]
    refine .object (List.forall_mem_map.mpr fun field member => ?_)
    have inside := (List.mem_filter.mp member).1
    exact ih field inside (own.2 field inside)
  | variant tag v ih =>
    rw [shown_variant]
    refine .object ?_
    simp only [List.mem_cons, List.not_mem_nil, or_false, forall_eq_or_imp, forall_eq]
    exact ⟨.string tag, ih (Value.everyRecord_variant.mp distinct)⟩

theorem renderHintValue_toAny (v : Value) : renderHintValue v.toAny = jsonStringify (shown v) := by
  rw [renderHintValue, prettifyValue_toAny]

theorem renderHintValue_eq_iff {type : ModelType} {v w : Value} (typed : HasType type v) (other : HasType type w) :
    renderHintValue v.toAny = renderHintValue w.toAny ↔ ShownAlike v w := by
  have distinct := hasType_distinct typed
  have otherDistinct := hasType_distinct other
  rw [renderHintValue_toAny, renderHintValue_toAny]
  constructor
  · intro same
    have read := Grammar.jsonParse_stringify (shown_keysDistinct v distinct) (shown_literal v distinct)
    rw [same, Grammar.jsonParse_stringify (shown_keysDistinct w otherDistinct) (shown_literal w otherDistinct)] at read
    exact shownAlike_of_normal typed other (Option.some.inj read).symm
  · intro alike
    rw [← Grammar.stringify_normal (shown v), ← Grammar.stringify_normal (shown w)]
    exact congrArg jsonStringify (normal_of_shownAlike alike distinct otherDistinct)

theorem renderDiffHint_valueMismatch {path : List PathSeg} {place : JsString} (placed : renderPath path = .ok place)
    (expected actual : Any) : renderDiffHint (.valueMismatch path expected actual) =
      .ok (js "at " ++ place ++ js ": expected " ++ renderHintValue expected ++ js ", got " ++ renderHintValue actual) := by
  simp only [renderDiffHint, placed, ok_bind, List.append_assoc]
  rfl

end

end Mirror.Protocol
