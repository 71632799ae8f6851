import MirrorECMA.ECMA.Sort
import MirrorECMA.ECMA.Stringify
import MirrorECMA.ModelInterface.Descriptor
import MirrorECMA.ModelInterface.StrictJson

namespace Mirror.ModelInterface

open ECMA ECMA.Grammar

def compareScalars : List Nat → List Nat → Int
  | a :: as, b :: bs => if a < b then -1 else if a > b then 1 else compareScalars as bs
  | as, bs => (as.length : Int) - bs.length

def compareUnicodeScalars (left right : JsString) : Int := compareScalars (codePoints left) (codePoints right)

def compressCharacter (codePoint : Nat) : JsString :=
  if codePoint = 0x22 then js "\\\""
  else if codePoint = 0x5C then js "\\\\"
  else if codePoint = 0x0A then js "\\n"
  else if codePoint = 0x0D then js "\\r"
  else if codePoint < 0x20 then unicodeEscapeText (BitVec.ofNat 16 codePoint)
  else fromCodePoint codePoint

def compressCanonicalString (value : JsString) : JsString :=
  quote :: ((codePoints value).flatMap compressCharacter ++ [quote])

mutual

/-- The number's text is `String(value)` of a safe integer. -/
def compressCanonicalJson : Json → Except ModelInterfaceProtocolError JsString
  | .null => .ok (js "null")
  | .string value => .ok (compressCanonicalString value)
  | .bool value => .ok (if value then js "true" else js "false")
  | .number value =>
    if value.isSafeInteger then .ok (integerText (value.toInt?.getD 0))
    else fail (js "canonical JSON") (js "expected a safe integer")
  | .array items => do
    let texts ← compressItems items
    return openBracket :: ((js ",").intercalate texts ++ [closeBracket])
  | .object fields => do
    let texts ← compressFields fields
    return openBrace :: ((js ",").intercalate texts ++ [closeBrace])

def compressItems : List Json → Except ModelInterfaceProtocolError (List JsString)
  | [] => .ok []
  | item :: rest => do return (← compressCanonicalJson item) :: (← compressItems rest)

def compressFields : List (JsString × Json) → Except ModelInterfaceProtocolError (List JsString)
  | [] => .ok []
  | (key, item) :: rest => do
    return (compressCanonicalString key ++ colon :: (← compressCanonicalJson item)) :: (← compressFields rest)

end

/-- The comparator of canonical literals, none of which holds a number that `compressCanonicalJson` could refuse. -/
def compareCompressed (a b : Json) : Int :=
  match compressCanonicalJson a, compressCanonicalJson b with
  | .ok left, .ok right => compareUnicodeScalars left right
  | _, _ => 0

def compareNamed {α : Type} (a b : JsString × α) : Int := compareUnicodeScalars a.1 b.1

mutual

def canonicalLiteralValue : CanonicalItfLiteral → Json
  | .int value => .object [(js "kind", .string (js "int")), (js "value", .string value)]
  | .bool value => .object [(js "kind", .string (js "bool")), (js "value", .bool value)]
  | .str value => .object [(js "kind", .string (js "str")), (js "value", .string value)]
  | .null => .object [(js "kind", .string (js "null"))]
  | .collection .set values =>
    .object [(js "kind", .string (js "set")),
      (js "values", .array (sort compareCompressed (canonicalLiteralValues values)))]
  | .collection kind values =>
    .object [(js "kind", .string (js kind.name)), (js "values", .array (canonicalLiteralValues values))]
  | .record fields =>
    .object [(js "fields", .array ((sort compareNamed (canonicalLiteralFields fields)).map fun field =>
        .object [(js "name", .string field.1), (js "value", field.2)])),
      (js "kind", .string (js "record"))]
  | .map entries =>
    .object [(js "entries", .array ((sort (fun a b => compareCompressed a.1 b.1) (canonicalLiteralEntries entries)).map
        fun entry => .object [(js "key", entry.1), (js "value", entry.2)])),
      (js "kind", .string (js "map"))]
  | .variant tag payload =>
    .object [(js "kind", .string (js "variant")), (js "payload", canonicalLiteralValue payload),
      (js "tag", .string tag)]

def canonicalLiteralValues : List CanonicalItfLiteral → List Json
  | [] => []
  | literal :: rest => canonicalLiteralValue literal :: canonicalLiteralValues rest

/-- The sort by name reads no value, so the values may be rendered before it. -/
def canonicalLiteralFields : List (JsString × CanonicalItfLiteral) → List (JsString × Json)
  | [] => []
  | (name, literal) :: rest => (name, canonicalLiteralValue literal) :: canonicalLiteralFields rest

def canonicalLiteralEntries : List (CanonicalItfLiteral × CanonicalItfLiteral) → List (Json × Json)
  | [] => []
  | (key, value) :: rest => (canonicalLiteralValue key, canonicalLiteralValue value) :: canonicalLiteralEntries rest

end

def canonicalPathSegmentValue : ContractPathSegment → Json
  | .field name => .object [(js "field", .string name)]
  | .index position => .object [(js "index", .number position)]
  | .mapKey key => .object [(js "mapKey", canonicalLiteralValue key)]
  | .variantValue tag => .object [(js "variantValue", .string tag)]

mutual

def canonicalModelTypeValue : ModelType → Json
  | .scalar kind => .object [(js "kind", .string (js kind.name))]
  | .collection kind element =>
    .object [(js "element", canonicalModelTypeValue element), (js "kind", .string (js kind.name))]
  | .tuple elements =>
    .object [(js "elements", .array (canonicalModelTypeValues elements)), (js "kind", .string (js "tuple"))]
  | .record fields =>
    .object [(js "fields", .array ((sort compareNamed (canonicalModelTypeFields fields)).map fun field =>
        .object [(js "type", field.2), (js "wireName", .string field.1)])),
      (js "kind", .string (js "record"))]
  | .map key value =>
    .object [(js "key", canonicalModelTypeValue key), (js "kind", .string (js "map")),
      (js "value", canonicalModelTypeValue value)]
  | .variant cases =>
    .object [(js "cases", .array ((sort compareNamed (canonicalModelTypeFields cases)).map fun item =>
        .object [(js "payload", item.2), (js "tag", .string item.1)])),
      (js "kind", .string (js "variant"))]
  | .opaqueItf description =>
    .object [(js "description", .string description), (js "kind", .string (js "opaqueItf"))]

def canonicalModelTypeValues : List ModelType → List Json
  | [] => []
  | type :: rest => canonicalModelTypeValue type :: canonicalModelTypeValues rest

def canonicalModelTypeFields : List (JsString × ModelType) → List (JsString × Json)
  | [] => []
  | (name, type) :: rest => (name, canonicalModelTypeValue type) :: canonicalModelTypeFields rest

end

def canonicalResolvedInputValue (input : ResolvedInput) : Json :=
  .object [
    (js "from", .object [(js "path", .array (input.from.path.map canonicalPathSegmentValue)),
      (js "root", .string (js input.from.root.name))]),
    (js "id", .string input.id),
    (js "type", canonicalModelTypeValue input.type)]

def compareInputs (a b : ResolvedInput) : Int := compareUnicodeScalars a.id b.id

def canonicalResolvedActionValue (action : ResolvedAction) : Json :=
  .object [
    (js "id", .string action.id),
    (js "inputs", .array ((sort compareInputs action.inputs).map canonicalResolvedInputValue)),
    (js "phase", .string (js action.phase.name)),
    (js "wireAction", .string action.wireAction),
    (js "wireAliases", .array ((sort compareUnicodeScalars action.wireAliases).map .string))]

def canonicalResolvedObservationValue (observation : ResolvedObservation) : Json :=
  .object [
    (js "id", .string observation.id),
    (js "provenance", .string (js "implementation")),
    (js "type", canonicalModelTypeValue observation.type),
    (js "wireName", .string observation.wireName)]

def compareActions (a b : ResolvedAction) : Int := compareUnicodeScalars a.id b.id

def compareObservations (a b : ResolvedObservation) : Int := compareUnicodeScalars a.id b.id

def nullable : Option JsString → Json
  | none => .null
  | some text => .string text

def canonicalDescriptorValue (descriptor : SemanticDescriptor) : Json :=
  .object [
    (js "actions", .array ((sort compareActions descriptor.actions).map canonicalResolvedActionValue)),
    (js "comparisonPolicyVersion", .string (js MODEL_INTERFACE_COMPARISON_POLICY_VERSION)),
    (js "initializers", .array ((sort compareActions descriptor.initializers).map canonicalResolvedActionValue)),
    (js "interfaceVersion", .string descriptor.interfaceVersion),
    (js "model", .object [(js "module", .string descriptor.module)]),
    (js "observations",
      .array ((sort compareObservations descriptor.observations).map canonicalResolvedObservationValue)),
    (js "resolverSemanticsVersion", .string (js MODEL_INTERFACE_RESOLVER_SEMANTICS_VERSION)),
    (js "runProfile", .object [
      (js "actionVariable", .string (js "action_taken")),
      (js "configuredParamVar", nullable descriptor.runProfile.configuredParamVar),
      (js "effectiveParamVars",
        .array ((sort compareUnicodeScalars descriptor.runProfile.effectiveParamVars).map .string)),
      (js "itfParamVars", .array ((sort compareUnicodeScalars descriptor.runProfile.itfParamVars).map .string))]),
    (js "schema", .string (js MODEL_INTERFACE_DESCRIPTOR_SCHEMA))]

/-! ### The comparators are total orders -/

theorem compareScalars_total (as bs : List Nat) : compareScalars as bs ≤ 0 ∨ compareScalars bs as ≤ 0 := by
  induction as generalizing bs with
  | nil => exact .inl (by simp only [compareScalars, List.length_nil]; omega)
  | cons a as ih =>
    cases bs with
    | nil => exact .inr (by simp only [compareScalars, List.length_nil]; omega)
    | cons b bs =>
      simp only [compareScalars]
      rcases Nat.lt_trichotomy a b with less | rfl | greater
      · exact .inl (by rw [if_pos less]; decide)
      · simpa using ih bs
      · exact .inr (by rw [if_pos greater]; decide)

theorem compareScalars_antisymm {as bs : List Nat} (le : compareScalars as bs ≤ 0) (ge : compareScalars bs as ≤ 0) :
    as = bs := by
  induction as generalizing bs with
  | nil =>
    simp only [compareScalars, List.length_nil] at ge
    exact (List.length_eq_zero_iff.mp (by omega)).symm
  | cons a as ih =>
    cases bs with
    | nil => simp only [compareScalars, List.length_nil, List.length_cons] at le; omega
    | cons b bs =>
      simp only [compareScalars] at le ge
      rcases Nat.lt_trichotomy a b with less | rfl | greater
      · rw [if_neg (by omega), if_pos less] at ge
        cases ge
      · simp only [Nat.lt_irrefl, gt_iff_lt, ↓reduceIte] at le ge
        rw [ih le ge]
      · rw [if_neg (by omega), if_pos greater] at le
        cases le

theorem compareScalars_trans {as bs cs : List Nat} (first : compareScalars as bs ≤ 0)
    (second : compareScalars bs cs ≤ 0) : compareScalars as cs ≤ 0 := by
  induction as generalizing bs cs with
  | nil => simp only [compareScalars, List.length_nil]; omega
  | cons a as ih =>
    cases bs with
    | nil => simp only [compareScalars, List.length_nil, List.length_cons] at first; omega
    | cons b bs =>
      cases cs with
      | nil => simp only [compareScalars, List.length_nil, List.length_cons] at second; omega
      | cons c cs =>
        have ordered : ∀ {x y : Nat} {xs ys : List Nat}, compareScalars (x :: xs) (y :: ys) ≤ 0 →
            x < y ∨ x = y ∧ compareScalars xs ys ≤ 0 := by
          intro x y xs ys le
          simp only [compareScalars] at le
          split at le
          · exact .inl ‹_›
          · split at le
            · cases le
            · exact .inr ⟨by omega, le⟩
        simp only [compareScalars]
        rcases ordered first with less | ⟨rfl, tail⟩ <;> rcases ordered second with less' | ⟨rfl, tail'⟩
        · rw [if_pos (by omega)]; decide
        · rw [if_pos less]; decide
        · rw [if_pos less']; decide
        · simpa using ih tail tail'

theorem compareUnicodeScalars_consistent : Consistent compareUnicodeScalars :=
  ⟨fun _ _ => compareScalars_total _ _, fun first second => compareScalars_trans first second⟩

theorem compareUnicodeScalars_antisymm {a b : JsString} (le : compareUnicodeScalars a b ≤ 0)
    (ge : compareUnicodeScalars b a ≤ 0) : a = b := codePoints_injective (compareScalars_antisymm le ge)

theorem compareNamed_consistent {α : Type} : Consistent (compareNamed (α := α)) :=
  compareUnicodeScalars_consistent.on Prod.fst

theorem compareInputs_consistent : Consistent compareInputs := compareUnicodeScalars_consistent.on ResolvedInput.id

theorem compareActions_consistent : Consistent compareActions := compareUnicodeScalars_consistent.on ResolvedAction.id

theorem compareObservations_consistent : Consistent compareObservations :=
  compareUnicodeScalars_consistent.on ResolvedObservation.id

/-- Elements with keys of their own come out of a sort in one order only. -/
theorem sort_eq_of_perm_keyed {α : Type} {key : α → JsString} {xs ys : List α} (distinct : (xs.map key).Nodup)
    (same : xs.Perm ys) : sort (fun a b => compareUnicodeScalars (key a) (key b)) xs =
      sort (fun a b => compareUnicodeScalars (key a) (key b)) ys :=
  sort_eq_of_perm (compareUnicodeScalars_consistent.on key)
    (fun _ left _ right le ge =>
      List.inj_on_of_nodup_map distinct left right (compareUnicodeScalars_antisymm le ge)) same

end Mirror.ModelInterface
