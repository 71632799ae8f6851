import MirrorECMA.ECMA.Compact
import MirrorECMA.ECMA.Integers
import MirrorECMA.ECMA.Quoted
import MirrorECMA.ECMA.Sort

namespace ECMA

/-- `-0` is written as `0`. -/
def Double.unsigned : Double → Double
  | .negativeZero => .finite 0
  | d => d

/-- A finite number is written as a numeric literal, and one that was read is read back. -/
class NumberRoundTrip extends NumberText, NumberConversion where
  literal : ∀ d, d.isFinite = true → Grammar.IsNumber (text d)
  read_back : ∀ s, (number s).isFinite = true → number (text (number s)) = (number s).unsigned
  negative_zero : text .negativeZero = text (.finite 0)

theorem integerText_isNumber (i : Int) : Grammar.IsNumber (integerText i) := by
  unfold integerText
  split
  · exact ⟨[Grammar.minus], decimal i.natAbs, [], [], by simp, .inr rfl, Grammar.decimal_isInteger i.natAbs, .inl rfl, .inl rfl⟩
  · exact Grammar.decimal_isNumber _

/-- The round trip of the numbers that are nonnegative safe integers. -/
@[reducible] def integerNumbers : NumberRoundTrip where
  number text := if text ≠ [] ∧ text.all isDigit then .ofNat (decimalValue text) else .nan
  text d := match d.toInt? with
    | some i => integerText i
    | none => if d.isFinite then js "0" else js "NaN"
  literal d finite := by
    cases d.toInt? with
    | some i => exact integerText_isNumber i
    | none =>
      rw [if_pos finite]
      exact Grammar.decimal_isNumber 0
  read_back s finite := by
    split at finite
    · rename_i digits
      have text : integerText (decimalValue s : Int) = decimal (decimalValue s) := by
        rw [integerText, if_neg (Int.not_lt.mpr (Int.natCast_nonneg _)), Int.natAbs_natCast]
      have all : (decimal (decimalValue s)).all isDigit = true := List.all_eq_true.mpr (decimal_isDigit _)
      rw [if_pos digits, Double.toInt?_ofNat]
      simp only [text]
      rw [if_pos ⟨decimal_ne_nil _, all⟩, decimalValue_decimal]
      rfl
    · cases finite
  negative_zero := rfl

theorem Double.unsigned_unsigned (d : Double) : d.unsigned.unsigned = d.unsigned := by
  cases d <;> rfl

theorem Double.unsigned_isFinite (d : Double) : d.unsigned.isFinite = d.isFinite := by
  cases d <;> rfl

namespace Json

mutual

/-- What `JSON.parse` makes of the text that `JSON.stringify` gives. -/
def normal : Json → Json
  | .null => .null
  | .bool b => .bool b
  | .number d => if d.isFinite then .number d.unsigned else .null
  | .string s => .string s
  | .array items => .array (normalItems items)
  | .object fields => .object (normalFields fields)

def normalItems : List Json → List Json
  | [] => []
  | item :: rest => normal item :: normalItems rest

def normalFields : List (JsString × Json) → List (JsString × Json)
  | [] => []
  | (key, value) :: rest => (key, normal value) :: normalFields rest

end

@[simp] theorem normalItems_eq (items : List Json) : normalItems items = items.map normal :=
  eq_map rfl (fun _ _ => rfl) items

@[simp] theorem normalFields_eq (fields : List (JsString × Json)) :
    normalFields fields = fields.map fun field => (field.1, normal field.2) :=
  eq_map rfl (fun _ _ => rfl) fields

/-- Every number of the tree satisfies `p`. -/
inductive EveryNumber (p : Double → Prop) : Json → Prop
  | null : EveryNumber p .null
  | bool (b : Bool) : EveryNumber p (.bool b)
  | number {d : Double} : p d → EveryNumber p (.number d)
  | string (s : JsString) : EveryNumber p (.string s)
  | array {items : List Json} : (∀ item ∈ items, EveryNumber p item) → EveryNumber p (.array items)
  | object {fields : Fields Json} : (∀ field ∈ fields, EveryNumber p field.2) → EveryNumber p (.object fields)

theorem everyNumber_number {p : Double → Prop} {d : Double} : (Json.number d).EveryNumber p ↔ p d := by
  constructor
  · intro every
    cases every
    assumption
  · exact .number

theorem everyNumber_array {p : Double → Prop} {items : List Json} :
    (Json.array items).EveryNumber p ↔ ∀ item ∈ items, item.EveryNumber p := by
  constructor
  · intro every
    cases every
    assumption
  · exact .array

theorem everyNumber_object {p : Double → Prop} {fields : Fields Json} :
    (Json.object fields).EveryNumber p ↔ ∀ field ∈ fields, field.2.EveryNumber p := by
  constructor
  · intro every
    cases every
    assumption
  · exact .object

theorem EveryNumber.mono {p q : Double → Prop} (weaker : ∀ d, p d → q d) {json : Json} (every : json.EveryNumber p) :
    json.EveryNumber q := by
  induction every with
  | null => exact .null
  | bool b => exact .bool b
  | number holds => exact .number (weaker _ holds)
  | string s => exact .string s
  | array _ ih => exact .array ih
  | object _ ih => exact .object ih

end Json

/-- A number that some literal stands for, or one that is not finite. -/
def Double.Literal [NumberConversion] (d : Double) : Prop := d.isFinite = true → ∃ s, NumberConversion.number s = d

namespace Grammar

section

variable [NumberConversion]

mutual

theorem Value.eval_literal (value : Value) : value.eval.EveryNumber Double.Literal := by
  cases value with
  | null => exact .null
  | true => exact .bool _
  | false => exact .bool _
  | number text valid => exact .number fun _ => ⟨text, rfl⟩
  | string token => exact .string _
  | emptyArray inner => exact .array (by simp)
  | array items => exact .array items.eval_literal
  | emptyObject inner => exact .object (by simp)
  | object members => exact .object fun field member => members.eval_literal field (Fields.mem_ofEntries member)

theorem Items.eval_literal (items : Items) : ∀ item ∈ items.eval, item.EveryNumber Double.Literal := by
  cases items with
  | last before value after => simpa [Items.eval] using value.eval_literal
  | cons before value after rest => exact List.forall_mem_cons.mpr ⟨value.eval_literal, rest.eval_literal⟩

theorem Members.eval_literal (members : Members) : ∀ entry ∈ members.eval, entry.2.EveryNumber Double.Literal := by
  cases members with
  | last before key afterKey beforeValue value after => simpa [Members.eval] using value.eval_literal
  | cons before key afterKey beforeValue value after rest =>
    exact List.forall_mem_cons.mpr ⟨value.eval_literal, rest.eval_literal⟩

end

theorem jsonParse_literal {s : JsString} {json : Json} (parsed : jsonParse s = some json) :
    json.EveryNumber Double.Literal := by
  rcases jsonParse_iff.mp parsed with ⟨text, _, rfl⟩
  exact text.value.eval_literal

end

/-! ### The text of `JSON.stringify` -/

section

variable [NumberRoundTrip]

mutual

/-- The text of `JSON.stringify` as a value of the grammar. -/
def stringified : Json → Value
  | .null => .null
  | .bool b => if b then .true else .false
  | .number d => if finite : d.isFinite = true then .number (NumberText.text d) (NumberRoundTrip.literal d finite) else .null
  | .string s => .string (quotedToken s)
  | .array items => .compactArray (stringifiedItems items)
  | .object fields => .compactObject (stringifiedFields fields)

def stringifiedItems : List Json → List Value
  | [] => []
  | item :: rest => stringified item :: stringifiedItems rest

def stringifiedFields : List (JsString × Json) → List (StringToken × Value)
  | [] => []
  | (key, value) :: rest => (quotedToken key, stringified value) :: stringifiedFields rest

end

@[simp] theorem stringifiedItems_eq (items : List Json) : stringifiedItems items = items.map stringified :=
  eq_map rfl (fun _ _ => rfl) items

@[simp] theorem stringifiedFields_eq (fields : List (JsString × Json)) :
    stringifiedFields fields = fields.map fun field => (quotedToken field.1, stringified field.2) :=
  eq_map rfl (fun _ _ => rfl) fields

theorem stringifyItems_map (items : List Json) : ECMA.stringifyItems items = items.map jsonStringify :=
  eq_map rfl (fun _ _ => rfl) items

theorem stringifyFields_map (fields : List (JsString × Json)) :
    ECMA.stringifyFields fields = fields.map fun field => quoteJson field.1 ++ colon :: jsonStringify field.2 :=
  eq_map rfl (fun _ _ => rfl) fields

theorem stringified_render (json : Json) : (stringified json).render = jsonStringify json := by
  induction json using Json.children_induct with
  | null => rfl
  | bool b => cases b <;> rfl
  | number d =>
    rw [stringified, jsonStringify]
    split
    · rfl
    · rfl
  | string s => rw [stringified, Value.render, quotedToken_render, jsonStringify]
  | array items ih =>
    have texts : items.map (Value.render ∘ stringified) = items.map jsonStringify := List.map_congr_left ih
    rw [stringified, Value.compactArray_render, jsonStringify, stringifiedItems_eq, stringifyItems_map, List.map_map, texts]
    rfl
  | object fields ih =>
    have texts : (fields.map fun field => (quotedToken field.1, stringified field.2)).map
        (fun member => member.1.render ++ colon :: member.2.render) =
          fields.map fun field => quoteJson field.1 ++ colon :: jsonStringify field.2 := by
      rw [List.map_map]
      exact List.map_congr_left fun field member => by
        rw [Function.comp_apply, quotedToken_render, ih field member]
    rw [stringified, Value.compactObject_render, jsonStringify, stringifiedFields_eq, stringifyFields_map, texts]
    rfl

theorem stringified_eval {json : Json} (distinct : json.KeysDistinct) (literal : json.EveryNumber Double.Literal) :
    (stringified json).eval = json.normal := by
  induction json using Json.children_induct with
  | null => rfl
  | bool b => cases b <;> rfl
  | number d =>
    cases literal with
    | number read =>
      rw [stringified, Json.normal]
      split
      · rename_i finite
        rcases read finite with ⟨s, rfl⟩
        exact congrArg Json.number (NumberRoundTrip.read_back s finite)
      · rfl
  | string s => rw [stringified, Value.eval, quotedToken_decoded, Json.normal]
  | array items ih =>
    cases distinct with
    | array distinct =>
      cases literal with
      | array literal =>
        rw [stringified, Value.compactArray_eval, Json.normal, stringifiedItems_eq, Json.normalItems_eq, List.map_map]
        exact congrArg Json.array (List.map_congr_left fun item member => ih item member (distinct item member) (literal item member))
  | object fields ih =>
    cases distinct with
    | object keys distinct =>
      cases literal with
      | object literal =>
        have each : (fields.map fun field => (quotedToken field.1, stringified field.2)).map
            (fun member => (member.1.decoded, member.2.eval)) = fields.map fun field => (field.1, field.2.normal) := by
          rw [List.map_map]
          exact List.map_congr_left fun field member => by
            rw [Function.comp_apply, quotedToken_decoded, ih field member (distinct field member) (literal field member)]
        have kept : Fields.Distinct (fields.map fun field => (field.1, field.2.normal)) := by
          unfold Fields.Distinct Fields.keys
          rw [List.map_map]
          exact keys
        rw [stringified, Value.compactObject_eval, stringifiedFields_eq, each, Json.normal, Json.normalFields_eq,
          Fields.ofEntries_eq kept]

theorem stringify_normal (json : Json) : jsonStringify json.normal = jsonStringify json := by
  induction json using Json.children_induct with
  | null => rfl
  | bool b => rfl
  | number d =>
    rw [Json.normal]
    cases d with
    | nan => rfl
    | infinity negative => rfl
    | negativeZero => exact NumberRoundTrip.negative_zero.symm
    | finite value => rfl
  | string s => rfl
  | array items ih =>
    have texts : (items.map Json.normal).map jsonStringify = items.map jsonStringify := by
      rw [List.map_map]
      exact List.map_congr_left ih
    rw [Json.normal, Json.normalItems_eq, jsonStringify, jsonStringify, stringifyItems_map, stringifyItems_map, texts]
  | object fields ih =>
    have texts : (fields.map fun field => (field.1, field.2.normal)).map
        (fun field => quoteJson field.1 ++ colon :: jsonStringify field.2) =
          fields.map fun field => quoteJson field.1 ++ colon :: jsonStringify field.2 := by
      rw [List.map_map]
      exact List.map_congr_left fun field member => by rw [Function.comp_apply, ih field member]
    rw [Json.normal, Json.normalFields_eq, jsonStringify, jsonStringify, stringifyFields_map, stringifyFields_map, texts]

theorem literal_unsigned (d : Double) (literal : d.Literal) : d.unsigned.Literal := by
  intro finite
  rw [Double.unsigned_isFinite] at finite
  rcases literal finite with ⟨s, rfl⟩
  exact ⟨_, NumberRoundTrip.read_back s finite⟩

def stringifiedText (json : Json) : Text := ⟨blank, stringified json, blank⟩

theorem stringifiedText_render (json : Json) : (stringifiedText json).render = jsonStringify json := by
  rw [stringifiedText, Text.render, stringified_render]
  exact List.append_nil _

theorem jsonParse_stringify {json : Json} (distinct : json.KeysDistinct) (literal : json.EveryNumber Double.Literal) :
    jsonParse (jsonStringify json) = some json.normal := by
  rw [← stringifiedText_render, jsonParse_render]
  exact congrArg some (stringified_eval distinct literal)

end

end Grammar

end ECMA
