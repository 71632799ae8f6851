import MirrorECMA.ECMA.OrderedTrees
import MirrorECMA.ECMA.Throws
import MirrorECMA.Framework.Json
import Mathlib.Data.Rat.Defs

namespace Mirror.Framework

open ECMA ECMA.Grammar

/-! ### Canonical strings as tokens -/

def writtenUnit (u : CodeUnit) : Item :=
  if plain : isUnescaped u = true then .raw u plain
  else if u = 0x22 then .escape .quote
  else if u = 0x5C then .escape .backslash
  else unicodeItem u

theorem writtenUnit_unit (u : CodeUnit) : (writtenUnit u).unit = u := by
  unfold writtenUnit
  split
  · rfl
  · split
    · rename_i quoted
      exact quoted.symm
    · split
      · rename_i escaped
        exact escaped.symm
      · exact unicodeItem_unit u

theorem writtenUnit_render (u : CodeUnit) : (writtenUnit u).render = canonicalUnit u := by
  by_cases quoted : u = 0x22
  · subst quoted
    decide
  · by_cases escaped : u = 0x5C
    · subst escaped
      decide
    · have plain : isUnescaped u = true ↔ ¬ u.toNat < 0x20 := by
        have apart : u.toNat ≠ 0x22 ∧ u.toNat ≠ 0x5C :=
          ⟨fun same => quoted (BitVec.eq_of_toNat_eq same), fun same => escaped (BitVec.eq_of_toNat_eq same)⟩
        rw [isUnescaped_iff]
        omega
      unfold writtenUnit canonicalUnit
      by_cases control : u.toNat < 0x20
      · rw [dif_neg fun unescaped => plain.mp unescaped control, if_neg quoted, if_neg escaped, if_neg quoted,
          if_neg escaped, if_pos control]
        exact unicodeItem_render u
      · rw [dif_pos (plain.mpr control), if_neg quoted, if_neg escaped, if_neg control]
        rfl

def writtenString (s : JsString) : StringToken := s.map writtenUnit

theorem writtenString_decoded (s : JsString) : (writtenString s).decoded = s := by
  unfold writtenString StringToken.decoded
  rw [List.map_map]
  exact map_eq_self fun u _ => writtenUnit_unit u

theorem writtenString_render (s : JsString) :
    (writtenString s).render = Grammar.quote :: (s.flatMap canonicalUnit ++ [Grammar.quote]) := by
  unfold writtenString StringToken.render StringToken.renderTail
  rw [List.flatMap_map]
  simp only [writtenUnit_render]

theorem canonicalString_ok {s text : JsString} :
    canonicalString s = .ok text ↔ isWellFormed s = true ∧ text = (writtenString s).render := by
  unfold canonicalString scalarString
  rw [writtenString_render]
  by_cases valid : isWellFormed s = true
  · simp [valid, eq_comm]
  · simp [valid, invalid, refuse]

/-! ### Canonical values -/

theorem numberText_isNumber (d : Double) : IsNumber (integerText (d.toInt?.getD 0)) := integerText_isNumber _

mutual

/-- The canonical text as a value of the grammar. -/
def written : Json → Value
  | .null => .null
  | .bool b => if b then .true else .false
  | .number d => .number (integerText (d.toInt?.getD 0)) (numberText_isNumber d)
  | .string s => .string (writtenString s)
  | .array items => .compactArray (writtenItems items)
  | .object fields => .compactObject ((sort (fun a b => compareBytes a.1 b.1) (writtenFields fields)).map fun field =>
      (writtenString field.1, field.2))

def writtenItems : List Json → List Value
  | [] => []
  | item :: rest => written item :: writtenItems rest

def writtenFields : List (JsString × Json) → List (JsString × Value)
  | [] => []
  | (key, value) :: rest => (key, written value) :: writtenFields rest

end

@[simp] theorem writtenItems_eq (items : List Json) : writtenItems items = items.map written :=
  eq_map rfl (fun _ _ => rfl) items

@[simp] theorem writtenFields_eq (fields : List (JsString × Json)) :
    writtenFields fields = fields.map fun field => (field.1, written field.2) :=
  eq_map rfl (fun _ _ => rfl) fields

/-- The properties in the order of the bytes of their keys. -/
def byBytes (fields : Fields Json) : Fields Json := sort (fun a b => compareBytes a.1 b.1) fields

theorem written_object (fields : Fields Json) : written (.object fields) =
    .compactObject ((byBytes fields).map fun field => (writtenString field.1, written field.2)) := by
  have mapped := sort_map (fun a b : JsString × Value => compareBytes a.1 b.1)
    (fun field : JsString × Json => (field.1, written field.2)) fields
  rw [written, writtenFields_eq, mapped, List.map_map]
  rfl

/-- What `canonicalFrameworkJson` has a text for. -/
inductive Renderable : Json → Prop
  | null : Renderable .null
  | bool (b : Bool) : Renderable (.bool b)
  | number {d : Double} : d.isSafeInteger = true → Renderable (.number d)
  | string {s : JsString} : isWellFormed s = true → Renderable (.string s)
  | array {items : List Json} : (∀ item ∈ items, Renderable item) → Renderable (.array items)
  | object {fields : Fields Json} : (∀ field ∈ fields, isWellFormed field.1 = true) → (∀ field ∈ fields, Renderable field.2) →
    Renderable (.object fields)

theorem canonicalItems_eq (items : List Json) : canonicalItems items = items.map canonicalFrameworkJson :=
  eq_map (by rw [canonicalItems]) (fun _ _ => by rw [canonicalItems]) items

def canonicalField (field : JsString × Json) : Checked JsString := do
  return (← canonicalString field.1) ++ colon :: (← canonicalFrameworkJson field.2)

theorem canonicalFields_eq (fields : List (JsString × Json)) :
    canonicalFields fields = fields.map fun field => (field.1, canonicalField field) :=
  eq_map (by rw [canonicalFields]) (fun _ _ => by rw [canonicalFields]; rfl) fields

theorem canonical_array (items : List Json) : canonicalFrameworkJson (.array items) = (do
    let texts ← items.mapM canonicalFrameworkJson
    return openBracket :: ((js ",").intercalate texts ++ [closeBracket])) := by
  rw [canonicalFrameworkJson, canonicalItems_eq, List.mapM_map]
  rfl

theorem canonical_object (fields : Fields Json) : canonicalFrameworkJson (.object fields) = (do
    let texts ← (byBytes fields).mapM canonicalField
    return openBrace :: ((js ",").intercalate texts ++ [closeBrace])) := by
  have mapped := sort_map (fun a b : JsString × Checked JsString => compareBytes a.1 b.1)
    (fun field : JsString × Json => (field.1, canonicalField field)) fields
  rw [canonicalFrameworkJson, canonicalFields_eq, mapped, List.mapM_map]
  rfl

theorem canonical_number (d : Double) {text : JsString} : canonicalFrameworkJson (.number d) = .ok text ↔
    d.isSafeInteger = true ∧ text = integerText (d.toInt?.getD 0) := by
  rw [canonicalFrameworkJson]
  by_cases safe : d.isSafeInteger = true
  · simp [safe, eq_comm]
  · simp [safe, invalid, refuse]

theorem renderable_array {items : List Json} : Renderable (.array items) ↔ ∀ item ∈ items, Renderable item := by
  constructor
  · intro renderable
    cases renderable
    assumption
  · exact .array

theorem renderable_object {fields : Fields Json} : Renderable (.object fields) ↔
    ∀ field ∈ fields, isWellFormed field.1 = true ∧ Renderable field.2 := by
  constructor
  · intro renderable
    cases renderable with
    | object keys values => exact fun field member => ⟨keys field member, values field member⟩
  · intro each
    exact .object (fun field member => (each field member).1) fun field member => (each field member).2

/-- The renderer returns the one text of the grammar, and only for what it has a text for. -/
theorem canonical_ok {json : Json} {text : JsString} :
    canonicalFrameworkJson json = .ok text ↔ Renderable json ∧ text = (written json).render := by
  induction json using Json.children_induct generalizing text with
  | null =>
    rw [canonicalFrameworkJson, Except.ok.injEq, eq_comm]
    exact ⟨fun same => ⟨.null, same⟩, And.right⟩
  | bool b =>
    have same : (written (.bool b)).render = if b then js "true" else js "false" := by cases b <;> rfl
    rw [canonicalFrameworkJson, Except.ok.injEq, same, eq_comm]
    exact ⟨fun same => ⟨.bool b, same⟩, And.right⟩
  | number d =>
    rw [canonical_number, written, Value.render]
    constructor
    · intro safe
      exact ⟨.number safe.1, safe.2⟩
    · intro safe
      cases safe.1 with
      | number held => exact ⟨held, safe.2⟩
  | string s =>
    rw [canonicalFrameworkJson, canonicalString_ok, written, Value.render]
    constructor
    · intro valid
      exact ⟨.string valid.1, valid.2⟩
    · intro valid
      cases valid.1 with
      | string held => exact ⟨held, valid.2⟩
  | array items ih =>
    rw [canonical_array, map_eq_ok, renderable_array, written, writtenItems_eq, Value.compactArray_render, List.map_map]
    constructor
    · intro rendered
      rcases rendered with ⟨texts, mapped, rfl⟩
      rcases (mapM_eq_ok_map fun item member text => @ih item member text).mp mapped with ⟨each, rfl⟩
      exact ⟨each, rfl⟩
    · intro rendered
      exact ⟨_, (mapM_eq_ok_map fun item member text => @ih item member text).mpr ⟨rendered.1, rfl⟩, rendered.2.symm⟩
  | object fields ih =>
    have field : ∀ field ∈ byBytes fields, ∀ text, canonicalField field = .ok text ↔
        (isWellFormed field.1 = true ∧ Renderable field.2) ∧
          text = (writtenString field.1).render ++ colon :: (written field.2).render := by
      intro field member text
      have own := @ih field (mem_sort.mp member)
      unfold canonicalField
      simp only [bind_eq_ok, pure_eq_ok, canonicalString_ok, own, Except.ok.injEq]
      constructor
      · rintro ⟨_, ⟨valid, rfl⟩, _, ⟨renderable, rfl⟩, rfl⟩
        exact ⟨⟨valid, renderable⟩, rfl⟩
      · rintro ⟨⟨valid, renderable⟩, rfl⟩
        exact ⟨_, ⟨valid, rfl⟩, _, ⟨renderable, rfl⟩, rfl⟩
    have members : (∀ field ∈ byBytes fields, isWellFormed field.1 = true ∧ Renderable field.2) ↔
        ∀ field ∈ fields, isWellFormed field.1 = true ∧ Renderable field.2 :=
      ⟨fun each field member => each field (mem_sort.mpr member), fun each field member => each field (mem_sort.mp member)⟩
    rw [canonical_object, map_eq_ok, renderable_object, ← members, written_object, Value.compactObject_render, List.map_map]
    constructor
    · intro rendered
      rcases rendered with ⟨texts, mapped, rfl⟩
      rcases (mapM_eq_ok_map field).mp mapped with ⟨each, rfl⟩
      exact ⟨each, rfl⟩
    · intro rendered
      exact ⟨_, (mapM_eq_ok_map field).mpr ⟨rendered.1, rfl⟩, rendered.2.symm⟩

/-! ### Texts tell values apart -/

/-- `Number` of the texts of integers. -/
@[reducible] def integerLiterals : NumberConversion where
  number text := match bigIntOfString text with
    | some i => .finite i
    | none => .nan

theorem Renderable.finite {json : Json} (renderable : Renderable json) : json.Finite := by
  induction renderable with
  | null => exact .null
  | bool b => exact .bool b
  | @number d safe =>
    apply Json.EveryNumber.number
    cases d <;> first | rfl | cases safe
  | @string s _ => exact .string s
  | array _ ih => exact .array ih
  | object _ _ ih => exact .object ih

/-- What is read from the canonical text is the value, but for `-0` and the order of properties. -/
theorem written_arranged {json : Json} (distinct : json.KeysDistinct) (renderable : Renderable json) :
    (@Value.eval integerLiterals (written json)).arranged = json.arranged := by
  let _ := integerLiterals
  induction renderable with
  | null => rfl
  | bool b => cases b <;> rfl
  | @number d safe =>
    rcases Double.isSafeInteger_iff.mp safe with ⟨i, whole, _⟩
    have read : NumberConversion.number (integerText i) = .finite i := by
      show (match bigIntOfString (integerText i) with | some i => Double.finite i | none => .nan) = _
      rw [bigIntOfString_integerText]
    have finite : d.isFinite = true := by cases d <;> first | rfl | cases whole
    rw [written, Value.eval, whole, Option.getD_some, read, Json.arranged_number finite, Double.unsigned_of_toInt whole]
    rfl
  | @string s _ => rw [written, Value.eval, writtenString_decoded]
  | @array items _ ih =>
    cases distinct with
    | array distinct =>
      rw [written, writtenItems_eq, Value.compactArray_eval, Json.arranged_array, Json.arranged_array, List.map_map, List.map_map]
      exact congrArg Json.array (List.map_congr_left fun item member => ih item member (distinct item member))
  | @object fields _ _ ih =>
    cases distinct with
    | object keys distinct =>
      have read : ((byBytes fields).map fun field => (writtenString field.1, written field.2)).map
          (fun member => (member.1.decoded, member.2.eval)) = (byBytes fields).map fun field => (field.1, (written field.2).eval) := by
        rw [List.map_map]
        exact List.map_congr_left fun field _ => by rw [Function.comp_apply, writtenString_decoded]
      have ordered : (byBytes fields).Perm fields := sort_perm _ _
      have kept : Fields.Distinct ((byBytes fields).map fun field => (field.1, (written field.2).eval)) := by
        unfold Fields.Distinct Fields.keys
        rw [List.map_map]
        exact (ordered.map Prod.fst).nodup_iff.mpr keys
      have each : (((byBytes fields).map fun field => (field.1, (written field.2).eval)).map
          fun field => (field.1, field.2.arranged)) = (byBytes fields).map fun field => (field.1, field.2.arranged) := by
        rw [List.map_map]
        exact List.map_congr_left fun field member => by
          rw [Function.comp_apply, ih field (mem_sort.mp member) (distinct field (mem_sort.mp member))]
      have own : Fields.Distinct ((byBytes fields).map fun field => (field.1, field.2.arranged)) := by
        unfold Fields.Distinct Fields.keys
        rw [List.map_map]
        exact (ordered.map Prod.fst).nodup_iff.mpr keys
      rw [written_object, Value.compactObject_eval, read, Fields.ofEntries_eq kept, Json.arranged_object, each, Json.arranged_object,
        Fields.sort_eq_of_perm own (ordered.map _)]

/-- Values with one canonical text are equal, but for `-0` and the order of properties. -/
theorem alike_of_canonical {a b : Json} {text : JsString} (distinct : a.KeysDistinct) (otherDistinct : b.KeysDistinct)
    (first : canonicalFrameworkJson a = .ok text) (second : canonicalFrameworkJson b = .ok text) : a.Alike b := by
  rcases canonical_ok.mp first with ⟨renderable, rfl⟩
  rcases canonical_ok.mp second with ⟨other, same⟩
  apply Json.alike_of_arranged renderable.finite other.finite
  rw [← written_arranged distinct renderable, Value.render_injective same, written_arranged otherDistinct other]

end Mirror.Framework
