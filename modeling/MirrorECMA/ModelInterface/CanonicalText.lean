import MirrorECMA.ECMA.Compact
import MirrorECMA.ECMA.Integers
import MirrorECMA.ECMA.Quoted
import MirrorECMA.ModelInterface.NormalForm
import MirrorECMA.ModelInterface.StrictJsonExact

namespace Mirror.ModelInterface

open ECMA ECMA.Grammar

/-! ### Canonical strings as tokens -/

/-- How `compressCanonicalString` writes one unit. -/
def writtenUnit (u : CodeUnit) : Item :=
  if plain : isUnescaped u = true then .raw u plain
  else if u = 0x22 then .escape .quote
  else if u = 0x5C then .escape .backslash
  else if u = 0x0A then .escape .lineFeed
  else if u = 0x0D then .escape .carriageReturn
  else .unicode (hexDigitOf (u.toNat / 0x1000)) (hexDigitOf (u.toNat / 0x100)) (hexDigitOf (u.toNat / 0x10))
    (hexDigitOf u.toNat)

theorem writtenUnit_unit (u : CodeUnit) : (writtenUnit u).unit = u := by
  unfold writtenUnit
  split
  · rfl
  · split
    · rename_i same; exact same.symm
    · split
      · rename_i same; exact same.symm
      · split
        · rename_i same; exact same.symm
        · split
          · rename_i same; exact same.symm
          · have bound := u.isLt
            have digit (n : Nat) : hexValue (hexDigitOf n).unit = n % 16 :=
              (hexDigitUnit_hex (Nat.mod_lt n (by decide))).2
            rw [Item.unit, hexUnit, digit, digit, digit, digit]
            have value : ((u.toNat / 0x1000 % 16 * 16 + u.toNat / 0x100 % 16) * 16 + u.toNat / 0x10 % 16) * 16 +
                u.toNat % 16 = u.toNat := by omega
            rw [value, BitVec.ofNat_toNat, BitVec.setWidth_eq]

theorem compressCharacter_plain {codePoint : Nat} (printable : 0x20 ≤ codePoint) (notQuote : codePoint ≠ 0x22)
    (notBackslash : codePoint ≠ 0x5C) : compressCharacter codePoint = fromCodePoint codePoint := by
  rw [compressCharacter, if_neg notQuote, if_neg notBackslash, if_neg (by omega), if_neg (by omega), if_neg (by omega)]

theorem compressCharacter_unit (u : CodeUnit) : compressCharacter u.toNat = (writtenUnit u).render := by
  by_cases plain : isUnescaped u = true
  · obtain ⟨printable, notQuote, notBackslash⟩ := isUnescaped_iff.mp plain
    rw [compressCharacter_plain printable notQuote notBackslash, writtenUnit, dif_pos plain, fromCodePoint_unit, Item.render]
  · rw [writtenUnit, dif_neg plain]
    split
    · rename_i same; rw [same]; decide
    · split
      · rename_i same; rw [same]; decide
      · split
        · rename_i same; rw [same]; decide
        · split
          · rename_i same; rw [same]; decide
          · rename_i notQuote notBackslash notLineFeed notReturn
            rw [isUnescaped_iff] at plain
            have apart (n : Nat) (other : u ≠ BitVec.ofNat 16 n) : u.toNat ≠ n := fun same =>
              other (by rw [← same, BitVec.ofNat_toNat, BitVec.setWidth_eq])
            have bound := u.isLt
            have control : u.toNat < 0x20 := by
              have first := apart 0x22 notQuote
              have second := apart 0x5C notBackslash
              omega
            rw [compressCharacter, if_neg (apart _ notQuote), if_neg (apart _ notBackslash), if_neg (apart _ notLineFeed),
              if_neg (apart _ notReturn), if_pos control, BitVec.ofNat_toNat, BitVec.setWidth_eq, unicodeEscapeText, Item.render]
            simp only [hexDigitOf]
            rw [Nat.mod_eq_of_lt (a := u.toNat / 0x1000) (by omega)]

theorem compressCharacter_pair {high low : CodeUnit} (isHigh : isHighSurrogate high = true)
    (isLow : isLowSurrogate low = true) :
    compressCharacter (pairScalar high low) = (writtenUnit high).render ++ (writtenUnit low).render := by
  have pair := fromCodePoint_pair isHigh isLow
  simp only [isHighSurrogate, isLowSurrogate, Bool.and_eq_true, decide_eq_true_eq] at isHigh isLow
  have wide : 0x10000 ≤ pairScalar high low := by unfold pairScalar; omega
  have first : isUnescaped high = true := isUnescaped_iff.mpr (by omega)
  have second : isUnescaped low = true := isUnescaped_iff.mpr (by omega)
  rw [compressCharacter_plain (by omega) (by omega) (by omega), pair, writtenUnit, dif_pos first, writtenUnit,
    dif_pos second]
  rfl

def writtenString (text : JsString) : StringToken := text.map writtenUnit

theorem writtenString_decoded (text : JsString) : (writtenString text).decoded = text := by
  rw [writtenString, StringToken.decoded, List.map_map]
  exact map_eq_self fun u _ => writtenUnit_unit u

theorem writtenString_render (text : JsString) : (writtenString text).render = compressCanonicalString text := by
  have units : (writtenString text).flatMap Item.render = (codePoints text).flatMap compressCharacter := by
    unfold writtenString
    induction text using codePoints.induct with
    | case1 => rfl
    | case2 u => simp [codePoints, compressCharacter_unit]
    | case3 u v rest pair ih =>
      rw [Bool.and_eq_true] at pair
      simp [codePoints, pair.1, pair.2, compressCharacter_pair pair.1 pair.2, ← ih]
    | case4 u v rest unpaired ih =>
      simp only [codePoints, unpaired, Bool.false_eq_true, ↓reduceIte, List.flatMap_cons, compressCharacter_unit, ← ih,
        List.map_cons]
  rw [StringToken.render, StringToken.renderTail, units, compressCanonicalString]

/-- Only control characters are written as numbers. -/
theorem writtenUnit_unicode {u : CodeUnit} {a b c d : HexDigit} (shape : writtenUnit u = .unicode a b c d) :
    isSurrogate (hexUnit a.unit b.unit c.unit d.unit) = false := by
  have unit : hexUnit a.unit b.unit c.unit d.unit = u := by rw [← writtenUnit_unit u, shape]; rfl
  by_cases plain : isUnescaped u = true
  · rw [writtenUnit, dif_pos plain] at shape
    cases shape
  · rw [isUnescaped_iff] at plain
    rw [unit]
    simp only [isSurrogate, Bool.and_eq_false_iff, decide_eq_false_iff_not]
    omega

theorem pairsUniform_of_control {token : StringToken}
    (control : ∀ a b c d, Item.unicode a b c d ∈ token → isSurrogate (hexUnit a.unit b.unit c.unit d.unit) = false) :
    PairsUniform token := by
  induction token using PairsUniform.induct with
  | case1 high _ a b c d rest ih =>
    have low := (not_surrogate (control a b c d (List.mem_cons_of_mem _ List.mem_cons_self))).2
    refine ⟨fun both => ?_, ih fun _ _ _ _ member => control _ _ _ _ (List.mem_cons_of_mem _ member)⟩
    rw [low] at both
    cases both.2
  | case2 a b c d low _ rest ih =>
    have high := (not_surrogate (control a b c d List.mem_cons_self)).1
    refine ⟨fun both => ?_, ih fun _ _ _ _ member => control _ _ _ _ (List.mem_cons_of_mem _ member)⟩
    rw [high] at both
    cases both.1
  | case3 item rest _ _ ih =>
    rw [PairsUniform]
    · exact ih fun _ _ _ _ member => control _ _ _ _ (List.mem_cons_of_mem _ member)
    all_goals assumption
  | case4 => trivial

theorem writtenString_paired {text : JsString} (valid : isWellFormed text = true) :
    SurrogatesPaired (writtenString text) := by
  refine ⟨(writtenString_decoded text).symm ▸ valid, pairsUniform_of_control fun a b c d member => ?_⟩
  obtain ⟨u, -, shape⟩ := List.mem_map.mp member
  exact writtenUnit_unicode shape

/-! ### Canonical values as JSON texts -/

/-- The data that `compressCanonicalJson` writes and the parsers read back as it is. -/
inductive PlainJson : Json → Prop
  | null : PlainJson .null
  | bool (value : Bool) : PlainJson (.bool value)
  | number {n : Nat} : n ≤ maxSafeInteger → PlainJson (.number (.ofNat n))
  | string {text : JsString} : isWellFormed text = true → PlainJson (.string text)
  | array {items : List Json} : (∀ item ∈ items, PlainJson item) → PlainJson (.array items)
  | object {fields : Fields Json} : fields.Distinct → (∀ key ∈ fields.keys, isWellFormed key = true) →
    (∀ field ∈ fields, PlainJson field.2) → PlainJson (.object fields)

mutual

/-- The text of `compressCanonicalJson` as a value of the grammar. -/
def written : Json → Value
  | .null => .null
  | .bool value => if value then .true else .false
  | .number value => .number (decimal (value.toInt?.getD 0).toNat) (decimal_isNumber _)
  | .string text => .string (writtenString text)
  | .array items => .compactArray (writtenItems items)
  | .object fields => .compactObject (writtenFields fields)

def writtenItems : List Json → List Value
  | [] => []
  | item :: rest => written item :: writtenItems rest

def writtenFields : List (JsString × Json) → List (StringToken × Value)
  | [] => []
  | (key, item) :: rest => (writtenString key, written item) :: writtenFields rest

end

@[simp] theorem writtenItems_eq (items : List Json) : writtenItems items = items.map written :=
  eq_map rfl (fun _ _ => rfl) items

@[simp] theorem writtenFields_eq (fields : List (JsString × Json)) :
    writtenFields fields = fields.map fun field => (writtenString field.1, written field.2) :=
  eq_map rfl (fun _ _ => rfl) fields

theorem written_number (n : Nat) : written (.number (.ofNat n)) = .number (decimal n) (decimal_isNumber n) := by
  simp [written]

theorem integerText_natCast (n : Nat) : integerText n = decimal n := by
  rw [integerText, if_neg (Int.not_lt.mpr (Int.natCast_nonneg n)), Int.natAbs_natCast]

theorem compressItems_ok {items : List Json} (text : Json → JsString)
    (each : ∀ item ∈ items, compressCanonicalJson item = .ok (text item)) : compressItems items = .ok (items.map text) := by
  induction items with
  | nil => rfl
  | cons item rest ih =>
    rw [compressItems, each item List.mem_cons_self, ih fun other member => each other (List.mem_cons_of_mem _ member)]
    rfl

theorem compressFields_ok {fields : List (JsString × Json)} (text : Json → JsString)
    (each : ∀ field ∈ fields, compressCanonicalJson field.2 = .ok (text field.2)) :
    compressFields fields = .ok (fields.map fun field => compressCanonicalString field.1 ++ colon :: text field.2) := by
  induction fields with
  | nil => rfl
  | cons field rest ih =>
    rw [compressFields, each field List.mem_cons_self, ih fun other member => each other (List.mem_cons_of_mem _ member)]
    rfl

theorem compress_written {json : Json} (plain : PlainJson json) :
    compressCanonicalJson json = .ok (written json).render := by
  induction plain with
  | null => rfl
  | bool value => cases value <;> rfl
  | @number n small =>
    have safe : (Double.ofNat n).isSafeInteger = true :=
      Double.isSafeInteger_iff.mpr ⟨n, Double.toInt?_ofNat n, by rwa [Int.natAbs_natCast]⟩
    rw [compressCanonicalJson, if_pos safe, Double.toInt?_ofNat, Option.getD_some, integerText_natCast,
      written_number, Value.render]
  | string _ => rw [compressCanonicalJson, written, Value.render, writtenString_render]
  | array _ ih =>
    rw [compress_array, compressItems_ok (fun item => (written item).render) ih, written, Value.compactArray_render, writtenItems_eq, List.map_map]
    rfl
  | object _ _ _ ih =>
    rw [compress_object, compressFields_ok (fun item => (written item).render) ih, written, Value.compactObject_render, writtenFields_eq, List.map_map]
    simp only [Function.comp_def, writtenString_render]
    rfl

theorem written_eval [SafeNumberConversion] {json : Json} (plain : PlainJson json) : (written json).eval = json := by
  induction plain with
  | null => rfl
  | bool value => cases value <;> rfl
  | @number n small =>
    rw [written_number, Value.eval, SafeNumberConversion.safe_exact n small]
  | string _ => rw [written, Value.eval, writtenString_decoded]
  | array _ ih =>
    rw [written, Value.compactArray_eval, writtenItems_eq, List.map_map]
    exact congrArg Json.array (map_eq_self ih)
  | @object fields distinct _ _ ih =>
    have each : (fields.map fun field => (writtenString field.1, written field.2)).map
        (fun member => (member.1.decoded, member.2.eval)) = fields := by
      rw [List.map_map]
      exact map_eq_self fun field member => by
        rw [Function.comp_apply, writtenString_decoded, ih field member]
    rw [written, Value.compactObject_eval, writtenFields_eq, each, Fields.ofEntries_eq distinct]

/-- Two values are written alike only when they are the same. -/
theorem compress_injective {left right : Json} (plainLeft : PlainJson left) (plainRight : PlainJson right)
    (same : compressCanonicalJson left = compressCanonicalJson right) : left = right := by
  letI := safeIntegers
  rw [compress_written plainLeft, compress_written plainRight] at same
  rw [← written_eval plainLeft, Value.render_injective (Except.ok.inj same), written_eval plainRight]

/-! ### How the strict parser reads a canonical text -/

mutual

/-- How many containers are open at the deepest place. -/
def nesting : Json → Nat
  | .null | .bool _ | .number _ | .string _ => 0
  | .array items => maximum (nestings items) + 1
  | .object fields => maximum (fieldNestings fields) + 1

def nestings : List Json → List Nat
  | [] => []
  | item :: rest => nesting item :: nestings rest

def fieldNestings : List (JsString × Json) → List Nat
  | [] => []
  | (_, item) :: rest => nesting item :: fieldNestings rest

end

@[simp] theorem nestings_eq (items : List Json) : nestings items = items.map nesting :=
  eq_map rfl (fun _ _ => rfl) items

@[simp] theorem fieldNestings_eq (fields : List (JsString × Json)) :
    fieldNestings fields = fields.map fun field => nesting field.2 :=
  eq_map rfl (fun _ _ => rfl) fields

theorem written_depth (json : Json) : (written json).depth = nesting json := by
  induction json using Json.children_induct with
  | null => rfl
  | bool value => cases value <;> rfl
  | number value => rfl
  | string text => rfl
  | array items ih =>
    rw [written, Value.compactArray_depth, writtenItems_eq, List.map_map, nesting, nestings_eq]
    exact congrArg (maximum · + 1) (List.map_congr_left ih)
  | object fields ih =>
    rw [written, Value.compactObject_depth, writtenFields_eq, List.map_map, nesting, fieldNestings_eq]
    exact congrArg (maximum · + 1) (List.map_congr_left ih)

theorem written_strict [SafeNumberConversion] {json : Json} (plain : PlainJson json) :
    (written json).KeysDistinct ∧ (written json).EveryString SurrogatesPaired ∧
      (written json).EveryNumber fun literal => (NumberConversion.number literal).isFinite = true := by
  induction plain with
  | null => exact ⟨trivial, trivial, trivial⟩
  | bool value => cases value <;> exact ⟨trivial, trivial, trivial⟩
  | @number n small =>
    refine ⟨trivial, trivial, ?_⟩
    rw [written_number, Value.EveryNumber, SafeNumberConversion.safe_exact n small]
    rfl
  | string valid => exact ⟨trivial, writtenString_paired valid, trivial⟩
  | array _ ih =>
    rw [written, writtenItems_eq]
    exact ⟨Value.compactArray_keysDistinct (List.forall_mem_map.mpr fun item member => (ih item member).1),
      Value.compactArray_everyString (List.forall_mem_map.mpr fun item member => (ih item member).2.1),
      Value.compactArray_everyNumber (List.forall_mem_map.mpr fun item member => (ih item member).2.2)⟩
  | @object fields distinct keys _ ih =>
    rw [written, writtenFields_eq]
    refine ⟨Value.compactObject_keysDistinct ?_ (List.forall_mem_map.mpr fun field member => (ih field member).1),
      Value.compactObject_everyString (List.forall_mem_map.mpr fun field member =>
        ⟨writtenString_paired (keys field.1 (List.mem_map_of_mem member)), (ih field member).2.1⟩),
      Value.compactObject_everyNumber (List.forall_mem_map.mpr fun field member => (ih field member).2.2)⟩
    simp only [List.map_map, Function.comp_def, writtenString_decoded]
    exact distinct

/-- The strict parser reads a canonical text of its size back when it opens no more than 128 containers. -/
theorem parseStrictJson_written [SafeNumberConversion] {json result : Json} (plain : PlainJson json)
    (small : utf8Length (written json).render ≤ 65535) :
    parseStrictJson (written json).render = .ok result ↔ nesting json ≤ 128 ∧ result = json := by
  obtain ⟨keys, surrogates, numbers⟩ := written_strict plain
  let text : Text := ⟨blank, written json, blank⟩
  have render : text.render = (written json).render := by simp [text, Text.render, blank]
  have parsed : jsonParse (written json).render = some json := by
    rw [← render, jsonParse_render]
    exact congrArg some (written_eval plain)
  rw [parseStrictJson_iff]
  constructor
  · rintro ⟨-, ⟨other, shape, strict⟩, found⟩
    obtain rfl := render_injective (shape.trans render.symm)
    exact ⟨written_depth json ▸ strict.nesting, (Option.some.inj (parsed.symm.trans found)).symm⟩
  · rintro ⟨shallow, rfl⟩
    exact ⟨small, ⟨text, render, ⟨keys, surrogates, numbers, (written_depth _).symm ▸ shallow⟩⟩, parsed⟩

end Mirror.ModelInterface
