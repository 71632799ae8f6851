import MirrorECMA.ECMA.Alike
import MirrorECMA.ECMA.Utf8

namespace ECMA

/-! ### Quoted texts -/

def hasNoSurrogate (s : JsString) : Bool := s.all fun u => !isSurrogate u

theorem wellFormed_of_noSurrogate {s : JsString} (plain : hasNoSurrogate s = true) : isWellFormed s = true := by
  apply isWellFormed_plain
  intro u member
  exact Bool.not_eq_true' _ ▸ List.all_eq_true.mp plain u member

theorem unicodeEscapeText_plain (u : CodeUnit) : hasNoSurrogate (unicodeEscapeText u) = true := by
  have digits : ∀ n : Fin 16, isSurrogate (hexDigitUnit n) = false := by decide
  have digit (n : Nat) (small : n < 16) : isSurrogate (hexDigitUnit n) = false := digits ⟨n, small⟩
  have bound := u.isLt
  have marks : isSurrogate 0x5C = false ∧ isSurrogate 0x75 = false := by decide
  simp only [hasNoSurrogate, unicodeEscapeText, List.all_cons, List.all_nil, marks.1, marks.2,
    digit (u.toNat / 0x1000) (by omega), digit (u.toNat / 0x100 % 0x10) (Nat.mod_lt _ (by decide)),
    digit (u.toNat / 0x10 % 0x10) (Nat.mod_lt _ (by decide)), digit (u.toNat % 0x10) (Nat.mod_lt _ (by decide))]
  rfl

theorem quoteUnit_plain {u : CodeUnit} (plain : isSurrogate u = false) : hasNoSurrogate (quoteUnit u) = true := by
  unfold quoteUnit
  split_ifs
  · decide
  · decide
  · decide
  · decide
  · decide
  · decide
  · decide
  · exact unicodeEscapeText_plain u
  · simp [hasNoSurrogate, plain]

/-- `JSON.stringify` escapes what is no pair. -/
theorem quoteUnits_wellFormed (s : JsString) : isWellFormed (quoteUnits s) = true := by
  have single (u : CodeUnit) : isWellFormed (if isSurrogate u then unicodeEscapeText u else quoteUnit u) = true := by
    split
    · exact wellFormed_of_noSurrogate (unicodeEscapeText_plain u)
    · rename_i plain
      exact wellFormed_of_noSurrogate (quoteUnit_plain (Bool.not_eq_true _ ▸ plain))
  induction s using quoteUnits.induct with
  | case1 => rfl
  | case2 u =>
    rw [quoteUnits]
    exact single u
  | case3 u =>
    rw [quoteUnits]
    exact single u
  | case4 u v rest pair ih =>
    rw [quoteUnits, if_pos pair]
    rw [Bool.and_eq_true] at pair
    have whole : isWellFormed [u, v] = true := by
      simp [isWellFormed, high_surrogate pair.1, pair.1, pair.2]
    exact isWellFormed_append whole ih
  | case5 u v rest other ih =>
    rw [quoteUnits, if_neg other]
    exact isWellFormed_append (single u) ih

theorem quoteJson_wellFormed (s : JsString) : isWellFormed (quoteJson s) = true := by
  have mark : isWellFormed [0x22] = true := by decide
  exact isWellFormed_append mark (isWellFormed_append (quoteUnits_wellFormed s) mark)

namespace Json

/-- A tree of strings and booleans. -/
inductive NumberFree : Json → Prop
  | string (s : JsString) : NumberFree (.string s)
  | bool (b : Bool) : NumberFree (.bool b)
  | array {items : List Json} (each : ∀ item ∈ items, NumberFree item) : NumberFree (.array items)

namespace NumberFree

theorem portable [NumberConversion] {json : Json} (free : NumberFree json) : Portable json := by
  induction free with
  | string s => exact .string s
  | bool b => exact ⟨.bool b, .bool b, .bool b⟩
  | array _ ih => exact .array ih

theorem normal {json : Json} (free : NumberFree json) : json.normal = json := by
  induction free with
  | string s => rfl
  | bool b => rfl
  | array _ ih => rw [normal_array, map_eq_self ih]

theorem wellFormed [NumberText] {json : Json} (free : NumberFree json) : isWellFormed (jsonStringify json) = true := by
  induction free with
  | string s => exact quoteJson_wellFormed s
  | bool b =>
    rw [jsonStringify]
    split
    · exact isWellFormed_js "true"
    · exact isWellFormed_js "false"
  | @array items _ ih =>
    have opening : isWellFormed [0x5B] = true := by decide
    have closing : isWellFormed [0x5D] = true := by decide
    have texts : stringifyItems items = items.map jsonStringify := eq_map rfl (fun _ _ => rfl) items
    rw [jsonStringify, texts]
    apply isWellFormed_append opening (isWellFormed_append _ closing)
    exact isWellFormed_intercalate (by decide) (List.forall_mem_map.mpr ih)

theorem stringify_inj [NumberRoundTrip] {a b : Json} (free : NumberFree a) (other : NumberFree b)
    (same : jsonStringify a = jsonStringify b) : a = b := by
  have read := normal_of_stringify free.portable other.portable same
  rw [free.normal, other.normal] at read
  exact read

end NumberFree

end Json

end ECMA
