import MirrorECMA.ECMA.Grammar
import MirrorECMA.ECMA.Stringify
import Mathlib.Tactic.SplitIfs

namespace ECMA.Grammar

/-! ### Hexadecimal escapes -/

theorem hexDigitUnit_hex {n : Nat} (small : n < 16) :
    isHexDigit (hexDigitUnit n) = true ∧ hexValue (hexDigitUnit n) = n := by
  have cases : n = 0 ∨ n = 1 ∨ n = 2 ∨ n = 3 ∨ n = 4 ∨ n = 5 ∨ n = 6 ∨ n = 7 ∨ n = 8 ∨ n = 9 ∨ n = 10 ∨ n = 11 ∨
      n = 12 ∨ n = 13 ∨ n = 14 ∨ n = 15 := by omega
  rcases cases with rfl | rfl | rfl | rfl | rfl | rfl | rfl | rfl | rfl | rfl | rfl | rfl | rfl | rfl | rfl | rfl <;>
    decide

def hexDigitOf (n : Nat) : HexDigit :=
  ⟨hexDigitUnit (n % 16), (hexDigitUnit_hex (Nat.mod_lt n (by decide))).1⟩

theorem isUnescaped_iff {u : CodeUnit} :
    isUnescaped u = true ↔ 0x20 ≤ u.toNat ∧ u.toNat ≠ 0x22 ∧ u.toNat ≠ 0x5C := by
  simp only [isUnescaped, Bool.and_eq_true, decide_eq_true_eq, ne_eq, ← BitVec.toNat_inj, and_assoc]
  rfl

theorem hexDigit_unescaped (d : HexDigit) : isUnescaped d.unit = true := by
  have valid := d.valid
  simp only [isHexDigit, isDigit, Bool.or_eq_true, Bool.and_eq_true, decide_eq_true_eq] at valid
  exact isUnescaped_iff.mpr (by omega)

/-! ### Quoted strings as tokens -/

def unicodeItem (u : CodeUnit) : Item :=
  .unicode (hexDigitOf (u.toNat / 0x1000)) (hexDigitOf (u.toNat / 0x100)) (hexDigitOf (u.toNat / 0x10)) (hexDigitOf u.toNat)

/-- How `JSON.stringify` writes a unit that is no unpaired surrogate. -/
def quotedUnit (u : CodeUnit) : Item :=
  if u = 0x08 then .escape .backspace else if u = 0x09 then .escape .tab else if u = 0x0A then .escape .lineFeed
  else if u = 0x0C then .escape .formFeed else if u = 0x0D then .escape .carriageReturn
  else if u = 0x22 then .escape .quote else if u = 0x5C then .escape .backslash
  else if plain : isUnescaped u = true then .raw u plain else unicodeItem u

def loneUnit (u : CodeUnit) : Item := if isSurrogate u then unicodeItem u else quotedUnit u

def quotedToken : JsString → StringToken
  | [] => []
  | [u] => [loneUnit u]
  | u :: v :: rest =>
    if isHighSurrogate u && isLowSurrogate v then quotedUnit u :: quotedUnit v :: quotedToken rest
    else loneUnit u :: quotedToken (v :: rest)

theorem unicodeItem_render (u : CodeUnit) : (unicodeItem u).render = unicodeEscapeText u := by
  have bound := u.isLt
  simp only [unicodeItem, Item.render, unicodeEscapeText, hexDigitOf]
  rw [Nat.mod_eq_of_lt (a := u.toNat / 0x1000) (by omega)]

theorem unicodeItem_unit (u : CodeUnit) : (unicodeItem u).unit = u := by
  have bound := u.isLt
  have digit (n : Nat) : hexValue (hexDigitOf n).unit = n % 16 := (hexDigitUnit_hex (Nat.mod_lt n (by decide))).2
  have value : ((u.toNat / 0x1000 % 16 * 16 + u.toNat / 0x100 % 16) * 16 + u.toNat / 0x10 % 16) * 16 +
      u.toNat % 16 = u.toNat := by omega
  rw [unicodeItem, Item.unit, hexUnit, digit, digit, digit, digit, value, BitVec.ofNat_toNat, BitVec.setWidth_eq]

theorem quotedUnit_unit (u : CodeUnit) : (quotedUnit u).unit = u := by
  unfold quotedUnit
  split_ifs with backspace tab lineFeed formFeed carriageReturn quote backslash plain
  · exact backspace.symm
  · exact tab.symm
  · exact lineFeed.symm
  · exact formFeed.symm
  · exact carriageReturn.symm
  · exact quote.symm
  · exact backslash.symm
  · rfl
  · exact unicodeItem_unit u

theorem quotedUnit_render (u : CodeUnit) : (quotedUnit u).render = quoteUnit u := by
  unfold quotedUnit quoteUnit
  split_ifs with backspace tab lineFeed formFeed carriageReturn quote backslash plain control control
  · decide
  · decide
  · decide
  · decide
  · decide
  · decide
  · decide
  · have printable := (isUnescaped_iff.mp plain).1
    omega
  · rfl
  · exact unicodeItem_render u
  · exfalso
    refine plain (isUnescaped_iff.mpr ⟨Nat.not_lt.mp control, ?_, ?_⟩)
    · exact fun same => quote (BitVec.eq_of_toNat_eq same)
    · exact fun same => backslash (BitVec.eq_of_toNat_eq same)

theorem quotedUnit_surrogate {u : CodeUnit} (surrogate : isSurrogate u = true) : (quotedUnit u).render = [u] := by
  simp only [isSurrogate, Bool.and_eq_true, decide_eq_true_eq] at surrogate
  have apart (v : CodeUnit) (small : v.toNat < 0xD800) : u ≠ v := by
    intro same
    rw [same] at surrogate
    omega
  have control : ¬ u.toNat < 0x20 := by omega
  rw [quotedUnit_render, quoteUnit, if_neg (apart 0x08 (by decide)), if_neg (apart 0x09 (by decide)),
    if_neg (apart 0x0A (by decide)), if_neg (apart 0x0C (by decide)), if_neg (apart 0x0D (by decide)),
    if_neg (apart 0x22 (by decide)), if_neg (apart 0x5C (by decide)), if_neg control]

theorem loneUnit_unit (u : CodeUnit) : (loneUnit u).unit = u := by
  unfold loneUnit
  split
  · exact unicodeItem_unit u
  · exact quotedUnit_unit u

theorem loneUnit_render (u : CodeUnit) :
    (loneUnit u).render = if isSurrogate u then unicodeEscapeText u else quoteUnit u := by
  unfold loneUnit
  split
  · exact unicodeItem_render u
  · exact quotedUnit_render u

theorem quotedToken_decoded (s : JsString) : (quotedToken s).decoded = s := by
  unfold StringToken.decoded
  induction s using codePoints.induct with
  | case1 => rfl
  | case2 u => simp [quotedToken, loneUnit_unit]
  | case3 u v rest pair ih => simp only [quotedToken, pair, ↓reduceIte, List.map_cons, quotedUnit_unit, ih]
  | case4 u v rest unpaired ih =>
    simp only [quotedToken, unpaired, Bool.false_eq_true, ↓reduceIte, List.map_cons, loneUnit_unit, ih]

theorem quotedToken_render (s : JsString) : (quotedToken s).render = quoteJson s := by
  have units : (quotedToken s).flatMap Item.render = quoteUnits s := by
    induction s using codePoints.induct with
    | case1 => rfl
    | case2 u => simp [quotedToken, quoteUnits, loneUnit_render]
    | case3 u v rest pair ih =>
      have halves := Bool.and_eq_true_iff.mp pair
      simp only [quotedToken, quoteUnits, pair, ↓reduceIte, List.flatMap_cons, ih,
        quotedUnit_surrogate (high_surrogate halves.1), quotedUnit_surrogate (low_surrogate halves.2), List.singleton_append]
    | case4 u v rest unpaired ih =>
      simp only [quotedToken, quoteUnits, unpaired, Bool.false_eq_true, ↓reduceIte, List.flatMap_cons, ih, loneUnit_render]
  rw [StringToken.render, StringToken.renderTail, units]
  rfl

theorem quoteUnits_length (s : JsString) : (quoteUnits s).length ≤ 6 * s.length := by
  have escaped (u : CodeUnit) : (unicodeEscapeText u).length = 6 := rfl
  have unit (u : CodeUnit) : (quoteUnit u).length ≤ 6 := by
    unfold quoteUnit
    split_ifs <;> first | decide | exact Nat.le_of_eq (escaped u) | exact (by decide : 1 ≤ 6)
  have single (u : CodeUnit) : (if isSurrogate u then unicodeEscapeText u else quoteUnit u).length ≤ 6 := by
    split
    · exact Nat.le_of_eq (escaped u)
    · exact unit u
  induction s using codePoints.induct with
  | case1 => exact Nat.le_refl _
  | case2 u => simpa [quoteUnits] using single u
  | case3 u v rest pair ih =>
    simp only [quoteUnits, pair, ↓reduceIte, List.length_cons]
    omega
  | case4 u v rest unpaired ih =>
    have first := single u
    simp only [quoteUnits, unpaired, Bool.false_eq_true, ↓reduceIte, List.length_append]
    simp only [List.length_cons] at ih ⊢
    omega

theorem quoteJson_length (s : JsString) : (quoteJson s).length ≤ 6 * s.length + 2 := by
  have units := quoteUnits_length s
  simp only [quoteJson, List.length_cons, List.length_append, List.length_nil]
  omega

theorem quoteJson_token (s : JsString) : ∃ token : StringToken, token.render = quoteJson s ∧ token.decoded = s :=
  ⟨quotedToken s, quotedToken_render s, quotedToken_decoded s⟩

end ECMA.Grammar
