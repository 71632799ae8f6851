import MirrorECMA.ECMA.Json
import MirrorECMA.ECMA.Stringify

namespace ECMA

/-- `Number` on the literals of nonnegative integers that are safe. -/
@[reducible] def safeIntegers : SafeNumberConversion where
  number text := if text ≠ [] ∧ text.all isDigit then .ofNat (decimalValue text) else .nan
  safe_exact n _ := by
    have digits : (decimal n).all isDigit = true := List.all_eq_true.mpr (decimal_isDigit n)
    rw [if_pos ⟨decimal_ne_nil n, digits⟩, decimalValue_decimal]

/-- `String` on integers that are safe. -/
@[reducible] def integerTexts : NumberText where
  text d := match d.toInt? with
    | some i => integerText i
    | none => js "NaN"

end ECMA
