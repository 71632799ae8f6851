import MirrorECMA.ECMA.Nearest
import MirrorECMA.ECMA.Stringified

namespace ECMA

open Grammar

/-- Numbers are read to the nearest double and written so that they are read back. -/
class NearestRoundTrip extends NumberRoundTrip, NearestNumberConversion

theorem integerText_literal (i : Int) : IsIntegerLiteral (integerText i) := by
  unfold integerText
  split
  · exact ⟨[minus], decimal i.natAbs, rfl, .inr rfl, decimal_isInteger i.natAbs⟩
  · exact ⟨[], decimal i.natAbs, rfl, .inl rfl, decimal_isInteger i.natAbs⟩

theorem writtenInteger_integerText (i : Int) : writtenInteger (integerText i) = i := by
  rw [writtenInteger, signedDecimal?_integerText]
  rfl

theorem numberOfBigInt_zero : numberOfBigInt 0 = .finite 0 := by decide +kernel

/-- The double nearest to an integer is one that a literal stands for. -/
theorem numberOfBigInt_literal [NearestRoundTrip] (i : Int) : (numberOfBigInt i).Literal := by
  intro finite
  rcases NearestNumberConversion.nearest (integerText i) (integerText_literal i) with read | ⟨zero, read⟩
  · rw [writtenInteger_integerText] at read
    exact ⟨_, read⟩
  · rw [writtenInteger_integerText] at zero
    subst zero
    have unsigned : numberOfBigInt 0 = Double.negativeZero.unsigned := numberOfBigInt_zero
    rw [unsigned] at finite ⊢
    exact literal_unsigned .negativeZero (fun _ => ⟨_, read⟩) finite

/-! ### Rounding twice -/

theorem roundHalfEven_representable (n : Nat) : ∃ mantissa exponent : Nat, mantissa < 2 ^ 53 ∧
    roundHalfEven n (2 ^ (Nat.log2 n - 52)) = mantissa * 2 ^ exponent := by
  have quotient : n / 2 ^ (Nat.log2 n - 52) < 2 ^ 53 := by
    rw [Nat.div_lt_iff_lt_mul (Nat.two_pow_pos _), ← Nat.pow_add]
    exact Nat.lt_of_lt_of_le Nat.lt_log2_self (Nat.pow_le_pow_right (by decide) (by omega))
  unfold roundHalfEven
  dsimp only
  split
  · exact ⟨_, _, quotient, rfl⟩
  · rcases Nat.lt_or_ge (n / 2 ^ (Nat.log2 n - 52) + 1) (2 ^ 53) with small | carried
    · exact ⟨_, _, small, rfl⟩
    · have whole : n / 2 ^ (Nat.log2 n - 52) + 1 = 2 ^ 52 * 2 := by omega
      exact ⟨2 ^ 52, Nat.log2 n - 52 + 1, by decide, by rw [whole, Nat.pow_succ _ (Nat.log2 n - 52), Nat.mul_assoc, Nat.mul_comm 2]⟩

/-- An integer that is a double is read as that double. -/
theorem numberOfBigInt_of_representable {j : Int} (small : j.natAbs < 2 ^ 1024) (held : Representable j) :
    numberOfBigInt j = .finite j := by
  have same : roundHalfEven j.natAbs (2 ^ (Nat.log2 j.natAbs - 52)) = j.natAbs :=
    roundHalfEven_eq_iff.mpr ((unit_dvd_iff j.natAbs).mpr held)
  unfold numberOfBigInt
  dsimp only
  rw [same, if_pos small]
  split
  · rename_i negative
    have magnitude : (j.natAbs : Int) = -j := by omega
    have cast : ((j.natAbs : Int) : Rat) = -(j : Rat) := by rw [magnitude, Rat.intCast_neg]
    exact congrArg Double.finite ((congrArg Neg.neg cast).trans (Rat.neg_neg _))
  · have magnitude : (j.natAbs : Int) = j := by omega
    exact congrArg Double.finite (congrArg Int.cast magnitude)

theorem numberOfBigInt_finite {i : Int} (finite : (numberOfBigInt i).isFinite = true) :
    ∃ j : Int, numberOfBigInt i = .finite j ∧ numberOfBigInt j = .finite j := by
  have held := roundHalfEven_representable i.natAbs
  unfold numberOfBigInt at finite
  dsimp only at finite
  split at finite
  · rename_i small
    have rounds (j : Int) (magnitude : j.natAbs = roundHalfEven i.natAbs (2 ^ (Nat.log2 i.natAbs - 52))) :
        numberOfBigInt j = .finite j := by
      rw [← magnitude] at held small
      exact numberOfBigInt_of_representable small held
    by_cases negative : i < 0
    · refine ⟨-(roundHalfEven i.natAbs (2 ^ (Nat.log2 i.natAbs - 52)) : Nat), ?_, rounds _ (by omega)⟩
      unfold numberOfBigInt
      dsimp only
      rw [if_pos small, if_pos negative, Rat.intCast_neg]
      rfl
    · refine ⟨(roundHalfEven i.natAbs (2 ^ (Nat.log2 i.natAbs - 52)) : Nat), ?_, rounds _ (by omega)⟩
      unfold numberOfBigInt
      dsimp only
      rw [if_pos small, if_neg negative]
      rfl
  · cases finite

theorem nearestIntegers_number (text : JsString) (finite : (nearestIntegers.number text).isFinite = true) :
    nearestIntegers.number text = numberOfBigInt (writtenInteger text) := by
  by_cases digits : (signedDecimal? text).isSome
  · exact if_pos digits
  · have none : nearestIntegers.number text = Double.nan := if_neg digits
    rw [none] at finite
    cases finite

theorem nearestIntegers_integerText (i : Int) : nearestIntegers.number (integerText i) = numberOfBigInt i := by
  have digits : (signedDecimal? (integerText i)).isSome := by
    rw [signedDecimal?_integerText]
    rfl
  have read : nearestIntegers.number (integerText i) = numberOfBigInt (writtenInteger (integerText i)) := if_pos digits
  rw [read, writtenInteger_integerText]

/-- Integer literals read to the nearest double, which is written as its integer. -/
@[reducible] def nearestNumbers : NearestRoundTrip where
  toNearestNumberConversion := nearestIntegers
  text d := match d.toInt? with
    | some i => integerText i
    | none => if d.isFinite then js "0" else js "NaN"
  literal := integerNumbers.literal
  read_back s finite := by
    have read := nearestIntegers_number s finite
    rcases numberOfBigInt_finite (read ▸ finite) with ⟨j, rounded, again⟩
    rw [read, rounded, Double.toInt?_intCast]
    simp only
    exact (nearestIntegers_integerText j).trans again
  negative_zero := integerNumbers.negative_zero

end ECMA
