import MirrorECMA.ECMA.BigInt
import MirrorECMA.ECMA.Tokens

namespace ECMA

open Grammar

/-- An integer that some double is, short of its range. -/
def Representable (i : Int) : Prop := ∃ mantissa exponent : Nat, mantissa < 2 ^ 53 ∧ i.natAbs = mantissa * 2 ^ exponent

/-- A numeric literal without a fraction and an exponent. -/
def IsIntegerLiteral (text : JsString) : Prop := ∃ sign integer, text = sign ++ integer ∧ IsSign sign ∧ IsInteger integer

/-- The integer that a literal writes. -/
def writtenInteger (text : JsString) : Int := (signedDecimal? text).getD 0

/-- The nearest double is taken of an integer literal; zero may have a sign. -/
class NearestNumberConversion extends NumberConversion where
  nearest : ∀ text, IsIntegerLiteral text →
    number text = numberOfBigInt (writtenInteger text) ∨ writtenInteger text = 0 ∧ number text = .negativeZero

theorem isInteger_digits {text : JsString} (integer : IsInteger text) : text ≠ [] ∧ ∀ u ∈ text, isDigit u = true := by
  rcases integer with rfl | ⟨head, rest, rfl, low, high, digits⟩
  · refine ⟨by simp, fun u member => ?_⟩
    rw [List.mem_singleton.mp member]
    decide
  · refine ⟨by simp, fun u member => ?_⟩
    rcases List.mem_cons.mp member with rfl | member
    · rw [isDigit, Bool.and_eq_true, decide_eq_true_eq, decide_eq_true_eq]
      omega
    · exact digits u member

/-- A literal writes the number of its digits, with its sign. -/
theorem signedDecimal?_literal {sign integer : JsString} (signed : IsSign sign) (valid : IsInteger integer) :
    signedDecimal? (sign ++ integer) =
      some (if sign = [] then (decimalValue integer : Int) else -(decimalValue integer : Int)) := by
  obtain ⟨nonempty, digits⟩ := isInteger_digits valid
  have value : digits? 10 integer = some (decimalValue integer) := by
    rw [digits?, if_neg nonempty, digits?_fold digits]
    rfl
  rcases signed with rfl | rfl
  · cases integer with
    | nil => exact absurd rfl nonempty
    | cons u rest =>
      have plain := digit_plain (digits u List.mem_cons_self)
      rw [List.nil_append, signedDecimal?, if_neg plain.2.1, if_neg plain.2.2.1, value, if_pos rfl]
      rfl
  · rw [List.singleton_append, signedDecimal?, if_pos rfl, value]
    rfl

/-! ### What rounding leaves as it is -/

theorem roundHalfEven_eq_iff {n unit : Nat} : roundHalfEven n unit = n ↔ unit ∣ n := by
  constructor
  · intro same
    unfold roundHalfEven at same
    dsimp only at same
    split at same
    · exact ⟨n / unit, by rw [Nat.mul_comm, same]⟩
    · exact ⟨n / unit + 1, by rw [Nat.mul_comm, same]⟩
  · intro divides
    have none : n % unit = 0 := Nat.mod_eq_zero_of_dvd divides
    have exact_ : n / unit * unit = n := Nat.div_mul_cancel divides
    unfold roundHalfEven
    dsimp only
    rw [none]
    split
    · exact exact_
    · rename_i away
      have zero : unit = 0 := by
        rcases Nat.eq_zero_or_pos unit with zero | positive
        · exact zero
        · exact absurd (.inl positive) away
      rw [zero] at divides ⊢
      exact (Nat.zero_dvd.mp divides).symm

/-- The unit of the last place divides what 53 bits can hold. -/
theorem unit_dvd_iff (n : Nat) : 2 ^ (Nat.log2 n - 52) ∣ n ↔ ∃ mantissa exponent : Nat, mantissa < 2 ^ 53 ∧
    n = mantissa * 2 ^ exponent := by
  constructor
  · intro divides
    obtain ⟨quotient, same⟩ := divides
    refine ⟨quotient, Nat.log2 n - 52, ?_, same.trans (Nat.mul_comm _ _)⟩
    rcases Nat.lt_or_ge quotient (2 ^ 53) with small | large
    · exact small
    · have size : n < 2 ^ (Nat.log2 n + 1) := Nat.lt_log2_self
      have product : 2 ^ (Nat.log2 n - 52) * 2 ^ 53 ≤ 2 ^ (Nat.log2 n - 52) * quotient := Nat.mul_le_mul_left _ large
      rw [← same, ← Nat.pow_add] at product
      have power : 2 ^ (Nat.log2 n + 1) ≤ 2 ^ (Nat.log2 n - 52 + 53) := Nat.pow_le_pow_right (by decide) (by omega)
      omega
  · intro held
    obtain ⟨mantissa, exponent, small, same⟩ := held
    by_cases enough : Nat.log2 n - 52 ≤ exponent
    · have divides : 2 ^ (Nat.log2 n - 52) ∣ mantissa * 2 ^ exponent :=
        Nat.dvd_trans (Nat.pow_dvd_pow 2 enough) (Nat.dvd_mul_left _ mantissa)
      rwa [← same] at divides
    · exfalso
      have positive : n ≠ 0 := by
        intro zero
        rw [zero] at enough
        simp at enough
      have least : 2 ^ Nat.log2 n ≤ n := Nat.log2_self_le positive
      have product : n < 2 ^ 53 * 2 ^ exponent := by
        rw [same]
        exact Nat.mul_lt_mul_of_pos_right small (Nat.two_pow_pos exponent)
      rw [← Nat.pow_add] at product
      have power : 2 ^ (53 + exponent) ≤ 2 ^ Nat.log2 n := Nat.pow_le_pow_right (by decide) (by omega)
      omega

/-- An integer that `Number` reads at all is read as it is when a double holds it. -/
theorem numberOfBigInt_exact {i j : Int} (read : (numberOfBigInt i).toInt? = some j) : j = i ↔ Representable i := by
  have divides := unit_dvd_iff i.natAbs
  rw [← roundHalfEven_eq_iff] at divides
  unfold Representable
  rw [← divides]
  unfold numberOfBigInt at read
  dsimp only at read
  generalize roundHalfEven i.natAbs (2 ^ (Nat.log2 i.natAbs - 52)) = rounded at read ⊢
  split at read
  · by_cases negative : i < 0
    · rw [if_pos negative] at read
      have value : (Double.finite (-(rounded : Rat))).toInt? = some (-(rounded : Int)) := by
        have cast : (-(rounded : Rat)) = ((-(rounded : Int) : Int) : Rat) := by
          rw [Rat.intCast_neg]
          rfl
        rw [cast, Double.toInt?_intCast]
      have same : j = -(rounded : Int) := Option.some.inj (read.symm.trans value)
      omega
    · rw [if_neg negative] at read
      have value : (Double.finite (rounded : Rat)).toInt? = some (rounded : Int) := Double.toInt?_ofNat rounded
      have same : j = (rounded : Int) := Option.some.inj (read.symm.trans value)
      omega
  · cases read

/-- The integer that is read of a literal is the one that it writes when a double holds that. -/
theorem literal_exact [NearestNumberConversion] {text : JsString} (literal : IsIntegerLiteral text) {i : Int}
    (read : bigIntOfNumber (NumberConversion.number text) = some i) :
    i = writtenInteger text ↔ Representable (writtenInteger text) := by
  rcases NearestNumberConversion.nearest text literal with same | ⟨zero, same⟩
  · rw [same] at read
    exact numberOfBigInt_exact read
  · rw [same] at read
    cases read
    rw [zero]
    exact iff_of_true rfl ⟨0, 0, by decide, rfl⟩

/-- `Number` on integer literals. -/
@[reducible] def nearestIntegers : NearestNumberConversion where
  number text := if (signedDecimal? text).isSome then numberOfBigInt (writtenInteger text) else .nan
  nearest text literal := by
    obtain ⟨sign, integer, rfl, signed, valid⟩ := literal
    rw [signedDecimal?_literal signed valid]
    exact .inl (if_pos rfl)

end ECMA
