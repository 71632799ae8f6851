import MirrorECMA.ECMA.Json

namespace ECMA

/-- White space and line terminators, as `String.prototype.trim` removes them. -/
def isStrWhiteSpace (u : CodeUnit) : Bool :=
  [0x09, 0x0A, 0x0B, 0x0C, 0x0D, 0x20, 0xA0, 0x1680, 0x2028, 0x2029, 0x202F, 0x205F, 0x3000, 0xFEFF].contains u.toNat ||
    (0x2000 ≤ u.toNat && u.toNat ≤ 0x200A)

def trim (s : JsString) : JsString :=
  ((s.dropWhile isStrWhiteSpace).reverse.dropWhile isStrWhiteSpace).reverse

def digitValue? (radix : Nat) (u : CodeUnit) : Option Nat :=
  let value? : Option Nat :=
    if 0x30 ≤ u.toNat ∧ u.toNat ≤ 0x39 then some (u.toNat - 0x30)
    else if 0x41 ≤ u.toNat ∧ u.toNat ≤ 0x5A then some (u.toNat - 0x37)
    else if 0x61 ≤ u.toNat ∧ u.toNat ≤ 0x7A then some (u.toNat - 0x57)
    else none
  value?.bind fun value => if value < radix then some value else none

/-- One or more digits of the radix. -/
def digits? (radix : Nat) (s : JsString) : Option Nat :=
  if s = [] then none
  else s.foldl (fun total u => do return (← total) * radix + (← digitValue? radix u)) (some 0)

def signedDecimal? : JsString → Option Int
  | [] => none
  | u :: digits =>
    if u = 0x2D then (digits? 10 digits).map fun n : Nat => -(n : Int)
    else if u = 0x2B then (digits? 10 digits).map Int.ofNat
    else (digits? 10 (u :: digits)).map Int.ofNat

/-- `BigInt` of a string, with `none` for its `SyntaxError`. -/
def bigIntOfString (s : JsString) : Option Int :=
  match trim s with
  | [] => some 0
  | [u] => signedDecimal? [u]
  | u :: letter :: digits =>
    if u = 0x30 ∧ (letter = 0x78 ∨ letter = 0x58) then (digits? 16 digits).map Int.ofNat
    else if u = 0x30 ∧ (letter = 0x6F ∨ letter = 0x4F) then (digits? 8 digits).map Int.ofNat
    else if u = 0x30 ∧ (letter = 0x62 ∨ letter = 0x42) then (digits? 2 digits).map Int.ofNat
    else signedDecimal? (u :: letter :: digits)

/-- `BigInt` of a number, with `none` for its `RangeError`. -/
def bigIntOfNumber (d : Double) : Option Int := d.toInt?

/-- The nearest multiple, the even one of two. -/
def roundHalfEven (n unit : Nat) : Nat :=
  let quotient := n / unit
  let twice := 2 * (n % unit)
  if twice < unit ∨ twice = unit ∧ quotient % 2 = 0 then quotient * unit else (quotient + 1) * unit

/-- `Number` of a bigint. -/
def numberOfBigInt (i : Int) : Double :=
  let rounded := roundHalfEven i.natAbs (2 ^ (Nat.log2 i.natAbs - 52))
  if rounded < 2 ^ 1024 then .finite (if i < 0 then -(rounded : Rat) else rounded) else .infinity (i < 0)

theorem trim_eq {s : JsString} (tight : ∀ u ∈ s, isStrWhiteSpace u = false) : trim s = s := by
  have kept (t : JsString) (all : ∀ u ∈ t, isStrWhiteSpace u = false) : t.dropWhile isStrWhiteSpace = t := by
    cases t with
    | nil => rfl
    | cons u rest => rw [List.dropWhile_cons, all u List.mem_cons_self, if_neg Bool.false_ne_true]
  rw [trim, kept s tight, kept s.reverse fun u member => tight u (List.mem_reverse.mp member), List.reverse_reverse]

theorem digitValue?_digit {u : CodeUnit} (digit : isDigit u = true) : digitValue? 10 u = some (u.toNat - 0x30) := by
  simp only [isDigit, Bool.and_eq_true, decide_eq_true_eq] at digit
  have small : u.toNat - 0x30 < 10 := by omega
  simp only [digitValue?, digit.1, digit.2, and_self, ↓reduceIte, Option.bind_some, small]

theorem digits?_fold {s : JsString} (all : ∀ u ∈ s, isDigit u = true) (start : Nat) :
    s.foldl (fun total u => do return (← total) * 10 + (← digitValue? 10 u)) (some start) =
      some (s.foldl (fun n u => 10 * n + (u.toNat - 0x30)) start) := by
  induction s generalizing start with
  | nil => rfl
  | cons u rest ih =>
    have digit := digitValue?_digit (all u List.mem_cons_self)
    simp only [List.foldl_cons, digit, Option.bind_eq_bind, Option.bind_some, Option.pure_def]
    rw [Nat.mul_comm start 10]
    exact ih (fun v member => all v (List.mem_cons_of_mem u member)) _

theorem digits?_decimal (n : Nat) : digits? 10 (decimal n) = some n := by
  rw [digits?, if_neg (decimal_ne_nil n), digits?_fold (decimal_isDigit n)]
  exact congrArg some (decimalValue_decimal n)

theorem digit_plain {u : CodeUnit} (digit : isDigit u = true) :
    isStrWhiteSpace u = false ∧ u ≠ 0x2D ∧ u ≠ 0x2B ∧ ¬ (u = 0x78 ∨ u = 0x58) ∧ ¬ (u = 0x6F ∨ u = 0x4F) ∧
      ¬ (u = 0x62 ∨ u = 0x42) := by
  have apart : ∀ v : CodeUnit, isDigit v = false → u ≠ v := fun v other same => by
    rw [same, other] at digit
    cases digit
  refine ⟨?_, apart _ (by decide), apart _ (by decide), ?_, ?_, ?_⟩
  · simp only [isDigit, Bool.and_eq_true, decide_eq_true_eq] at digit
    simp only [isStrWhiteSpace, List.contains_eq_mem, List.mem_cons, List.not_mem_nil, or_false, Bool.or_eq_false_iff,
      decide_eq_false_iff_not, Bool.and_eq_false_iff]
    omega
  · rintro (same | same) <;> exact apart _ (by decide) same
  · rintro (same | same) <;> exact apart _ (by decide) same
  · rintro (same | same) <;> exact apart _ (by decide) same

theorem signedDecimal?_decimal (n : Nat) : signedDecimal? (decimal n) = some (n : Int) := by
  have text := digits?_decimal n
  cases shape : decimal n with
  | nil => exact absurd shape (decimal_ne_nil n)
  | cons u rest =>
    have plain := digit_plain (decimal_isDigit n u (shape ▸ List.mem_cons_self))
    rw [shape] at text
    rw [signedDecimal?, if_neg plain.2.1, if_neg plain.2.2.1, text]
    rfl

theorem signedDecimal?_integerText (i : Int) : signedDecimal? (integerText i) = some i := by
  unfold integerText
  split
  · rename_i negative
    rw [signedDecimal?, if_pos rfl, digits?_decimal, Option.map_some]
    congr 1
    omega
  · rename_i nonnegative
    rw [signedDecimal?_decimal]
    congr 1
    omega

/-- No integer is written with a radix prefix. -/
theorem integerText_second {i : Int} {u letter : CodeUnit} {rest : JsString}
    (shape : integerText i = u :: letter :: rest) : isDigit letter = true := by
  have digit := decimal_isDigit i.natAbs
  unfold integerText at shape
  split at shape
  · obtain ⟨-, digits⟩ := List.cons.inj shape
    exact digit letter (digits ▸ List.mem_cons_self)
  · exact digit letter (shape ▸ List.mem_cons_of_mem u List.mem_cons_self)

/-- Every bigint is read back from its decimal text. -/
theorem bigIntOfString_integerText (i : Int) : bigIntOfString (integerText i) = some i := by
  have digit := decimal_isDigit i.natAbs
  have tight : ∀ u ∈ integerText i, isStrWhiteSpace u = false := by
    intro u member
    unfold integerText at member
    split at member
    · rcases List.mem_cons.mp member with rfl | member
      · decide
      · exact (digit_plain (digit u member)).1
    · exact (digit_plain (digit u member)).1
  have signed := signedDecimal?_integerText i
  rw [bigIntOfString, trim_eq tight]
  split
  · rename_i empty
    rw [empty] at signed
    cases signed
  · rename_i u single
    rw [← single, signed]
  · rename_i u letter rest shape
    have plain := digit_plain (integerText_second shape)
    rw [if_neg (fun both => plain.2.2.2.1 both.2), if_neg (fun both => plain.2.2.2.2.1 both.2),
      if_neg (fun both => plain.2.2.2.2.2 both.2), ← shape, signed]

theorem integerText_injective : Function.Injective integerText := by
  intro first second same
  have read := bigIntOfString_integerText first
  rw [same, bigIntOfString_integerText] at read
  exact (Option.some.inj read).symm

end ECMA
