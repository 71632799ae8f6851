import Mathlib.Algebra.GroupWithZero.Nat

namespace ECMA

/-- A JavaScript string is any sequence of UTF-16 code units, paired or not. -/
abbrev CodeUnit := BitVec 16

abbrev JsString := List CodeUnit

instance : LawfulBEq CodeUnit := inferInstance

instance : LawfulBEq JsString := inferInstance

instance : LawfulBEq (JsString × JsString) := inferInstance

def isHighSurrogate (u : CodeUnit) : Bool := 0xD800 ≤ u.toNat && u.toNat ≤ 0xDBFF

def isLowSurrogate (u : CodeUnit) : Bool := 0xDC00 ≤ u.toNat && u.toNat ≤ 0xDFFF

def isSurrogate (u : CodeUnit) : Bool := 0xD800 ≤ u.toNat && u.toNat ≤ 0xDFFF

theorem high_or_low {u : CodeUnit} (surrogate : isSurrogate u = true) :
    isHighSurrogate u = true ∨ isLowSurrogate u = true := by
  simp only [isSurrogate, isHighSurrogate, isLowSurrogate, Bool.and_eq_true, decide_eq_true_eq] at *
  omega

theorem high_not_low {u : CodeUnit} (high : isHighSurrogate u = true) : isLowSurrogate u = false := by
  simp only [isHighSurrogate, isLowSurrogate, Bool.and_eq_true, decide_eq_true_eq,
    Bool.and_eq_false_iff, decide_eq_false_iff_not] at *
  omega

theorem low_not_high {u : CodeUnit} (low : isLowSurrogate u = true) : isHighSurrogate u = false := by
  cases high : isHighSurrogate u with
  | false => rfl
  | true => rw [high_not_low high] at low; cases low

theorem high_surrogate {u : CodeUnit} (high : isHighSurrogate u = true) : isSurrogate u = true := by
  simp only [isHighSurrogate, isSurrogate, Bool.and_eq_true, decide_eq_true_eq] at *
  omega

theorem low_surrogate {u : CodeUnit} (low : isLowSurrogate u = true) : isSurrogate u = true := by
  simp only [isLowSurrogate, isSurrogate, Bool.and_eq_true, decide_eq_true_eq] at *
  omega

theorem not_surrogate {u : CodeUnit} (plain : isSurrogate u = false) :
    isHighSurrogate u = false ∧ isLowSurrogate u = false := by
  refine ⟨?_, ?_⟩
  · cases high : isHighSurrogate u
    · rfl
    · rw [high_surrogate high] at plain; cases plain
  · cases low : isLowSurrogate u
    · rfl
    · rw [low_surrogate low] at plain; cases plain

/-- The scalar a surrogate pair stands for. -/
def pairScalar (high low : CodeUnit) : Nat :=
  0x10000 + (high.toNat - 0xD800) * 0x400 + (low.toNat - 0xDC00)

/-- `Array.from(s, c => c.codePointAt(0))`: a lone surrogate is its own code point. -/
def codePoints : JsString → List Nat
  | [] => []
  | [u] => [u.toNat]
  | u :: v :: rest =>
    if isHighSurrogate u && isLowSurrogate v then pairScalar u v :: codePoints rest
    else u.toNat :: codePoints (v :: rest)

/-- `String.fromCodePoint` of one code point. -/
def fromCodePoint (c : Nat) : JsString :=
  if c < 0x10000 then [BitVec.ofNat 16 c]
  else [BitVec.ofNat 16 (0xD800 + (c - 0x10000) / 0x400), BitVec.ofNat 16 (0xDC00 + (c - 0x10000) % 0x400)]

theorem fromCodePoint_unit (u : CodeUnit) : fromCodePoint u.toNat = [u] := by
  have bound := u.isLt
  simp only [fromCodePoint, show u.toNat < 0x10000 by omega, ↓reduceIte, BitVec.ofNat_toNat,
    BitVec.setWidth_eq]

theorem fromCodePoint_pair {high low : CodeUnit} (isHigh : isHighSurrogate high = true)
    (isLow : isLowSurrogate low = true) : fromCodePoint (pairScalar high low) = [high, low] := by
  simp only [isHighSurrogate, isLowSurrogate, Bool.and_eq_true, decide_eq_true_eq] at isHigh isLow
  have wide : ¬ pairScalar high low < 0x10000 := by unfold pairScalar; omega
  have first : 0xD800 + (pairScalar high low - 0x10000) / 0x400 = high.toNat := by
    unfold pairScalar; omega
  have second : 0xDC00 + (pairScalar high low - 0x10000) % 0x400 = low.toNat := by
    unfold pairScalar; omega
  simp only [fromCodePoint, wide, ↓reduceIte, first, second, BitVec.ofNat_toNat, BitVec.setWidth_eq]

theorem fromCodePoint_codePoints (s : JsString) : (codePoints s).flatMap fromCodePoint = s := by
  induction s using codePoints.induct with
  | case1 => rfl
  | case2 u => simp [codePoints, fromCodePoint_unit]
  | case3 u v rest pair ih =>
    rw [Bool.and_eq_true] at pair
    simp [codePoints, pair.1, pair.2, fromCodePoint_pair pair.1 pair.2, ih]
  | case4 u v rest unpaired ih =>
    simp only [codePoints, unpaired, Bool.false_eq_true, ↓reduceIte, List.flatMap_cons,
      fromCodePoint_unit, ih, List.singleton_append]

/-- No two strings share their code points, unpaired surrogates included. -/
theorem codePoints_injective : Function.Injective codePoints := by
  intro s t same
  rw [← fromCodePoint_codePoints s, same, fromCodePoint_codePoints]

/-- A lone surrogate is written as U+FFFD, three bytes as well. -/
def utf8Size (c : Nat) : Nat :=
  if c < 0x80 then 1 else if c < 0x800 then 2 else if c < 0x10000 then 3 else 4

/-- `Buffer.byteLength(s, "utf8")`. -/
def utf8Length (s : JsString) : Nat := ((codePoints s).map utf8Size).sum

/-- `String.prototype.isWellFormed`: every surrogate is half of a pair. -/
def isWellFormed : JsString → Bool
  | [] => true
  | [u] => !isSurrogate u
  | u :: v :: rest =>
    if isSurrogate u then isHighSurrogate u && isLowSurrogate v && isWellFormed rest
    else isWellFormed (v :: rest)

def utf16 (c : Char) : JsString := fromCodePoint c.toNat

/-- A source literal as a JavaScript string. -/
def js (s : String) : JsString := s.toList.flatMap utf16

theorem codePoints_cons {u : CodeUnit} (plain : isHighSurrogate u = false) (s : JsString) :
    codePoints (u :: s) = u.toNat :: codePoints s := by
  cases s with
  | nil => rfl
  | cons v rest => simp only [codePoints, plain, Bool.false_and, Bool.false_eq_true, ↓reduceIte]

theorem codePoints_pair {u v : CodeUnit} (high : isHighSurrogate u = true) (low : isLowSurrogate v = true)
    (s : JsString) : codePoints (u :: v :: s) = pairScalar u v :: codePoints s := by
  simp only [codePoints, high, low, Bool.and_self, ↓reduceIte]

def isScalar (c : Nat) : Prop := c < 0xD800 ∨ (0xDFFF < c ∧ c < 0x110000)

theorem pairScalar_eq {high low : CodeUnit} {quotient remainder : Nat}
    (first : high.toNat = 0xD800 + quotient) (second : low.toNat = 0xDC00 + remainder) :
    pairScalar high low = 0x10000 + quotient * 0x400 + remainder := by
  unfold pairScalar
  omega

/-- A scalar is one unit that is no surrogate, or a pair. -/
theorem fromCodePoint_cases {c : Nat} (scalar : isScalar c) :
    (∃ u : CodeUnit, fromCodePoint c = [u] ∧ u.toNat = c ∧ isSurrogate u = false) ∨
      ∃ high low : CodeUnit, fromCodePoint c = [high, low] ∧ pairScalar high low = c ∧ isHighSurrogate high = true ∧
        isLowSurrogate low = true := by
  unfold isScalar at scalar
  by_cases narrow : c < 0x10000
  · have value : (BitVec.ofNat 16 c).toNat = c := by simp only [BitVec.toNat_ofNat]; omega
    refine .inl ⟨BitVec.ofNat 16 c, by rw [fromCodePoint, if_pos narrow], value, ?_⟩
    simp only [isSurrogate, value, Bool.and_eq_false_iff, decide_eq_false_iff_not]
    omega
  · have first : (BitVec.ofNat 16 (0xD800 + (c - 0x10000) / 0x400)).toNat = 0xD800 + (c - 0x10000) / 0x400 := by
      simp only [BitVec.toNat_ofNat]; omega
    have second : (BitVec.ofNat 16 (0xDC00 + (c - 0x10000) % 0x400)).toNat = 0xDC00 + (c - 0x10000) % 0x400 := by
      simp only [BitVec.toNat_ofNat]; omega
    refine .inr ⟨_, _, by rw [fromCodePoint, if_neg narrow], ?_, ?_, ?_⟩
    · have division := Nat.div_add_mod (c - 0x10000) 0x400
      rw [pairScalar_eq first second]
      omega
    · simp only [isHighSurrogate, first, Bool.and_eq_true, decide_eq_true_eq]; omega
    · simp only [isLowSurrogate, second, Bool.and_eq_true, decide_eq_true_eq]; omega

theorem codePoints_fromCodePoint_append {c : Nat} (scalar : isScalar c) (s : JsString) :
    codePoints (fromCodePoint c ++ s) = c :: codePoints s := by
  rcases fromCodePoint_cases scalar with ⟨u, units, value, plain⟩ | ⟨high, low, units, value, isHigh, isLow⟩
  · rw [units, List.singleton_append, codePoints_cons (not_surrogate plain).1, value]
  · rw [units, List.cons_append, List.singleton_append, codePoints_pair isHigh isLow, value]

theorem isWellFormed_fromCodePoint_append {c : Nat} (scalar : isScalar c) (s : JsString) :
    isWellFormed (fromCodePoint c ++ s) = isWellFormed s := by
  rcases fromCodePoint_cases scalar with ⟨u, units, -, plain⟩ | ⟨high, low, units, -, isHigh, isLow⟩
  · rw [units, List.singleton_append]
    cases s with
    | nil => simp [isWellFormed, plain]
    | cons v rest => simp [isWellFormed, plain]
  · simp [units, isWellFormed, high_surrogate isHigh, isHigh, isLow]

theorem char_isScalar (c : Char) : isScalar c.toNat := by
  rcases c.valid with low | high
  · exact .inl low
  · exact .inr high

theorem codePoints_js (s : String) : codePoints (js s) = s.toList.map Char.toNat := by
  unfold js
  induction s.toList with
  | nil => rfl
  | cons c rest ih =>
    rw [List.flatMap_cons, utf16, codePoints_fromCodePoint_append (char_isScalar c), ih, List.map_cons]

theorem isWellFormed_js (s : String) : isWellFormed (js s) = true := by
  unfold js
  induction s.toList with
  | nil => rfl
  | cons c rest ih => rw [List.flatMap_cons, utf16, isWellFormed_fromCodePoint_append (char_isScalar c), ih]

/-- Source literals are told apart by their text. -/
@[simp] theorem js_inj {s t : String} : js s = js t ↔ s = t := by
  refine ⟨fun same => ?_, fun same => by rw [same]⟩
  have points := congrArg codePoints same
  rw [codePoints_js, codePoints_js] at points
  exact String.toList_inj.mp ((List.map_inj_right fun _ _ => Char.toNat_inj.mp).mp points)

/-- A `switch` on a string, with its cases in order. -/
def switch {α : Type} (value : JsString) (cases : List (String × α)) (otherwise : α) : α :=
  match cases with
  | [] => otherwise
  | (label, result) :: rest => if value = js label then result else switch value rest otherwise

theorem switch_eq {α : Type} {value : JsString} {cases : List (String × α)} {otherwise result : α}
    (taken : switch value cases otherwise = result) :
    (∃ case ∈ cases, value = js case.1 ∧ case.2 = result) ∨
      ((∀ case ∈ cases, value ≠ js case.1) ∧ otherwise = result) := by
  induction cases with
  | nil => exact .inr ⟨by simp, taken⟩
  | cons case rest ih =>
    by_cases hit : value = js case.1
    · rw [switch, if_pos hit] at taken
      exact .inl ⟨case, List.mem_cons_self, hit, taken⟩
    · rw [switch, if_neg hit] at taken
      rcases ih taken with ⟨found, member, same, result⟩ | ⟨none, result⟩
      · exact .inl ⟨found, List.mem_cons_of_mem _ member, same, result⟩
      · exact .inr ⟨List.forall_mem_cons.mpr ⟨hit, none⟩, result⟩

/-! ### Decimal integers -/

def isDigit (u : CodeUnit) : Bool := 0x30 ≤ u.toNat && u.toNat ≤ 0x39

def unit (c : Char) : CodeUnit := BitVec.ofNat 16 c.toNat

/-- `String(n)` of a nonnegative integer. -/
def decimal (n : Nat) : JsString := (Nat.toDigits 10 n).map unit

/-- The number a run of digits denotes. -/
def decimalValue (s : JsString) : Nat := s.foldl (fun n u => 10 * n + (u.toNat - 0x30)) 0

theorem digitChar_unit {d : Nat} (small : d < 10) : (unit d.digitChar).toNat = 0x30 + d := by
  have cases : d = 0 ∨ d = 1 ∨ d = 2 ∨ d = 3 ∨ d = 4 ∨ d = 5 ∨ d = 6 ∨ d = 7 ∨ d = 8 ∨ d = 9 := by omega
  rcases cases with rfl | rfl | rfl | rfl | rfl | rfl | rfl | rfl | rfl | rfl <;> decide

theorem decimal_small {n : Nat} (small : n < 10) : decimal n = [unit n.digitChar] := by
  rw [decimal, Nat.toDigits_of_lt_base small, List.map_singleton]

theorem decimal_step {n : Nat} (large : 10 ≤ n) :
    decimal n = decimal (n / 10) ++ [unit (n % 10).digitChar] := by
  rw [decimal, Nat.toDigits_of_base_le (by decide) large, List.map_append, List.map_singleton, decimal]

theorem decimal_ne_nil (n : Nat) : decimal n ≠ [] := by
  simp [decimal, Nat.toDigits_ne_nil]

theorem decimal_isDigit (n : Nat) : ∀ u ∈ decimal n, isDigit u = true := by
  induction n using Nat.strongRecOn with
  | ind n ih =>
    have digit (d : Nat) (small : d < 10) : isDigit (unit d.digitChar) = true := by
      simp only [isDigit, digitChar_unit small, Bool.and_eq_true, decide_eq_true_eq]
      omega
    by_cases small : n < 10
    · rw [decimal_small small]
      simpa using digit n small
    · rw [decimal_step (by omega)]
      intro u member
      rcases List.mem_append.mp member with member | member
      · exact ih (n / 10) (by omega) u member
      · rw [List.mem_singleton.mp member]
        exact digit (n % 10) (by omega)

theorem decimalValue_decimal (n : Nat) : decimalValue (decimal n) = n := by
  induction n using Nat.strongRecOn with
  | ind n ih =>
    by_cases small : n < 10
    · simp only [decimal_small small, decimalValue, List.foldl_cons, List.foldl_nil, digitChar_unit small]
      omega
    · have quotient := ih (n / 10) (by omega)
      unfold decimalValue at quotient
      rw [decimal_step (by omega), decimalValue, List.foldl_append, quotient]
      simp only [List.foldl_cons, List.foldl_nil, digitChar_unit (show n % 10 < 10 by omega)]
      omega

theorem decimal_injective : Function.Injective decimal := fun m n same => by
  rw [← decimalValue_decimal m, same, decimalValue_decimal]

/-- Only zero is written with a leading zero. -/
theorem decimal_head {n : Nat} (positive : 0 < n) :
    ∃ u rest, decimal n = u :: rest ∧ 0x31 ≤ u.toNat ∧ u.toNat ≤ 0x39 := by
  induction n using Nat.strongRecOn with
  | ind n ih =>
    by_cases small : n < 10
    · refine ⟨_, [], decimal_small small, ?_, ?_⟩ <;> rw [digitChar_unit small] <;> omega
    · obtain ⟨u, rest, text, lower, upper⟩ := ih (n / 10) (by omega) (by omega)
      exact ⟨u, rest ++ [unit (n % 10).digitChar], by rw [decimal_step (by omega), text]; rfl, lower, upper⟩

/-- `String(i)` of a bigint. -/
def integerText (i : Int) : JsString :=
  if i < 0 then 0x2D :: decimal i.natAbs else decimal i.natAbs

example : integerText (-120) = js "-120" := by decide

end ECMA
