import Mathlib.Tactic.SplitIfs
import MirrorECMA.ECMA.Text

namespace ECMA

/-- A lone surrogate is encoded as U+FFFD. -/
def encodedChar (c : Nat) : Char := if valid : c.isValidChar then Char.ofNatAux c valid else '\uFFFD'

/-- `Buffer.from(s, "utf8")`. -/
def utf8Bytes (s : JsString) : List UInt8 := (codePoints s).flatMap fun c => String.utf8EncodeChar (encodedChar c)

theorem encodedChar_toNat {c : Nat} (scalar : isScalar c) : (encodedChar c).toNat = c := by
  have valid : c.isValidChar := scalar.imp_right fun range => range
  rw [encodedChar, dif_pos valid]
  rfl

theorem codePoints_isScalar {s : JsString} (valid : isWellFormed s = true) : ∀ c ∈ codePoints s, isScalar c := by
  have plainScalar {u : CodeUnit} (plain : isSurrogate u = false) : isScalar u.toNat := by
    have bound := u.isLt
    simp only [isSurrogate, Bool.and_eq_false_iff, decide_eq_false_iff_not] at plain
    unfold isScalar
    omega
  induction s using isWellFormed.induct with
  | case1 => simp [codePoints]
  | case2 u =>
    simp only [isWellFormed, Bool.not_eq_true'] at valid
    simpa [codePoints] using plainScalar valid
  | case3 u v rest surrogate ih =>
    simp only [isWellFormed, surrogate, ↓reduceIte, Bool.and_eq_true] at valid
    obtain ⟨⟨high, low⟩, tail⟩ := valid
    rw [codePoints_pair high low]
    refine List.forall_mem_cons.mpr ⟨?_, ih tail⟩
    simp only [isHighSurrogate, isLowSurrogate, Bool.and_eq_true, decide_eq_true_eq] at high low
    unfold isScalar pairScalar
    omega
  | case4 u v rest plain ih =>
    rw [Bool.not_eq_true] at plain
    simp only [isWellFormed, plain, Bool.false_eq_true, ↓reduceIte] at valid
    rw [codePoints_cons (not_surrogate plain).1]
    exact List.forall_mem_cons.mpr ⟨plainScalar plain, ih valid⟩

theorem utf8Encode_injective {cs ds : List Char}
    (same : cs.flatMap String.utf8EncodeChar = ds.flatMap String.utf8EncodeChar) : cs = ds := by
  refine String.ofList_injective (String.toByteArray_inj.mp ?_)
  rw [String.toByteArray_ofList, String.toByteArray_ofList, List.utf8Encode, same, List.utf8Encode]

theorem map_encodedChar {s : JsString} (valid : isWellFormed s = true) :
    ((codePoints s).map encodedChar).map Char.toNat = codePoints s := by
  rw [List.map_map]
  exact (List.map_congr_left fun c member => encodedChar_toNat (codePoints_isScalar valid c member)).trans
    (List.map_id _)

/-- Texts without lone surrogates are told apart by their bytes. -/
theorem utf8Bytes_injective {s t : JsString} (valid : isWellFormed s = true) (otherValid : isWellFormed t = true)
    (same : utf8Bytes s = utf8Bytes t) : s = t := by
  have chars : (codePoints s).map encodedChar = (codePoints t).map encodedChar := by
    refine utf8Encode_injective ?_
    rw [List.flatMap_map, List.flatMap_map]
    exact same
  refine codePoints_injective ?_
  rw [← map_encodedChar valid, chars, map_encodedChar otherValid]

theorem utf8Length_le (s : JsString) : utf8Length s ≤ 3 * s.length := by
  have narrow {c : Nat} (bound : c < 0x10000) : utf8Size c ≤ 3 := by unfold utf8Size; split_ifs <;> omega
  have wide (c : Nat) : utf8Size c ≤ 4 := by unfold utf8Size; split_ifs <;> omega
  unfold utf8Length
  induction s using codePoints.induct with
  | case1 => simp [codePoints]
  | case2 u => simpa [codePoints] using narrow u.isLt
  | case3 u v rest pair ih =>
    rw [Bool.and_eq_true] at pair
    rw [codePoints_pair pair.1 pair.2, List.map_cons, List.sum_cons]
    have size := wide (pairScalar u v)
    simp only [List.length_cons]
    omega
  | case4 u v rest unpaired ih =>
    simp only [codePoints, unpaired, Bool.false_eq_true, ↓reduceIte, List.map_cons, List.sum_cons]
    have size := narrow u.isLt
    simp only [List.length_cons] at ih ⊢
    omega

/-- The halves of a pair are shorter together. -/
theorem utf8Length_append_le (s t : JsString) : utf8Length (s ++ t) ≤ utf8Length s + utf8Length t := by
  have narrow {c : Nat} (bound : c < 0x10000) : utf8Size c ≤ 3 := by unfold utf8Size; split_ifs <;> omega
  have wide (c : Nat) : utf8Size c ≤ 4 := by unfold utf8Size; split_ifs <;> omega
  have surrogate {u : CodeUnit} (high : isSurrogate u = true) : utf8Size u.toNat = 3 := by
    simp only [isSurrogate, Bool.and_eq_true, decide_eq_true_eq] at high
    unfold utf8Size
    split_ifs <;> omega
  unfold utf8Length
  induction s using codePoints.induct with
  | case1 => simp [codePoints]
  | case2 u =>
    cases t with
    | nil => simp [codePoints]
    | cons v rest =>
      by_cases pair : (isHighSurrogate u && isLowSurrogate v) = true
      · have halves := Bool.and_eq_true_iff.mp pair
        have first := surrogate (high_surrogate halves.1)
        have second := surrogate (low_surrogate halves.2)
        have size := wide (pairScalar u v)
        have low : isHighSurrogate v = false := by
          cases high : isHighSurrogate v with
          | false => rfl
          | true =>
            rw [high_not_low high] at halves
            cases halves.2
        rw [List.singleton_append, codePoints_pair halves.1 halves.2, codePoints_cons low]
        simp only [codePoints, List.map_cons, List.map_nil, List.sum_cons, List.sum_nil]
        omega
      · simp only [codePoints, List.singleton_append, pair, Bool.false_eq_true, ↓reduceIte, List.map_cons, List.map_nil,
          List.sum_cons, List.sum_nil]
        omega
  | case3 u v rest pair ih =>
    rw [Bool.and_eq_true] at pair
    rw [List.cons_append, List.cons_append, codePoints_pair pair.1 pair.2, codePoints_pair pair.1 pair.2, List.map_cons,
      List.map_cons, List.sum_cons, List.sum_cons]
    omega
  | case4 u v rest unpaired ih =>
    simp only [List.cons_append, codePoints, unpaired, Bool.false_eq_true, ↓reduceIte, List.map_cons, List.sum_cons] at ih ⊢
    omega

/-! ### Well-formed texts are put together from well-formed parts -/

theorem isWellFormed_append {s t : JsString} (first : isWellFormed s = true) (second : isWellFormed t = true) :
    isWellFormed (s ++ t) = true := by
  induction s using isWellFormed.induct with
  | case1 => exact second
  | case2 u =>
    simp only [isWellFormed, Bool.not_eq_true'] at first
    cases t with
    | nil => simp [isWellFormed, first]
    | cons v rest => simpa [isWellFormed, first] using second
  | case3 u v rest surrogate ih =>
    simp only [isWellFormed, surrogate, ↓reduceIte, Bool.and_eq_true] at first
    simp only [List.cons_append, isWellFormed, surrogate, ↓reduceIte, first.1.1, first.1.2, ih first.2, Bool.and_self]
  | case4 u v rest plain ih =>
    rw [Bool.not_eq_true] at plain
    simp only [isWellFormed, plain, Bool.false_eq_true, ↓reduceIte] at first
    simpa only [List.cons_append, isWellFormed, plain, Bool.false_eq_true, ↓reduceIte] using ih first

theorem isWellFormed_plain {s : JsString} (plain : ∀ u ∈ s, isSurrogate u = false) : isWellFormed s = true := by
  induction s with
  | nil => rfl
  | cons u rest ih =>
    obtain ⟨unpaired, others⟩ := List.forall_mem_cons.mp plain
    exact isWellFormed_append (s := [u]) (by simp [isWellFormed, unpaired]) (ih others)

theorem isWellFormed_flatMap {α : Type} {xs : List α} {f : α → JsString}
    (each : ∀ x ∈ xs, isWellFormed (f x) = true) : isWellFormed (xs.flatMap f) = true := by
  induction xs with
  | nil => rfl
  | cons x rest ih =>
    obtain ⟨first, others⟩ := List.forall_mem_cons.mp each
    exact isWellFormed_append first (ih others)

/-- Writing the units one by one keeps a text well-formed when surrogates are left as they are. -/
theorem isWellFormed_units {f : CodeUnit → JsString} (plain : ∀ u, isSurrogate u = false → isWellFormed (f u) = true)
    (kept : ∀ u, isSurrogate u = true → f u = [u]) {s : JsString} (valid : isWellFormed s = true) :
    isWellFormed (s.flatMap f) = true := by
  induction s using isWellFormed.induct with
  | case1 => rfl
  | case2 u =>
    rw [isWellFormed, Bool.not_eq_true'] at valid
    rw [List.flatMap_singleton]
    exact plain u valid
  | case3 u v rest surrogate ih =>
    rw [isWellFormed, if_pos surrogate, Bool.and_eq_true, Bool.and_eq_true] at valid
    rw [List.flatMap_cons, List.flatMap_cons, kept u surrogate, kept v (low_surrogate valid.1.2)]
    refine isWellFormed_append (s := [u, v]) ?_ (ih valid.2)
    simp [isWellFormed, surrogate, valid.1]
  | case4 u v rest unpaired ih =>
    rw [Bool.not_eq_true] at unpaired
    rw [isWellFormed, if_neg (by rw [unpaired]; decide)] at valid
    rw [List.flatMap_cons]
    exact isWellFormed_append (plain u unpaired) (ih valid)

theorem isWellFormed_intercalate {separator : JsString} {texts : List JsString} (valid : isWellFormed separator = true)
    (each : ∀ text ∈ texts, isWellFormed text = true) : isWellFormed (separator.intercalate texts) = true := by
  induction texts with
  | nil => rfl
  | cons text rest ih =>
    obtain ⟨first, others⟩ := List.forall_mem_cons.mp each
    cases rest with
    | nil => rwa [List.intercalate_singleton]
    | cons next rest =>
      rw [List.intercalate_cons_cons]
      exact isWellFormed_append (isWellFormed_append first valid) (ih others)

theorem isWellFormed_fromCodePoint {c : Nat} (scalar : isScalar c) : isWellFormed (fromCodePoint c) = true := by
  rw [← List.append_nil (fromCodePoint c), isWellFormed_fromCodePoint_append scalar]
  rfl

theorem isWellFormed_decimal (n : Nat) : isWellFormed (decimal n) = true := by
  refine isWellFormed_plain fun u member => ?_
  have digit := decimal_isDigit n u member
  simp only [isDigit, isSurrogate, Bool.and_eq_true, Bool.and_eq_false_iff, decide_eq_true_eq,
    decide_eq_false_iff_not] at digit ⊢
  omega

end ECMA
