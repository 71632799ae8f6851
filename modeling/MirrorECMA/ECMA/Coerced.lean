import MirrorECMA.ECMA.Reading
import MirrorECMA.ECMA.Stringified

namespace ECMA

/-- `String` of a number: a numeric literal, or the name of a number that has none. -/
class NumberNotation extends NumberText where
  finite : ∀ d, d.isFinite = true → Grammar.IsNumber (text d)
  nan : text .nan = js "NaN"
  infinity : ∀ negative, text (.infinity negative) = js (if negative then "-Infinity" else "Infinity")

/-- `String` on the numbers that are integers. -/
@[reducible] def integerNotation : NumberNotation where
  text d := match d with
    | .nan => js "NaN"
    | .infinity negative => js (if negative then "-Infinity" else "Infinity")
    | d => (d.toInt?.map integerText).getD (js "0")
  finite d finite := by
    cases d with
    | nan => cases finite
    | infinity => cases finite
    | negativeZero => exact integerText_isNumber 0
    | finite value =>
      show Grammar.IsNumber (((Double.finite value).toInt?.map integerText).getD (js "0"))
      cases (Double.finite value).toInt? with
      | some i => exact integerText_isNumber i
      | none => exact Grammar.decimal_isNumber 0
  nan := rfl
  infinity _ := rfl

/-- A word starts with a small letter and names no value of the language. -/
def isWord (word : String) : Bool :=
  ((js word).head?.any fun u => 0x61 ≤ u.toNat && u.toNat ≤ 0x7A) && !decide (word ∈ ["null", "true", "false"])

theorem isWord_head {word : String} (valid : isWord word = true) :
    ∃ u rest, js word = u :: rest ∧ 0x61 ≤ u.toNat ∧ u.toNat ≤ 0x7A := by
  rw [isWord, Bool.and_eq_true] at valid
  cases shape : js word with
  | nil =>
    rw [shape] at valid
    cases valid.1
  | cons u rest =>
    have small := valid.1
    simp only [shape, List.head?_cons, Option.any_some, Bool.and_eq_true, decide_eq_true_eq] at small
    exact ⟨u, rest, rfl, small⟩

theorem isWord_ne {word name : String} (valid : isWord word = true) (among : name ∈ ["null", "true", "false"]) :
    js name ≠ js word := by
  intro same
  rw [isWord, Bool.and_eq_true, Bool.not_eq_true', decide_eq_false_iff_not] at valid
  exact valid.2 (js_inj.mp same ▸ among)

/-- A text that starts with another unit is no word. -/
theorem isWord_ne_cons {word : String} (valid : isWord word = true) {u : CodeUnit} {rest : JsString}
    (other : u.toNat < 0x61) : u :: rest ≠ js word := by
  intro same
  rcases isWord_head valid with ⟨v, tail, shape, lower, _⟩
  rw [shape] at same
  cases same
  omega

variable [NumberNotation]

theorem number_no_word {word : String} (valid : isWord word = true) (d : Double) : NumberText.text d ≠ js word := by
  cases shape : d.isFinite with
  | true =>
    rcases Grammar.number_head (NumberNotation.finite d shape) with ⟨u, rest, text, minus | digit⟩
    · rw [text, minus]
      exact isWord_ne_cons valid (by decide)
    · rw [text]
      apply isWord_ne_cons valid
      simp only [isDigit, Bool.and_eq_true, decide_eq_true_eq] at digit
      omega
  | false =>
    cases d with
    | nan =>
      rw [NumberNotation.nan]
      exact isWord_ne_cons valid (by decide)
    | infinity negative =>
      rw [NumberNotation.infinity]
      cases negative
      · exact isWord_ne_cons valid (by decide)
      · exact isWord_ne_cons valid (by decide)
    | negativeZero => cases shape
    | finite value => cases shape

/-- Only a string and an array can be coerced to a word. -/
theorem string_or_array {word : String} (valid : isWord word = true) {json : Json} (coerced : toText json = some (js word)) :
    json = .string (js word) ∨ ∃ items, json = .array items := by
  cases json with
  | null => exact absurd (Option.some.inj coerced) (isWord_ne valid (by decide))
  | bool b =>
    cases b
    · exact absurd (Option.some.inj coerced) (isWord_ne valid (by decide))
    · exact absurd (Option.some.inj coerced) (isWord_ne valid (by decide))
  | number d => exact absurd (Option.some.inj coerced) (number_no_word valid d)
  | string s => exact .inl (congrArg Json.string (Option.some.inj coerced))
  | array items => exact .inr ⟨items, rfl⟩
  | object fields =>
    rw [toText] at coerced
    split at coerced
    · cases coerced
    · exact absurd (Option.some.inj coerced) (isWord_ne_cons valid (by decide))

namespace Reading

variable {ε : Type} {typeError failure : ε}

omit [NumberNotation] in
theorem coerced_ok [NumberText] {members : List String} {value : Json} {done : Unit} :
    coerced typeError failure members value = .ok done ↔ ∃ m ∈ members, toText value = some (js m) := by
  unfold coerced
  split
  · rename_i none
    simp [none]
  · rename_i text found
    rw [check_ok, decide_eq_true_eq, List.mem_map]
    simp [found, eq_comm]

/-- What is coerced to one of the words is one of them, unless it is an array. -/
theorem coerced_words {members : List String} (words : ∀ m ∈ members, isWord m = true) {value : Json} {done : Unit}
    (read : coerced typeError failure members value = .ok done) :
    (∃ m ∈ members, value = .string (js m)) ↔ ∀ items, value ≠ .array items := by
  rcases coerced_ok.mp read with ⟨m, member, text⟩
  constructor
  · intro holds items same
    rcases holds with ⟨other, _, equal⟩
    rw [equal] at same
    cases same
  · intro noArray
    rcases string_or_array (words m member) text with shape | ⟨items, shape⟩
    · exact ⟨m, member, shape⟩
    · exact absurd shape (noArray items)

end Reading

end ECMA
