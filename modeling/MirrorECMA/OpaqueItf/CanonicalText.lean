import MirrorECMA.ModelInterface.CanonicalText
import MirrorECMA.OpaqueItf.Snapshot

namespace Mirror.OpaqueItf

open ECMA Mirror.Protocol
open ECMA.Grammar (quoteJson_token)

/-! ### Canonical values and their texts -/

theorem CanonicalValue.sizeOf_item {items : List CanonicalValue} {item : CanonicalValue} (member : item ∈ items) :
    sizeOf item < sizeOf (CanonicalValue.array items) := by
  have smaller := List.sizeOf_lt_of_mem member
  simp only [CanonicalValue.array.sizeOf_spec]
  omega

@[elab_as_elim]
theorem CanonicalValue.items_induct {motive : CanonicalValue → Prop} (string : ∀ text, motive (.string text))
    (boolean : ∀ value, motive (.boolean value))
    (array : ∀ items, (∀ item ∈ items, motive item) → motive (.array items)) : ∀ value, motive value
  | .string text => string text
  | .boolean value => boolean value
  | .array items => array items fun item _ => items_induct string boolean array item
termination_by value => sizeOf value
decreasing_by exact CanonicalValue.sizeOf_item ‹_›

mutual

/-- The canonical value among the results of `JSON.parse`. -/
def readBack : Json → CanonicalValue
  | .string text => .string text
  | .bool value => .boolean value
  | .array items => .array (readBackItems items)
  | _ => .array []

def readBackItems : List Json → List CanonicalValue
  | [] => []
  | item :: rest => readBack item :: readBackItems rest

end

theorem readBackItems_eq (items : List Json) : readBackItems items = items.map readBack :=
  eq_map (by rw [readBackItems]) (fun item rest => by rw [readBackItems]) items

theorem stringifyItems_eq (items : List CanonicalValue) :
    CanonicalValue.stringifyItems items = items.map CanonicalValue.stringify :=
  eq_map (by rw [CanonicalValue.stringifyItems]) (fun item rest => by rw [CanonicalValue.stringifyItems]) items

section

variable [NumberConversion]

theorem exists_written {items : List CanonicalValue}
    (each : ∀ item ∈ items, ∃ value : Grammar.Value, value.render = item.stringify ∧ readBack value.eval = item) :
    ∃ values : List Grammar.Value, values.map Grammar.Value.render = items.map CanonicalValue.stringify ∧
      (values.map Grammar.Value.eval).map readBack = items := by
  induction items with
  | nil => exact ⟨[], rfl, rfl⟩
  | cons item rest ih =>
    rcases each item List.mem_cons_self with ⟨value, rendered, read⟩
    rcases ih fun other member => each other (List.mem_cons_of_mem _ member) with ⟨values, texts, reads⟩
    exact ⟨value :: values, by simp only [List.map_cons, rendered, texts], by simp only [List.map_cons, read, reads]⟩

theorem stringify_written (canonicalValue : CanonicalValue) : ∃ value : Grammar.Value,
    value.render = canonicalValue.stringify ∧ readBack value.eval = canonicalValue := by
  induction canonicalValue using CanonicalValue.items_induct with
  | string text =>
    rcases quoteJson_token text with ⟨token, rendered, decoded⟩
    refine ⟨.string token, ?_, ?_⟩
    · rw [Grammar.Value.render, rendered, CanonicalValue.stringify]
    · rw [Grammar.Value.eval, decoded, readBack]
  | boolean value =>
    cases value with
    | true => exact ⟨.true, by simp [Grammar.Value.render, CanonicalValue.stringify], by simp [Grammar.Value.eval, readBack]⟩
    | false => exact ⟨.false, by simp [Grammar.Value.render, CanonicalValue.stringify], by simp [Grammar.Value.eval, readBack]⟩
  | array items ih =>
    rcases exists_written ih with ⟨values, texts, reads⟩
    refine ⟨.compactArray values, ?_, ?_⟩
    · rw [Grammar.Value.compactArray_render, texts, CanonicalValue.stringify, stringifyItems_eq]
      rfl
    · rw [Grammar.Value.compactArray_eval, readBack, readBackItems_eq, reads]

end

/-- No two canonical values have one text. -/
theorem stringify_injective : Function.Injective CanonicalValue.stringify := by
  intro first second same
  let _ : NumberConversion := ⟨fun _ => .nan⟩
  rcases stringify_written first with ⟨value, rendered, read⟩
  rcases stringify_written second with ⟨other, otherRendered, otherRead⟩
  have written : value = other := Grammar.Value.render_injective (by rw [rendered, otherRendered, same])
  rw [← read, ← otherRead, written]

end Mirror.OpaqueItf
