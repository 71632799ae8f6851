import Mathlib.Algebra.Ring.Int.Defs
import MirrorECMA.DynamicBinding.SameMaps
import MirrorECMA.Protocol.HintText

namespace Mirror.DynamicBinding

open ECMA Mirror.Protocol
open Mirror.ModelInterface (ModelType)

section

variable [NearestRoundTrip]

/-- The two sides of a mismatch read differently, unless rounding and fields named `__proto__` alone tell them apart. -/
theorem renderDiffHint_apart {type : ModelType} {v w : Value} (typed : HasType type v) (other : HasType type w)
    {path : List PathSeg} {place : JsString} (placed : renderPath path = .ok place) :
    ∃ expected actual, renderDiffHint (.valueMismatch path v.toAny w.toAny) =
        .ok (js "at " ++ place ++ js ": expected " ++ expected ++ js ", got " ++ actual) ∧
      expected = renderHintValue v.toAny ∧ actual = renderHintValue w.toAny ∧
      ((¬ SameMaps v w → expected ≠ actual) ↔ (ShownAlike v w → SameMaps v w)) := by
  refine ⟨_, _, renderDiffHint_valueMismatch placed _ _, rfl, rfl, ?_⟩
  rw [← renderHintValue_eq_iff typed other]
  exact ⟨fun apart same => by_contra fun differ => apart differ same, fun alike differ same => differ (alike same)⟩

end

/-! ### Counts beyond the safe integers -/

def countPath : List PathSeg := [.field (js "count")]

theorem apart_counts : letI := nearestNumbers
    ∃ expected actual, renderDiffHint (.valueMismatch countPath (Value.int 2).toAny (Value.int 3).toAny) =
        .ok (js "at " ++ js "count" ++ js ": expected " ++ expected ++ js ", got " ++ actual) ∧
      expected = renderHintValue (Value.int 2).toAny ∧ actual = renderHintValue (Value.int 3).toAny ∧
      ((¬ SameMaps (.int 2) (.int 3) → expected ≠ actual) ↔ (ShownAlike (.int 2) (.int 3) → SameMaps (.int 2) (.int 3))) :=
  letI := nearestNumbers
  renderDiffHint_apart (.int 2) (.int 3) (by decide)

/-- Two integers that differ are shown as one number. -/
theorem rounded_counts : letI := nearestNumbers
    HasType (.scalar .int) (.int (2 ^ 53)) ∧ HasType (.scalar .int) (.int (2 ^ 53 + 1)) ∧
      ¬ SameMaps (.int (2 ^ 53)) (.int (2 ^ 53 + 1)) ∧
      renderHintValue (Value.int (2 ^ 53)).toAny = renderHintValue (Value.int (2 ^ 53 + 1)).toAny ∧
      renderDiffHint (.valueMismatch countPath (Value.int (2 ^ 53)).toAny (Value.int (2 ^ 53 + 1)).toAny) =
        .ok (js "at count: expected 9007199254740992, got 9007199254740992") := by
  let := nearestNumbers
  refine ⟨.int _, .int _, ?_, by decide +kernel, by decide +kernel⟩
  intro same
  cases same

end Mirror.DynamicBinding
