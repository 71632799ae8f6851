import MirrorECMA.ECMA.ScanExact
import MirrorECMA.Reproduction.Validate

namespace Mirror.Reproduction

open ECMA ECMA.Grammar
open ECMA.Reading (check_ok)

/-- The bounds on a text, and its distinct keys. -/
structure Bounded (written : Text) : Prop where
  depth : written.value.reach ≤ REPRODUCTION_MAX_DEPTH
  nodes : written.value.nodes ≤ REPRODUCTION_MAX_NODES
  keys : written.value.KeysDistinct
  sizes : written.value.Sized 256 4096
  strings : written.value.StringsFit (fun s bytes => utf8Length s ≤ bytes) bytesOf TEXT_BYTES TEXT_BYTES

theorem checkBytes_ok : (fun s bytes => scanRules.checkString s bytes = .ok ()) = fun s bytes => utf8Length s ≤ bytes := by
  funext s bytes
  rw [eq_iff_iff]
  show Reading.check _ (decide (utf8Length s ≤ bytes)) = .ok () ↔ _
  rw [check_ok, decide_eq_true_eq]

theorem admits_iff (written : Text) : Scan.Admits scanRules written ↔ Bounded written := by
  constructor
  · intro admits
    have strings := admits.strings
    rw [checkBytes_ok] at strings
    exact ⟨admits.shallow, admits.few, admits.distinct, admits.sized, strings⟩
  · intro bounded
    refine ⟨bounded.depth, bounded.nodes, bounded.keys, bounded.sizes, ?_⟩
    rw [checkBytes_ok]
    exact bounded.strings

variable [NumberConversion]

theorem preflightJson_render (written : Text) :
    preflightJson written.render = .ok () ↔ utf8Length written.render ≤ REPRODUCTION_MAX_BYTES ∧ Bounded written := by
  rw [preflightJson, bind_eq_ok, exists_unit, Scan.scan_render, admits_iff, check_ok, decide_eq_true_eq]

/-- The parser returns the tree of `JSON.parse`, and exactly for the texts within its bounds. -/
theorem parseBoundedJsonValue_exact [Platform] (text : JsString) (json : Json) :
    parseBoundedJsonValue (.text text) = .ok json ↔
      utf8Length text ≤ REPRODUCTION_MAX_BYTES ∧ jsonParse text = some json ∧
        ∀ written : Text, written.render = text → Bounded written := by
  rw [parseBoundedJsonValue, textValue, ok_bind, bind_eq_ok, exists_unit]
  constructor
  · rintro ⟨passed, read⟩
    split at read
    · rename_i parsed found
      cases read
      obtain ⟨written, rfl, _⟩ := jsonParse_iff.mp found
      obtain ⟨small, bounded⟩ := (preflightJson_render written).mp passed
      refine ⟨small, found, fun other same => ?_⟩
      rw [render_injective same]
      exact bounded
    · cases read
  · rintro ⟨small, found, bounded⟩
    obtain ⟨written, rfl, _⟩ := jsonParse_iff.mp found
    refine ⟨(preflightJson_render written).mpr ⟨small, bounded written rfl⟩, ?_⟩
    rw [found]
    rfl

/-- A key that is written in two ways is repeated. -/
example : letI := integerNumbers.toNumberConversion
    preflightJson (js "\x7b\"a\":0,\"\\u0061\":1\x7d") = .error (.bundle (js "bundle_duplicate_key") (js "duplicate key a")) := by
  decide +kernel

end Mirror.Reproduction
