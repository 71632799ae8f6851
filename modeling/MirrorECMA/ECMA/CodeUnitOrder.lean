import Mathlib.Data.List.Lex
import MirrorECMA.ECMA.Json
import MirrorECMA.ECMA.Sort

namespace ECMA

/-- `left < right ? -1 : left > right ? 1 : 0`, and what `Array.prototype.sort` does without a comparator. -/
def compareCodeUnits (left right : JsString) : Int :=
  if left.map BitVec.toNat < right.map BitVec.toNat then -1
  else if right.map BitVec.toNat < left.map BitVec.toNat then 1 else 0

theorem compareCodeUnits_le {left right : JsString} :
    compareCodeUnits left right ≤ 0 ↔ left.map BitVec.toNat ≤ right.map BitVec.toNat := by
  unfold compareCodeUnits
  split
  · rename_i less
    simpa using less.le
  · rename_i notLess
    split
    · rename_i greater
      simpa using greater
    · rename_i notGreater
      simpa using not_lt.mp notGreater

theorem compareCodeUnits_consistent : Consistent compareCodeUnits where
  total left right := by
    rw [compareCodeUnits_le, compareCodeUnits_le]
    exact le_total _ _
  trans first second := by
    rw [compareCodeUnits_le] at first second ⊢
    exact first.trans second

theorem eq_of_compareCodeUnits {left right : JsString} (below : compareCodeUnits left right ≤ 0)
    (above : compareCodeUnits right left ≤ 0) : left = right := by
  rw [compareCodeUnits_le] at below above
  have units := le_antisymm below above
  exact (List.map_inj_right fun _ _ => BitVec.eq_of_toNat_eq).mp units

example : compareCodeUnits (js "ab") (js "b") = -1 := by decide

namespace Fields

/-- Properties in the order of their keys do not tell in which order they were. -/
theorem sort_eq_of_perm {α : Type} {xs ys : Fields α} (distinct : Distinct xs) (same : xs.Perm ys) :
    sort (fun a b => compareCodeUnits a.1 b.1) xs = sort (fun a b => compareCodeUnits a.1 b.1) ys := by
  apply ECMA.sort_eq_of_perm (compareCodeUnits_consistent.on Prod.fst) _ same
  intro first firstMember second secondMember below above
  exact List.inj_on_of_nodup_map distinct firstMember secondMember (eq_of_compareCodeUnits below above)

theorem distinct_of_pairs {α : Type} {pairs : List ((JsString × α) × (JsString × α))} {xs ys : Fields α}
    (names : ∀ p ∈ pairs, p.1.1 = p.2.1) (first : (pairs.map Prod.fst).Perm xs) (second : (pairs.map Prod.snd).Perm ys)
    (distinct : Distinct xs) : Distinct ys := by
  have same : (keys xs).Perm (keys ys) := images_perm first second names
  exact same.nodup_iff.mp distinct

end Fields

end ECMA
