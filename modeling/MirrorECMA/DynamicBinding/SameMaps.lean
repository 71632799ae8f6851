import MirrorECMA.DynamicBinding.Codec
import MirrorECMA.OpaqueItf.Identity

namespace Mirror.DynamicBinding

open ECMA Mirror.Protocol Mirror.OpaqueItf

/-- Equal with records compared as finite maps, and everything else in its order. -/
inductive SameMaps : Value → Value → Prop
  | refl (value : Value) : SameMaps value value
  | set {pairs : List (Value × Value)} : (∀ p ∈ pairs, SameMaps p.1 p.2) →
    SameMaps (.set (pairs.map Prod.fst)) (.set (pairs.map Prod.snd))
  | seq {pairs : List (Value × Value)} : (∀ p ∈ pairs, SameMaps p.1 p.2) →
    SameMaps (.seq (pairs.map Prod.fst)) (.seq (pairs.map Prod.snd))
  | tuple {pairs : List (Value × Value)} : (∀ p ∈ pairs, SameMaps p.1 p.2) →
    SameMaps (.tuple (pairs.map Prod.fst)) (.tuple (pairs.map Prod.snd))
  | record {pairs : List ((JsString × Value) × (JsString × Value))} {xs ys : List (JsString × Value)} :
    (∀ p ∈ pairs, p.1.1 = p.2.1) → (∀ p ∈ pairs, SameMaps p.1.2 p.2.2) → (pairs.map Prod.fst).Perm xs →
    (pairs.map Prod.snd).Perm ys → SameMaps (.record xs) (.record ys)
  | map {pairs : List ((Value × Value) × (Value × Value))} : (∀ p ∈ pairs, SameMaps p.1.1 p.2.1) →
    (∀ p ∈ pairs, SameMaps p.1.2 p.2.2) → SameMaps (.map (pairs.map Prod.fst)) (.map (pairs.map Prod.snd))
  | variant (tag : JsString) {value other : Value} : SameMaps value other →
    SameMaps (.variant tag value) (.variant tag other)

theorem equal_refl (value : Value) : Equal value value := equal_of_canonical rfl

theorem equal_of_sameMaps {value other : Value} (same : SameMaps value other) : Equal value other := by
  induction same with
  | refl value => exact equal_refl value
  | set each ih => exact .set ih (List.Perm.refl _) (List.Perm.refl _)
  | seq each ih => exact .seq ih
  | tuple each ih => exact .tuple ih
  | record names each first second ih => exact .record names ih first second
  | map keys values ihKeys ih => exact .map ihKeys ih (List.Perm.refl _) (List.Perm.refl _)
  | variant tag same ih => exact .variant tag ih

theorem identity_of_sameMaps {value other : Value} (same : SameMaps value other)
    (distinct : value.EveryRecord Fields.Distinct) : identity value = identity other :=
  (identity_iff distinct).mpr (equal_of_sameMaps same)

/-- A rearrangement of record fields is as large as the value, and fits where it does. -/
theorem sameMaps_keeps {value other : Value} (same : SameMaps value other) (distinct : value.EveryRecord Fields.Distinct) :
    other.EveryRecord Fields.Distinct ∧ nodes other = nodes value ∧ ∀ levels, Fits levels value → Fits levels other := by
  induction same with
  | refl value => exact ⟨distinct, rfl, fun _ => id⟩
  | @set pairs each ih =>
    rw [Value.everyRecord_set, List.forall_mem_map] at distinct
    have keeps := fun p member => ih p member (distinct p member)
    refine ⟨Value.everyRecord_set.mpr (List.forall_mem_map.mpr fun p member => (keeps p member).1), ?_, ?_⟩
    · simp only [nodes, nodesOf_eq, images_eq fun p member => (keeps p member).2.1.symm]
    · intro levels fits
      cases fits with
      | set all apart =>
        rw [images_eq fun p member => identity_of_sameMaps (each p member) (distinct p member)] at apart
        exact .set (List.forall_mem_map.mpr fun p member => (keeps p member).2.2 _ (List.forall_mem_map.mp all p member)) apart
  | @seq pairs each ih =>
    rw [Value.everyRecord_seq, List.forall_mem_map] at distinct
    have keeps := fun p member => ih p member (distinct p member)
    refine ⟨Value.everyRecord_seq.mpr (List.forall_mem_map.mpr fun p member => (keeps p member).1), ?_, ?_⟩
    · simp only [nodes, nodesOf_eq, images_eq fun p member => (keeps p member).2.1.symm]
    · intro levels fits
      cases fits with
      | seq all => exact .seq (List.forall_mem_map.mpr fun p member => (keeps p member).2.2 _ (List.forall_mem_map.mp all p member))
  | @tuple pairs each ih =>
    rw [Value.everyRecord_tuple, List.forall_mem_map] at distinct
    have keeps := fun p member => ih p member (distinct p member)
    refine ⟨Value.everyRecord_tuple.mpr (List.forall_mem_map.mpr fun p member => (keeps p member).1), ?_, ?_⟩
    · simp only [nodes, nodesOf_eq, images_eq fun p member => (keeps p member).2.1.symm]
    · intro levels fits
      cases fits with
      | tuple all =>
        exact .tuple (List.forall_mem_map.mpr fun p member => (keeps p member).2.2 _ (List.forall_mem_map.mp all p member))
  | @record pairs xs ys names each first second ih =>
    rw [Value.everyRecord_record] at distinct
    have keeps := fun p member => ih p member (distinct.2 p.1 (mem_of_pairs first member))
    have reached {field : JsString × Value} (member : field ∈ ys) : ∃ p ∈ pairs, p.2 = field :=
      List.mem_map.mp (second.mem_iff.mpr member)
    refine ⟨Value.everyRecord_record.mpr ⟨Fields.distinct_of_pairs names first second distinct.1, ?_⟩, ?_, ?_⟩
    · intro field member
      rcases reached member with ⟨p, inside, rfl⟩
      exact (keeps p inside).1
    · have sums : (xs.map fun field => nodes field.2).Perm (ys.map fun field => nodes field.2) :=
        images_perm first second fun p member => (keeps p member).2.1.symm
      simp only [nodes, nodesOfFields_eq, sums.sum_nat]
    · intro levels fits
      cases fits with
      | record all =>
        refine .record fun field member => ?_
        rcases reached member with ⟨p, inside, rfl⟩
        exact (keeps p inside).2.2 _ (all p.1 (mem_of_pairs first inside))
  | @map pairs keys values ihKeys ih =>
    rw [Value.everyRecord_map, List.forall_mem_map] at distinct
    have keepsKey := fun p member => ihKeys p member (distinct p member).1
    have keeps := fun p member => ih p member (distinct p member).2
    refine ⟨Value.everyRecord_map.mpr (List.forall_mem_map.mpr fun p member => ⟨(keepsKey p member).1, (keeps p member).1⟩),
      ?_, ?_⟩
    · have images : (pairs.map Prod.fst).map (fun entry => nodes entry.1 + nodes entry.2) =
          (pairs.map Prod.snd).map fun entry => nodes entry.1 + nodes entry.2 := by
        apply images_eq
        intro p member
        rw [(keepsKey p member).2.1, (keeps p member).2.1]
      simp only [nodes, nodesOfEntries_eq, images]
    · intro levels fits
      cases fits with
      | map allKeys allValues apart =>
        have images : (pairs.map Prod.fst).map (fun entry => identity entry.1) =
            (pairs.map Prod.snd).map fun entry => identity entry.1 :=
          images_eq fun p member => identity_of_sameMaps (keys p member) (distinct p member).1
        rw [images] at apart
        exact .map (List.forall_mem_map.mpr fun p member => (keepsKey p member).2.2 _ (List.forall_mem_map.mp allKeys p member))
          (List.forall_mem_map.mpr fun p member => (keeps p member).2.2 _ (List.forall_mem_map.mp allValues p member)) apart
  | variant tag same ih =>
    rw [Value.everyRecord_variant] at distinct
    rcases ih distinct with ⟨objects, size, fits⟩
    refine ⟨Value.everyRecord_variant.mpr objects, by simp only [nodes, size], ?_⟩
    intro levels within
    cases within with
    | variant within => exact .variant (fits _ within)

theorem valueIdentity_of_sameMaps {value other : Value} (same : SameMaps value other)
    (distinct : value.EveryRecord Fields.Distinct) {key : JsString} (accepted : valueIdentity value = .ok key) :
    valueIdentity other = .ok key := by
  rw [valueIdentity, itfValueIdentity, fmap_eq_ok] at accepted ⊢
  rcases accepted with ⟨snapshot, taken, rfl⟩
  rcases (snapshot_foreign distinct).mp taken with ⟨rfl, fits, small⟩
  rcases sameMaps_keeps same distinct with ⟨objects, size, keeps⟩
  exact ⟨other, (snapshot_foreign objects).mpr ⟨rfl, keeps _ fits, size ▸ small⟩, (identity_of_sameMaps same distinct).symm⟩

end Mirror.DynamicBinding
