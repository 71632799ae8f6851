import Mathlib.Data.List.ProdSigma
import MirrorECMA.ECMA.BigInt
import MirrorECMA.Schedule.StateTree

namespace Mirror.Schedule

open ECMA ECMA.Json Mirror.Protocol

/-! ### Equal values -/

/-- Sets as sets, maps up to the order of their entries, and records up to a rearrangement of their fields. -/
inductive Same (rearranged : List (JsString × Value) → List (JsString × Value) → Prop) : Value → Value → Prop
  | int (i : Int) : Same rearranged (.int i) (.int i)
  | bool (b : Bool) : Same rearranged (.bool b) (.bool b)
  | str (s : JsString) : Same rearranged (.str s) (.str s)
  | unserializable (s : JsString) : Same rearranged (.unserializable s) (.unserializable s)
  | null : Same rearranged .null .null
  | variant (tag : JsString) {v w : Value} (inner : Same rearranged v w) : Same rearranged (.variant tag v) (.variant tag w)
  | seq {pairs : List (Value × Value)} (each : ∀ p ∈ pairs, Same rearranged p.1 p.2) :
    Same rearranged (.seq (pairs.map Prod.fst)) (.seq (pairs.map Prod.snd))
  | tuple {pairs : List (Value × Value)} (each : ∀ p ∈ pairs, Same rearranged p.1 p.2) :
    Same rearranged (.tuple (pairs.map Prod.fst)) (.tuple (pairs.map Prod.snd))
  | set {pairs : List (Value × Value)} {vs ws : List Value} (each : ∀ p ∈ pairs, Same rearranged p.1 p.2)
    (first : ∀ v, v ∈ vs ↔ v ∈ pairs.map Prod.fst) (second : ∀ w, w ∈ ws ↔ w ∈ pairs.map Prod.snd) :
    Same rearranged (.set vs) (.set ws)
  | record {pairs : List ((JsString × Value) × (JsString × Value))} {fields others : List (JsString × Value)}
    (names : ∀ p ∈ pairs, p.1.1 = p.2.1) (values : ∀ p ∈ pairs, Same rearranged p.1.2 p.2.2)
    (first : rearranged (pairs.map Prod.fst) fields) (second : rearranged (pairs.map Prod.snd) others) :
    Same rearranged (.record fields) (.record others)
  | map {pairs : List ((Value × Value) × (Value × Value))} {entries others : List (Value × Value)}
    (keys : ∀ p ∈ pairs, Same rearranged p.1.1 p.2.1) (values : ∀ p ∈ pairs, Same rearranged p.1.2 p.2.2)
    (first : (pairs.map Prod.fst).Perm entries) (second : (pairs.map Prod.snd).Perm others) :
    Same rearranged (.map entries) (.map others)

theorem Same.mono {narrow wide : List (JsString × Value) → List (JsString × Value) → Prop}
    (weaker : ∀ {fields others}, narrow fields others → wide fields others) {v w : Value} (same : Same narrow v w) :
    Same wide v w := by
  induction same with
  | int i => exact .int i
  | bool b => exact .bool b
  | str s => exact .str s
  | unserializable s => exact .unserializable s
  | null => exact .null
  | variant tag _ ih => exact .variant tag ih
  | seq _ ih => exact .seq ih
  | tuple _ ih => exact .tuple ih
  | set _ first second ih => exact .set ih first second
  | record names _ first second ih => exact .record names ih (weaker first) (weaker second)
  | map _ _ first second keys values => exact .map keys values first second

/-- Equal values, with records as finite maps. -/
def EqualValues : Value → Value → Prop := Same List.Perm

/-- Equal values, where fields whose names have the same bytes stay in their order. -/
def AlignedValues : Value → Value → Prop := Same (Keeps compareFields)

theorem AlignedValues.equal {v w : Value} (aligned : AlignedValues v w) : EqualValues v w :=
  aligned.mono (Keeps.perm compareFields_consistent)

/-! ### What a tree tells -/

section

variable [NumberText]

def kind : Value → String
  | .null => "null"
  | .int _ => "integer"
  | .bool _ => "boolean"
  | .str _ => "string"
  | .unserializable _ => "unserializable"
  | .variant _ _ => "variant"
  | .record _ => "record"
  | .seq _ => "sequence"
  | .tuple _ => "tuple"
  | .set _ => "set"
  | .map _ => "map"

theorem valueTree_kind (v : Value) : ∃ parts, valueTree v = named (kind v) parts := by
  cases v <;> exact ⟨_, rfl⟩

theorem named_inj {name other : String} {parts rest : List Json} (same : named name parts = named other rest) :
    name = other ∧ parts = rest := by
  obtain ⟨names, others⟩ := List.cons.inj (Json.array.inj same)
  exact ⟨js_inj.mp (Json.string.inj names), others⟩

theorem kind_eq {v w : Value} (same : valueTree v = valueTree w) : kind v = kind w := by
  obtain ⟨parts, first⟩ := valueTree_kind v
  obtain ⟨rest, second⟩ := valueTree_kind w
  rw [first, second] at same
  exact (named_inj same).1

theorem only_part {name other : String} {part rest : Json} (same : named name [part] = named other [rest]) : part = rest :=
  (List.cons.inj (named_inj same).2).1

theorem only_items {name other : String} {items rest : List Json}
    (same : named name [.array items] = named other [.array rest]) : items = rest := Json.array.inj (only_part same)

theorem fieldTree_inj {a b : JsString × Json} (same : fieldTree a = fieldTree b) : a = b := by
  simp only [fieldTree, Json.array.injEq, List.cons.injEq, Json.string.injEq, and_true] at same
  exact Prod.ext same.1 same.2

theorem entryTree_inj {a b : Json × Json} (same : entryTree a = entryTree b) : a = b := by
  simp only [entryTree, Json.array.injEq, List.cons.injEq, and_true] at same
  exact Prod.ext same.1 same.2

theorem aligned_of_tree {v w : Value} (same : valueTree v = valueTree w) : AlignedValues v w := by
  induction v using Value.parts_induct generalizing w with
  | int i =>
    cases w with
    | int j =>
      have text := Json.string.inj (only_part same)
      rw [integerText_injective text]
      exact .int j
    | _ => exact absurd (kind_eq same) (by simp [kind])
  | bool b =>
    cases w with
    | bool c =>
      rw [Json.bool.inj (only_part same)]
      exact .bool c
    | _ => exact absurd (kind_eq same) (by simp [kind])
  | str s =>
    cases w with
    | str t =>
      rw [Json.string.inj (only_part same)]
      exact .str t
    | _ => exact absurd (kind_eq same) (by simp [kind])
  | unserializable s =>
    cases w with
    | unserializable t =>
      rw [Json.string.inj (only_part same)]
      exact .unserializable t
    | _ => exact absurd (kind_eq same) (by simp [kind])
  | null =>
    cases w with
    | null => exact .null
    | _ => exact absurd (kind_eq same) (by simp [kind])
  | variant tag v ih =>
    cases w with
    | variant other w =>
      obtain ⟨tags, inner⟩ := List.cons.inj (named_inj same).2
      rw [Json.string.inj tags]
      exact .variant other (ih (List.cons.inj inner).1)
    | _ => exact absurd (kind_eq same) (by simp [kind])
  | seq vs ih =>
    cases w with
    | seq ws =>
      have items := only_items same
      rw [itemTrees_eq, itemTrees_eq] at items
      obtain ⟨pairs, rfl, rfl, each⟩ := exists_pairs items
      exact .seq fun p member => ih p.1 (List.mem_map_of_mem member) (each p member)
    | _ => exact absurd (kind_eq same) (by simp [kind])
  | tuple vs ih =>
    cases w with
    | tuple ws =>
      have items := only_items same
      rw [itemTrees_eq, itemTrees_eq] at items
      obtain ⟨pairs, rfl, rfl, each⟩ := exists_pairs items
      exact .tuple fun p member => ih p.1 (List.mem_map_of_mem member) (each p member)
    | _ => exact absurd (kind_eq same) (by simp [kind])
  | set vs ih =>
    cases w with
    | set ws =>
      have items := only_items same
      have members (tree : Json) : tree ∈ vs.map valueTree ↔ tree ∈ ws.map valueTree := by
        have sorted {items : List Json} : tree ∈ sort compareTrees items.dedup ↔ tree ∈ items :=
          mem_sort.trans List.mem_dedup
        rw [← itemTrees_eq, ← itemTrees_eq, ← sorted, items, sorted]
      have pair {v w : Value} (among : v ∈ vs) (found : w ∈ ws) (equal : valueTree v = valueTree w) :
          (v, w) ∈ (vs ×ˢ ws).filter fun p => valueTree p.1 = valueTree p.2 :=
        List.mem_filter.mpr ⟨List.mem_product.mpr ⟨among, found⟩, decide_eq_true equal⟩
      have parts {p : Value × Value} (member : p ∈ (vs ×ˢ ws).filter fun p => valueTree p.1 = valueTree p.2) :
          (p.1 ∈ vs ∧ p.2 ∈ ws) ∧ valueTree p.1 = valueTree p.2 := by
        obtain ⟨inside, equal⟩ := List.mem_filter.mp member
        exact ⟨List.mem_product.mp inside, of_decide_eq_true equal⟩
      apply Same.set (fun p member => ih p.1 (parts member).1.1 (parts member).2)
        (fun v => ⟨fun among => ?_, fun left => ?_⟩) fun w => ⟨fun found => ?_, fun right => ?_⟩
      · obtain ⟨w, found, equal⟩ := List.mem_map.mp ((members _).mp (List.mem_map_of_mem among))
        exact List.mem_map.mpr ⟨_, pair among found equal.symm, rfl⟩
      · obtain ⟨p, member, rfl⟩ := List.mem_map.mp left
        exact (parts member).1.1
      · obtain ⟨v, among, equal⟩ := List.mem_map.mp ((members _).mpr (List.mem_map_of_mem found))
        exact List.mem_map.mpr ⟨_, pair among found equal, rfl⟩
      · obtain ⟨p, member, rfl⟩ := List.mem_map.mp right
        exact (parts member).1.2
    | _ => exact absurd (kind_eq same) (by simp [kind])
  | record fields ih =>
    cases w with
    | record others =>
      have rows := (List.map_inj_right fun _ _ => fieldTree_inj).mp (only_items same)
      rw [fieldTrees_eq, fieldTrees_eq, sort_map, sort_map] at rows
      obtain ⟨pairs, first, second, each⟩ := exists_pairs rows
      have own : Keeps compareFields (pairs.map Prod.fst) fields := by
        rw [first]
        exact sort_keeps compareFields_consistent fields
      have other : Keeps compareFields (pairs.map Prod.snd) others := by
        rw [second]
        exact sort_keeps compareFields_consistent others
      apply Same.record (fun p member => (Prod.mk.inj (each p member)).1) (fun p member => ?_) own other
      exact ih p.1 (mem_of_pairs (own.perm compareFields_consistent) member) (Prod.mk.inj (each p member)).2
    | _ => exact absurd (kind_eq same) (by simp [kind])
  | map entries ih =>
    cases w with
    | map others =>
      have rows := (List.map_inj_right fun _ _ => entryTree_inj).mp (only_items same)
      rw [entryTrees_eq, entryTrees_eq, sort_map, sort_map] at rows
      obtain ⟨pairs, first, second, each⟩ := exists_pairs rows
      have own : (pairs.map Prod.fst).Perm entries := by
        rw [first]
        exact sort_perm _ _
      have other : (pairs.map Prod.snd).Perm others := by
        rw [second]
        exact sort_perm _ _
      exact .map (fun p member => (ih p.1 (mem_of_pairs own member)).1 (Prod.mk.inj (each p member)).1)
        (fun p member => (ih p.1 (mem_of_pairs own member)).2 (Prod.mk.inj (each p member)).2) own other
    | _ => exact absurd (kind_eq same) (by simp [kind])

end

/-! ### Equal values have one tree -/

section

variable [NumberRoundTrip]

theorem tree_of_aligned {v w : Value} (aligned : AlignedValues v w) (first : KeysApart v) (second : KeysApart w) :
    valueTree v = valueTree w := by
  induction aligned with
  | int i => rfl
  | bool b => rfl
  | str s => rfl
  | unserializable s => rfl
  | null => rfl
  | variant tag _ ih =>
    cases first with
    | variant first =>
      cases second with
      | variant second => rw [valueTree, valueTree, ih first second]
  | seq _ ih =>
    cases first with
    | seq first =>
      cases second with
      | seq second =>
        rw [valueTree, valueTree, itemTrees_eq, itemTrees_eq, images_eq fun p member => ih p member
          (first _ (List.mem_map_of_mem member)) (second _ (List.mem_map_of_mem member))]
  | tuple _ ih =>
    cases first with
    | tuple first =>
      cases second with
      | tuple second =>
        rw [valueTree, valueTree, itemTrees_eq, itemTrees_eq, images_eq fun p member => ih p member
          (first _ (List.mem_map_of_mem member)) (second _ (List.mem_map_of_mem member))]
  | @set pairs vs ws _ left right ih =>
    cases first with
    | set first =>
      cases second with
      | set second =>
        have trees : (pairs.map Prod.fst).map valueTree = (pairs.map Prod.snd).map valueTree :=
          images_eq fun p member => ih p member (first _ ((left _).mpr (List.mem_map_of_mem member)))
            (second _ ((right _).mpr (List.mem_map_of_mem member)))
        have members (tree : Json) : tree ∈ vs.map valueTree ↔ tree ∈ ws.map valueTree := by
          have own : tree ∈ vs.map valueTree ↔ tree ∈ (pairs.map Prod.fst).map valueTree := by
            simp only [List.mem_map (f := valueTree), left]
          have other : tree ∈ ws.map valueTree ↔ tree ∈ (pairs.map Prod.snd).map valueTree := by
            simp only [List.mem_map (f := valueTree), right]
          rw [own, trees, other]
        have same : (vs.map valueTree).dedup.Perm (ws.map valueTree).dedup := by
          apply (List.perm_ext_iff_of_nodup (List.nodup_dedup _) (List.nodup_dedup _)).mpr
          intro tree
          rw [List.mem_dedup, List.mem_dedup]
          exact members tree
        have free {tree : Json} (inside : tree ∈ (vs.map valueTree).dedup) : NumberFree tree := by
          obtain ⟨v, _, rfl⟩ := List.mem_map.mp (List.mem_dedup.mp inside)
          exact valueTree_numberFree v
        rw [valueTree, valueTree, itemTrees_eq, itemTrees_eq, sort_eq_of_perm compareTrees_consistent
          (fun a inside b among => compareTrees_apart (free inside) (free among)) same]
  | @record pairs fields others names _ left right ih =>
    cases first with
    | record first =>
      cases second with
      | record second =>
        have own := left.perm compareFields_consistent
        have other := right.perm compareFields_consistent
        have rows : (pairs.map Prod.fst).map (fun f => (f.1, valueTree f.2)) =
            (pairs.map Prod.snd).map fun f => (f.1, valueTree f.2) := images_eq fun p member =>
          Prod.ext (names p member) (ih p member (first _ (own.subset (List.mem_map_of_mem member)))
            (second _ (other.subset (List.mem_map_of_mem member))))
        have kept (fields : List (JsString × Value)) : sort compareFields (fields.map fun f => (f.1, valueTree f.2)) =
            (sort compareFields fields).map fun f => (f.1, valueTree f.2) := sort_map _ _ _
        rw [valueTree, valueTree, fieldTrees_eq, fieldTrees_eq, kept, kept,
          ← (sort_eq_iff compareFields_consistent).mpr left, ← (sort_eq_iff compareFields_consistent).mpr right,
          ← kept, ← kept, rows]
  | @map pairs entries others _ _ left right keys values =>
    cases first with
    | map apart firstKeys firstValues =>
      cases second with
      | map _ secondKeys secondValues =>
        have rows : (entries.map fun e => (valueTree e.1, valueTree e.2)).Perm
            (others.map fun e => (valueTree e.1, valueTree e.2)) := images_perm left right fun p member => by
          have own := left.subset (List.mem_map_of_mem member)
          have other := right.subset (List.mem_map_of_mem member)
          exact Prod.ext (keys p member (firstKeys _ own) (secondKeys _ other))
            (values p member (firstValues _ own) (secondValues _ other))
        have distinct : ((entries.map fun e => (valueTree e.1, valueTree e.2)).map Prod.fst).Nodup := by
          rw [List.map_map]
          exact apart
        have free {e : Json × Json} (inside : e ∈ entries.map fun e => (valueTree e.1, valueTree e.2)) :
            NumberFree e.1 := by
          obtain ⟨entry, _, rfl⟩ := List.mem_map.mp inside
          exact valueTree_numberFree entry.1
        rw [valueTree, valueTree, entryTrees_eq, entryTrees_eq,
          sort_eq_of_perm (compareTrees_consistent.on Prod.fst) (fun a inside b among below above =>
            List.inj_on_of_nodup_map distinct inside among (compareTrees_apart (free inside) (free among) below above)) rows]

theorem valueTree_eq_iff {v w : Value} (first : KeysApart v) (second : KeysApart w) :
    valueTree v = valueTree w ↔ AlignedValues v w :=
  ⟨aligned_of_tree, fun aligned => tree_of_aligned aligned first second⟩

/-! ### Equal states -/

/-- The names and values of a state as `canonicalScheduleState` receives them. -/
def ownValues (state : List (JsString × Value)) : OwnState := state.map fun f => (f.1, some f.2.toAny)

/-- States are compared as the records of their variables. -/
def EqualStates (s t : List (JsString × Value)) : Prop := EqualValues (.record s) (.record t)

def AlignedStates (s t : List (JsString × Value)) : Prop := AlignedValues (.record s) (.record t)

def stateTree (state : List (JsString × Value)) : Json :=
  named "mirrors.canonical-state/v1" [.array ((sort compareFields (fieldTrees state)).map fieldTree)]

theorem canonicalStateEntries_ok {state : List (JsString × Value)} {nodes : Nat} {items : List Json}
    (accepted : canonicalStateEntries nodes (ownValues state) = .ok items) :
    items = (state.map fun f => (f.1, valueTree f.2)).map fieldTree ∧ ∀ f ∈ state, KeysApart f.2 := by
  induction state generalizing nodes items with
  | nil =>
    cases accepted
    exact ⟨rfl, by simp⟩
  | cons f rest ih =>
    rw [ownValues, List.map_cons, canonicalStateEntries] at accepted
    obtain ⟨⟨item, m⟩, first, accepted⟩ := bind_eq_ok.mp accepted
    obtain ⟨others, tail, same⟩ := bind_eq_ok.mp accepted
    cases same
    obtain ⟨rfl, apart⟩ := canonicalises f.2 _ _ _ _ first
    obtain ⟨rfl, others⟩ := ih tail
    exact ⟨rfl, List.forall_mem_cons.mpr ⟨apart, others⟩⟩

theorem canonicalScheduleState_ok {state : List (JsString × Value)} {text : JsString}
    (accepted : canonicalScheduleState (ownValues state) = .ok text) :
    text = jsonStringify (stateTree state) ∧ KeysApart (.record state) := by
  obtain ⟨items, entries, accepted⟩ := bind_eq_ok.mp accepted
  obtain ⟨_, _, same⟩ := bind_eq_ok.mp accepted
  cases same
  have sorted : sort (fun a b => utf8 a.1 b.1) (ownValues state) = ownValues (sort compareFields state) := sort_map _ _ _
  rw [sorted] at entries
  obtain ⟨rfl, apart⟩ := canonicalStateEntries_ok entries
  have trees : sort compareFields (state.map fun f => (f.1, valueTree f.2)) =
      (sort compareFields state).map fun f => (f.1, valueTree f.2) := sort_map _ _ _
  constructor
  · rw [stateTree, fieldTrees_eq, trees]
    rfl
  · exact .record fun f member => apart f (mem_sort.mpr member)

theorem stateTree_eq_iff {s t : List (JsString × Value)} :
    stateTree s = stateTree t ↔ valueTree (.record s) = valueTree (.record t) := by
  constructor
  · intro same
    rw [valueTree, valueTree, only_items same]
  · intro same
    rw [stateTree, stateTree, only_items same]

theorem stateTree_numberFree (state : List (JsString × Value)) : NumberFree (stateTree state) := by
  cases valueTree_numberFree (.record state) with
  | array each => exact named_numberFree fun part inside => each part (List.mem_cons_of_mem _ inside)

theorem canonicalScheduleState_eq_iff {s t : List (JsString × Value)} {a b : JsString}
    (first : canonicalScheduleState (ownValues s) = .ok a) (second : canonicalScheduleState (ownValues t) = .ok b) :
    a = b ↔ AlignedStates s t := by
  obtain ⟨rfl, left⟩ := canonicalScheduleState_ok first
  obtain ⟨rfl, right⟩ := canonicalScheduleState_ok second
  rw [AlignedStates, ← valueTree_eq_iff left right, ← stateTree_eq_iff]
  exact ⟨(stateTree_numberFree s).stringify_inj (stateTree_numberFree t), congrArg jsonStringify⟩

/-! ### Names with the same bytes -/

/-- The bytes of the names tell the fields of every record apart. -/
def NamesApart (v : Value) : Prop := v.EveryRecord fun fields => (fields.map fun f => utf8Bytes f.1).Nodup

theorem keeps_of_apart {fields others : List (JsString × Value)} (apart : (others.map fun f => utf8Bytes f.1).Nodup)
    (perm : fields.Perm others) : Keeps compareFields fields others := by
  apply (sort_eq_iff compareFields_consistent).mp
  apply sort_eq_of_perm compareFields_consistent _ perm
  intro f left g right below above
  have bytes : utf8Bytes f.1 = utf8Bytes g.1 := utf8_tied.mp (tied_iff.mpr ⟨below, above⟩)
  exact List.inj_on_of_nodup_map apart (perm.subset left) (perm.subset right) bytes

theorem aligned_of_apart {v w : Value} (equal : EqualValues v w) (first : NamesApart v) (second : NamesApart w) :
    AlignedValues v w := by
  induction equal with
  | int i => exact .int i
  | bool b => exact .bool b
  | str s => exact .str s
  | unserializable s => exact .unserializable s
  | null => exact .null
  | variant tag _ ih => exact .variant tag (ih (Value.everyRecord_variant.mp first) (Value.everyRecord_variant.mp second))
  | seq _ ih =>
    exact .seq fun p member => ih p member (Value.everyRecord_seq.mp first _ (List.mem_map_of_mem member))
      (Value.everyRecord_seq.mp second _ (List.mem_map_of_mem member))
  | tuple _ ih =>
    exact .tuple fun p member => ih p member (Value.everyRecord_tuple.mp first _ (List.mem_map_of_mem member))
      (Value.everyRecord_tuple.mp second _ (List.mem_map_of_mem member))
  | set _ left right ih =>
    exact .set (fun p member => ih p member
      (Value.everyRecord_set.mp first _ ((left _).mpr (List.mem_map_of_mem member)))
      (Value.everyRecord_set.mp second _ ((right _).mpr (List.mem_map_of_mem member)))) left right
  | record names _ left right ih =>
    obtain ⟨apart, values⟩ := Value.everyRecord_record.mp first
    obtain ⟨apart', values'⟩ := Value.everyRecord_record.mp second
    exact .record names (fun p member => ih p member (values _ (left.subset (List.mem_map_of_mem member)))
      (values' _ (right.subset (List.mem_map_of_mem member)))) (keeps_of_apart apart left) (keeps_of_apart apart' right)
  | map _ _ left right keys values =>
    have parts := Value.everyRecord_map.mp first
    have parts' := Value.everyRecord_map.mp second
    have own {p : (Value × Value) × (Value × Value)} := fun member => left.subset (List.mem_map_of_mem (a := p) member)
    have other {p : (Value × Value) × (Value × Value)} := fun member => right.subset (List.mem_map_of_mem (a := p) member)
    exact .map (fun p member => keys p member (parts _ (own member)).1 (parts' _ (other member)).1)
      (fun p member => values p member (parts _ (own member)).2 (parts' _ (other member)).2) left right

/-- The texts decide equality of the states that stay equal where fields whose names have the same bytes keep their
order. -/
theorem canonicalScheduleState_decides {s t : List (JsString × Value)} {a b : JsString}
    (first : canonicalScheduleState (ownValues s) = .ok a) (second : canonicalScheduleState (ownValues t) = .ok b) :
    (a = b ↔ EqualStates s t) ↔ (EqualStates s t → AlignedStates s t) := by
  rw [canonicalScheduleState_eq_iff first second]
  constructor
  · exact fun decides equal => decides.mpr equal
  · exact fun aligned => ⟨AlignedValues.equal, aligned⟩

end

def oneAndTwo : List (JsString × Value) := [(js "x", .set [.int 1, .int 2, .int 1])]

def twoAndOne : List (JsString × Value) := [(js "x", .set [.int 2, .int 1])]

def oneTwoText : JsString :=
  js "[\"mirrors.canonical-state/v1\",[[\"x\",[\"set\",[[\"integer\",\"1\"],[\"integer\",\"2\"]]]]]]"

theorem oneAndTwo_equal : letI := integerNumbers
    EqualStates oneAndTwo twoAndOne := by
  let := integerNumbers
  have apart (vs : List Int) : NamesApart (.record [(js "x", .set (vs.map Value.int))]) := by
    have items : NamesApart (.set (vs.map Value.int)) := by
      refine Value.everyRecord_set.mpr fun v member record inside => ?_
      obtain ⟨i, _, rfl⟩ := List.mem_map.mp member
      cases inside
    refine Value.everyRecord_record.mpr ⟨List.nodup_singleton (utf8Bytes (js "x")), ?_⟩
    intro field only
    rw [List.mem_singleton.mp only]
    exact items
  have first : canonicalScheduleState (ownValues oneAndTwo) = .ok oneTwoText := by decide +kernel
  have second : canonicalScheduleState (ownValues twoAndOne) = .ok oneTwoText := by decide +kernel
  apply ((canonicalScheduleState_decides first second).mpr _).mp rfl
  exact fun equal => aligned_of_apart equal (apart [1, 2, 1]) (apart [2, 1])

def loneNames : List (JsString × Value) := [([0xD800], .int 1), ([0xD801], .int 2)]

/-- Names that are lone surrogates have the same bytes, and their order is kept. -/
theorem loneNames_split : letI := integerNumbers
    ∃ a b, canonicalScheduleState (ownValues loneNames) = .ok a ∧
      canonicalScheduleState (ownValues loneNames.reverse) = .ok b ∧ EqualStates loneNames loneNames.reverse ∧ a ≠ b := by
  let := integerNumbers
  refine ⟨js "[\"mirrors.canonical-state/v1\",[[\"\\ud800\",[\"integer\",\"1\"]],[\"\\ud801\",[\"integer\",\"2\"]]]]",
    js "[\"mirrors.canonical-state/v1\",[[\"\\ud801\",[\"integer\",\"2\"]],[\"\\ud800\",[\"integer\",\"1\"]]]]",
    by decide +kernel, by decide +kernel, ?_, by decide +kernel⟩
  have names : ∀ p ∈ loneNames.zip loneNames, p.1.1 = p.2.1 := by simp [loneNames]
  have values : ∀ p ∈ loneNames.zip loneNames, EqualValues p.1.2 p.2.2 := by
    simpa [loneNames] using ⟨Same.int 1, Same.int 2⟩
  exact .record names values (.refl _) (List.Perm.swap _ _ _)

end Mirror.Schedule
