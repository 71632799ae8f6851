import Mathlib.Data.List.Dedup
import MirrorECMA.ECMA.NumberFree
import MirrorECMA.ECMA.StableSort
import MirrorECMA.Protocol.Value
import MirrorECMA.Schedule.CanonicalState

namespace Mirror.Schedule

open ECMA ECMA.Json Mirror.Protocol

/-! ### The canonical tree of a value -/

def named (name : String) (parts : List Json) : Json := .array (.string (js name) :: parts)

def fieldTree (field : JsString × Json) : Json := .array [.string field.1, field.2]

def entryTree (entry : Json × Json) : Json := .array [entry.1, entry.2]

theorem named_numberFree {name : String} {parts : List Json} (each : ∀ part ∈ parts, NumberFree part) :
    NumberFree (named name parts) := .array (List.forall_mem_cons.mpr ⟨.string _, each⟩)

theorem pair_numberFree {a b : Json} (first : NumberFree a) (second : NumberFree b) : NumberFree (.array [a, b]) :=
  .array (List.forall_mem_cons.mpr ⟨first, List.forall_mem_singleton.mpr second⟩)

def compareFields {α : Type} (a b : JsString × α) : Int := utf8 a.1 b.1

section

variable [NumberText]

/-- Trees in the order of their texts. -/
def compareTrees (a b : Json) : Int := utf8 (jsonStringify a) (jsonStringify b)

mutual

def valueTree : Value → Json
  | .null => named "null" []
  | .int i => named "integer" [.string (integerText i)]
  | .bool b => named "boolean" [.bool b]
  | .str s => named "string" [.string s]
  | .unserializable s => named "unserializable" [.string s]
  | .variant variantTag v => named "variant" [.string variantTag, valueTree v]
  | .record fields => named "record" [.array ((sort compareFields (fieldTrees fields)).map fieldTree)]
  | .seq vs => named "sequence" [.array (itemTrees vs)]
  | .tuple vs => named "tuple" [.array (itemTrees vs)]
  | .set vs => named "set" [.array (sort compareTrees (itemTrees vs).dedup)]
  | .map entries => named "map" [.array ((sort (fun a b => compareTrees a.1 b.1) (entryTrees entries)).map entryTree)]

def itemTrees : List Value → List Json
  | [] => []
  | v :: rest => valueTree v :: itemTrees rest

def fieldTrees : List (JsString × Value) → List (JsString × Json)
  | [] => []
  | (key, v) :: rest => (key, valueTree v) :: fieldTrees rest

def entryTrees : List (Value × Value) → List (Json × Json)
  | [] => []
  | (k, v) :: rest => (valueTree k, valueTree v) :: entryTrees rest

end

theorem itemTrees_eq (vs : List Value) : itemTrees vs = vs.map valueTree := eq_map rfl (fun _ _ => rfl) vs

theorem fieldTrees_eq (fields : List (JsString × Value)) : fieldTrees fields = fields.map fun f => (f.1, valueTree f.2) :=
  eq_map rfl (fun _ _ => rfl) fields

theorem entryTrees_eq (entries : List (Value × Value)) :
    entryTrees entries = entries.map fun e => (valueTree e.1, valueTree e.2) := eq_map rfl (fun _ _ => rfl) entries

theorem valueTree_numberFree (v : Value) : NumberFree (valueTree v) := by
  have one {name : String} {part : Json} (free : NumberFree part) : NumberFree (named name [part]) :=
    named_numberFree (List.forall_mem_singleton.mpr free)
  induction v using Value.parts_induct with
  | int i => exact one (.string _)
  | bool b => exact one (.bool b)
  | str s => exact one (.string s)
  | unserializable s => exact one (.string s)
  | null => exact named_numberFree (by simp)
  | variant tag v ih => exact named_numberFree (List.forall_mem_cons.mpr ⟨.string tag, List.forall_mem_singleton.mpr ih⟩)
  | seq vs ih =>
    rw [valueTree, itemTrees_eq]
    exact one (.array (List.forall_mem_map.mpr ih))
  | tuple vs ih =>
    rw [valueTree, itemTrees_eq]
    exact one (.array (List.forall_mem_map.mpr ih))
  | set vs ih =>
    rw [valueTree, itemTrees_eq]
    refine one (.array fun item member => ?_)
    obtain ⟨v, inside, rfl⟩ := List.mem_map.mp (List.mem_dedup.mp (mem_sort.mp member))
    exact ih v inside
  | record fields ih =>
    rw [valueTree, fieldTrees_eq]
    refine one (.array (List.forall_mem_map.mpr fun field member => ?_))
    obtain ⟨f, inside, rfl⟩ := List.mem_map.mp (mem_sort.mp member)
    exact pair_numberFree (.string _) (ih f inside)
  | map entries ih =>
    rw [valueTree, entryTrees_eq]
    refine one (.array (List.forall_mem_map.mpr fun entry member => ?_))
    obtain ⟨e, inside, rfl⟩ := List.mem_map.mp (mem_sort.mp member)
    exact pair_numberFree (ih e inside).1 (ih e inside).2

end

/-! ### The order of the bytes -/

theorem utf8_le {a b : JsString} : utf8 a b ≤ 0 ↔ (utf8Bytes a).map UInt8.toNat ≤ (utf8Bytes b).map UInt8.toNat := by
  unfold utf8
  split
  · rename_i less
    simpa using less.le
  · rename_i notLess
    split
    · rename_i greater
      simpa using greater
    · rename_i notGreater
      simpa using not_lt.mp notGreater

theorem utf8_consistent : Consistent utf8 where
  total a b := by
    rw [utf8_le, utf8_le]
    exact le_total _ _
  trans first second := by
    rw [utf8_le] at first second ⊢
    exact first.trans second

theorem utf8_tied {a b : JsString} : tied utf8 a b = true ↔ utf8Bytes a = utf8Bytes b := by
  rw [tied_iff, utf8_le, utf8_le]
  constructor
  · rintro ⟨below, above⟩
    exact (List.map_inj_right fun _ _ => UInt8.toNat_inj.mp).mp (le_antisymm below above)
  · intro same
    rw [same]
    exact ⟨le_refl _, le_refl _⟩

theorem compareFields_consistent {α : Type} : Consistent (compareFields (α := α)) := utf8_consistent.on Prod.fst

section

variable [NumberRoundTrip]

theorem compareTrees_consistent : Consistent compareTrees := utf8_consistent.on jsonStringify

/-- The texts of trees tell them apart. -/
theorem compareTrees_apart {a b : Json} (free : NumberFree a) (other : NumberFree b) (below : compareTrees a b ≤ 0)
    (above : compareTrees b a ≤ 0) : a = b := by
  apply free.stringify_inj other
  exact utf8Bytes_injective free.wellFormed other.wellFormed (utf8_tied.mp (tied_iff.mpr ⟨below, above⟩))

/-! ### Accepted values -/

/-- No map of the value has two keys of one tree. -/
inductive KeysApart : Value → Prop
  | int (i : Int) : KeysApart (.int i)
  | bool (b : Bool) : KeysApart (.bool b)
  | str (s : JsString) : KeysApart (.str s)
  | unserializable (s : JsString) : KeysApart (.unserializable s)
  | null : KeysApart .null
  | variant {tag : JsString} {v : Value} (inner : KeysApart v) : KeysApart (.variant tag v)
  | seq {vs : List Value} (each : ∀ v ∈ vs, KeysApart v) : KeysApart (.seq vs)
  | tuple {vs : List Value} (each : ∀ v ∈ vs, KeysApart v) : KeysApart (.tuple vs)
  | set {vs : List Value} (each : ∀ v ∈ vs, KeysApart v) : KeysApart (.set vs)
  | record {fields : List (JsString × Value)} (each : ∀ f ∈ fields, KeysApart f.2) : KeysApart (.record fields)
  | map {entries : List (Value × Value)} (apart : (entries.map fun e => valueTree e.1).Nodup)
      (keys : ∀ e ∈ entries, KeysApart e.1) (values : ∀ e ∈ entries, KeysApart e.2) : KeysApart (.map entries)

/-- Where the value is accepted, its tree is returned. -/
def Canonicalises (v : Value) : Prop :=
  ∀ depth nodes tree n, canonicalValue depth nodes (sortKeys v.toAny) = .ok (tree, n) →
    tree = some (valueTree v) ∧ KeysApart v

theorem toAnys_eq (vs : List Value) : Value.toAnys vs = vs.map Value.toAny := eq_map rfl (fun _ _ => rfl) vs

theorem sortItems_eq (vs : List Any) : sortItems vs = vs.map sortKeys := eq_map rfl (fun _ _ => rfl) vs

theorem toAnyFields_eq (fields : List (JsString × Value)) :
    Value.toAnyFields fields = fields.map fun f => (f.1, f.2.toAny) := eq_map rfl (fun _ _ => rfl) fields

theorem sortFields_eq (fields : List (JsString × Any)) : sortFields fields = fields.map fun f => (f.1, sortKeys f.2) :=
  eq_map rfl (fun _ _ => rfl) fields

theorem toAnyEntries_eq (entries : List (Value × Value)) :
    Value.toAnyEntries entries = entries.map fun e => (e.1.toAny, e.2.toAny) := eq_map rfl (fun _ _ => rfl) entries

theorem sortEntries_eq (entries : List (Any × Any)) :
    sortEntries entries = entries.map fun e => (sortKeys e.1, sortKeys e.2) := eq_map rfl (fun _ _ => rfl) entries

theorem canonicalItems_ok {vs : List Value} (each : ∀ v ∈ vs, Canonicalises v) {depth nodes n : Nat}
    {items : List (Option Json)}
    (accepted : canonicalItems depth nodes (vs.map fun v => sortKeys v.toAny) = .ok (items, n)) :
    items = (vs.map valueTree).map some ∧ ∀ v ∈ vs, KeysApart v := by
  induction vs generalizing nodes items with
  | nil =>
    cases accepted
    exact ⟨rfl, by simp⟩
  | cons v rest ih =>
    rw [List.map_cons, canonicalItems] at accepted
    obtain ⟨⟨item, m⟩, first, accepted⟩ := bind_eq_ok.mp accepted
    obtain ⟨⟨others, k⟩, tail, same⟩ := bind_eq_ok.mp accepted
    cases same
    obtain ⟨rfl, apart⟩ := each v List.mem_cons_self _ _ _ _ first
    obtain ⟨rfl, others⟩ := ih (fun w among => each w (List.mem_cons_of_mem _ among)) tail
    exact ⟨rfl, List.forall_mem_cons.mpr ⟨apart, others⟩⟩

theorem canonicalFields_ok {fields : List (JsString × Value)} (each : ∀ f ∈ fields, Canonicalises f.2) {depth nodes n : Nat}
    {items : List Json}
    (accepted : canonicalFields depth nodes (fields.map fun f => (f.1, sortKeys f.2.toAny)) = .ok (items, n)) :
    items = (fields.map fun f => (f.1, valueTree f.2)).map fieldTree ∧ ∀ f ∈ fields, KeysApart f.2 := by
  induction fields generalizing nodes items with
  | nil =>
    cases accepted
    exact ⟨rfl, by simp⟩
  | cons f rest ih =>
    rw [List.map_cons, canonicalFields] at accepted
    obtain ⟨⟨item, m⟩, first, accepted⟩ := bind_eq_ok.mp accepted
    obtain ⟨⟨others, k⟩, tail, same⟩ := bind_eq_ok.mp accepted
    cases same
    obtain ⟨rfl, apart⟩ := each f List.mem_cons_self _ _ _ _ first
    obtain ⟨rfl, others⟩ := ih (fun g among => each g (List.mem_cons_of_mem _ among)) tail
    exact ⟨rfl, List.forall_mem_cons.mpr ⟨apart, others⟩⟩

/-- The row of a `Map` for a key and its value. -/
def entryRow (e : Json × Json) : Option JsString × Option Json := (some (jsonStringify e.1), some (entryTree e))

theorem canonicalEntries_ok {entries : List (Value × Value)} (each : ∀ e ∈ entries, Canonicalises e.1 ∧ Canonicalises e.2)
    {depth nodes n : Nat} {kind : Option Bool} {texts result : Texts}
    (accepted : canonicalEntries depth nodes kind texts (entries.map fun e => (sortKeys e.1.toAny, sortKeys e.2.toAny)) =
      .ok (result, n)) :
    result = texts ++ (entries.map fun e => (valueTree e.1, valueTree e.2)).map entryRow ∧
      (entries.map fun e => valueTree e.1).Nodup ∧
      (∀ e ∈ entries, some (jsonStringify (valueTree e.1)) ∉ JsMap.keys texts) ∧ ∀ e ∈ entries, KeysApart e.1 ∧ KeysApart e.2 := by
  induction entries generalizing nodes kind texts with
  | nil =>
    cases accepted
    exact ⟨(List.append_nil _).symm, List.nodup_nil, by simp, by simp⟩
  | cons e rest ih =>
    rw [List.map_cons, canonicalEntries] at accepted
    obtain ⟨_, _, accepted⟩ := bind_eq_ok.mp accepted
    obtain ⟨_, _, accepted⟩ := bind_eq_ok.mp accepted
    obtain ⟨⟨key, m⟩, first, accepted⟩ := bind_eq_ok.mp accepted
    obtain ⟨_, fresh, accepted⟩ := bind_eq_ok.mp accepted
    obtain ⟨⟨item, k⟩, second, accepted⟩ := bind_eq_ok.mp accepted
    obtain ⟨rfl, keyApart⟩ := (each e List.mem_cons_self).1 _ _ _ _ first
    obtain ⟨rfl, valueApart⟩ := (each e List.mem_cons_self).2 _ _ _ _ second
    have absent : some (jsonStringify (valueTree e.1)) ∉ JsMap.keys texts := by
      unfold requireValue at fresh
      split at fresh
      · rename_i holds
        simpa using holds
      · cases fresh
    obtain ⟨shape, nodup, away, apart⟩ := ih (fun g among => each g (List.mem_cons_of_mem _ among)) accepted
    have extended : JsMap.set texts (some (jsonStringify (valueTree e.1)))
        (some (entryTree (valueTree e.1, valueTree e.2))) = texts ++ [entryRow (valueTree e.1, valueTree e.2)] :=
      JsMap.set_fresh absent _
    have keys : JsMap.keys (texts ++ [entryRow (valueTree e.1, valueTree e.2)]) =
        JsMap.keys texts ++ [some (jsonStringify (valueTree e.1))] := by
      rw [JsMap.keys, List.map_append]
      rfl
    have rows : JsMap.set texts (Option.map jsonStringify (some (valueTree e.1)))
        (some (.array [(some (valueTree e.1)).getD .null, (some (valueTree e.2)).getD .null])) =
          texts ++ [entryRow (valueTree e.1, valueTree e.2)] := extended
    rw [rows] at shape away
    rw [keys] at away
    refine ⟨?_, ?_, ?_, List.forall_mem_cons.mpr ⟨⟨keyApart, valueApart⟩, apart⟩⟩
    · rw [shape, List.append_assoc]
      rfl
    · rw [List.map_cons, List.nodup_cons]
      refine ⟨fun again => ?_, nodup⟩
      obtain ⟨g, among, same⟩ := List.mem_map.mp again
      apply away g among
      rw [same]
      exact List.mem_append_right _ (List.mem_singleton_self _)
    · exact List.forall_mem_cons.mpr ⟨absent, fun g among inside => away g among (List.mem_append_left _ inside)⟩

/-- The rows of a `Map` in the order of their texts. -/
theorem sorted_rows {α : Type} (text : α → JsString) (tree : α → Json) (rows : List α) :
    Texts.sorted (rows.map fun row => (some (text row), some (tree row))) =
      (sort (fun a b => utf8 (text a) (text b)) rows).map tree := by
  have written : (rows.map fun row => (some (text row), some (tree row))).filter (fun entry => entry.1.isSome) =
      rows.map fun row => (some (text row), some (tree row)) :=
    List.filter_eq_self.mpr (List.forall_mem_map.mpr fun _ _ => rfl)
  have unwritten : (rows.map fun row => (some (text row), some (tree row))).filter (fun entry => entry.1.isNone) = [] :=
    List.filter_eq_nil_iff.mpr (List.forall_mem_map.mpr fun _ _ => by simp)
  rw [Texts.sorted, written, unwritten, List.append_nil, sort_map, List.map_map]
  rfl

/-- The row of a `Map` for an item of a set. -/
def itemRow (item : Json) : Option JsString × Option Json := (some (jsonStringify item), some item)

theorem set_item {items : List Json} (free : ∀ item ∈ items, NumberFree item) {item : Json} (itemFree : NumberFree item) :
    JsMap.set (items.map itemRow) (some (jsonStringify item)) (some item) =
      (if item ∈ items then items else items ++ [item]).map itemRow := by
  induction items with
  | nil => rfl
  | cons first rest ih =>
    have others := ih fun other among => free other (List.mem_cons_of_mem _ among)
    by_cases same : first = item
    · subst same
      simp [itemRow, JsMap.set]
    · have texts : some (jsonStringify first) ≠ some (jsonStringify item) := fun equal =>
        same ((free first List.mem_cons_self).stringify_inj itemFree (Option.some.inj equal))
      have step : JsMap.set ((first :: rest).map itemRow) (some (jsonStringify item)) (some item) =
          itemRow first :: JsMap.set (rest.map itemRow) (some (jsonStringify item)) (some item) := by
        rw [List.map_cons, itemRow, JsMap.set, if_neg texts]
      rw [step, others]
      by_cases known : item ∈ rest
      · rw [if_pos known, if_pos (List.mem_cons_of_mem _ known), List.map_cons]
      · have unknown : item ∉ first :: rest := fun among =>
          (List.mem_cons.mp among).elim (fun equal => same equal.symm) known
        rw [if_neg known, if_neg unknown, List.cons_append, List.map_cons]

/-- The rows that a set of these items leaves, each of them once. -/
theorem set_items {items known : List Json} (free : ∀ item ∈ known ++ items, NumberFree item) (nodup : known.Nodup) :
    ∃ unique : List Json, (items.map some).foldl (fun rows item => JsMap.set rows (item.map jsonStringify) item)
        (known.map itemRow) = unique.map itemRow ∧ unique.Nodup ∧
      ∀ item, item ∈ unique ↔ item ∈ known ∨ item ∈ items := by
  induction items generalizing known with
  | nil => exact ⟨known, rfl, nodup, by simp⟩
  | cons item rest ih =>
    have first := set_item (fun other among => free other (List.mem_append_left _ among))
      (free item (List.mem_append_right _ List.mem_cons_self))
    rw [List.map_cons, List.foldl_cons, Option.map_some, first]
    by_cases inside : item ∈ known
    · rw [if_pos inside]
      obtain ⟨unique, rows, apart, members⟩ := ih (fun other among => free other
        ((List.mem_append.mp among).elim (List.mem_append_left _) fun tail =>
          List.mem_append_right _ (List.mem_cons_of_mem _ tail))) nodup
      refine ⟨unique, rows, apart, fun other => ?_⟩
      rw [members, List.mem_cons]
      constructor
      · exact fun found => found.imp_right .inr
      · rintro (found | rfl | found)
        · exact .inl found
        · exact .inl inside
        · exact .inr found
    · rw [if_neg inside]
      have extended : (known ++ [item]).Nodup := by
        apply List.nodup_append.mpr ⟨nodup, List.nodup_singleton _, fun other among last single => ?_⟩
        rw [List.mem_singleton.mp single]
        rintro rfl
        exact inside among
      obtain ⟨unique, rows, apart, members⟩ := ih (fun other among => free other
        (by simpa using among)) extended
      refine ⟨unique, rows, apart, fun other => ?_⟩
      rw [members, List.mem_cons, List.mem_append, List.mem_singleton, or_assoc]

theorem sorted_set {items : List Json} (free : ∀ item ∈ items, NumberFree item) :
    Texts.sorted ((items.map some).foldl (fun rows item => JsMap.set rows (item.map jsonStringify) item) []) =
      sort compareTrees items.dedup := by
  have start : ([] : Texts) = ([] : List Json).map itemRow := rfl
  obtain ⟨unique, rows, nodup, members⟩ := set_items (show ∀ item ∈ [] ++ items, NumberFree item from free) List.nodup_nil
  have sorted := sorted_rows jsonStringify id unique
  have same : unique.Perm items.dedup := by
    apply (List.perm_ext_iff_of_nodup nodup (List.nodup_dedup items)).mpr
    intro item
    rw [members, List.mem_dedup]
    simp
  rw [start, rows]
  refine Eq.trans sorted ?_
  rw [List.map_id]
  apply sort_eq_of_perm compareTrees_consistent _ same
  intro a left b right
  have inside {item : Json} (among : item ∈ unique) : NumberFree item :=
    free item ((members item).mp among |>.elim (fun none => nomatch none) id)
  exact compareTrees_apart (inside left) (inside right)

theorem ok_of_bounded {α : Type} {bound : Prop} [Decidable bound] {result : Except JsString α} {a : α}
    (accepted : (if bound then .error (js "canonical value exceeds structure bound") else result) = .ok a) :
    result = .ok a := by
  split at accepted
  · cases accepted
  · exact accepted

theorem written_items {α : Type} (missing : α) (items : List α) :
    (items.map some).map (fun item => item.getD missing) = items := by
  rw [List.map_map]
  exact List.map_id items

theorem canonicalises (v : Value) : Canonicalises v := by
  induction v using Value.parts_induct with
  | int i =>
    intro depth nodes tree n accepted
    cases (ok_of_bounded accepted)
    exact ⟨rfl, .int i⟩
  | bool b =>
    intro depth nodes tree n accepted
    cases (ok_of_bounded accepted)
    exact ⟨rfl, .bool b⟩
  | str s =>
    intro depth nodes tree n accepted
    cases (ok_of_bounded accepted)
    exact ⟨rfl, .str s⟩
  | unserializable s =>
    intro depth nodes tree n accepted
    cases (ok_of_bounded accepted)
    exact ⟨rfl, .unserializable s⟩
  | null =>
    intro depth nodes tree n accepted
    cases (ok_of_bounded accepted)
    exact ⟨rfl, .null⟩
  | variant tag v ih =>
    intro depth nodes tree n accepted
    obtain ⟨⟨item, m⟩, inner, same⟩ := bind_eq_ok.mp (ok_of_bounded accepted)
    cases same
    obtain ⟨rfl, apart⟩ := ih _ _ _ _ inner
    exact ⟨rfl, .variant apart⟩
  | seq vs ih =>
    intro depth nodes tree n accepted
    obtain ⟨⟨items, m⟩, inner, same⟩ := bind_eq_ok.mp (ok_of_bounded accepted)
    cases same
    rw [toAnys_eq, sortItems_eq, List.map_map] at inner
    obtain ⟨rfl, apart⟩ := canonicalItems_ok ih inner
    rw [valueTree, itemTrees_eq, written_items]
    exact ⟨rfl, .seq apart⟩
  | tuple vs ih =>
    intro depth nodes tree n accepted
    obtain ⟨⟨items, m⟩, inner, same⟩ := bind_eq_ok.mp (ok_of_bounded accepted)
    cases same
    rw [toAnys_eq, sortItems_eq, List.map_map] at inner
    obtain ⟨rfl, apart⟩ := canonicalItems_ok ih inner
    rw [valueTree, itemTrees_eq, written_items]
    exact ⟨rfl, .tuple apart⟩
  | set vs ih =>
    intro depth nodes tree n accepted
    obtain ⟨⟨items, m⟩, inner, same⟩ := bind_eq_ok.mp (ok_of_bounded accepted)
    cases same
    rw [toAnys_eq, sortItems_eq, List.map_map] at inner
    obtain ⟨rfl, apart⟩ := canonicalItems_ok ih inner
    have free : ∀ item ∈ vs.map valueTree, NumberFree item :=
      List.forall_mem_map.mpr fun v _ => valueTree_numberFree v
    rw [valueTree, itemTrees_eq, ← sorted_set free]
    exact ⟨rfl, .set apart⟩
  | record fields ih =>
    intro depth nodes tree n accepted
    obtain ⟨⟨items, m⟩, inner, same⟩ := bind_eq_ok.mp (ok_of_bounded accepted)
    cases same
    have each : ∀ f ∈ sort compareFields fields, Canonicalises f.2 := fun f member => ih f (mem_sort.mp member)
    have sorted : sort (fun a b => utf8 a.1 b.1) (sortFields (Value.toAnyFields fields)) =
        (sort compareFields fields).map fun f => (f.1, sortKeys f.2.toAny) := by
      rw [toAnyFields_eq, sortFields_eq, List.map_map]
      exact sort_map _ _ _
    rw [sorted] at inner
    obtain ⟨rfl, apart⟩ := canonicalFields_ok each inner
    have trees : sort compareFields (fields.map fun f => (f.1, valueTree f.2)) =
        (sort compareFields fields).map fun f => (f.1, valueTree f.2) := sort_map _ _ _
    rw [valueTree, fieldTrees_eq, trees]
    exact ⟨rfl, .record fun f member => apart f (mem_sort.mpr member)⟩
  | map entries ih =>
    intro depth nodes tree n accepted
    obtain ⟨⟨texts, m⟩, inner, same⟩ := bind_eq_ok.mp (ok_of_bounded accepted)
    cases same
    rw [toAnyEntries_eq, sortEntries_eq, List.map_map] at inner
    obtain ⟨rfl, apart, _, parts⟩ := canonicalEntries_ok ih inner
    have rows := sorted_rows (fun e : Json × Json => jsonStringify e.1) entryTree
      (entries.map fun e => (valueTree e.1, valueTree e.2))
    rw [valueTree, entryTrees_eq]
    constructor
    · exact congrArg (fun items => tagged "map" [.array items]) rows
    · exact .map apart (fun e member => (parts e member).1) fun e member => (parts e member).2

end

end Mirror.Schedule
