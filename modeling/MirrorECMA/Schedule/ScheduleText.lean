import MirrorECMA.ECMA.Measures
import MirrorECMA.ECMA.Utf8
import MirrorECMA.Schedule.ParseSchedule

namespace Mirror.Schedule

open ECMA ECMA.Grammar

/-! ### The scanner on texts of the grammar -/

theorem tokenEnd_raw {u : CodeUnit} (plain : isUnescaped u = true) (rest : JsString) :
    tokenEnd (u :: rest) = (tokenEnd rest).map fun found => (u :: found.1, found.2) := by
  simp only [isUnescaped, Bool.and_eq_true, decide_eq_true_eq, ne_eq] at plain
  cases rest with
  | nil => simp only [tokenEnd, if_neg plain.1.2, Option.map_none]
  | cons v rest => rw [tokenEnd, if_neg plain.2, if_neg plain.1.2]

theorem tokenEnd_escaped (v : CodeUnit) (rest : JsString) :
    tokenEnd (backslash :: v :: rest) = (tokenEnd rest).map fun found => (backslash :: v :: found.1, found.2) := by
  rw [tokenEnd, if_pos rfl]

theorem tokenEnd_item (item : Item) (rest : JsString) :
    tokenEnd (item.render ++ rest) = (tokenEnd rest).map fun found => (item.render ++ found.1, found.2) := by
  cases item with
  | raw u plain => exact tokenEnd_raw plain rest
  | escape e => exact tokenEnd_escaped _ rest
  | unicode a b c d =>
    simp only [Item.render, List.cons_append, List.nil_append]
    rw [tokenEnd_escaped, tokenEnd_raw (hexDigit_unescaped a), tokenEnd_raw (hexDigit_unescaped b),
      tokenEnd_raw (hexDigit_unescaped c), tokenEnd_raw (hexDigit_unescaped d)]
    simp only [Option.map_map, Function.comp_def]

theorem tokenEnd_render (t : StringToken) (rest : JsString) : tokenEnd (t.renderTail ++ rest) = some (t.renderTail, rest) := by
  unfold StringToken.renderTail
  induction t with
  | nil =>
    cases rest with
    | nil => rfl
    | cons v rest => rfl
  | cons item others ih =>
    simp only [List.flatMap_cons, List.append_assoc] at ih ⊢
    rw [tokenEnd_item, ih]
    rfl

section

variable [NumberConversion]

theorem token_render (t : StringToken) (rest : JsString) : token (t.render ++ rest) = .ok (t.decoded, rest) := by
  have read := jsonParse_token t
  simp only [StringToken.render, List.cons_append] at read ⊢
  rw [token, tokenEnd_render]
  dsimp only
  rw [read]

omit [NumberConversion] in
theorem literalPrefix_number {text rest : JsString} (valid : IsNumber text) (stop : Stops endsNumber rest) :
    literalPrefix (text ++ rest) = some (text, rest) := by
  have found := numberPrefix_complete valid stop
  rcases number_head valid with ⟨u, tail, rfl, first⟩
  have plain (v : CodeUnit) (apart : v ≠ minus) (digit : isDigit v = false) : u ≠ v := by
    intro same
    subst same
    rcases first with negative | positive
    · exact apart negative
    · rw [digit] at positive
      cases positive
  have differs (v : CodeUnit) (more : JsString) (apart : v ≠ minus) (digit : isDigit v = false) :
      (v :: more).isPrefixOf (u :: (tail ++ rest)) = false := by
    rw [List.isPrefixOf, Bool.and_eq_false_iff]
    exact .inl (by simpa using Ne.symm (plain v apart digit))
  have t : (js "true").isPrefixOf (u :: (tail ++ rest)) = false := differs 0x74 (js "rue") (by decide) (by decide)
  have f : (js "false").isPrefixOf (u :: (tail ++ rest)) = false := differs 0x66 (js "alse") (by decide) (by decide)
  have n : (js "null").isPrefixOf (u :: (tail ++ rest)) = false := differs 0x6E (js "ull") (by decide) (by decide)
  simp only [literalPrefix, List.cons_append, t, f, n, Bool.false_eq_true, ↓reduceIte]
  exact found

omit [NumberConversion] in
/-- Every element takes a unit of the text at least. -/
theorem items_count_le : (items : Items) → (rest : JsString) →
    items.count ≤ (skipWhitespace (items.render ++ rest)).length
  | .last before value after, rest => by
    simp only [Items.render, List.append_assoc, (skip_to_value before value _).1]
    exact List.length_pos_of_ne_nil (value_append_ne value _)
  | .cons before value after more, rest => by
    have others := items_count_le more rest
    have shorter := skipWhitespace_length (more.render ++ rest)
    simp only [Items.render, List.append_assoc, List.cons_append, (skip_to_value before value _).1, Items.count]
    rw [List.length_append, List.length_append, List.length_cons]
    omega

omit [NumberConversion] in
theorem members_count_le : (members : Members) → (rest : JsString) →
    members.count ≤ (skipWhitespace (members.render ++ rest)).length
  | .last before key afterKey beforeValue value after, rest => by
    simp only [Members.render, List.append_assoc, skip_to_key]
    exact List.length_pos_of_ne_nil (by simp [StringToken.render])
  | .cons before key afterKey beforeValue value after more, rest => by
    have others := members_count_le more rest
    have shorter := skipWhitespace_length (more.render ++ rest)
    simp only [Members.render, List.append_assoc, List.cons_append, skip_to_key, Members.count]
    rw [List.length_append, List.length_append, List.length_cons, List.length_append, List.length_append,
      List.length_append, List.length_cons]
    omega

section

variable {inner : Nat → JsString → Except JsString (Nat × JsString)} {object : Bool} {fuel nodes counted : Nat}
  {keys seen : List JsString} {rest afterKey afterValue tail : JsString}

theorem scanMembers_close (more : rest ≠ [])
    (keyed : memberStart object keys rest = .ok (seen, afterKey))
    (scanned : inner nodes afterKey = .ok (counted, afterValue))
    (closed : skipWhitespace afterValue = (if object then closeBrace else closeBracket) :: tail) :
    scanMembers inner object (fuel + 1) keys nodes rest = .ok (counted, tail) := by
  rw [scanMembers, if_neg more]
  simp only [keyed, ok_bind, scanned, closed, List.head?_cons, ↓reduceIte, List.tail_cons]
  rfl

theorem scanMembers_next (more : rest ≠ [])
    (keyed : memberStart object keys rest = .ok (seen, afterKey))
    (scanned : inner nodes afterKey = .ok (counted, afterValue)) (separated : skipWhitespace afterValue = comma :: tail) :
    scanMembers inner object (fuel + 1) keys nodes rest = scanMembers inner object fuel seen counted (skipWhitespace tail) := by
  have open_ : some comma ≠ some (if object then closeBrace else closeBracket) := by cases object <;> decide
  rw [scanMembers, if_neg more]
  simp only [keyed, ok_bind, scanned, separated, List.head?_cons, if_neg open_, ne_eq, not_true_eq_false, ↓reduceIte,
    List.tail_cons]

end

theorem memberStart_render (key : StringToken) (afterKey : Whitespace) {keys : List JsString} (fresh : key.decoded ∉ keys)
    (rest : JsString) : memberStart true keys (key.render ++ (afterKey.text ++ colon :: rest)) = .ok (keys ++ [key.decoded], rest) := by
  have head : (key.render ++ (afterKey.text ++ colon :: rest)).head? = some quote := rfl
  have colon_ := (skip_to_unit afterKey (u := colon) (by decide) rest).1
  rw [memberStart, if_pos rfl, memberKey, if_neg (by rw [head]; exact fun differs => differs rfl), token_render]
  simp only [ok_bind, if_neg fresh, colon_, List.head?_cons, ne_eq, not_true_eq_false, ↓reduceIte, List.tail_cons]
  rfl

theorem scan_blank_value (before : Whitespace) (value : Value) {levels nodes : Nat} {rest : JsString}
    {result : Nat × JsString} (scanned : scan levels nodes (value.render ++ rest) = .ok result) :
    scan levels nodes (before.text ++ (value.render ++ rest)) = .ok result := by
  cases levels with
  | zero => cases scanned
  | succ levels =>
    rw [scan] at scanned ⊢
    rw [(skip_to_value before value rest).1]
    rw [skipWhitespace_of_stops (value.stops rest)] at scanned
    exact scanned

mutual

theorem scan_value (value : Value) {levels nodes : Nat} {rest : JsString} (shallow : value.reach < levels)
    (few : nodes + value.nodes ≤ 600000) (distinct : value.KeysDistinct) (stop : Stops endsNumber rest) :
    scan levels nodes (value.render ++ rest) = .ok (nodes + value.nodes, rest) := by
  rcases Nat.exists_eq_succ_of_ne_zero (Nat.ne_of_gt (Nat.zero_lt_of_lt shallow)) with ⟨levels, rfl⟩
  have counted : 1 ≤ value.nodes := by cases value <;> simp only [Value.nodes] <;> omega
  have bounded : ¬ nodes + 1 > 600000 := by omega
  rw [scan, if_neg bounded]
  dsimp only
  rw [skipWhitespace_of_stops (value.stops rest)]
  cases value with
  | null => rfl
  | true => rfl
  | false => rfl
  | number text valid =>
    have found := literalPrefix_number valid stop
    rcases number_head valid with ⟨u, tail, shape, first⟩
    have plain (v : CodeUnit) (apart : v ≠ minus) (digit : isDigit v = false) : (text ++ rest).head? ≠ some v := by
      rw [shape, List.cons_append, List.head?_cons, ne_eq, Option.some.injEq]
      intro same
      subst same
      rcases first with negative | positive
      · exact apart negative
      · rw [digit] at positive
        cases positive
    rw [Value.render, if_neg (plain quote (by decide) (by decide)),
      if_neg (not_or.mpr ⟨plain openBrace (by decide) (by decide), plain openBracket (by decide) (by decide)⟩), found]
    rfl
  | string t =>
    have head : (t.render ++ rest).head? = some quote := rfl
    rw [Value.render, if_pos head, token_render]
    rfl
  | emptyArray inner =>
    have closing := (skip_to_unit inner (u := closeBracket) (by decide) rest).1
    simp only [Value.render, List.cons_append, List.append_assoc, List.nil_append, List.head?_cons, List.tail_cons, closing]
    rfl
  | array items =>
    simp only [Value.reach, Value.nodes] at shallow few
    have few : nodes + 1 + items.nodes ≤ 600000 := by omega
    have inner : scanMembers (scan levels) false (skipWhitespace (items.render ++ rest)).length [] (nodes + 1)
        (skipWhitespace (items.render ++ rest)) = .ok (nodes + 1 + items.nodes, rest) :=
      scan_items items (items_count_le items rest) (Nat.lt_of_succ_lt_succ shallow) few distinct
    have opened := items_open items rest
    simp only [Value.render, Value.nodes, List.cons_append, List.head?_cons, List.tail_cons]
    rw [if_neg (by decide), if_pos (by decide)]
    simp only [Option.some.injEq, show ¬ openBracket = openBrace by decide, decide_false, Bool.false_eq_true, ↓reduceIte, opened]
    rw [inner, Nat.add_right_comm, Nat.add_assoc]
  | emptyObject inner =>
    have closing := (skip_to_unit inner (u := closeBrace) (by decide) rest).1
    simp only [Value.render, List.cons_append, List.append_assoc, List.nil_append, List.head?_cons, List.tail_cons, closing]
    rfl
  | object members =>
    simp only [Value.reach, Value.nodes] at shallow few
    have few : nodes + 1 + members.nodes ≤ 600000 := by omega
    have inner : scanMembers (scan levels) true (skipWhitespace (members.render ++ rest)).length [] (nodes + 1)
        (skipWhitespace (members.render ++ rest)) = .ok (nodes + 1 + members.nodes, rest) :=
      scan_members members (members_count_le members rest) (Nat.lt_of_succ_lt_succ shallow) few distinct.2 distinct.1 (by simp)
    have opened := members_open members rest
    simp only [Value.render, Value.nodes, List.cons_append, List.head?_cons, List.tail_cons]
    rw [if_neg (by decide), if_pos (by decide)]
    simp only [decide_true, ↓reduceIte, opened]
    rw [inner, Nat.add_right_comm, Nat.add_assoc]

theorem scan_items (items : Items) {levels nodes fuel : Nat} {keys : List JsString} {rest : JsString}
    (enough : items.count ≤ fuel) (shallow : items.reach < levels) (few : nodes + items.nodes ≤ 600000)
    (distinct : items.KeysDistinct) :
    scanMembers (scan levels) false fuel keys nodes (skipWhitespace (items.render ++ rest)) = .ok (nodes + items.nodes, rest) := by
  cases items with
  | last before value after =>
    rcases Nat.exists_eq_succ_of_ne_zero (Nat.ne_of_gt (Nat.lt_of_lt_of_le (Nat.zero_lt_succ 0) enough)) with ⟨fuel, rfl⟩
    have scanned := scan_value value shallow few distinct (stops_at_unit after (u := closeBracket) (by decide) rest)
    have closing := (skip_to_unit after (u := closeBracket) (by decide) rest).1
    simp only [Items.render, List.append_assoc, List.cons_append, List.nil_append, (skip_to_value before value _).1]
    exact scanMembers_close (value_append_ne value _) rfl scanned closing
  | cons before value after more =>
    simp only [Items.count, Items.reach, Items.nodes, Nat.max_lt] at enough shallow few
    rcases Nat.exists_eq_succ_of_ne_zero (Nat.ne_of_gt (Nat.lt_of_lt_of_le (Nat.zero_lt_succ _) enough)) with ⟨fuel, rfl⟩
    have scanned := scan_value value shallow.1 (by omega : nodes + value.nodes ≤ 600000) distinct.1
      (stops_at_unit after (u := comma) (by decide) (more.render ++ rest))
    have separator := (skip_to_unit after (u := comma) (by decide) (more.render ++ rest)).1
    simp only [Items.render, List.append_assoc, List.cons_append, (skip_to_value before value _).1]
    rw [scanMembers_next (value_append_ne value _) rfl scanned separator,
      scan_items more (by omega) shallow.2 (by omega) distinct.2, Items.nodes, Nat.add_assoc]

theorem scan_members (members : Members) {levels nodes fuel : Nat} {keys : List JsString} {rest : JsString}
    (enough : members.count ≤ fuel) (shallow : members.reach < levels) (few : nodes + members.nodes ≤ 600000)
    (distinct : members.KeysDistinct) (own : members.keys.Nodup) (fresh : ∀ key ∈ members.keys, key ∉ keys) :
    scanMembers (scan levels) true fuel keys nodes (skipWhitespace (members.render ++ rest)) =
      .ok (nodes + members.nodes, rest) := by
  cases members with
  | last before key afterKey beforeValue value after =>
    rcases Nat.exists_eq_succ_of_ne_zero (Nat.ne_of_gt (Nat.lt_of_lt_of_le (Nat.zero_lt_succ 0) enough)) with ⟨fuel, rfl⟩
    have scanned := scan_blank_value beforeValue value
      (scan_value value shallow few distinct (stops_at_unit after (u := closeBrace) (by decide) rest))
    have closing := (skip_to_unit after (u := closeBrace) (by decide) rest).1
    have keyed := memberStart_render key afterKey (fresh key.decoded List.mem_cons_self)
      (beforeValue.text ++ (value.render ++ (after.text ++ closeBrace :: rest)))
    simp only [Members.render, List.append_assoc, List.cons_append, List.nil_append]
    rw [skip_to_key]
    exact scanMembers_close (by simp [StringToken.render]) keyed scanned closing
  | cons before key afterKey beforeValue value after more =>
    simp only [Members.count, Members.reach, Members.nodes, Members.keys, Nat.max_lt, List.nodup_cons] at enough shallow few own fresh
    rcases Nat.exists_eq_succ_of_ne_zero (Nat.ne_of_gt (Nat.lt_of_lt_of_le (Nat.zero_lt_succ _) enough)) with ⟨fuel, rfl⟩
    have scanned := scan_blank_value beforeValue value
      (scan_value value shallow.1 (by omega : nodes + value.nodes ≤ 600000) distinct.1
        (stops_at_unit after (u := comma) (by decide) (more.render ++ rest)))
    have separator := (skip_to_unit after (u := comma) (by decide) (more.render ++ rest)).1
    have keyed := memberStart_render key afterKey (fresh key.decoded List.mem_cons_self)
      (beforeValue.text ++ (value.render ++ (after.text ++ comma :: (more.render ++ rest))))
    have others : ∀ other ∈ more.keys, other ∉ keys ++ [key.decoded] := by
      intro other member seen
      rcases List.mem_append.mp seen with seen | seen
      · exact fresh other (List.mem_cons_of_mem _ member) seen
      · exact own.1 (List.mem_singleton.mp seen ▸ member)
    simp only [Members.render, List.append_assoc, List.cons_append]
    rw [skip_to_key, scanMembers_next (by simp [StringToken.render]) keyed scanned separator,
      scan_members more (by omega) shallow.2 (by omega) distinct.2 own.2 others, Members.nodes, Nat.add_assoc]

end

end

/-! ### Inert data -/

/-- What `scheduleData` admits, but for its size. -/
structure Inert (v : Json) : Prop where
  reach : v.reach ≤ 28
  nodes : v.nodes ≤ 100000
  finite : v.EveryNumber fun d => d.isFinite = true

/-- What a visit of a value at this depth admits and counts. -/
def Visits (depth nodes n : Nat) (v : Json) : Prop :=
  depth + v.reach ≤ 28 ∧ nodes + v.nodes ≤ 100000 ∧ v.EveryNumber (fun d => d.isFinite = true) ∧ n = nodes + v.nodes

theorem visitItems_eq_ok {items : List Json} {depth nodes n : Nat} (within : nodes ≤ 100000)
    (each : ∀ item ∈ items, ∀ nodes n, visitData depth nodes item = .ok n ↔ Visits depth nodes n item) :
    visitItems depth nodes items = .ok n ↔ (∀ item ∈ items, depth + item.reach ≤ 28 ∧
      item.EveryNumber fun d => d.isFinite = true) ∧ nodes + Json.itemsNodes items ≤ 100000 ∧
        n = nodes + Json.itemsNodes items := by
  induction items generalizing nodes with
  | nil =>
    rw [visitItems, Json.itemsNodes, Except.ok.injEq]
    constructor
    · intro same
      exact ⟨fun item member => absurd member List.not_mem_nil, within, same.symm⟩
    · intro admitted
      exact admitted.2.2.symm
  | cons item rest ih =>
    rw [visitItems, bind_eq_ok, Json.itemsNodes, List.forall_mem_cons]
    constructor
    · intro visited
      rcases visited with ⟨middle, first, others⟩
      rcases (each item List.mem_cons_self nodes middle).mp first with ⟨shallow, few, finite, rfl⟩
      rcases (ih few fun other member => each other (List.mem_cons_of_mem _ member)).mp others with ⟨all, total, rfl⟩
      exact ⟨⟨⟨shallow, finite⟩, all⟩, by omega, by omega⟩
    · intro admitted
      rcases admitted with ⟨⟨⟨shallow, finite⟩, all⟩, total, rfl⟩
      refine ⟨nodes + item.nodes, ?_, ?_⟩
      · exact (each item List.mem_cons_self _ _).mpr ⟨shallow, by omega, finite, rfl⟩
      · have others := @ih (nodes + item.nodes) (by omega) fun other member => each other (List.mem_cons_of_mem _ member)
        exact others.mpr ⟨all, by omega, by omega⟩

theorem visitFields_eq (depth nodes : Nat) (fields : List (JsString × Json)) :
    visitFields depth nodes fields = visitItems depth nodes (fields.map Prod.snd) := by
  induction fields generalizing nodes with
  | nil => rfl
  | cons field rest ih => simp only [visitFields, visitItems, List.map_cons, ih]

theorem fieldsNodes_values (fields : List (JsString × Json)) :
    Json.fieldsNodes fields = Json.itemsNodes (fields.map Prod.snd) := by
  induction fields with
  | nil => rfl
  | cons field rest ih => rw [Json.fieldsNodes, List.map_cons, Json.itemsNodes, ih]

theorem bounded_eq_ok {depth nodes n : Nat} {message : JsString} {visited : Except JsString Nat} :
    (if depth > 28 ∨ nodes + 1 > 100000 then .error message else visited) = .ok n ↔
      depth ≤ 28 ∧ nodes + 1 ≤ 100000 ∧ visited = .ok n := by
  split
  · rename_i exceeded
    exact iff_of_false (fun thrown => by cases thrown) fun within => by omega
  · rename_i within
    exact ⟨fun visited => ⟨by omega, by omega, visited⟩, fun whole => whole.2.2⟩

theorem visits_leaf {depth nodes n : Nat} {v : Json} (reach : v.reach = 0) (one : v.nodes = 1)
    (finite : v.EveryNumber fun d => d.isFinite = true) :
    (depth ≤ 28 ∧ nodes + 1 ≤ 100000 ∧ (Except.ok (nodes + 1) : Except JsString Nat) = .ok n) ↔ Visits depth nodes n v := by
  rw [Visits, reach, one, Except.ok.injEq]
  constructor
  · intro visited
    exact ⟨visited.1, visited.2.1, finite, visited.2.2.symm⟩
  · intro visited
    exact ⟨visited.1, visited.2.1, visited.2.2.2.symm⟩

/-- The children of a container at depth 28 are too deep. -/
theorem visits_children {items : List Json} {depth nodes n : Nat} {v : Json}
    (reach : ∀ m, v.reach ≤ m ↔ ∀ item ∈ items, item.reach + 1 ≤ m) (total : v.nodes = Json.itemsNodes items + 1)
    (finite : v.EveryNumber (fun d => d.isFinite = true) ↔ ∀ item ∈ items, item.EveryNumber fun d => d.isFinite = true)
    (each : ∀ item ∈ items, ∀ depth nodes n, visitData depth nodes item = .ok n ↔ Visits depth nodes n item) :
    (depth ≤ 28 ∧ nodes + 1 ≤ 100000 ∧ visitItems (depth + 1) (nodes + 1) items = .ok n) ↔ Visits depth nodes n v := by
  rw [Visits, total, finite]
  constructor
  · intro visited
    rcases visited with ⟨shallow, few, visited⟩
    rcases (visitItems_eq_ok few fun item member => each item member (depth + 1)).mp visited with ⟨all, within, rfl⟩
    have deep := (reach (28 - depth)).mpr fun item member => by have bound := (all item member).1; omega
    exact ⟨by omega, by omega, fun item member => (all item member).2, by omega⟩
  · intro admitted
    rcases admitted with ⟨shallow, few, all, rfl⟩
    have deep := (reach (28 - depth)).mp (by omega)
    refine ⟨by omega, by omega, (visitItems_eq_ok (by omega) fun item member => each item member (depth + 1)).mpr ?_⟩
    exact ⟨fun item member => ⟨by have bound := deep item member; omega, all item member⟩, by omega, by omega⟩

theorem visitData_eq_ok (v : Json) (depth nodes n : Nat) : visitData depth nodes v = .ok n ↔ Visits depth nodes n v := by
  induction v using Json.children_induct generalizing depth nodes n with
  | null =>
    rw [visitData, bounded_eq_ok]
    exact visits_leaf rfl rfl .null
  | bool b =>
    rw [visitData, bounded_eq_ok]
    exact visits_leaf rfl rfl (.bool b)
  | string s =>
    rw [visitData, bounded_eq_ok]
    exact visits_leaf rfl rfl (.string s)
  | number d =>
    rw [visitData, bounded_eq_ok]
    split
    · rename_i finite
      exact visits_leaf rfl rfl (Json.everyNumber_number.mpr finite)
    · rename_i infinite
      refine iff_of_false (fun visited => by cases visited.2.2) fun visited => ?_
      exact infinite (Json.everyNumber_number.mp visited.2.2.1)
  | array items ih =>
    rw [visitData, bounded_eq_ok]
    exact visits_children (Json.reach_array items) rfl Json.everyNumber_array fun item member => ih item member
  | object fields ih =>
    rw [visitData, bounded_eq_ok, visitFields_eq]
    refine visits_children (fun m => ?_) (congrArg (· + 1) (fieldsNodes_values fields)) ?_ (List.forall_mem_map.mpr ih)
    · rw [Json.reach_object, List.forall_mem_map]
    · rw [Json.everyNumber_object, List.forall_mem_map]

theorem visitData_root {v : Json} {n : Nat} : visitData 0 0 v = .ok n ↔ Inert v ∧ n = v.nodes := by
  rw [visitData_eq_ok, Visits, Nat.zero_add, Nat.zero_add]
  constructor
  · intro visited
    exact ⟨⟨visited.1, visited.2.1, visited.2.2.1⟩, visited.2.2.2⟩
  · intro inert
    exact ⟨inert.1.reach, inert.1.nodes, inert.1.finite, inert.2⟩

section

variable [NumberRoundTrip]

theorem parsed_stringify {v : Json} (distinct : v.KeysDistinct) (literal : v.EveryNumber Double.Literal) :
    parsed (jsonStringify v) = .ok v.normal := by
  rw [parsed, jsonParse_stringify distinct literal]

theorem scheduleData_eq_ok {v result : Json} {maxBytes : Nat} (distinct : v.KeysDistinct)
    (literal : v.EveryNumber Double.Literal) : scheduleData v maxBytes = .ok result ↔
      Inert v ∧ utf8Length (jsonStringify v) ≤ maxBytes ∧ result = v.normal := by
  unfold scheduleData
  rw [bind_eq_ok]
  constructor
  · intro accepted
    rcases accepted with ⟨n, visited, rest⟩
    dsimp only at rest
    split at rest
    · cases rest
    · rename_i small
      rw [parsed_stringify distinct literal, Except.ok.injEq] at rest
      exact ⟨(visitData_root.mp visited).1, Nat.not_lt.mp small, rest.symm⟩
  · intro admitted
    rcases admitted with ⟨inert, small, rfl⟩
    refine ⟨v.nodes, visitData_root.mpr ⟨inert, rfl⟩, ?_⟩
    dsimp only
    rw [if_neg (Nat.not_lt.mpr small)]
    exact parsed_stringify distinct literal

/-! ### Declared schedules -/

/-- What `parseCheckpointSchedule` asks of the parts of a schedule, but for its inputs. -/
structure Declares (identity : ScheduleIdentity) (steps : List ScheduleStep) : Prop where
  digests : ∀ v ∈ identity.values, scheduleDigest v = true
  identifiers : ∀ step ∈ steps, scheduleIdentifier step.actor = true ∧
    (scheduleIdentifier step.checkpoint = true ∨ step.checkpoint = SCHEDULE_COMPLETION)
  few : steps.length ≤ 64

omit [NumberRoundTrip] in
theorem stepJson_normal (step : ScheduleStep) : step.json.normal = step.json := rfl

theorem schedule_normal (schedule : CheckpointSchedule) :
    schedule.json.normal = ({ schedule with inputs := schedule.inputs.normal } : CheckpointSchedule).json := by
  have steps : (schedule.steps.map ScheduleStep.json).map Json.normal = schedule.steps.map ScheduleStep.json := by
    rw [List.map_map]
    exact List.map_congr_left fun step _ => stepJson_normal step
  simp only [CheckpointSchedule.json, Json.normal, Json.normalFields_eq, Json.normalItems_eq, List.map_cons, List.map_nil,
    steps]
  rfl

omit [NumberRoundTrip] in
theorem scheduleStep_json {step : ScheduleStep} (actor : scheduleIdentifier step.actor = true)
    (checkpoint : scheduleIdentifier step.checkpoint = true ∨ step.checkpoint = SCHEDULE_COMPLETION) :
    scheduleStep step.json = .ok step := by
  have read : scheduleStep step.json =
      if scheduleIdentifier step.actor && (scheduleIdentifier step.checkpoint ||
        decide (step.checkpoint = SCHEDULE_COMPLETION)) then .ok step else .error (js "invalid schedule identifier") := rfl
  rw [read, if_pos]
  simpa [actor] using checkpoint

omit [NumberRoundTrip] in
theorem scheduleSteps_json {steps : List ScheduleStep} (identifiers : ∀ step ∈ steps, scheduleIdentifier step.actor = true ∧
    (scheduleIdentifier step.checkpoint = true ∨ step.checkpoint = SCHEDULE_COMPLETION)) :
    (steps.map ScheduleStep.json).mapM scheduleStep = .ok steps := by
  induction steps with
  | nil => rfl
  | cons step rest ih =>
    have first := identifiers step List.mem_cons_self
    rw [List.map_cons, List.mapM_cons, scheduleStep_json first.1 first.2,
      ih fun other member => identifiers other (List.mem_cons_of_mem _ member)]
    rfl

omit [NumberRoundTrip] in
theorem identityOf_json {identity : ScheduleIdentity} (digests : ∀ v ∈ identity.values, scheduleDigest v = true) :
    identityOf [(js "modelSemanticDigest", .string identity.modelSemanticDigest),
      (js "mappingSha256", .string identity.mappingSha256),
      (js "implementationSha256", .string identity.implementationSha256)] = some identity := by
  have read : identityOf [(js "modelSemanticDigest", .string identity.modelSemanticDigest),
      (js "mappingSha256", .string identity.mappingSha256),
      (js "implementationSha256", .string identity.implementationSha256)] =
      ((if scheduleDigest identity.modelSemanticDigest then some identity.modelSemanticDigest else none) >>= fun a =>
        (if scheduleDigest identity.mappingSha256 then some identity.mappingSha256 else none) >>= fun b =>
          (if scheduleDigest identity.implementationSha256 then some identity.implementationSha256 else none) >>= fun c =>
            some ⟨a, b, c⟩) := rfl
  rw [read, if_pos (digests _ (by simp [ScheduleIdentity.values])), if_pos (digests _ (by simp [ScheduleIdentity.values])),
    if_pos (digests _ (by simp [ScheduleIdentity.values]))]
  rfl

def scheduleFields (schedule : CheckpointSchedule) : Fields Json :=
  [(js "schema", .string SCHEDULE_SCHEMA), (js "profile", .string WORKER_SCHEDULE_PROFILE),
    (js "identity", schedule.identity.json), (js "inputs", schedule.inputs),
    (js "steps", .array (schedule.steps.map ScheduleStep.json))]

def identityFields (identity : ScheduleIdentity) : Fields Json :=
  [(js "modelSemanticDigest", .string identity.modelSemanticDigest),
    (js "mappingSha256", .string identity.mappingSha256),
    (js "implementationSha256", .string identity.implementationSha256)]

theorem scheduleOf_json {schedule : CheckpointSchedule} {data : Json} (declares : Declares schedule.identity schedule.steps)
    (inert : scheduleData schedule.inputs inputBytes = .ok data) : scheduleOf schedule.json = .ok schedule := by
  have exactly : scheduleExact schedule.json [js "schema", js "profile", js "identity", js "inputs", js "steps"] =
      .ok (scheduleFields schedule) := rfl
  have schema : Fields.get (scheduleFields schedule) (js "schema") = some (.string SCHEDULE_SCHEMA) := rfl
  have profile : Fields.get (scheduleFields schedule) (js "profile") = some (.string WORKER_SCHEDULE_PROFILE) := rfl
  have inputs : Fields.get (scheduleFields schedule) (js "inputs") = some schedule.inputs := rfl
  have steps : Fields.get (scheduleFields schedule) (js "steps") = some (.array (schedule.steps.map ScheduleStep.json)) := rfl
  have identity : scheduleExact ((Fields.get (scheduleFields schedule) (js "identity")).getD .null)
      [js "modelSemanticDigest", js "mappingSha256", js "implementationSha256"] = .ok (identityFields schedule.identity) := rfl
  have few : ¬ (schedule.steps.map ScheduleStep.json).length > 65536 := by
    rw [List.length_map]
    have bound := declares.few
    omega
  have valid : identityOf (identityFields schedule.identity) = some schedule.identity := identityOf_json declares.digests
  unfold scheduleOf
  simp only [exactly, identity, valid, ok_bind, schema, profile, inputs, steps, ne_eq, not_true_eq_false, false_or, if_neg few,
    scheduleSteps_json declares.identifiers, Option.getD_some, inert]
  rfl

omit [NumberRoundTrip] in
theorem steps_nodes (steps : List ScheduleStep) :
    Json.itemsNodes (steps.map ScheduleStep.json) = 3 * steps.length := by
  induction steps with
  | nil => rfl
  | cons step rest ih =>
    rw [List.map_cons, Json.itemsNodes, ih, List.length_cons, show step.json.nodes = 3 from rfl]
    omega

omit [NumberRoundTrip] in
theorem schedule_nodes (schedule : CheckpointSchedule) :
    schedule.json.nodes = 8 + schedule.inputs.nodes + 3 * schedule.steps.length := by
  have whole : schedule.json.nodes = 1 + (1 + (4 + (schedule.inputs.nodes +
      (Json.itemsNodes (schedule.steps.map ScheduleStep.json) + 1 + 0)))) + 1 := rfl
  rw [whole, steps_nodes]
  omega

omit [NumberRoundTrip] in
theorem schedule_reach {schedule : CheckpointSchedule} (shallow : schedule.inputs.reach ≤ 28) : schedule.json.reach ≤ 29 := by
  have steps : (Json.array (schedule.steps.map ScheduleStep.json)).reach ≤ 28 := by
    rw [Json.reach_array, List.forall_mem_map]
    intro step _
    exact (by decide : 1 + 1 ≤ 28)
  rw [CheckpointSchedule.json, Json.reach_object]
  simp only [List.forall_mem_cons]
  exact ⟨(by decide : 0 + 1 ≤ 29), (by decide : 0 + 1 ≤ 29), (by decide : 1 + 1 ≤ 29), by omega, by omega, by simp⟩

omit [NumberRoundTrip] in
theorem schedule_keysDistinct {schedule : CheckpointSchedule} (distinct : schedule.inputs.KeysDistinct) :
    schedule.json.KeysDistinct := by
  have string (s : JsString) : (Json.string s).KeysDistinct := .string s
  have step (step : ScheduleStep) : step.json.KeysDistinct :=
    .object (by decide : [js "actor", js "checkpoint"].Nodup) (by simp [string])
  have identity : schedule.identity.json.KeysDistinct :=
    .object (by decide : [js "modelSemanticDigest", js "mappingSha256", js "implementationSha256"].Nodup) (by simp [string])
  refine .object (by decide : [js "schema", js "profile", js "identity", js "inputs", js "steps"].Nodup) ?_
  simp only [List.forall_mem_cons]
  refine ⟨string _, string _, identity, distinct, ?_, by simp⟩
  exact .array (List.forall_mem_map.mpr fun s _ => step s)

omit [NumberRoundTrip] in
/-- The only numbers of a schedule are those of its inputs. -/
theorem schedule_everyNumber {p : Double → Prop} {schedule : CheckpointSchedule} (literal : schedule.inputs.EveryNumber p) :
    schedule.json.EveryNumber p := by
  have string (s : JsString) : (Json.string s).EveryNumber p := .string s
  refine .object ?_
  simp only [List.forall_mem_cons]
  refine ⟨string _, string _, .object (by simp [string]), literal, ?_, by simp⟩
  exact .array (List.forall_mem_map.mpr fun step _ => .object (by simp [string]))

theorem inert_normal {v : Json} (inert : Inert v) : Inert v.normal where
  reach := by rw [(Json.normal_keeps v).2]; exact inert.reach
  nodes := by rw [(Json.normal_keeps v).1]; exact inert.nodes
  finite := Json.normal_everyNumber (fun d finite => by rw [Double.unsigned_isFinite]; exact finite) inert.finite

omit [NumberRoundTrip] in
theorem intercalate_length {texts : List JsString} {bound : Nat} (each : ∀ text ∈ texts, text.length ≤ bound) :
    ((js ",").intercalate texts).length ≤ (bound + 1) * texts.length := by
  induction texts with
  | nil => simp
  | cons text rest ih =>
    have first := each text List.mem_cons_self
    have others := ih fun other member => each other (List.mem_cons_of_mem _ member)
    cases rest with
    | nil =>
      simp only [List.intercalate_singleton, List.length_singleton]
      omega
    | cons next rest =>
      have separator : (js ",").length = 1 := rfl
      rw [List.intercalate_cons_cons, List.length_append, List.length_append, List.length_cons, Nat.mul_succ, separator]
      omega

theorem stringField_length (key s : JsString) :
    (quoteJson key ++ colon :: jsonStringify (.string s)).length ≤ 6 * key.length + 6 * s.length + 5 := by
  have first := quoteJson_length key
  have second := quoteJson_length s
  rw [jsonStringify, List.length_append, List.length_cons]
  omega

theorem step_length {step : ScheduleStep} (actor : step.actor.length ≤ 128) (checkpoint : step.checkpoint.length ≤ 128) :
    (jsonStringify step.json).length ≤ 1700 := by
  have each : ∀ text ∈ ECMA.stringifyFields [(js "actor", Json.string step.actor), (js "checkpoint", .string step.checkpoint)],
      text.length ≤ 840 := by
    rw [stringifyFields_map]
    intro text member
    simp only [List.map_cons, List.map_nil, List.mem_cons, List.not_mem_nil, or_false] at member
    rcases member with rfl | rfl
    · have bound := stringField_length (js "actor") step.actor
      have key : (js "actor").length = 5 := rfl
      omega
    · have bound := stringField_length (js "checkpoint") step.checkpoint
      have key : (js "checkpoint").length = 10 := rfl
      omega
  have texts := intercalate_length each
  rw [ScheduleStep.json, jsonStringify, List.length_cons, List.length_append, List.length_singleton]
  rw [stringifyFields_map, List.length_map] at texts
  rw [stringifyFields_map]
  simp only [List.length_cons, List.length_nil] at texts
  omega

omit [NumberRoundTrip] in
theorem identifier_length {v : JsString} (identifier : scheduleIdentifier v = true) : v.length ≤ 128 := by
  simp only [scheduleIdentifier, Bool.and_eq_true, decide_eq_true_eq] at identifier
  exact identifier.1.2

omit [NumberRoundTrip] in
theorem Declares.short {identity : ScheduleIdentity} {steps : List ScheduleStep} (declares : Declares identity steps) :
    (∀ v ∈ identity.values, v.length = 64) ∧ ∀ step ∈ steps, step.actor.length ≤ 128 ∧ step.checkpoint.length ≤ 128 := by
  constructor
  · intro v member
    have digest := declares.digests v member
    simp only [scheduleDigest, Bool.and_eq_true, decide_eq_true_eq] at digest
    exact digest.1
  · intro step member
    rcases declares.identifiers step member with ⟨actor, checkpoint | completion⟩
    · exact ⟨identifier_length actor, identifier_length checkpoint⟩
    · rw [completion]
      exact ⟨identifier_length actor, by decide⟩

theorem identity_length {identity : ScheduleIdentity} (digests : ∀ v ∈ identity.values, v.length = 64) :
    (jsonStringify identity.json).length ≤ 1700 := by
  have each : ∀ text ∈ ECMA.stringifyFields (identityFields identity), text.length ≤ 540 := by
    rw [stringifyFields_map]
    intro text member
    simp only [identityFields, List.map_cons, List.map_nil, List.mem_cons, List.not_mem_nil, or_false] at member
    rcases member with rfl | rfl | rfl
    · have bound := stringField_length (js "modelSemanticDigest") identity.modelSemanticDigest
      have key : (js "modelSemanticDigest").length = 19 := rfl
      have value := digests identity.modelSemanticDigest (by simp [ScheduleIdentity.values])
      omega
    · have bound := stringField_length (js "mappingSha256") identity.mappingSha256
      have key : (js "mappingSha256").length = 13 := rfl
      have value := digests identity.mappingSha256 (by simp [ScheduleIdentity.values])
      omega
    · have bound := stringField_length (js "implementationSha256") identity.implementationSha256
      have key : (js "implementationSha256").length = 20 := rfl
      have value := digests identity.implementationSha256 (by simp [ScheduleIdentity.values])
      omega
  have texts := intercalate_length each
  have three : (ECMA.stringifyFields (identityFields identity)).length = 3 := by
    rw [stringifyFields_map, List.length_map]
    rfl
  have shape : identity.json = .object (identityFields identity) := rfl
  rw [shape, jsonStringify, List.length_cons, List.length_append, List.length_singleton]
  rw [three] at texts
  omega

/-- The steps are few and short. -/
theorem declaration_size {schedule : CheckpointSchedule} (declares : Declares schedule.identity schedule.steps)
    (small : utf8Length (jsonStringify schedule.inputs) ≤ inputBytes) :
    utf8Length (jsonStringify schedule.json) ≤ 8 * 1048576 := by
  rcases declares.short with ⟨digests, steps⟩
  have few := declares.few
  have identity := identity_length digests
  have stepTexts : ((js ",").intercalate (ECMA.stringifyItems (schedule.steps.map ScheduleStep.json))).length ≤
      1701 * schedule.steps.length := by
    have each : ∀ text ∈ ECMA.stringifyItems (schedule.steps.map ScheduleStep.json), text.length ≤ 1700 := by
      rw [stringifyItems_map, List.forall_mem_map, List.forall_mem_map]
      intro step member
      exact step_length (steps step member).1 (steps step member).2
    have texts := intercalate_length each
    rw [stringifyItems_map, List.length_map, List.length_map] at texts
    rw [stringifyItems_map]
    exact texts
  have whole : jsonStringify schedule.json =
      (openBrace :: ((quoteJson (js "schema") ++ colon :: quoteJson SCHEDULE_SCHEMA) ++ (js "," ++
        ((quoteJson (js "profile") ++ colon :: quoteJson WORKER_SCHEDULE_PROFILE) ++ (js "," ++
          ((quoteJson (js "identity") ++ colon :: jsonStringify schedule.identity.json) ++ (js "," ++
            (quoteJson (js "inputs") ++ [colon])))))))) ++
      (jsonStringify schedule.inputs ++ (js "," ++ (quoteJson (js "steps") ++ (colon :: openBracket ::
        ((js ",").intercalate (ECMA.stringifyItems (schedule.steps.map ScheduleStep.json)) ++
          [closeBracket, closeBrace]))))) := by
    simp only [CheckpointSchedule.json, jsonStringify, stringifyFields_map, List.map_cons, List.map_nil,
      List.intercalate_cons_cons, List.intercalate_singleton, List.append_assoc, List.cons_append, List.nil_append]
  rw [whole]
  refine Nat.le_trans (utf8Length_append_le _ _) ?_
  refine Nat.le_trans (Nat.add_le_add (utf8Length_le _) (utf8Length_append_le _ _)) ?_
  have after := utf8Length_le (js "," ++ (quoteJson (js "steps") ++ (colon :: openBracket ::
    ((js ",").intercalate (ECMA.stringifyItems (schedule.steps.map ScheduleStep.json)) ++ [closeBracket, closeBrace]))))
  have separator : (js ",").length = 1 := rfl
  have schema : (quoteJson (js "schema")).length = 8 := rfl
  have schemaText : (quoteJson SCHEDULE_SCHEMA).length = 32 := rfl
  have profile : (quoteJson (js "profile")).length = 9 := rfl
  have profileText : (quoteJson WORKER_SCHEDULE_PROFILE).length = 34 := rfl
  have identityKey : (quoteJson (js "identity")).length = 10 := rfl
  have inputs : (quoteJson (js "inputs")).length = 8 := rfl
  have stepsKey : (quoteJson (js "steps")).length = 7 := rfl
  unfold inputBytes at small
  simp only [List.length_append, List.length_cons, List.length_nil, separator, schema, schemaText, profile, profileText,
    identityKey, inputs, stepsKey] at after ⊢
  omega

/-- A declared schedule is read back, with its inputs in normal form. -/
theorem parse_declaration {schedule : CheckpointSchedule} {data : Json}
    (declares : Declares schedule.identity schedule.steps) (distinct : schedule.inputs.KeysDistinct)
    (literal : schedule.inputs.EveryNumber Double.Literal) (inert : scheduleData schedule.inputs inputBytes = .ok data) :
    parseCheckpointSchedule (jsonStringify schedule.json) =
      .ok { schedule with inputs := schedule.inputs.normal } := by
  rcases (scheduleData_eq_ok distinct literal).mp inert with ⟨admitted, small, _⟩
  have few := declares.few
  have nodes := admitted.nodes
  have shallow : (stringified schedule.json).reach < 33 := by
    rw [Nat.lt_succ_iff, stringified_reach]
    exact Nat.le_trans (schedule_reach admitted.reach) (by decide)
  have count : 0 + (stringified schedule.json).nodes ≤ 600000 := by
    rw [stringified_nodes, schedule_nodes]
    omega
  have scanned : scan 33 0 ((stringified schedule.json).render ++ []) = .ok (0 + (stringified schedule.json).nodes, []) :=
    scan_value (stringified schedule.json) shallow count (stringified_keysDistinct (schedule_keysDistinct distinct))
      (Stops.nil _)
  rw [List.append_nil, stringified_render] at scanned
  have again : scheduleData schedule.inputs.normal inputBytes = .ok schedule.inputs.normal.normal := by
    refine (scheduleData_eq_ok (Json.normal_keysDistinct distinct)
      (Json.normal_everyNumber literal_unsigned literal)).mpr ⟨inert_normal admitted, ?_, rfl⟩
    rw [stringify_normal]
    exact small
  have read := parsed_stringify (schedule_keysDistinct distinct) (schedule_everyNumber literal)
  rw [schedule_normal] at read
  unfold parseCheckpointSchedule
  rw [if_neg (Nat.not_lt.mpr (declaration_size declares small))]
  simp only [scanned, ok_bind, read]
  exact @scheduleOf_json _ { schedule with inputs := schedule.inputs.normal } _ declares again

omit [NumberRoundTrip] in
theorem identityOf_digests {identity own : ScheduleIdentity} (read : identityOf (identityFields identity) = some own) :
    ∀ v ∈ identity.values, scheduleDigest v = true := by
  have unfolded : identityOf (identityFields identity) =
      ((if scheduleDigest identity.modelSemanticDigest then some identity.modelSemanticDigest else none) >>= fun a =>
        (if scheduleDigest identity.mappingSha256 then some identity.mappingSha256 else none) >>= fun b =>
          (if scheduleDigest identity.implementationSha256 then some identity.implementationSha256 else none) >>= fun c =>
            some ⟨a, b, c⟩) := rfl
  simp only [unfolded, Option.bind_eq_bind, Option.bind_eq_some_iff, Option.ite_none_right_eq_some] at read
  rcases read with ⟨_, ⟨first, _⟩, _, ⟨second, _⟩, _, ⟨third, _⟩, _⟩
  intro v member
  simp only [ScheduleIdentity.values, List.mem_cons, List.not_mem_nil, or_false] at member
  rcases member with rfl | rfl | rfl
  · exact first
  · exact second
  · exact third

theorem scheduleOf_digests {schedule result : CheckpointSchedule} (read : scheduleOf schedule.json = .ok result) :
    ∀ v ∈ schedule.identity.values, scheduleDigest v = true := by
  have exactly : scheduleExact schedule.json [js "schema", js "profile", js "identity", js "inputs", js "steps"] =
      .ok (scheduleFields schedule) := rfl
  have identity : scheduleExact ((Fields.get (scheduleFields schedule) (js "identity")).getD .null)
      [js "modelSemanticDigest", js "mappingSha256", js "implementationSha256"] = .ok (identityFields schedule.identity) := rfl
  unfold scheduleOf at read
  simp only [exactly, identity, ok_bind] at read
  cases own : identityOf (identityFields schedule.identity) with
  | some own => exact identityOf_digests ‹_›
  | none =>
    rw [own] at read
    split at read
    · rename_i same
      cases same
    · cases read

/-- Only an identity of three digests is read. -/
theorem digests_of_parse {schedule result : CheckpointSchedule} (distinct : schedule.inputs.KeysDistinct)
    (literal : schedule.inputs.EveryNumber Double.Literal)
    (read : parseCheckpointSchedule (jsonStringify schedule.json) = .ok result) :
    ∀ v ∈ schedule.identity.values, scheduleDigest v = true := by
  have back := parsed_stringify (schedule_keysDistinct distinct) (schedule_everyNumber literal)
  rw [schedule_normal] at back
  unfold parseCheckpointSchedule at read
  split at read
  · cases read
  rw [bind_eq_ok] at read
  rcases read with ⟨⟨_, rest⟩, _, read⟩
  dsimp only at read
  split at read
  · cases read
  rw [back] at read
  exact @scheduleOf_digests _ { schedule with inputs := schedule.inputs.normal } result read

end

end Mirror.Schedule
