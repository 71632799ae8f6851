import MirrorECMA.Corpus.Artifacts
import MirrorECMA.ECMA.SafeTrees
import MirrorECMA.ModelInterface.StrictJsonExact

namespace Mirror.Corpus.ArtifactJsonParser

open ECMA ECMA.Grammar
open Mirror.ModelInterface
open Mirror.ModelInterface.StrictJsonParser (SyntaxFailure failSyntax literal nestingExceeded)

/-- Only safe integers are read. -/
def SafeNumbers (json : Json) : Prop := json.EveryNumber fun d => d.isSafeInteger = true

theorem nodes_pos (json : Json) : 0 < json.nodes := by cases json <;> simp [Json.nodes]

theorem unless_failed {α : Type} {condition : Prop} [Decidable condition] {rest message : JsString} {next : Except SyntaxFailure α}
    {result : α} : (if condition then failSyntax rest message else next) = .ok result ↔ ¬ condition ∧ next = .ok result := by
  by_cases failed : condition
  · rw [if_pos failed]
    exact iff_of_false (fun read => by cases read) fun both => both.1 failed
  · rw [if_neg failed]
    exact (and_iff_right failed).symm

/-! ### The loops -/

section

variable {strict : JsString → Except SyntaxFailure (Json × JsString)} {fuel : Nat} {keys : List JsString} {rest after : JsString}
  {json : Json}

theorem arrayLoop_extends {result : List Json} (read : StrictJsonParser.arrayLoop strict fuel result rest = .ok (json, after)) :
    ∃ items, json = .array (result ++ items) := by
  induction fuel generalizing result rest with
  | zero => cases read
  | succ fuel ih =>
    simp only [StrictJsonParser.arrayLoop, bind_eq_ok, Prod.exists] at read
    rcases read with ⟨item, next, _, read⟩
    split at read
    · cases read
      exact ⟨[item], rfl⟩
    · split at read
      · cases read
      · rcases ih read with ⟨items, rfl⟩
        exact ⟨item :: items, by rw [List.append_assoc, List.singleton_append]⟩

theorem keys_append (result fields : Fields Json) : Fields.keys (result ++ fields) = Fields.keys result ++ Fields.keys fields :=
  List.map_append

theorem objectLoop_extends {result : Fields Json} (known : keys = Fields.keys result)
    (read : StrictJsonParser.objectLoop strict fuel keys result rest = .ok (json, after)) :
    ∃ fields, json = .object (result ++ fields) := by
  induction fuel generalizing keys result rest with
  | zero => cases read
  | succ fuel ih =>
    simp only [StrictJsonParser.objectLoop] at read
    split at read
    · cases read
    simp only [bind_eq_ok, Prod.exists] at read
    rcases read with ⟨key, next, _, read⟩
    split at read
    · cases read
    rename_i fresh
    rw [known] at fresh
    split at read
    · cases read
    simp only [bind_eq_ok, Prod.exists, Fields.set_fresh fresh] at read
    rcases read with ⟨item, next, _, read⟩
    split at read
    · cases read
      exact ⟨[(key, item)], rfl⟩
    · split at read
      · cases read
      · have more : keys ++ [key] = Fields.keys (result ++ [(key, item)]) := by rw [known, keys_append]; rfl
        rcases ih more read with ⟨fields, rfl⟩
        exact ⟨(key, item) :: fields, by rw [List.append_assoc, List.singleton_append]⟩

/-- A reader that reads what another reads, when its numbers are safe integers and the budget covers its values. -/
def Budgeted (strict : JsString → Except SyntaxFailure (Json × JsString)) (read : JsString → Nat → Read) : Prop :=
  ∀ rest nodes json after left, read rest nodes = .ok (json, after, left) ↔
    strict rest = .ok (json, after) ∧ SafeNumbers json ∧ nodes = left + json.nodes

variable {read : JsString → Nat → Read} {nodes left : Nat}

theorem arrayLoop_budgeted (budgeted : Budgeted strict read) {result : List Json} :
    arrayLoop read fuel result rest nodes = .ok (json, after, left) ↔
      ∃ items, json = .array (result ++ items) ∧ StrictJsonParser.arrayLoop strict fuel result rest = .ok (json, after) ∧
        (∀ item ∈ items, SafeNumbers item) ∧ nodes = left + (items.map Json.nodes).sum := by
  induction fuel generalizing result rest nodes with
  | zero => exact ⟨fun read => (by cases read), fun ⟨_, _, read, _⟩ => by cases read⟩
  | succ fuel ih =>
    simp only [arrayLoop, StrictJsonParser.arrayLoop, bind_eq_ok, Prod.exists, budgeted _ _ _ _ _]
    constructor
    · rintro ⟨item, next, remaining, ⟨first, safe, rfl⟩, parsed⟩
      split at parsed
      · rename_i closing
        cases parsed
        exact ⟨[item], rfl, ⟨item, next, first, if_pos closing⟩, List.forall_mem_singleton.mpr safe, by simp⟩
      · rename_i more
        rw [unless_failed] at parsed
        rcases ih.mp parsed.2 with ⟨items, rfl, loop, others, rfl⟩
        refine ⟨item :: items, by rw [List.append_assoc, List.singleton_append], ⟨item, next, first, ?_⟩,
          List.forall_mem_cons.mpr ⟨safe, others⟩, ?_⟩
        · rw [if_neg more, unless_failed]
          exact ⟨parsed.1, loop⟩
        · rw [List.map_cons, List.sum_cons]
          omega
    · rintro ⟨items, rfl, ⟨item, next, first, parsed⟩, safe, rfl⟩
      split at parsed
      · rename_i closing
        simp only [Except.ok.injEq, Prod.mk.injEq, Json.array.injEq, List.append_cancel_left_eq] at parsed
        rcases parsed with ⟨rfl, rfl⟩
        refine ⟨item, next, left, ⟨first, safe item (List.mem_singleton.mpr rfl), by simp⟩, ?_⟩
        rw [if_pos closing]
      · rename_i more
        rw [unless_failed] at parsed
        rcases arrayLoop_extends parsed.2 with ⟨others, same⟩
        simp only [Json.array.injEq, List.append_assoc, List.singleton_append, List.append_cancel_left_eq] at same
        subst same
        rcases List.forall_mem_cons.mp safe with ⟨own, later⟩
        refine ⟨item, next, left + (others.map Json.nodes).sum, ⟨first, own, ?_⟩, ?_⟩
        · rw [List.map_cons, List.sum_cons]
          omega
        · rw [if_neg more, unless_failed]
          exact ⟨parsed.1, ih.mpr ⟨others, by rw [List.append_assoc, List.singleton_append], parsed.2, later, rfl⟩⟩

theorem objectLoop_budgeted (budgeted : Budgeted strict read) {result : Fields Json} (known : keys = Fields.keys result) :
    objectLoop read fuel keys result rest nodes = .ok (json, after, left) ↔
      ∃ fields, json = .object (result ++ fields) ∧ StrictJsonParser.objectLoop strict fuel keys result rest = .ok (json, after) ∧
        (∀ field ∈ fields, SafeNumbers field.2) ∧ nodes = left + (fields.map fun field => field.2.nodes).sum := by
  induction fuel generalizing keys result rest nodes with
  | zero => exact ⟨fun read => (by cases read), fun ⟨_, _, read, _⟩ => by cases read⟩
  | succ fuel ih =>
    simp only [objectLoop, StrictJsonParser.objectLoop, string, unless_failed, bind_eq_ok, Prod.exists, budgeted _ _ _ _ _]
    constructor
    · rintro ⟨opening, key, afterKey, keyRead, fresh, named, item, next, remaining, ⟨first, safe, rfl⟩, parsed⟩
      rw [Fields.set_fresh (known ▸ fresh)] at parsed
      split at parsed
      · rename_i closing
        cases parsed
        refine ⟨[(key, item)], rfl, ⟨opening, key, afterKey, keyRead, fresh, named, item, next, first, ?_⟩,
          List.forall_mem_singleton.mpr safe, by simp⟩
        rw [if_pos closing, Fields.set_fresh (known ▸ fresh)]
      · rename_i more
        rw [unless_failed] at parsed
        have grown : keys ++ [key] = Fields.keys (result ++ [(key, item)]) := by rw [known, keys_append]; rfl
        rcases (ih grown).mp parsed.2 with ⟨fields, rfl, loop, others, rfl⟩
        refine ⟨(key, item) :: fields, by rw [List.append_assoc, List.singleton_append],
          ⟨opening, key, afterKey, keyRead, fresh, named, item, next, first, ?_⟩, List.forall_mem_cons.mpr ⟨safe, others⟩, ?_⟩
        · rw [if_neg more, unless_failed, Fields.set_fresh (known ▸ fresh)]
          exact ⟨parsed.1, loop⟩
        · rw [List.map_cons, List.sum_cons]
          dsimp only
          omega
    · rintro ⟨fields, rfl, ⟨opening, key, afterKey, keyRead, fresh, named, item, next, first, parsed⟩, safe, rfl⟩
      rw [Fields.set_fresh (known ▸ fresh)] at parsed
      refine ⟨opening, key, afterKey, keyRead, fresh, named, item, next, ?_⟩
      rw [Fields.set_fresh (known ▸ fresh)]
      split at parsed
      · rename_i closing
        simp only [Except.ok.injEq, Prod.mk.injEq, Json.object.injEq, List.append_cancel_left_eq] at parsed
        rcases parsed with ⟨rfl, rfl⟩
        refine ⟨left, ⟨first, safe _ (List.mem_singleton.mpr rfl), by simp⟩, ?_⟩
        rw [if_pos closing]
      · rename_i more
        rw [unless_failed] at parsed
        have grown : keys ++ [key] = Fields.keys (result ++ [(key, item)]) := by rw [known, keys_append]; rfl
        rcases objectLoop_extends grown parsed.2 with ⟨others, same⟩
        simp only [Json.object.injEq, List.append_assoc, List.singleton_append, List.append_cancel_left_eq] at same
        subst same
        rcases List.forall_mem_cons.mp safe with ⟨own, later⟩
        refine ⟨left + (others.map fun field => field.2.nodes).sum, ⟨first, own, ?_⟩, ?_⟩
        · rw [List.map_cons, List.sum_cons]
          dsimp only
          omega
        · rw [if_neg more, unless_failed]
          exact ⟨parsed.1, (ih grown).mpr ⟨others, by rw [List.append_assoc, List.singleton_append], parsed.2, later, rfl⟩⟩

end

/-! ### Values -/

theorem token_budgeted {own other : Except SyntaxFailure (Json × JsString)} {json : Json} {after : JsString} {nodes left : Nat}
    (same : own = .ok (json, after) ↔ other = .ok (json, after) ∧ SafeNumbers json) (single : other = .ok (json, after) → json.nodes = 1) :
    token own nodes = .ok (json, after, left) ↔
      other = .ok (json, after) ∧ SafeNumbers json ∧ nodes + 1 = left + json.nodes := by
  unfold token
  simp only [bind_eq_ok, Prod.exists, pure_eq_ok, Except.ok.injEq, Prod.mk.injEq]
  constructor
  · rintro ⟨_, _, read, rfl, rfl, rfl⟩
    rcases same.mp read with ⟨found, safe⟩
    exact ⟨found, safe, by rw [single found]⟩
  · rintro ⟨found, safe, budget⟩
    rw [single found] at budget
    exact ⟨_, _, same.mpr ⟨found, safe⟩, rfl, rfl, by omega⟩

theorem empty_budgeted {empty json : Json} {rest after : JsString} {nodes left : Nat} (single : empty.nodes = 1) (safe : SafeNumbers empty) :
    (.ok (empty, rest, nodes) : Read) = .ok (json, after, left) ↔
      (.ok (empty, rest) : Except SyntaxFailure (Json × JsString)) = .ok (json, after) ∧ SafeNumbers json ∧ nodes + 1 = left + json.nodes := by
  simp only [Except.ok.injEq, Prod.mk.injEq]
  constructor
  · rintro ⟨rfl, rfl, rfl⟩
    exact ⟨⟨rfl, rfl⟩, safe, by rw [single]⟩
  · rintro ⟨⟨rfl, rfl⟩, _, budget⟩
    rw [single] at budget
    exact ⟨rfl, rfl, by omega⟩

theorem literal_budgeted {source rest after : JsString} {result json : Json} {nodes left : Nat} (safe : SafeNumbers result)
    (single : result.nodes = 1) : token (literal source result rest) nodes = .ok (json, after, left) ↔
      literal source result rest = .ok (json, after) ∧ SafeNumbers json ∧ nodes + 1 = left + json.nodes := by
  refine token_budgeted ⟨fun read => ⟨read, ?_⟩, And.left⟩ fun read => ?_
  · rw [(StrictJsonParser.literal_sound read).2]
    exact safe
  · rw [(StrictJsonParser.literal_sound read).2]
    exact single

variable [NumberConversion]

theorem number_safe {rest after : JsString} {json : Json} :
    number rest = .ok (json, after) ↔ StrictJsonParser.number rest = .ok (json, after) ∧ SafeNumbers json := by
  unfold number StrictJsonParser.number
  cases numberPrefix rest with
  | none => exact ⟨fun read => (by cases read), fun read => by cases read.1⟩
  | some found =>
    rcases found with ⟨text, rest⟩
    dsimp only
    by_cases safe : (NumberConversion.number text).isSafeInteger = true
    · rw [if_pos safe, if_pos (Json.isSafeInteger_finite safe)]
      constructor
      · intro read
        cases read
        exact ⟨rfl, .number safe⟩
      · exact And.left
    · rw [if_neg safe]
      refine iff_of_false (fun read => by cases read) fun both => ?_
      split at both
      · rcases both with ⟨read, numbers⟩
        cases read
        exact safe (Json.everyNumber_number.mp numbers)
      · cases both.1

theorem value_budgeted (levels : Nat) : Budgeted (StrictJsonParser.value levels) (value levels) := by
  induction levels using Nat.strongRecOn with
  | ind levels ih =>
    intro rest nodes json after left
    unfold value StrictJsonParser.value
    cases nodes with
    | zero =>
      refine iff_of_false (fun read => by cases read) fun both => ?_
      have positive := nodes_pos json
      omega
    | succ nodes =>
      dsimp only
      cases skipWhitespace rest with
      | nil => exact iff_of_false (fun read => by cases read) fun both => by cases both.1
      | cons char tail =>
        dsimp only
        by_cases isObject : char = openBrace
        · simp only [if_pos isObject]
          cases levels with
          | zero => exact iff_of_false (fun read => by cases read) fun both => by cases both.1
          | succ levels =>
            dsimp only
            by_cases closing : (skipWhitespace tail).head? = some closeBrace
            · simp only [if_pos closing]
              exact empty_budgeted rfl (.object fun _ member => by cases member)
            · simp only [if_neg closing]
              have none : ([] : List JsString) = Fields.keys ([] : Fields Json) := rfl
              rw [objectLoop_budgeted (ih levels (Nat.lt_succ_self _)) none]
              constructor
              · rintro ⟨fields, rfl, read, safe, rfl⟩
                refine ⟨read, .object safe, ?_⟩
                rw [List.nil_append, Json.nodes, Json.fieldsNodes_eq]
                omega
              · rintro ⟨read, safe, budget⟩
                rcases objectLoop_extends none read with ⟨fields, rfl⟩
                rw [List.nil_append, Json.nodes, Json.fieldsNodes_eq] at budget
                exact ⟨fields, rfl, read, Json.everyNumber_object.mp safe, by omega⟩
        simp only [if_neg isObject]
        by_cases isArray : char = openBracket
        · simp only [if_pos isArray]
          cases levels with
          | zero => exact iff_of_false (fun read => by cases read) fun both => by cases both.1
          | succ levels =>
            dsimp only
            by_cases closing : (skipWhitespace tail).head? = some closeBracket
            · simp only [if_pos closing]
              exact empty_budgeted rfl (.array fun _ member => by cases member)
            · simp only [if_neg closing]
              rw [arrayLoop_budgeted (ih levels (Nat.lt_succ_self _))]
              constructor
              · rintro ⟨items, rfl, read, safe, rfl⟩
                refine ⟨read, .array safe, ?_⟩
                rw [List.nil_append, Json.nodes, Json.itemsNodes_eq]
                omega
              · rintro ⟨read, safe, budget⟩
                rcases arrayLoop_extends read with ⟨items, rfl⟩
                rw [List.nil_append, Json.nodes, Json.itemsNodes_eq] at budget
                exact ⟨items, rfl, read, Json.everyNumber_array.mp safe, by omega⟩
        simp only [if_neg isArray]
        by_cases isString : char = Grammar.quote
        · simp only [if_pos isString, string, bind_eq_ok, Prod.exists, pure_eq_ok, Except.ok.injEq, Prod.mk.injEq]
          constructor
          · rintro ⟨text, next, read, rfl, rfl, rfl⟩
            exact ⟨⟨text, next, read, rfl, rfl⟩, .string text, rfl⟩
          · rintro ⟨⟨text, next, read, rfl, rfl⟩, _, budget⟩
            exact ⟨text, next, read, rfl, rfl, Nat.succ.inj budget⟩
        simp only [if_neg isString]
        by_cases isTrue : char = 0x74
        · simp only [if_pos isTrue]
          exact literal_budgeted (.bool true) rfl
        simp only [if_neg isTrue]
        by_cases isFalse : char = 0x66
        · simp only [if_pos isFalse]
          exact literal_budgeted (.bool false) rfl
        simp only [if_neg isFalse]
        by_cases isNull : char = 0x6E
        · simp only [if_pos isNull]
          exact literal_budgeted .null rfl
        simp only [if_neg isNull]
        by_cases isNumber : char = minus ∨ isDigit char = true
        · simp only [if_pos isNumber]
          refine token_budgeted number_safe fun read => ?_
          rcases StrictJsonParser.number_sound read with ⟨_, _, _, rfl, _⟩
          rfl
        · simp only [if_neg isNumber]
          exact iff_of_false (fun read => by cases read) fun both => by cases both.1

/-- The artifact parser reads what the strict parser does, of safe integers and within its budget. -/
theorem parse_iff {text : JsString} {nodes left : Nat} {json : Json} : parse text nodes = .ok (json, left) ↔
    StrictJsonParser.parse text = .ok json ∧ SafeNumbers json ∧ nodes = left + json.nodes := by
  have budgeted := value_budgeted 128 text nodes
  unfold parse StrictJsonParser.parse
  constructor
  · intro read
    split at read
    · cases read
    · rename_i value rest remaining found
      dsimp only at read
      split at read
      · cases read
      · rename_i ended
        cases read
        rcases (budgeted _ _ _).mp found with ⟨strict, safe, budget⟩
        refine ⟨?_, safe, budget⟩
        rw [MAX_MODEL_INTERFACE_JSON_DEPTH, strict, ok_bind]
        exact if_neg ended
  · rintro ⟨read, safe, budget⟩
    rw [bind_eq_ok] at read
    rcases read with ⟨⟨value, rest⟩, strict, read⟩
    dsimp only at read
    rw [unless_failed, Except.ok.injEq] at read
    rcases read with ⟨ended, rfl⟩
    rw [(budgeted value rest left).mpr ⟨strict, safe, budget⟩]
    exact if_neg ended

end Mirror.Corpus.ArtifactJsonParser
