import MirrorECMA.Reduction.LeaseDifferences

namespace Mirror.Reduction.Lease

open ECMA ECMA.Json

/-! ### What is declared -/

/-- The place of the input. -/
def LeaseReductionEdit.place (edit : LeaseReductionEdit) : List Segment :=
  [.field (js "states"), .index edit.position.toNat, .field (js "parameters"), .field edit.input]

/-- The state is the declared action's and holds the value before at the declared input. -/
structure Applies (original : Json) (edit : LeaseReductionEdit) : Prop where
  action : ∃ name, wireAction edit.actionId = some name ∧
    Json.place (some original) [.field (js "states"), .index edit.position.toNat, .field (js "action_taken")] = some (.string name)
  before : Json.place (some original) edit.place = some (bigintOf 2)

/-- The declared inputs hold the value after, and nothing else is changed. -/
structure Edited (original : Json) (edits : List LeaseReductionEdit) (trace : Json) : Prop where
  declared : ∀ edit ∈ edits, Json.place (some trace) edit.place = some (bigintOf 1)
  elsewhere : ∀ path, (∀ edit ∈ edits, ¬ edit.place <+: path) →
    kind (Json.place (some trace) path) = kind (Json.place (some original) path)

theorem supportedEdit_iff {edit : LeaseReductionEdit} (supported : supportedEdit edit = true) :
    1 ≤ edit.position ∧ (∃ name, wireAction edit.actionId = some name) ∧
      (edit.actionId ∈ ["Acquire", "Renew", "Release", "Write"].map js) ∧ edit.inputId ∈ ["Client", "Token"].map js := by
  unfold supportedEdit at supported
  split at supported
  · cases supported
  · rename_i well
    simp only [Bool.or_eq_true, decide_eq_true_eq, not_or, not_lt] at well
    refine ⟨well.1.1.2, ?_⟩
    split at supported
    · rename_i acquire
      rw [acquire, of_decide_eq_true supported]
      exact ⟨⟨js "acquire", by decide⟩, by decide, by decide⟩
    · rw [Bool.and_eq_true, decide_eq_true_eq, decide_eq_true_eq] at supported
      refine ⟨?_, List.mem_cons_of_mem _ supported.1, supported.2⟩
      have member := supported.1
      simp only [List.map_cons, List.map_nil, List.mem_cons, List.not_mem_nil, or_false] at member
      rcases member with renew | release | write
      · exact ⟨js "renew", by rw [renew]; decide⟩
      · exact ⟨js "release", by rw [release]; decide⟩
      · exact ⟨js "write", by rw [write]; decide⟩

theorem wireAction_injective : ∀ a ∈ ["Acquire", "Renew", "Release", "Write"].map js,
    ∀ b ∈ ["Acquire", "Renew", "Release", "Write"].map js, wireAction a = wireAction b → a = b := by
  decide

theorem input_injective {a b : LeaseReductionEdit} (left : a.inputId ∈ ["Client", "Token"].map js)
    (right : b.inputId ∈ ["Client", "Token"].map js) (same : a.input = b.input) : a.inputId = b.inputId := by
  have each : ∀ first ∈ ["Client", "Token"].map js, ∀ second ∈ ["Client", "Token"].map js,
      (if first = js "Client" then js "client" else js "token") = (if second = js "Client" then js "client" else js "token") →
        first = second := by decide
  exact each _ left _ right same

/-! ### Texts of the declared places -/

theorem slash_not_digit (n : Nat) : unit '/' ∉ decimal n := by
  intro member
  have digit := decimal_isDigit n _ member
  revert digit
  decide

theorem integerText_natural {i : Int} (natural : 0 ≤ i) : integerText i = decimal i.toNat := by
  rw [integerText, if_neg (not_lt.mpr natural), Int.toNat_of_nonneg natural |> congrArg Int.natAbs |>.symm, Int.natAbs_natCast]

theorem allowedPath_eq {edit : LeaseReductionEdit} (natural : 0 ≤ edit.position) :
    edit.allowedPath = placeText (edit.place ++ [.field (js "#bigint")]) := by
  have states : js "/states/" = js "/" ++ js "states" ++ js "/" := by decide
  have parameters : js "/parameters/" = js "/" ++ js "parameters" ++ js "/" := by decide
  have bigint : js "/#bigint" = js "/" ++ js "#bigint" := by decide
  rw [LeaseReductionEdit.allowedPath, integerText_natural natural, states, parameters, bigint]
  simp [placeText, LeaseReductionEdit.place, segmentText]

/-- Two texts are equal up to the first mark and after it. -/
theorem eq_of_mark {xs ys after others : JsString} {mark : CodeUnit} (left : mark ∉ xs) (right : mark ∉ ys)
    (same : xs ++ mark :: after = ys ++ mark :: others) : xs = ys ∧ after = others := by
  induction xs generalizing ys with
  | nil =>
    cases ys with
    | nil => exact ⟨rfl, (List.cons.inj same).2⟩
    | cons y ys => exact absurd (List.mem_cons.mpr (.inl (List.cons.inj same).1)) right
  | cons x xs ih =>
    cases ys with
    | nil => exact absurd (List.mem_cons.mpr (.inl (List.cons.inj same).1.symm)) left
    | cons y ys =>
      rcases List.cons.inj same with ⟨rfl, rest⟩
      rcases ih (fun member => left (List.mem_cons_of_mem _ member)) (fun member => right (List.mem_cons_of_mem _ member)) rest
        with ⟨rfl, tails⟩
      exact ⟨rfl, tails⟩

theorem allowedPath_injective {a b : LeaseReductionEdit} (left : 0 ≤ a.position) (right : 0 ≤ b.position)
    (same : a.allowedPath = b.allowedPath) : a.position = b.position ∧ a.input = b.input := by
  have parameters : js "/parameters/" = unit '/' :: js "parameters/" := by decide
  unfold LeaseReductionEdit.allowedPath at same
  rw [integerText_natural left, integerText_natural right, parameters] at same
  simp only [List.append_assoc, List.append_cancel_left_eq, List.cons_append] at same
  rcases eq_of_mark (slash_not_digit _) (slash_not_digit _) same with ⟨digits, rest⟩
  have positions := decimal_injective digits
  exact ⟨by omega, List.append_cancel_right (List.append_cancel_left rest)⟩

/-! ### Steps of the loop -/

@[simp] theorem read_get (heap : Heap) (ref : Ref) (segment : Segment) : heap.read (ref.get segment) = child (heap.read ref) segment :=
  place_append _ _ _

theorem toBoolean_kind {left right : Option Json} (same : kind left = kind right) : toBoolean left = toBoolean right := by
  rcases left with _ | _ | b | d | s | items | fields <;> rcases right with _ | _ | c | e | t | others | members <;>
    first | rfl | (cases same; rfl) | cases same

theorem isObject_kind {left right : Option Json} (same : kind left = kind right) : isObject left = isObject right := by
  rcases left with _ | _ | b | d | s | items | fields <;> rcases right with _ | _ | c | e | t | others | members <;>
    first | rfl | cases same

/-- What has a property is an object. -/
theorem object_of_child {value : Option Json} {key : JsString} {inner : Json} (there : child value (.field key) = some inner) :
    ∃ fields, value = some (.object fields) := by
  match value, there with
  | some (.object fields), _ => exact ⟨fields, rfl⟩

theorem rawBigint_iff {value : Option Json} : rawBigint value = some (js "2") ↔ value = some (bigintOf 2) := by
  have two : integerText 2 = js "2" := by decide
  rw [bigintOf, two]
  constructor
  · intro raw
    unfold rawBigint at raw
    split at raw
    · split at raw
      · rename_i name
        cases raw
        rw [name]
      · cases raw
    · cases raw
  · intro same
    rw [same, rawBigint, if_pos rfl]

/-- No other place of an input is above or under one. -/
theorem place_between {a b : LeaseReductionEdit} {path : List Segment} (inside : a.place <+: path) (above : path <+: b.place) :
    path = b.place ∧ a.place = b.place := by
  have same := inside.trans above |>.eq_of_length rfl
  exact ⟨above.eq_of_length (Nat.le_antisymm above.length_le (same ▸ inside.length_le)), same⟩

section

variable {original trace : Json} {done : List LeaseReductionEdit} {edit : LeaseReductionEdit}

theorem Edited.start (original : Json) : Edited original [] original :=
  ⟨fun _ member => absurd member List.not_mem_nil, fun _ _ => rfl⟩

/-- Above the inputs the trace is as the original. -/
theorem Edited.above (edited : Edited original done trace) (edit : LeaseReductionEdit) {path : List Segment} (above : path <+: edit.place)
    (proper : path ≠ edit.place) : kind (Json.place (some trace) path) = kind (Json.place (some original) path) :=
  edited.elsewhere path fun _ _ inside => proper (place_between inside above).1

theorem Edited.step (edited : Edited original done trace) (applies : Applies original edit) :
    Edited original (done ++ [edit])
      (assign [.field (js "states"), .index edit.position.toNat, .field (js "parameters")] edit.input (bigintOf 1) trace) := by
  have there : ∃ fields, Json.place (some trace) [.field (js "states"), .index edit.position.toNat, .field (js "parameters")] =
      some (.object fields) := by
    rcases object_of_child applies.before with ⟨fields, parameters⟩
    refine kind_object ((edited.above edit ⟨[.field edit.input], rfl⟩ (by simp [LeaseReductionEdit.place])).trans ?_)
    exact (congrArg kind parameters).trans rfl
  rcases there with ⟨fields, there⟩
  have self : Json.place (some (assign _ edit.input (bigintOf 1) trace)) edit.place = some (bigintOf 1) := place_assign_self there
  refine ⟨fun other member => ?_, fun path apart => ?_⟩
  · by_cases same : other.place = edit.place
    · rw [same]
      exact self
    · rw [place_assign_apart]
      · exact edited.declared other ((List.mem_append.mp member).resolve_right fun last => same (by rw [List.mem_singleton.mp last]))
      · exact fun inside => same (inside.eq_of_length rfl).symm
      · exact fun above => same (above.eq_of_length rfl)
  · rw [kind_place_assign there (apart edit (List.mem_append_right _ (List.mem_singleton.mpr rfl)))]
    exact edited.elsewhere path fun other member => apart other (List.mem_append_left _ member)

end

/-- The trace is the document after those that were there. -/
theorem assign_last (start : Heap) (trace : Json) (path : List Segment) (key : JsString) (value : Json) :
    Heap.assign (start ++ [trace]) ⟨start.length, path⟩ key value = start ++ [Json.assign path key value trace] := by
  have last (documents : List Json) : (documents ++ [trace]).modify documents.length (Json.assign path key value) =
      documents ++ [Json.assign path key value trace] := by
    induction documents with
    | nil => rfl
    | cons document rest ih => rw [List.cons_append, List.length_cons, List.modify_succ_cons, ih, List.cons_append]
  exact last start

theorem read_last (start : Heap) (trace : Json) : Heap.read (start ++ [trace]) ⟨start.length, []⟩ = some trace := by
  simp [Heap.read]

theorem read_earlier {start : Heap} {ref : Ref} {json : Json} (given : start.read ref = some json) (trace : Json) :
    Heap.read (start ++ [trace]) ref = some json := by
  have short : ref.document < start.length := by
    by_contra long
    rw [Heap.read, List.getElem?_eq_none (not_lt.mp long), place_none] at given
    cases given
  rw [← given, Heap.read, Heap.read, List.getElem?_append_left short]

section

variable {start : Heap} {source : Ref} {original trace : Json} {done : List LeaseReductionEdit} {edit : LeaseReductionEdit}

theorem read_stateOf {heap : Heap} {ref : Ref} {json : Json} (given : heap.read ref = some json) (edit : LeaseReductionEdit) :
    heap.read (edit.stateOf ref) = Json.place (some json) [.field (js "states"), .index edit.position.toNat] := by
  rw [LeaseReductionEdit.stateOf, Ref.property, read_get, read_get, given]
  rfl

theorem applyEdit_applies (given : start.read source = some original) (edited : Edited original done trace)
    (applies : Applies original edit) (allowed : List JsString) :
    applyEdit source ⟨start.length, []⟩ edit allowed (start ++ [trace]) =
      (.ok (add allowed edit.allowedPath), start ++ [assign [.field (js "states"), .index edit.position.toNat, .field (js "parameters")]
        edit.input (bigintOf 1) trace]) := by
  rcases applies with ⟨⟨name, wire, action⟩, input⟩
  have before := read_stateOf (read_earlier given trace) edit
  have after := read_stateOf (read_last start trace) edit
  rcases object_of_child action with ⟨state, isState⟩
  rcases object_of_child input with ⟨parameters, isParameters⟩
  have sameState : kind (Json.place (some trace) [.field (js "states"), .index edit.position.toNat]) =
      kind (Json.place (some original) [.field (js "states"), .index edit.position.toNat]) :=
    edited.above edit ⟨[.field (js "parameters"), .field edit.input], rfl⟩ (by simp [LeaseReductionEdit.place])
  have sameParameters : kind (Json.place (some trace) [.field (js "states"), .index edit.position.toNat, .field (js "parameters")]) =
      kind (Json.place (some original) [.field (js "states"), .index edit.position.toNat, .field (js "parameters")]) :=
    edited.above edit ⟨[.field edit.input], rfl⟩ (by simp [LeaseReductionEdit.place])
  have truthy : toBoolean (Json.place (some original) [.field (js "states"), .index edit.position.toNat]) = true :=
    (congrArg toBoolean isState).trans rfl
  have object : isObject (Json.place (some original) [.field (js "states"), .index edit.position.toNat, .field (js "parameters")]) = true :=
    (congrArg isObject isParameters).trans rfl
  have held := rawBigint_iff.mpr input
  unfold applyEdit
  simp only [Ref.property, read_get, before, after, toBoolean_kind sameState, truthy, wire]
  rw [if_neg, if_neg]
  · exact congrArg _ (assign_last start trace _ _ _)
  · simp only [Bool.or_eq_true, decide_eq_true_eq, not_or, not_not, Bool.not_eq_true', Bool.not_eq_false]
    exact ⟨⟨object, (isObject_kind sameParameters).trans object⟩, held⟩
  · simp only [Bool.or_eq_true, decide_eq_true_eq, not_or, not_not, Bool.not_true, Bool.false_eq_true, not_false_iff, true_and]
    exact action

theorem applyEdit_fails (trace : Json) (given : start.read source = some original) (supported : supportedEdit edit = true)
    (apart : ¬ Applies original edit) (allowed : List JsString) :
    ∃ error, applyEdit source ⟨start.length, []⟩ edit allowed (start ++ [trace]) = (.error error, start ++ [trace]) := by
  have before := read_stateOf (read_earlier given trace) edit
  unfold applyEdit
  simp only [Ref.property, read_get, before]
  split
  · exact ⟨_, rfl⟩
  · rename_i action
    split
    · exact ⟨_, rfl⟩
    · rename_i input
      refine absurd ?_ apart
      simp only [Bool.or_eq_true, decide_eq_true_eq, not_or, not_not] at action input
      rcases (supportedEdit_iff supported).2.1 with ⟨name, wire⟩
      refine ⟨⟨name, wire, ?_⟩, rawBigint_iff.mp input.2⟩
      have same := action.2
      rw [wire] at same
      exact same

/-- What the loop allows to differ: the declared inputs, each of them once. -/
structure Allows (done : List LeaseReductionEdit) (allowed : List JsString) : Prop where
  once : allowed.Nodup
  declared : ∀ path, path ∈ allowed ↔ ∃ edit ∈ done, path = edit.allowedPath

theorem Allows.step {allowed : List JsString} (allows : Allows done allowed) (edit : LeaseReductionEdit) :
    Allows (done ++ [edit]) (add allowed edit.allowedPath) := by
  have member (path : JsString) : path ∈ add allowed edit.allowedPath ↔ path ∈ allowed ∨ path = edit.allowedPath := by
    unfold add
    split
    · rename_i known
      exact ⟨.inl, fun either => either.elim id fun same => same ▸ known⟩
    · rw [List.mem_append, List.mem_singleton]
  refine ⟨?_, fun path => ?_⟩
  · unfold add
    split
    · exact allows.once
    · rename_i fresh
      exact List.nodup_append.mpr ⟨allows.once, List.nodup_singleton _, fun path known other last same =>
        fresh (by rwa [← List.mem_singleton.mp last, ← same])⟩
  · simp only [member, allows.declared, List.mem_append, List.mem_singleton, or_and_right, exists_or, exists_eq_left]

theorem applyEdits_applies (given : start.read source = some original) {edits : List LeaseReductionEdit} {allowed : List JsString}
    (edited : Edited original done trace) (allows : Allows done allowed) (applies : ∀ edit ∈ edits, Applies original edit) :
    ∃ allowed' trace', applyEdits source ⟨start.length, []⟩ edits allowed (start ++ [trace]) = (.ok allowed', start ++ [trace']) ∧
      Edited original (done ++ edits) trace' ∧ Allows (done ++ edits) allowed' := by
  induction edits generalizing done allowed trace with
  | nil =>
    rw [List.append_nil]
    exact ⟨allowed, trace, rfl, edited, allows⟩
  | cons edit rest ih =>
    have first := applies edit List.mem_cons_self
    have later := ih (edited.step first) (allows.step edit) fun other member => applies other (List.mem_cons_of_mem _ member)
    rw [List.append_assoc, List.singleton_append] at later
    rw [applyEdits, applyEdit_applies given edited first]
    exact later

theorem applyEdits_fails (given : start.read source = some original) {edits : List LeaseReductionEdit}
    (supported : ∀ edit ∈ edits, supportedEdit edit = true) (allowed : List JsString) (edited : Edited original done trace)
    (apart : ¬ ∀ edit ∈ edits, Applies original edit) :
    ∃ error trace', applyEdits source ⟨start.length, []⟩ edits allowed (start ++ [trace]) = (.error error, start ++ [trace']) := by
  induction edits generalizing done allowed trace with
  | nil => exact absurd (fun _ member => absurd member List.not_mem_nil) apart
  | cons edit rest ih =>
    by_cases first : Applies original edit
    · rw [applyEdits, applyEdit_applies given edited first]
      refine ih (fun other member => supported other (List.mem_cons_of_mem _ member)) _ (edited.step first) fun later => apart ?_
      exact List.forall_mem_cons.mpr ⟨first, later⟩
    · rcases applyEdit_fails trace given (supported edit List.mem_cons_self) first allowed with ⟨error, failed⟩
      rw [applyEdits, failed]
      exact ⟨error, trace, rfl⟩

end

/-! ### The differences of an edited trace -/

section

variable {original trace : Json} {edits : List LeaseReductionEdit}

/-- Two big integers differ in their texts only. -/
theorem differs_bigint {path : List Segment} {a b : Int}
    (differ : kind (Json.place (some (bigintOf a)) path) ≠ kind (Json.place (some (bigintOf b)) path)) :
    path = [.field (js "#bigint")] := by
  have text (c : Int) (segment : Segment) : child (some (bigintOf c)) segment =
      if segment = .field (js "#bigint") then some (.string (integerText c)) else none := by
    cases segment with
    | index n => simp [bigintOf, child]
    | field name => simp [bigintOf, child, Fields.get, eq_comm]
  cases path with
  | nil => exact absurd rfl differ
  | cons segment rest =>
    rw [place_cons, place_cons, text, text] at differ
    split at differ
    · rename_i same
      cases rest with
      | nil => rw [same]
      | cons deeper rest => exact absurd (congrArg kind ((place_none rest).trans (place_none rest).symm)) differ
    · exact absurd rfl differ

theorem differs_edited (edited : Edited original edits trace) (applies : ∀ edit ∈ edits, Applies original edit)
    (path : List Segment) :
    Differs (some original) (some trace) path ↔ ∃ edit ∈ edits, path = edit.place ++ [.field (js "#bigint")] := by
  have under (edit : LeaseReductionEdit) (member : edit ∈ edits) (rest : List Segment) :
      Json.place (some original) (edit.place ++ rest) = Json.place (some (bigintOf 2)) rest ∧
        Json.place (some trace) (edit.place ++ rest) = Json.place (some (bigintOf 1)) rest := by
    rw [place_append, place_append, (applies edit member).before, edited.declared edit member]
    exact ⟨rfl, rfl⟩
  constructor
  · rintro ⟨differ, same⟩
    have inside : ∃ edit ∈ edits, edit.place <+: path := by
      by_contra outside
      exact differ (edited.elsewhere path fun edit member inside => outside ⟨edit, member, inside⟩).symm
    rcases inside with ⟨edit, member, rest, rfl⟩
    rcases under edit member rest with ⟨left, right⟩
    rw [left, right] at differ
    exact ⟨edit, member, by rw [differs_bigint differ]⟩
  · rintro ⟨edit, member, rfl⟩
    refine ⟨?_, fun above inside proper => ?_⟩
    · rw [(under edit member _).1, (under edit member _).2]
      decide
    · have shorter := (List.prefix_concat_iff.mp inside).resolve_left proper
      by_cases whole : above = edit.place
      · rw [whole, (applies edit member).before, edited.declared edit member]
        rfl
      · exact (edited.above edit shorter whole).symm

theorem differences_edited (edited : Edited original edits trace) (applies : ∀ edit ∈ edits, Applies original edit)
    (natural : ∀ edit ∈ edits, 0 ≤ edit.position) : Allows edits (differences original (some trace) []) := by
  rcases differences_lists original (some trace) [] with ⟨paths, texts, once, member⟩
  have place {path : List Segment} (inside : path ∈ paths) :
      ∃ edit ∈ edits, path = edit.place ++ [.field (js "#bigint")] ∧ [] ++ placeText path = edit.allowedPath := by
    rcases (differs_edited edited applies path).mp ((member path).mp inside) with ⟨edit, declared, rfl⟩
    exact ⟨edit, declared, rfl, (allowedPath_eq (natural edit declared)).symm⟩
  refine ⟨?_, fun text => ?_⟩
  · rw [texts]
    refine once.map_on fun left first right second same => ?_
    rcases place first with ⟨a, one, rfl, textOne⟩
    rcases place second with ⟨b, other, rfl, textOther⟩
    rw [textOne, textOther] at same
    rcases allowedPath_injective (natural a one) (natural b other) same with ⟨position, input⟩
    rw [LeaseReductionEdit.place, LeaseReductionEdit.place, position, input]
  · rw [texts, List.mem_map]
    constructor
    · rintro ⟨path, inside, rfl⟩
      rcases place inside with ⟨edit, declared, _, text⟩
      exact ⟨edit, declared, text⟩
    · rintro ⟨edit, declared, rfl⟩
      exact ⟨_, (member _).mpr ((differs_edited edited applies _).mpr ⟨edit, declared, rfl⟩),
        (allowedPath_eq (natural edit declared)).symm⟩

end

/-! ### Materialized traces -/

theorem validateLeaseReductionCandidate_ok {candidate accepted : LeaseReductionCandidate}
    (valid : validateLeaseReductionCandidate candidate = .ok accepted) :
    accepted = candidate ∧ ∃ edits, candidate.edits = some edits ∧ (∀ edit ∈ edits, supportedEdit edit = true) ∧
      (edits.map LeaseReductionEdit.key).Nodup := by
  unfold validateLeaseReductionCandidate at valid
  simp only [throw, throwThe, MonadExceptOf.throw, bind, Except.bind, pure, Except.pure] at valid
  iterate 3
    split at valid
    · cases valid
  split at valid
  · split at valid
    · cases valid
    · split at valid
      · cases valid
      · rename_i edits declared
        split at valid
        · cases valid
        · rename_i well
          split at valid
          · cases valid
          · rename_i distinct
            cases valid
            simp only [not_or, Bool.not_eq_true', Bool.not_eq_false, List.all_eq_true] at well
            exact ⟨rfl, edits, declared, well.2.2, not_not.mp distinct⟩
  · cases valid

def HasStates (original : Json) : Prop := ∃ items, Json.place (some original) [.field (js "states")] = some (.array items)

/-- Supported edits with their own keys are edits of different inputs. -/
theorem allowedPath_nodup {original : Json} {edits : List LeaseReductionEdit} (supported : ∀ edit ∈ edits, supportedEdit edit = true)
    (applies : ∀ edit ∈ edits, Applies original edit) (distinct : (edits.map LeaseReductionEdit.key).Nodup) :
    (edits.map LeaseReductionEdit.allowedPath).Nodup := by
  rw [List.Nodup, List.pairwise_map] at distinct ⊢
  refine distinct.imp_of_mem fun {a b} first second differ same => differ ?_
  rcases supportedEdit_iff (supported a first) with ⟨leftPosition, _, leftAction, leftInput⟩
  rcases supportedEdit_iff (supported b second) with ⟨rightPosition, _, rightAction, rightInput⟩
  rcases allowedPath_injective (by omega) (by omega) same with ⟨position, input⟩
  rcases (applies a first).action with ⟨left, leftWire, leftTaken⟩
  rcases (applies b second).action with ⟨right, rightWire, rightTaken⟩
  rw [position, rightTaken, Option.some.injEq, Json.string.injEq] at leftTaken
  have actions := wireAction_injective _ leftAction _ rightAction (by rw [leftWire, rightWire, leftTaken])
  rw [LeaseReductionEdit.key, LeaseReductionEdit.key, position, actions, input_injective leftInput rightInput input]

section

variable {candidate accepted : LeaseReductionCandidate} {edits : List LeaseReductionEdit} {heap : Heap} {source : Ref}
  {original : Json}

theorem read_states (given : heap.read source = some original) :
    heap.read (source.property "states") = Json.place (some original) [.field (js "states")] := by
  rw [Ref.property, read_get, given]
  rfl

theorem materialize_stateless (valid : validateLeaseReductionCandidate candidate = .ok accepted)
    (given : heap.read source = some original) (stateless : ¬ HasStates original) :
    materializeLeaseReductionTrace source candidate heap = (.error (invalid "original trace has no states"), heap) := by
  unfold materializeLeaseReductionTrace
  rw [valid, given, read_states given]
  dsimp only
  split
  · rename_i items _ states
    exact absurd ⟨items, states⟩ stateless
  · rfl

theorem materialize_undeclared (valid : validateLeaseReductionCandidate candidate = .ok accepted)
    (declared : accepted.edits = some edits) (supported : ∀ edit ∈ edits, supportedEdit edit = true)
    (given : heap.read source = some original) (states : HasStates original) (apart : ¬ ∀ edit ∈ edits, Applies original edit) :
    ∃ error trace, materializeLeaseReductionTrace source candidate heap = (.error error, heap ++ [trace]) := by
  rcases states with ⟨items, states⟩
  rcases object_of_child states with ⟨fields, object⟩
  cases object
  rcases applyEdits_fails given supported [] (Edited.start _) apart with ⟨error, trace, ran⟩
  refine ⟨error, trace, ?_⟩
  unfold materializeLeaseReductionTrace
  rw [valid, given, read_states given, states]
  simp only [declared, Option.getD_some, Heap.structuredClone, ran]

theorem materialize_declared (valid : validateLeaseReductionCandidate candidate = .ok accepted)
    (declared : accepted.edits = some edits) (natural : ∀ edit ∈ edits, 0 ≤ edit.position)
    (given : heap.read source = some original) (states : HasStates original) (applies : ∀ edit ∈ edits, Applies original edit) :
    ∃ trace, Edited original edits trace ∧ Allows edits (differences original (some trace) []) ∧
      materializeLeaseReductionTrace source candidate heap =
        (.ok ⟨⟨heap.length, []⟩, sort compareCodeUnits (differences original (some trace) [])⟩, heap ++ [trace]) := by
  rcases states with ⟨items, states⟩
  rcases object_of_child states with ⟨fields, object⟩
  cases object
  rcases applyEdits_applies given (Edited.start _) ⟨List.nodup_nil, by simp⟩ applies with ⟨allowed, trace, ran, edited, allows⟩
  rw [List.nil_append] at edited allows
  have differ := differences_edited edited applies natural
  refine ⟨trace, edited, differ, ?_⟩
  -- the allowed places and the differences are the declared ones, so there are as many of them
  have same : (differences (.object fields) (some trace) []).Perm allowed :=
    (List.perm_ext_iff_of_nodup differ.once allows.once).mpr fun path => (differ.declared path).trans (allows.declared path).symm
  have sorted := (sort_perm compareCodeUnits (differences (.object fields) (some trace) [])).trans same
  unfold materializeLeaseReductionTrace
  rw [valid, given, read_states given, states]
  simp only [declared, Option.getD_some, Heap.structuredClone, ran, read_last]
  rw [if_neg]
  rw [not_or, not_not, List.any_eq_true, not_exists]
  refine ⟨sorted.length_eq, fun path listed => ?_⟩
  exact of_decide_eq_true listed.2 (sorted.mem_iff.mp listed.1)

end

theorem materializeLeaseReductionTrace_edits {candidate accepted : LeaseReductionCandidate} {edits : List LeaseReductionEdit}
    (valid : validateLeaseReductionCandidate candidate = .ok accepted) (declared : candidate.edits = some edits) {heap : Heap}
    {source : Ref} {original : Json} (given : heap.read source = some original) :
    let outcome := materializeLeaseReductionTrace source candidate heap
    (∀ ref json, heap.read ref = some json → outcome.2.read ref = some json) ∧
      ((∃ result, outcome.1 = .ok result) ↔ HasStates original ∧ ∀ edit ∈ edits, Applies original edit) ∧
      ∀ result, outcome.1 = .ok result → ∃ trace, outcome.2.read result.trace = some trace ∧ Edited original edits trace ∧
        result.changedPaths.Nodup ∧ result.changedPaths.Perm (edits.map LeaseReductionEdit.allowedPath) := by
  intro outcome
  rcases validateLeaseReductionCandidate_ok valid with ⟨rfl, listed, sameEdits, supported, distinct⟩
  rw [declared, Option.some.injEq] at sameEdits
  subst sameEdits
  have natural (edit : LeaseReductionEdit) (member : edit ∈ edits) : 0 ≤ edit.position := by
    have positive := (supportedEdit_iff (supported edit member)).1
    omega
  by_cases states : HasStates original
  · by_cases applies : ∀ edit ∈ edits, Applies original edit
    · rcases materialize_declared valid declared natural given states applies with ⟨trace, edited, differ, result⟩
      have sorted := sort_perm compareCodeUnits (differences original (some trace) [])
      have paths := (List.perm_ext_iff_of_nodup differ.once (allowedPath_nodup supported applies distinct)).mpr fun path => by
        simp only [differ.declared, List.mem_map, eq_comm]
      rw [show outcome = _ from result]
      refine ⟨fun ref json there => read_earlier there trace, ⟨fun _ => ⟨states, applies⟩, fun _ => ⟨_, rfl⟩⟩, ?_⟩
      rintro result ⟨⟩
      exact ⟨trace, read_last heap trace, edited, sorted.nodup_iff.mpr differ.once, sorted.trans paths⟩
    · rcases materialize_undeclared valid declared supported given states applies with ⟨error, trace, result⟩
      rw [show outcome = _ from result]
      exact ⟨fun ref json there => read_earlier there trace, ⟨fun ⟨_, ok⟩ => (by cases ok), fun both => absurd both.2 applies⟩,
        fun _ ok => by cases ok⟩
  · rw [show outcome = _ from materialize_stateless valid given states]
    exact ⟨fun _ _ there => there, ⟨fun ⟨_, ok⟩ => (by cases ok), fun both => absurd both.1 states⟩, fun _ ok => by cases ok⟩

def renewTrace : Json := .object [(js "states", .array [.object [], .object [(js "action_taken", .string (js "renew")),
  (js "parameters", .object [(js "client", bigintOf 2), (js "token", bigintOf 2)])]])]

def renewEdits : List LeaseReductionEdit :=
  [⟨.finite 1, js "Renew", js "Client", .finite 2, .finite 1⟩, ⟨.finite 1, js "Renew", js "Token", .finite 2, .finite 1⟩]

def renewCandidate : LeaseReductionCandidate :=
  let identity := List.replicate 64 (unit '0')
  ⟨js LEASE_REDUCTION_SCHEMA, identity, identity, identity, identity, identity, .finite 0, some [.finite 0, .finite 1], some renewEdits⟩

theorem renewCandidate_materialized :
    ∃ result, (materializeLeaseReductionTrace ⟨0, []⟩ renewCandidate [renewTrace]).1 = .ok result := by
  have valid : validateLeaseReductionCandidate renewCandidate = .ok renewCandidate := by decide +kernel
  have given : Heap.read [renewTrace] ⟨0, []⟩ = some renewTrace := rfl
  refine (materializeLeaseReductionTrace_edits valid rfl given).2.1.mpr ⟨⟨_, rfl⟩, ?_⟩
  intro edit member
  simp only [renewEdits, List.mem_cons, List.not_mem_nil, or_false] at member
  rcases member with rfl | rfl
  · exact ⟨⟨js "renew", by decide, by decide⟩, by decide⟩
  · exact ⟨⟨js "renew", by decide, by decide⟩, by decide⟩

end Mirror.Reduction.Lease
