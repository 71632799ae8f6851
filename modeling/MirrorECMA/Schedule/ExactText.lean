import MirrorECMA.Schedule.ScheduleText

namespace Mirror.Schedule

open ECMA ECMA.Grammar

/-! ### Texts that the scanner passes -/

section

variable [NumberConversion]

theorem scan_blank (before : Whitespace) (value : Value) (levels nodes : Nat) (rest : JsString) :
    scan levels nodes (before.text ++ (value.render ++ rest)) = scan levels nodes (value.render ++ rest) := by
  cases levels with
  | zero => rfl
  | succ levels => rw [scan, scan, (skip_to_value before value rest).1, skipWhitespace_of_stops (value.stops rest)]

theorem scanMembers_eq_ok {inner : Nat → JsString → Except JsString (Nat × JsString)} {object : Bool} {fuel nodes : Nat}
    {keys : List JsString} {rest : JsString} {result : Nat × JsString}
    (scanned : scanMembers inner object fuel keys nodes rest = .ok result) :
    ∃ less, fuel = less + 1 ∧ ∃ seen afterKey, memberStart object keys rest = .ok (seen, afterKey) ∧
      ∃ value, inner nodes afterKey = .ok value := by
  cases fuel with
  | zero => cases scanned
  | succ less =>
    rw [scanMembers] at scanned
    split at scanned
    · cases scanned
    · simp only [bind_eq_ok] at scanned
      obtain ⟨⟨seen, afterKey⟩, keyed, value, valued, _⟩ := scanned
      exact ⟨less, rfl, seen, afterKey, keyed, value, valued⟩

theorem memberStart_fresh {key : StringToken} {afterKey : Whitespace} {keys seen : List JsString} {rest after : JsString}
    (keyed : memberStart true keys (key.render ++ (afterKey.text ++ colon :: rest)) = .ok (seen, after)) :
    key.decoded ∉ keys := by
  intro known
  have head : (key.render ++ (afterKey.text ++ colon :: rest)).head? = some quote := rfl
  rw [memberStart, if_pos rfl, memberKey, if_neg (by rw [head]; exact fun differs => differs rfl), token_render] at keyed
  simp only [ok_bind, if_pos known] at keyed
  cases keyed

mutual

theorem keysDistinct_of_scan (value : Value) {levels nodes : Nat} {rest : JsString} {result : Nat × JsString}
    (shallow : value.reach < levels) (few : nodes + value.nodes ≤ 600000)
    (scanned : scan levels nodes (value.render ++ rest) = .ok result) : value.KeysDistinct := by
  rcases Nat.exists_eq_succ_of_ne_zero (Nat.ne_of_gt (Nat.zero_lt_of_lt shallow)) with ⟨levels, rfl⟩
  have counted : 1 ≤ value.nodes := by cases value <;> simp only [Value.nodes] <;> omega
  have bounded : ¬ nodes + 1 > 600000 := by omega
  rw [scan, if_neg bounded] at scanned
  dsimp only at scanned
  rw [skipWhitespace_of_stops (value.stops rest)] at scanned
  cases value with
  | array items =>
    simp only [Value.reach, Value.nodes] at shallow few
    have opened := items_open items rest
    simp only [Value.render, List.cons_append, List.head?_cons, List.tail_cons] at scanned
    rw [if_neg (by decide), if_pos (by decide)] at scanned
    simp only [Option.some.injEq, show ¬ openBracket = openBrace by decide, decide_false, Bool.false_eq_true, ↓reduceIte,
      opened] at scanned
    exact keysDistinct_of_items items (Nat.lt_of_succ_lt_succ shallow) (by omega) scanned
  | object members =>
    simp only [Value.reach, Value.nodes] at shallow few
    have opened := members_open members rest
    simp only [Value.render, List.cons_append, List.head?_cons, List.tail_cons] at scanned
    rw [if_neg (by decide), if_pos (by decide)] at scanned
    simp only [decide_true, ↓reduceIte, opened] at scanned
    have inner := keysDistinct_of_members members (Nat.lt_of_succ_lt_succ shallow) (by omega) scanned
    exact ⟨inner.2.1, inner.1⟩
  | _ => trivial

theorem keysDistinct_of_items (items : Items) {levels nodes fuel : Nat} {keys : List JsString} {rest : JsString}
    {result : Nat × JsString} (shallow : items.reach < levels) (few : nodes + items.nodes ≤ 600000)
    (scanned : scanMembers (scan levels) false fuel keys nodes (skipWhitespace (items.render ++ rest)) = .ok result) :
    items.KeysDistinct := by
  cases items with
  | last before value after =>
    simp only [Items.render, List.append_assoc, List.cons_append, List.nil_append, (skip_to_value before value _).1] at scanned
    obtain ⟨_, _, _, _, keyed, _, valued⟩ := scanMembers_eq_ok scanned
    cases keyed
    exact keysDistinct_of_scan value shallow few valued
  | cons before value after more =>
    simp only [Items.reach, Items.nodes, Nat.max_lt] at shallow few
    simp only [Items.render, List.append_assoc, List.cons_append, (skip_to_value before value _).1] at scanned
    obtain ⟨less, rfl, _, _, keyed, _, valued⟩ := scanMembers_eq_ok scanned
    cases keyed
    have distinct := keysDistinct_of_scan value shallow.1 (by omega : nodes + value.nodes ≤ 600000) valued
    have first := scan_value value shallow.1 (by omega : nodes + value.nodes ≤ 600000) distinct
      (stops_at_unit after (u := comma) (by decide) (more.render ++ rest))
    have separator := (skip_to_unit after (u := comma) (by decide) (more.render ++ rest)).1
    rw [scanMembers_next (value_append_ne value _) rfl first separator] at scanned
    exact ⟨distinct, keysDistinct_of_items more shallow.2 (by omega) scanned⟩

theorem keysDistinct_of_members (members : Members) {levels nodes fuel : Nat} {keys : List JsString} {rest : JsString}
    {result : Nat × JsString} (shallow : members.reach < levels) (few : nodes + members.nodes ≤ 600000)
    (scanned : scanMembers (scan levels) true fuel keys nodes (skipWhitespace (members.render ++ rest)) = .ok result) :
    members.KeysDistinct ∧ members.keys.Nodup ∧ ∀ key ∈ members.keys, key ∉ keys := by
  cases members with
  | last before key afterKey beforeValue value after =>
    simp only [Members.render, List.append_assoc, List.cons_append, List.nil_append, skip_to_key] at scanned
    obtain ⟨_, _, _, _, keyed, _, valued⟩ := scanMembers_eq_ok scanned
    have fresh := memberStart_fresh keyed
    rw [memberStart_render key afterKey fresh] at keyed
    cases keyed
    rw [scan_blank] at valued
    have distinct := keysDistinct_of_scan value shallow few valued
    refine ⟨distinct, List.nodup_singleton _, fun other member => ?_⟩
    rw [List.mem_singleton.mp member]
    exact fresh
  | cons before key afterKey beforeValue value after more =>
    simp only [Members.reach, Members.nodes, Nat.max_lt] at shallow few
    simp only [Members.render, List.append_assoc, List.cons_append, skip_to_key] at scanned
    obtain ⟨less, rfl, _, _, keyed, _, valued⟩ := scanMembers_eq_ok scanned
    have fresh := memberStart_fresh keyed
    have known := keyed
    rw [memberStart_render key afterKey fresh] at keyed
    cases keyed
    rw [scan_blank] at valued
    have distinct := keysDistinct_of_scan value shallow.1 (by omega : nodes + value.nodes ≤ 600000) valued
    have first := scan_blank_value beforeValue value (scan_value value shallow.1 (by omega : nodes + value.nodes ≤ 600000)
      distinct (stops_at_unit after (u := comma) (by decide) (more.render ++ rest)))
    have separator := (skip_to_unit after (u := comma) (by decide) (more.render ++ rest)).1
    rw [scanMembers_next (by simp [StringToken.render]) known first separator] at scanned
    have others := keysDistinct_of_members more shallow.2 (by omega) scanned
    refine ⟨⟨distinct, others.1⟩, List.nodup_cons.mpr ⟨fun again => ?_, others.2.1⟩, fun other member => ?_⟩
    · exact others.2.2 key.decoded again (List.mem_append_right _ (List.mem_singleton_self _))
    · rcases List.mem_cons.mp member with rfl | member
      · exact fresh
      · exact fun seen => others.2.2 other member (List.mem_append_left _ seen)

end

end

/-! ### The declared schema -/

/-- An object of exactly these fields. -/
def HasKeys (fields : Fields Json) (keys : List JsString) : Prop := (Fields.keys fields).Perm keys

def IsIdentity (identity : Json) : Prop :=
  ∃ fields, identity = .object fields ∧
    HasKeys fields [js "modelSemanticDigest", js "mappingSha256", js "implementationSha256"] ∧
    ∀ key ∈ [js "modelSemanticDigest", js "mappingSha256", js "implementationSha256"],
      ∃ digest, Fields.get fields key = some (.string digest) ∧ scheduleDigest digest = true

def IsStep (step : Json) : Prop :=
  ∃ fields actor checkpoint, step = .object fields ∧ HasKeys fields [js "actor", js "checkpoint"] ∧
    Fields.get fields (js "actor") = some (.string actor) ∧ scheduleIdentifier actor = true ∧
    Fields.get fields (js "checkpoint") = some (.string checkpoint) ∧
    (scheduleIdentifier checkpoint = true ∨ checkpoint = SCHEDULE_COMPLETION)

/-- Inert data of a bounded size. -/
def IsInput [NumberText] (inputs : Json) : Prop := Inert inputs ∧ utf8Length (jsonStringify inputs) ≤ inputBytes

def IsSchedule [NumberText] (v : Json) : Prop :=
  ∃ fields identity inputs steps, v = .object fields ∧
    HasKeys fields [js "schema", js "profile", js "identity", js "inputs", js "steps"] ∧
    Fields.get fields (js "schema") = some (.string SCHEDULE_SCHEMA) ∧
    Fields.get fields (js "profile") = some (.string WORKER_SCHEDULE_PROFILE) ∧
    Fields.get fields (js "identity") = some identity ∧ IsIdentity identity ∧
    Fields.get fields (js "inputs") = some inputs ∧ IsInput inputs ∧
    Fields.get fields (js "steps") = some (.array steps) ∧ steps.length ≤ 65536 ∧ ∀ step ∈ steps, IsStep step

theorem scheduleExact_eq_ok {v : Json} {keys : List JsString} {fields : Fields Json} (own : keys.Nodup) :
    scheduleExact v keys = .ok fields ↔ v = .object fields ∧ HasKeys fields keys := by
  have exactly (fields : Fields Json) : HasKeys fields keys ↔
      ¬ (fields.length ≠ keys.length ∨ keys.any (fun key => !Fields.has fields key) = true) := by
    rw [not_or, not_not, HasKeys]
    simp only [List.any_eq_true, Bool.not_eq_true', not_exists, not_and, Bool.not_eq_false, Fields.has_iff]
    constructor
    · intro same
      refine ⟨?_, fun key member => same.symm.subset member⟩
      rw [← same.length_eq, Fields.keys, List.length_map]
    · rintro ⟨length, all⟩
      apply List.Perm.symm
      apply (List.subperm_of_subset own all).perm_of_length_le
      rw [Fields.keys, List.length_map, length]
  cases v with
  | object found =>
    rw [scheduleExact, Json.object.injEq]
    split
    · rename_i other
      constructor
      · intro read
        cases read
      · rintro ⟨rfl, keyed⟩
        exact absurd other ((exactly _).mp keyed)
    · rename_i same
      constructor
      · intro read
        cases read
        exact ⟨rfl, (exactly _).mpr same⟩
      · rintro ⟨rfl, _⟩
        rfl
  | _ => simp [scheduleExact]

theorem stringValue_found {found : Option Json} {text : JsString} :
    found >>= stringValue = some text ↔ found = some (.string text) := by
  cases found with
  | none => simp
  | some value => cases value <;> simp [stringValue]

theorem scheduleStep_accepts (step : Json) : (∃ result, scheduleStep step = .ok result) ↔ IsStep step := by
  have keys : [js "actor", js "checkpoint"].Nodup := by decide
  simp only [scheduleStep, bind_eq_ok, scheduleExact_eq_ok keys]
  constructor
  · rintro ⟨result, fields, ⟨rfl, keyed⟩, read⟩
    split at read
    · rename_i actor checkpoint first second
      rw [stringValue_found] at first second
      split at read
      · rename_i valid
        simp only [Bool.and_eq_true, Bool.or_eq_true, decide_eq_true_eq] at valid
        exact ⟨fields, actor, checkpoint, rfl, keyed, first, valid.1, second, valid.2⟩
      · cases read
    · cases read
  · rintro ⟨fields, actor, checkpoint, rfl, keyed, first, named, second, valid⟩
    refine ⟨⟨actor, checkpoint⟩, fields, ⟨rfl, keyed⟩, ?_⟩
    have both : (scheduleIdentifier actor && (scheduleIdentifier checkpoint || decide (checkpoint = SCHEDULE_COMPLETION))) = true := by
      simp only [Bool.and_eq_true, Bool.or_eq_true, decide_eq_true_eq]
      exact ⟨named, valid⟩
    rw [stringValue_found.mpr first, stringValue_found.mpr second]
    dsimp only
    rw [if_pos both]

theorem scheduleSteps_accepts (items : List Json) :
    (∃ results, items.mapM scheduleStep = .ok results) ↔ ∀ item ∈ items, IsStep item := by
  induction items with
  | nil => simp
  | cons item rest ih =>
    rw [List.forall_mem_cons, ← ih, ← scheduleStep_accepts]
    simp [List.mapM_cons, bind_eq_ok]

theorem identityOf_accepts {fields : Fields Json} : (∃ identity, identityOf fields = some identity) ↔
    ∀ key ∈ [js "modelSemanticDigest", js "mappingSha256", js "implementationSha256"],
      ∃ digest, Fields.get fields key = some (.string digest) ∧ scheduleDigest digest = true := by
  have read (key : JsString) : (∃ digest, (do
      let text ← (Fields.get fields key) >>= stringValue
      if scheduleDigest text then some text else none) = some digest) ↔
        ∃ digest, Fields.get fields key = some (.string digest) ∧ scheduleDigest digest = true := by
    constructor
    · rintro ⟨digest, found⟩
      obtain ⟨text, named, valid⟩ := Option.bind_eq_some_iff.mp found
      split at valid
      · rename_i passes
        exact ⟨text, stringValue_found.mp named, passes⟩
      · cases valid
    · rintro ⟨digest, found, valid⟩
      exact ⟨digest, Option.bind_eq_some_iff.mpr ⟨digest, stringValue_found.mpr found, if_pos valid⟩⟩
  simp only [List.forall_mem_cons, List.not_mem_nil, false_implies, implies_true, and_true, ← read]
  simp only [identityOf, Option.bind_eq_bind, Option.bind_eq_some_iff]
  constructor
  · rintro ⟨_, first, one, second, two, third, three, _⟩
    exact ⟨⟨first, one⟩, ⟨second, two⟩, third, three⟩
  · rintro ⟨⟨first, one⟩, ⟨second, two⟩, third, three⟩
    exact ⟨_, first, one, second, two, third, three, rfl⟩

section

variable [NumberRoundTrip]

theorem scheduleInputs_accepts {v : Json} (distinct : v.KeysDistinct) (literal : v.EveryNumber Double.Literal) :
    (∃ data, scheduleData v inputBytes = .ok data) ↔ IsInput v := by
  simp only [scheduleData_eq_ok distinct literal]
  constructor
  · rintro ⟨_, inert, small, _⟩
    exact ⟨inert, small⟩
  · rintro ⟨inert, small⟩
    exact ⟨v.normal, inert, small, rfl⟩

theorem field_valid {fields : Fields Json} (distinct : (Json.object fields).KeysDistinct)
    (literal : (Json.object fields).EveryNumber Double.Literal) {key : JsString} {v : Json} (found : Fields.get fields key = some v) :
    v.KeysDistinct ∧ v.EveryNumber Double.Literal := by
  cases distinct with
  | object _ each =>
    cases literal with
    | object every => exact ⟨each _ (Fields.mem_of_get found), every _ (Fields.mem_of_get found)⟩

theorem scheduleOf_accepts {v : Json} (distinct : v.KeysDistinct) (literal : v.EveryNumber Double.Literal) :
    (∃ schedule, scheduleOf v = .ok schedule) ↔ IsSchedule v := by
  have names : [js "schema", js "profile", js "identity", js "inputs", js "steps"].Nodup := by decide
  have digests : [js "modelSemanticDigest", js "mappingSha256", js "implementationSha256"].Nodup := by decide
  simp only [scheduleOf, bind_eq_ok, scheduleExact_eq_ok names, scheduleExact_eq_ok digests]
  constructor
  · rintro ⟨schedule, fields, ⟨rfl, keyed⟩, identityFields, ⟨shape, identityKeyed⟩, read⟩
    have identityFound : Fields.get fields (js "identity") = some (.object identityFields) := by
      cases found : Fields.get fields (js "identity") with
      | none =>
        rw [found] at shape
        cases shape
      | some identity =>
        rw [found] at shape
        exact congrArg some shape
    obtain ⟨inputs, inputsFound⟩ : ∃ inputs, Fields.get fields (js "inputs") = some inputs := by
      apply Option.isSome_iff_exists.mp
      exact Fields.get_isSome.mpr (keyed.symm.subset (by simp))
    split at read
    · rename_i items identity stepsFound identified
      split at read
      · cases read
      · rename_i constants
        rw [not_or, not_or, not_not, not_not, Nat.not_lt] at constants
        obtain ⟨steps, accepted, read⟩ := bind_eq_ok.mp read
        obtain ⟨data, inert, _⟩ := bind_eq_ok.mp read
        rw [inputsFound, Option.getD_some] at inert
        have valid := field_valid distinct literal inputsFound
        exact ⟨fields, _, inputs, items, rfl, keyed, constants.1, constants.2.1, identityFound,
          ⟨identityFields, rfl, identityKeyed, identityOf_accepts.mp ⟨identity, identified⟩⟩, inputsFound,
          (scheduleInputs_accepts valid.1 valid.2).mp ⟨data, inert⟩, stepsFound, constants.2.2,
          (scheduleSteps_accepts items).mp ⟨steps, accepted⟩⟩
    · cases read
  · rintro ⟨fields, _, inputs, items, rfl, keyed, schema, profile, identityFound, ⟨identityFields, rfl, identityKeyed, digests⟩,
      inputsFound, input, stepsFound, few, steps⟩
    have valid := field_valid distinct literal inputsFound
    obtain ⟨identity, identified⟩ := identityOf_accepts.mpr digests
    obtain ⟨results, accepted⟩ := (scheduleSteps_accepts items).mpr steps
    obtain ⟨data, inert⟩ := (scheduleInputs_accepts valid.1 valid.2).mpr input
    refine ⟨⟨identity, inputs, results⟩, fields, ⟨rfl, keyed⟩, identityFields, ⟨?_, identityKeyed⟩, ?_⟩
    · rw [identityFound]
      rfl
    · rw [stepsFound, identified]
      dsimp only
      rw [if_neg (by rw [not_or, not_or, not_not, not_not, Nat.not_lt]; exact ⟨schema, profile, few⟩), accepted, ok_bind,
        inputsFound, Option.getD_some, inert]
      rfl

/-! ### The parser -/

theorem parsed_eq_ok {text : JsString} {v : Json} : parsed text = .ok v ↔ jsonParse text = some v := by
  unfold parsed
  cases jsonParse text <;> simp

/-- The typed reading of a schedule is that of the tree that the parser returns. -/
theorem parseCheckpointSchedule_eq_ok {text : JsString} {schedule : CheckpointSchedule} :
    parseCheckpointSchedule text = .ok schedule ↔ ∃ v, parsedSchedule text = .ok v ∧ scheduleOf v = .ok schedule := by
  unfold parseCheckpointSchedule parsedSchedule
  split
  · constructor
    · intro read
      cases read
    · rintro ⟨_, read, _⟩
      cases read
  · cases scan 33 0 text with
    | error message => simp
    | ok scanned =>
      simp only [ok_bind]
      split
      · constructor
        · intro read
          cases read
        · rintro ⟨_, read, _⟩
          cases read
      · simp only [bind_eq_ok, pure_eq_ok]
        constructor
        · rintro ⟨v, found, read⟩
          exact ⟨v, ⟨v, found, schedule, read, rfl⟩, read⟩
        · rintro ⟨_, ⟨v, found, _, _, same⟩, read⟩
          cases same
          exact ⟨_, found, read⟩

/-- The scan of a text of the grammar within its bounds. -/
theorem scan_text (written : Text) (shallow : written.value.reach ≤ 32) (few : written.value.nodes ≤ 600000) :
    (∃ found, scan 33 0 written.render = .ok found ∧ skipWhitespace found.2 = []) ↔ written.value.KeysDistinct := by
  rw [Text.render, scan_blank]
  constructor
  · rintro ⟨found, scanned, _⟩
    exact keysDistinct_of_scan written.value (Nat.lt_succ_of_le shallow) (by omega) scanned
  · intro distinct
    have stop : Stops endsNumber written.after.text := by
      have ended := stops_after_blank written.after (Stops.nil endsNumber)
      rw [List.append_nil] at ended
      exact ended
    have blank : skipWhitespace written.after.text = [] := by
      have skipped := skipWhitespace_append written.after (Stops.nil isWhitespace)
      rw [List.append_nil] at skipped
      exact skipped
    exact ⟨_, scan_value written.value (Nat.lt_succ_of_le shallow) (by omega) distinct stop, blank⟩

/-- A text that the bounds of the scanner admit is read exactly when `JSON.parse` reads it, no object repeats a decoded
key, and the tree is a schedule; the tree is then returned. -/
theorem parsedSchedule_iff (text : JsString) (small : utf8Length text ≤ 8 * 1048576)
    (bounded : ∀ written : Text, written.render = text → written.value.reach ≤ 32 ∧ written.value.nodes ≤ 600000) (v : Json) :
    parsedSchedule text = .ok v ↔
      jsonParse text = some v ∧ (∀ written : Text, written.render = text → written.value.KeysDistinct) ∧ IsSchedule v := by
  have reads {v : Json} (found : jsonParse text = some v) : (∃ schedule, scheduleOf v = .ok schedule) ↔ IsSchedule v :=
    scheduleOf_accepts (jsonParse_keysDistinct found) (jsonParse_literal found)
  unfold parsedSchedule
  rw [if_neg (Nat.not_lt.mpr small)]
  constructor
  · intro read
    obtain ⟨⟨nodes, rest⟩, scanned, read⟩ := bind_eq_ok.mp read
    dsimp only at read
    split at read
    · cases read
    · rename_i ended
      obtain ⟨w, found, checked⟩ := bind_eq_ok.mp read
      obtain ⟨schedule, valid, same⟩ := bind_eq_ok.mp checked
      cases same
      rw [parsed_eq_ok] at found
      refine ⟨found, fun written rendered => ?_, (reads found).mp ⟨schedule, valid⟩⟩
      obtain ⟨shallow, few⟩ := bounded written rendered
      rw [← scan_text written shallow few, rendered]
      exact ⟨(nodes, rest), scanned, not_not.mp ended⟩
  · rintro ⟨found, distinct, valid⟩
    obtain ⟨written, rendered, _⟩ := jsonParse_iff.mp found
    obtain ⟨shallow, few⟩ := bounded written rendered
    obtain ⟨⟨nodes, rest⟩, scanned, ended⟩ := (scan_text written shallow few).mpr (distinct written rendered)
    obtain ⟨schedule, accepted⟩ := (reads found).mpr valid
    rw [rendered] at scanned
    rw [scanned, ok_bind]
    dsimp only
    rw [if_neg (not_not.mpr ended), parsed_eq_ok.mpr found, ok_bind, accepted, ok_bind]
    rfl

end

/-- A schedule of one step. -/
def shortSchedule : JsString :=
  letI := integerNumbers
  jsonStringify (CheckpointSchedule.json ⟨⟨List.replicate 64 (unit '0'), List.replicate 64 (unit '1'), List.replicate 64 (unit 'a')⟩,
    .object [(js "x", .number (.ofNat 5))], [⟨js "a", js "$done"⟩]⟩)

def withinBounds (text : JsString) : Bool :=
  (parseText text).all fun written => decide (written.value.reach ≤ 32 ∧ written.value.nodes ≤ 600000)

theorem bounded_of_within {text : JsString} (within : withinBounds text = true) (written : Text) (rendered : written.render = text) :
    written.value.reach ≤ 32 ∧ written.value.nodes ≤ 600000 := by
  rw [withinBounds, parseText_iff.mpr rendered] at within
  exact of_decide_eq_true within

theorem shortSchedule_parsed : letI := integerNumbers
    ∃ v, jsonParse shortSchedule = some v ∧ (parsedSchedule shortSchedule = .ok v ↔ jsonParse shortSchedule = some v ∧
      (∀ written : Text, written.render = shortSchedule → written.value.KeysDistinct) ∧ IsSchedule v) := by
  let := integerNumbers
  have within : withinBounds shortSchedule = true := by decide +kernel
  have parses : (jsonParse shortSchedule).isSome = true := by decide +kernel
  obtain ⟨v, found⟩ := Option.isSome_iff_exists.mp parses
  exact ⟨v, found, parsedSchedule_iff shortSchedule (by decide +kernel) (bounded_of_within within) v⟩

/-- A key that is written in two ways is repeated. -/
example : letI := integerNumbers
    parsedSchedule (js "\x7b\"a\":0,\"\\u0061\":1\x7d") = .error (js "duplicate schedule JSON key") := by
  decide +kernel

end Mirror.Schedule
