import MirrorECMA.Schedule.Enumeration
import MirrorECMA.Schedule.Explore
import MirrorECMA.Schedule.ScheduleText
import MirrorECMA.Schedule.Stable

namespace Mirror.Schedule

open ECMA ECMA.Json Machine Machine.Throwing

/-! ### Passed evidence -/

section

variable [NumberText]

/-- Whether a comparison is of exactly this execution. -/
def boundTo (comparison e : Fields Json) : Except JsString Bool := do
  if isString (Fields.get comparison (js "schema")) (js "mirrors.scheduled-comparison/v1") then do
    let binding ← object (Fields.get comparison (js "binding"))
    pure (decide (stable (Fields.get binding (js "executions")) = stable (some (.array [.object e]))))
  else pure false

def mismatchOf (comparison : Fields Json) : Except JsString Bool := do
  if isString (Fields.get comparison (js "peerTerminal")) (js "step_mismatch") &&
      isBool (Fields.get comparison (js "passed")) false then do
    let client ← object (Fields.get comparison (js "client"))
    pure (isString (Fields.get client (js "kind")) (js "step_mismatch"))
  else pure false

/-- Whether a comparison shows a mismatch, and whether it failed. -/
def compared (e comparison : Fields Json) : Except JsString (Bool × Bool) := do
  let bound ← boundTo comparison e
  requireValue bound "comparison not bound to exact execution"
  if isString (Fields.get comparison (js "comparison")) (js "step_mismatch") then do
    let valid ← mismatchOf comparison
    requireValue valid "invalid mismatch evidence"
    pure (true, false)
  else pure (false, !isString (Fields.get comparison (js "comparison")) (js "matched") ||
      !isBool (Fields.get comparison (js "passed")) true)

/-- The category of an execution that has not passed. -/
def outcomeCategory (e : Fields Json) : Except JsString JsString := do
  if isString (Fields.get e (js "outcome")) (js "timed_out") then return js "timed_out"
  if isString (Fields.get e (js "outcome")) (js "cancelled") then return js "cancelled"
  let outcome ← match Fields.get e (js "outcome") with
    | none => pure (js "undefined")
    | some outcome => match toText outcome with
      | none => throw (js "Cannot convert object to primitive value")
      | some text => pure text
  if outcome ∈ [js "unexpected_checkpoint", js "invalid_schedule", js "incompatible_identity"] then
    return js "schedule_failed"
  return js "execution_failed"

/-- The category once the comparison has been read. -/
def categoryOf (e : Fields Json) (found : Bool × Bool) : Except JsString JsString := do
  let (mismatch, comparisonFailed) := found
  let unconfirmed ← if isString (Fields.get e (js "cleanup")) (js "confirmed") then do
      let remaining ← array (Fields.get e (js "remainingActors"))
      pure (decide (remaining.length ≠ 0))
    else pure true
  if unconfirmed then return js "cleanup_failed"
  if mismatch then return js "model_mismatch"
  if comparisonFailed then return js "comparison_failed"
  if isBool (Fields.get e (js "passed")) true then return js "passed"
  outcomeCategory e

theorem outcomeCategory_ne (e : Fields Json) : outcomeCategory e ≠ .ok (js "passed") := by
  unfold outcomeCategory
  split
  · simp
  split
  · simp
  dsimp only
  cases Fields.get e (js "outcome") with
  | none =>
    simp only [pure_eq_ok, ok_bind]
    split <;> simp
  | some outcome =>
    dsimp only
    cases toText outcome with
    | none => exact nofun
    | some text =>
      simp only [pure_eq_ok, ok_bind]
      split <;> simp

theorem category_none (e : Fields Json) : category e none = categoryOf e (false, false) := rfl

theorem category_some (e comparison : Fields Json) : category e (some comparison) =
    (compared e comparison >>= categoryOf e) := by
  unfold category compared boundTo mismatchOf
  dsimp only
  cases isString (Fields.get comparison (js "schema")) (js "mirrors.scheduled-comparison/v1") with
  | false => rfl
  | true =>
    cases object (Fields.get comparison (js "binding")) with
    | error text => rfl
    | ok binding =>
      simp only [ok_bind, pure_eq_ok, ↓reduceIte]
      cases decide (stable (Fields.get binding (js "executions")) = stable (some (.array [.object e]))) with
      | false => rfl
      | true =>
        cases isString (Fields.get comparison (js "comparison")) (js "step_mismatch") with
        | false => rfl
        | true =>
          simp only [↓reduceIte]
          cases (isString (Fields.get comparison (js "peerTerminal")) (js "step_mismatch") &&
              isBool (Fields.get comparison (js "passed")) false) with
          | false => rfl
          | true =>
            cases object (Fields.get comparison (js "client")) with
            | error text => rfl
            | ok client =>
              simp only [ok_bind, ↓reduceIte]
              cases isString (Fields.get client (js "kind")) (js "step_mismatch") with
              | false => rfl
              | true => rfl

/-- Only a confirmed execution that has passed, and whose comparison neither failed nor shows a mismatch, is passed. -/
theorem categoryOf_passed {e : Fields Json} {found : Bool × Bool} (passed : categoryOf e found = .ok (js "passed")) :
    Fields.get e (js "cleanup") = some (.string (js "confirmed")) ∧
      Fields.get e (js "remainingActors") = some (.array []) ∧ found = (false, false) ∧
        Fields.get e (js "passed") = some (.bool true) := by
  rcases found with ⟨mismatch, failed⟩
  unfold categoryOf at passed
  dsimp only at passed
  cases confirmed : isString (Fields.get e (js "cleanup")) (js "confirmed") with
  | false =>
    simp [confirmed] at passed
  | true =>
    cases remaining : array (Fields.get e (js "remainingActors")) with
    | error text =>
      rw [confirmed, remaining] at passed
      cases passed
    | ok actors =>
      simp only [confirmed, remaining, ok_bind, pure_eq_ok, ↓reduceIte] at passed
      cases actors with
      | cons => simp at passed
      | nil =>
        cases mismatch with
        | true => simp at passed
        | false =>
          cases failed with
          | true => simp at passed
          | false =>
            cases own : isBool (Fields.get e (js "passed")) true with
            | true => exact ⟨of_decide_eq_true confirmed, array_eq_ok.mp remaining, rfl, of_decide_eq_true own⟩
            | false =>
              rw [own] at passed
              exact (outcomeCategory_ne e passed).elim

/-- A comparison that has not failed is bound to the execution. -/
theorem compared_passed {e comparison : Fields Json} (passed : compared e comparison = .ok (false, false)) :
    Fields.get comparison (js "schema") = some (.string (js "mirrors.scheduled-comparison/v1")) ∧
      (∃ binding, Fields.get comparison (js "binding") = some (.object binding) ∧
        stable (Fields.get binding (js "executions")) = stable (some (.array [.object e]))) ∧
      Fields.get comparison (js "comparison") = some (.string (js "matched")) ∧
      Fields.get comparison (js "passed") = some (.bool true) := by
  unfold compared at passed
  rw [bind_eq_ok] at passed
  rcases passed with ⟨bound, holds, passed⟩
  rw [requireValue_bind] at passed
  rcases passed with ⟨rfl, passed⟩
  unfold boundTo at holds
  split at holds
  · rename_i schema
    rw [bind_eq_ok] at holds
    rcases holds with ⟨binding, found, same⟩
    rw [pure_eq_ok, Except.ok.injEq, decide_eq_true_eq] at same
    split at passed
    · rw [bind_eq_ok] at passed
      rcases passed with ⟨valid, _, passed⟩
      rw [requireValue_bind] at passed
      cases passed.2
    · rw [pure_eq_ok, Except.ok.injEq, Prod.mk.injEq, Bool.or_eq_false_iff, Bool.not_eq_false', Bool.not_eq_false'] at passed
      exact ⟨of_decide_eq_true schema, ⟨binding, object_eq_ok.mp found, same⟩, of_decide_eq_true passed.2.1,
        of_decide_eq_true passed.2.2⟩
  · cases holds

end

/-! ### Declared actors -/

/-- An object of two texts is known by them. -/
theorem texts_alike {a : Fields Json} (two : a.length = 2) {first second x y : JsString} (apart : first ≠ second)
    (one : Fields.get a first = some (.string x)) (other : Fields.get a second = some (.string y)) :
    (Json.object a).Alike (.object [(first, .string x), (second, .string y)]) := by
  have subset : [(first, Json.string x), (second, Json.string y)] ⊆ a :=
    List.cons_subset.mpr ⟨Fields.mem_of_get one, List.cons_subset.mpr ⟨Fields.mem_of_get other, List.nil_subset _⟩⟩
  have nodup : [(first, Json.string x), (second, Json.string y)].Nodup := by simp [apart]
  have perm := (List.subperm_of_subset nodup subset).perm_of_length_le (Nat.le_of_eq two)
  refine @Alike.object [((first, .string x), (first, .string x)), ((second, .string y), (second, .string y))] _ _ ?_ ?_
    perm (.refl _)
  · simp
  · simp [Alike.string]

theorem stringValue_eq {value : Option Json} {text : JsString} (read : value >>= stringValue = some text) :
    value = some (.string text) := by
  cases value with
  | none => cases read
  | some json =>
    cases json with
    | string own =>
      cases read
      rfl
    | _ => cases read

/-- An item that says no more than actor and operation. -/
def Declares.Actor (item : Json) (actor : JsString × JsString) : Prop :=
  item.Alike (ScheduleActor.json ⟨actor.1, actor.2⟩)

theorem executedActors_ok {e : Fields Json} {actual : List (JsString × JsString)} (read : executedActors e = .ok actual) :
    ∃ items, Fields.get e (js "actors") = some (.array items) ∧ List.Forall₂ Declares.Actor items actual := by
  unfold executedActors at read
  rw [bind_eq_ok] at read
  rcases read with ⟨items, found, read⟩
  refine ⟨items, array_eq_ok.mp found, ?_⟩
  refine foldlM_ok (P := fun actual items => List.Forall₂ Declares.Actor items actual) ?_ .nil read
  intro actual items item next holds taken
  unfold declareExecuted at taken
  rw [bind_eq_ok] at taken
  rcases taken with ⟨a, own, taken⟩
  split at taken
  · rename_i actor operation two one other
    split at taken
    · cases taken
    · cases taken
      refine List.rel_append holds (.cons ?_ .nil)
      rw [Option.some.inj (object_eq_ok.mp own)]
      exact texts_alike two (by decide) (stringValue_eq one) (stringValue_eq other)
  · cases taken

/-- Actors that pass the check are the declared ones. -/
theorem sameActors_perm {declarations actual : List (JsString × JsString)} (names : (declarations.map Prod.fst).Nodup)
    (same : sameActors declarations actual = true) : actual.Perm declarations := by
  rw [sameActors, Bool.and_eq_true, decide_eq_true_eq, List.all_eq_true] at same
  have subset : declarations ⊆ actual := fun declaration member => of_decide_eq_true (same.2 declaration member)
  exact ((List.subperm_of_subset names.of_map subset).perm_of_length_le (Nat.le_of_eq same.1)).symm

/-! ### What an exploration accepts -/

/-- A comparison that matched and is of exactly this execution. -/
structure Matched (comparison e : Fields Json) : Prop where
  schema : Fields.get comparison (js "schema") = some (.string (js "mirrors.scheduled-comparison/v1"))
  bound : ∃ binding executions, Fields.get comparison (js "binding") = some (.object binding) ∧
    Fields.get binding (js "executions") = some executions ∧ executions.Alike (.array [.object e])
  matched : Fields.get comparison (js "comparison") = some (.string (js "matched"))
  passed : Fields.get comparison (js "passed") = some (.bool true)

section

variable [NumberRoundTrip]

/-- The execution that a runner has returned for a schedule, with its comparison. -/
def Returned.Gives (returned : Returned) (e : Fields Json) (comparison : Option (Fields Json)) : Prop :=
  ∃ execution compared, returned = .sample execution compared ∧ foreignData execution = .ok (.object e) ∧
    comparisonData compared = .ok comparison

/-- Evidence that counts for a schedule: it is bound to this schedule and has passed. -/
structure Accepted (space : FiniteScheduleSpace) (schedule : CheckpointSchedule) (e : Fields Json)
    (comparison : Option (Fields Json)) (id : JsString) : Prop where
  schema : Fields.get e (js "schema") = some (.string (js "mirrors.checkpoint-execution/v1"))
  bound : ∃ own, Fields.get e (js "schedule") = some own ∧ own.Alike schedule.json
  actors : ∃ items actors, Fields.get e (js "actors") = some (.array items) ∧
    List.Forall₂ Declares.Actor items actors ∧ actors.Perm (space.actors.map fun a => (a.actor.actor, a.actor.operation))
  executionId : Fields.get e (js "executionId") = some (.string id)
  category : category e comparison = .ok (js "passed")
  passed : Fields.get e (js "passed") = some (.bool true)
  cleanup : Fields.get e (js "cleanup") = some (.string (js "confirmed"))
  remaining : Fields.get e (js "remainingActors") = some (.array [])
  completed : validateSuccess e schedule = .ok ()
  required : space.requireModelComparison = true → comparison.isSome = true
  matched : ∀ c ∈ comparison, Matched c e

theorem foreignData_portable {value : Foreign} {json : Json} (read : foreignData value = .ok json) : json.Portable := by
  cases value with
  | refused message => cases read
  | plain own distinct literal =>
    rcases (scheduleData_eq_ok distinct literal).mp read with ⟨_, _, rfl⟩
    exact normal_portable distinct literal

theorem comparisonData_portable {value : Option Foreign} {comparison : Fields Json}
    (read : comparisonData value = .ok (some comparison)) : (Json.object comparison).Portable := by
  unfold comparisonData at read
  split at read
  · cases read
  · rw [bind_eq_ok] at read
    rcases read with ⟨json, first, read⟩
    rw [bind_eq_ok] at read
    rcases read with ⟨fields, own, read⟩
    cases read
    rw [← Option.some.inj (object_eq_ok.mp own)]
    exact foreignData_portable first

/-- A stable text that an existing value shares with one that may be missing. -/
theorem bound_of_stable {own : Option Json} {json : Json} (each : ∀ v ∈ own, v.Portable) (portable : json.Portable)
    (same : stable own = stable (some json)) : ∃ v, own = some v ∧ v.Alike json := by
  cases own with
  | none => exact (stable_undefined portable same).elim
  | some v => exact ⟨v, rfl, alike_of_stable (each v rfl) portable same⟩

theorem category_passed {e : Fields Json} {comparison : Option (Fields Json)} (portable : (Json.object e).Portable)
    (each : ∀ c ∈ comparison, (Json.object c).Portable) (passed : category e comparison = .ok (js "passed")) :
    Fields.get e (js "cleanup") = some (.string (js "confirmed")) ∧
      Fields.get e (js "remainingActors") = some (.array []) ∧ Fields.get e (js "passed") = some (.bool true) ∧
        ∀ c ∈ comparison, Matched c e := by
  cases comparison with
  | none =>
    rw [category_none] at passed
    rcases categoryOf_passed passed with ⟨cleanup, remaining, _, own⟩
    exact ⟨cleanup, remaining, own, by simp⟩
  | some comparison =>
    rw [category_some, bind_eq_ok] at passed
    rcases passed with ⟨found, compared, passed⟩
    rcases categoryOf_passed passed with ⟨cleanup, remaining, rfl, own⟩
    rcases compared_passed compared with ⟨schema, ⟨binding, at_, same⟩, matched, succeeded⟩
    have inner : (Json.object binding).Portable := (each comparison rfl).field at_
    rcases bound_of_stable (fun v found => inner.field found)
      (.array (List.forall_mem_singleton.mpr portable)) same with ⟨executions, bound, alike⟩
    refine ⟨cleanup, remaining, own, fun c member => ?_⟩
    cases member
    exact ⟨schema, ⟨binding, executions, at_, bound, alike⟩, matched, succeeded⟩

omit [NumberRoundTrip] in
theorem executionIdOf_ok {e : Fields Json} {ids : List JsString} {id : JsString} (read : executionIdOf e ids = .ok id) :
    Fields.get e (js "executionId") = some (.string id) ∧ id ∉ ids := by
  unfold executionIdOf at read
  split at read
  · rename_i own found
    split at read
    · rename_i valid
      cases read
      rw [Bool.and_eq_true, Bool.not_eq_true', decide_eq_false_iff_not] at valid
      exact ⟨stringValue_eq found, valid.2⟩
    · cases read
  · cases read

/-- Evidence that passes every check is accepted. -/
theorem accepted_of_checks {space : FiniteScheduleSpace} {d : Declaration} (of : d.Of space) {candidate : CheckpointSchedule}
    (portable : candidate.json.Portable) {e : Fields Json} {comparison : Option (Fields Json)}
    {actual : List (JsString × JsString)} {id : JsString} (own : (Json.object e).Portable)
    (each : ∀ c ∈ comparison, (Json.object c).Portable)
    (bound : (isString (Fields.get e (js "schema")) (js "mirrors.checkpoint-execution/v1") &&
      decide (stable (Fields.get e (js "schedule")) = stable (some candidate.json))) = true)
    (listed : executedActors e = .ok actual) (same : sameActors d.declarations actual = true)
    (named : Fields.get e (js "executionId") = some (.string id)) (passed : category e comparison = .ok (js "passed"))
    (completed : validateSuccess e candidate = .ok ())
    (required : space.requireModelComparison = true → comparison.isSome = true) : Accepted space candidate e comparison id := by
  rw [Bool.and_eq_true, decide_eq_true_eq] at bound
  rcases category_passed own each passed with ⟨cleanup, remaining, succeeded, matched⟩
  rcases executedActors_ok listed with ⟨items, found, declared⟩
  have declarations : d.declarations = d.actors.map fun a => (a.actor.actor, a.actor.operation) := of.actors.declarations
  have names : (d.declarations.map Prod.fst).Nodup := by
    rw [declarations, List.map_map]
    exact of.actors.names
  have perm : actual.Perm (space.actors.map fun a => (a.actor.actor, a.actor.operation)) := by
    refine (sameActors_perm names same).trans ?_
    rw [declarations, of.sorted]
    exact (sort_perm _ _).map _
  exact {
    schema := of_decide_eq_true bound.1
    bound := bound_of_stable (fun v found => own.field found) portable bound.2
    actors := ⟨items, actual, found, declared, perm⟩
    executionId := named
    category := passed
    passed := succeeded
    cleanup := cleanup
    remaining := remaining
    completed := completed
    required := required
    matched := matched }

/-! ### One run -/

omit [NumberRoundTrip] in
theorem ends_lift {α : Type} {value : Except JsString α} {Q : α → Exploring → Prop} {E : JsString → Exploring → Prop}
    {s : Exploring} : Ends (lift value) Q E s ↔ (∀ v, value = .ok v → Q v s) ∧ ∀ text, value = .error text → E text s := by
  cases value <;> simp [lift]

/-- Nothing that is counted has changed. -/
def Uncounted (s t : Exploring) : Prop :=
  ∃ row first requested compared ids confirmed, t = { s with
    row := row, firstCounterexample := first, requested := requested, comparisonRuns := compared, ids := ids,
    cleanupKnown := confirmed }

omit [NumberRoundTrip] in
theorem Uncounted.refl (s : Exploring) : Uncounted s s := ⟨_, _, _, _, _, _, rfl⟩

omit [NumberRoundTrip] in
theorem Uncounted.trans {s t u : Exploring} (first : Uncounted s t) (second : Uncounted t u) : Uncounted s u := by
  rcases first with ⟨_, _, _, _, _, _, rfl⟩
  rcases second with ⟨_, _, _, _, _, _, rfl⟩
  exact ⟨_, _, _, _, _, _, rfl⟩

omit [NumberRoundTrip] in
theorem noteMismatch_uncounted (comparison : Option (Fields Json)) (s : Exploring) :
    Uncounted s (noteMismatch comparison s) ∧ (noteMismatch comparison s).ids = s.ids := by
  unfold noteMismatch
  split
  · exact ⟨⟨_, _, _, _, _, _, rfl⟩, rfl⟩
  · exact ⟨.refl s, rfl⟩

omit [NumberRoundTrip] in
theorem noteComparison_uncounted (comparison : Option (Fields Json)) (s : Exploring) :
    Uncounted s (noteComparison comparison s) ∧ (noteComparison comparison s).ids = s.ids := by
  unfold noteComparison
  split
  · exact ⟨⟨_, _, _, _, _, _, rfl⟩, rfl⟩
  · exact ⟨.refl s, rfl⟩

theorem inspect_ends {space : FiniteScheduleSpace} {d : Declaration} (of : d.Of space) (returned : Returned)
    {candidate : CheckpointSchedule} (portable : candidate.json.Portable) (s : Exploring) :
    Ends (inspect space d returned candidate)
      (fun found t => Uncounted s t ∧ (found.2 = js "passed" → validateSuccess found.1 candidate = .ok () →
        ∃ comparison id, returned.Gives found.1 comparison ∧ id ∉ s.ids ∧ t.ids = s.ids ++ [id] ∧
          Accepted space candidate found.1 comparison id))
      (fun _ t => Uncounted s t) s := by
  unfold inspect
  cases returned with
  | thrown message => exact .refl s
  | sample execution comparison =>
    have sampled (e : Fields Json) (c : Option (Fields Json)) : Uncounted s (noteSample e c s) := ⟨_, _, _, _, _, _, rfl⟩
    simp only [ends_bind, ends_lift, ends_modify, ends_get, ends_pure]
    refine ⟨fun json read => ⟨fun c compared => ⟨fun e own => ⟨fun _ bound => ⟨fun actual listed => ⟨fun _ same =>
      ⟨fun id fresh => ⟨fun confirmed _ => ⟨fun disposition categorised => ?_, fun _ _ => ⟨_, _, _, _, _, _, rfl⟩⟩,
        fun _ _ => ⟨_, _, _, _, _, _, rfl⟩⟩, fun _ _ => sampled e c⟩, fun _ _ => sampled e c⟩, fun _ _ => sampled e c⟩,
      fun _ _ => sampled e c⟩, fun _ _ => .refl s⟩, fun _ _ => .refl s⟩, fun _ _ => .refl s⟩
    have mismatch := noteMismatch_uncounted c { noteSample e c s with ids := s.ids ++ [id], cleanupKnown := confirmed }
    have noted := noteComparison_uncounted c
      (noteMismatch c { noteSample e c s with ids := s.ids ++ [id], cleanupKnown := confirmed })
    refine ⟨.trans ⟨_, _, _, _, _, _, rfl⟩ (mismatch.1.trans noted.1), fun passed completed => ?_⟩
    have required : ¬ (space.requireModelComparison && c.isNone) = true := by
      intro missing
      rw [if_pos missing] at passed
      simp at passed
    rw [if_neg required] at passed
    subst passed
    rcases executionIdOf_ok fresh with ⟨named, unseen⟩
    rw [object_eq_ok, Option.some.injEq] at own
    subst own
    refine ⟨c, id, ⟨execution, comparison, rfl, read, compared⟩, unseen, noted.2.trans mismatch.2, ?_⟩
    refine accepted_of_checks of portable (foreignData_portable read) ?_ (requireValue_eq_ok.mp bound) listed
      (requireValue_eq_ok.mp same) named categorised completed ?_
    · rintro other rfl
      exact comparisonData_portable compared
    · intro asked
      cases c with
      | none => exact (required (by rw [asked]; rfl)).elim
      | some c => rfl

end

end Mirror.Schedule
