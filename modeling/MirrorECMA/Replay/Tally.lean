import MirrorECMA.Replay.Evidence

namespace Mirror.Replay

open ECMA

/-! ### Observations, one after another -/

/-- How often the action occurs as a transition. -/
def actionCount (id : JsString) (accepted : List LabelledAction) : Nat :=
  accepted.countP fun action => !action.initial && decide (action.id = id)

/-- The last transition of the current trace. -/
def lastTransition (previous : Option JsString) : List LabelledAction → Option JsString
  | [] => previous
  | action :: rest => lastTransition (if action.initial then none else some action.id) rest

/-- The pairs of transitions that follow one another in one trace. -/
def following (previous : Option JsString) : List LabelledAction → List (JsString × JsString)
  | [] => []
  | action :: rest =>
    if action.initial then following none rest
    else (previous.map (·, action.id)).toList ++ following (some action.id) rest

theorem lastTransition_append (previous : Option JsString) (first second : List LabelledAction) :
    lastTransition previous (first ++ second) = lastTransition (lastTransition previous first) second := by
  induction first generalizing previous with
  | nil => rfl
  | cons action rest ih => exact ih _

theorem following_append (previous : Option JsString) (first second : List LabelledAction) :
    following previous (first ++ second) = following previous first ++ following (lastTransition previous first) second := by
  induction first generalizing previous with
  | nil => rfl
  | cons action rest ih =>
    by_cases initial : action.initial
    · simp [following, lastTransition, initial, ih]
    · simp [following, lastTransition, initial, ih]

/-! ### A corpus -/

/-- The actions of a trace: the first one initializes. -/
def labelled : List JsString → List LabelledAction
  | [] => []
  | id :: rest => ⟨id, true⟩ :: rest.map (⟨·, false⟩)

/-- The pairs that are adjacent in a list. -/
def adjacent (ids : List JsString) : List (JsString × JsString) := ids.zip ids.tail

@[simp] theorem labelled_length (trace : List JsString) : (labelled trace).length = trace.length := by
  cases trace <;> simp [labelled]

theorem labelled_get (ids : List JsString) (index : Nat) :
    (labelled ids)[index]? = ids[index]?.map (⟨·, index = 0⟩) := by
  cases ids with
  | nil => simp [labelled]
  | cons id rest => cases index <;> simp [labelled]

theorem following_transitions (previous : JsString) (ids : List JsString) :
    following (some previous) (ids.map (⟨·, false⟩)) = (previous :: ids).zip ids := by
  induction ids generalizing previous with
  | nil => rfl
  | cons id rest ih => simp [following, ih]

theorem following_labelled (previous : Option JsString) {trace : List JsString} (nonempty : trace ≠ []) :
    following previous (labelled trace) = adjacent trace.tail := by
  rcases trace with - | ⟨initial, - | ⟨first, rest⟩⟩
  · exact absurd rfl nonempty
  · rfl
  · simp [labelled, following, following_transitions, adjacent]

theorem following_corpus (previous : Option JsString) {corpus : List (List JsString)} (nonempty : ∀ trace ∈ corpus, trace ≠ []) :
    following previous (corpus.flatMap labelled) = corpus.flatMap fun trace => adjacent trace.tail := by
  induction corpus generalizing previous with
  | nil => rfl
  | cons trace rest ih =>
    rw [List.flatMap_cons, List.flatMap_cons, following_append, following_labelled previous (nonempty trace List.mem_cons_self)]
    rw [ih _ fun other member => nonempty other (List.mem_cons_of_mem _ member)]

theorem actionCount_labelled (id : JsString) (trace : List JsString) : actionCount id (labelled trace) = trace.tail.count id := by
  cases trace with
  | nil => rfl
  | cons initial rest =>
    simp only [actionCount, labelled, List.countP_cons, List.countP_map, List.tail_cons, List.count]
    simp [Function.comp_def, beq_eq_decide]

theorem actionCount_corpus (id : JsString) (corpus : List (List JsString)) :
    actionCount id (corpus.flatMap labelled) = (corpus.map fun trace => trace.tail.count id).sum := by
  rw [actionCount, List.countP_flatMap]
  exact congrArg List.sum (List.map_congr_left fun trace _ => actionCount_labelled id trace)

theorem initials_corpus {corpus : List (List JsString)} (nonempty : ∀ trace ∈ corpus, trace ≠ []) :
    (corpus.flatMap labelled).countP (·.initial) = corpus.length := by
  induction corpus with
  | nil => rfl
  | cons trace rest ih =>
    rw [List.flatMap_cons, List.countP_append, ih fun other member => nonempty other (List.mem_cons_of_mem _ member)]
    cases trace with
    | nil => exact absurd rfl (nonempty [] List.mem_cons_self)
    | cons initial rest => simp [labelled, List.countP_map, Function.comp_def, Nat.add_comm]

end Mirror.Replay
