import MirrorECMA.Machine.Run
import MirrorECMA.Replay.Tally

namespace Mirror.Replay.MatchedEvidenceTracker

open ECMA
open Machine.Throwing (Ends ends_bind ends_get ends_ite ends_modify ends_pure ends_throw)

/-! ### Calls -/

inductive Call where
  | begin (initial : Bool) (wireAction : Option JsString)
  | reported
  | acknowledge
  | done
  | interrupt (rejected : Bool)

def Call.method : Call → Method Unit
  | .begin initial wireAction => MatchedEvidenceTracker.begin initial wireAction
  | .reported => MatchedEvidenceTracker.reported
  | .acknowledge => MatchedEvidenceTracker.acknowledge
  | .done => MatchedEvidenceTracker.done
  | .interrupt rejected => MatchedEvidenceTracker.interrupt rejected

/-- A call takes its step whether it throws or not. -/
def step (tracker : MatchedEvidenceTracker) (call : Call) :
    Option (MatchedEvidenceTracker × Except MatchedEvidenceError Unit) :=
  let (result, after) := call.method.run.run tracker
  some (after, result)

abbrev Step := Machine.Transition MatchedEvidenceTracker Call (Except MatchedEvidenceError Unit)

abbrev Run (tracker : MatchedEvidenceTracker) := Machine.Run step tracker

/-- The observation that a call settles: the pending one, where the call acknowledges it. Without strict acknowledgements
the next action or the end of the corpus settles it as well. -/
def settled (tracker : MatchedEvidenceTracker) (call : Call) : Option LabelledAction :=
  if tracker.isSealed then none
  else match call with
    | .acknowledge => tracker.pending
    | .begin _ _ | .done => if tracker.options.strictAcknowledgements then none else tracker.pending
    | .reported | .interrupt _ => none

def accepted (trace : List Step) : List LabelledAction := trace.filterMap fun t => settled t.before t.input

/-! ### Counts -/

/-- How the matched counts compare with those of the accepted observations. -/
structure Counted (R : Nat → Nat → Prop) (tracker : MatchedEvidenceTracker) (accepted : List LabelledAction) : Prop where
  initial : R tracker.initialMatched (accepted.countP (·.initial))
  transitions : R tracker.transitionMatched (accepted.countP (!·.initial))
  actions : ∀ id count, tracker.actions.get id = some count → R count (actionCount id accepted)
  pairs : ∀ pair ∈ tracker.pairs, R pair.count ((following none accepted).count (pair.source, pair.target))

theorem Counted.bounded {tracker : MatchedEvidenceTracker} {accepted : List LabelledAction}
    (counted : Counted Eq tracker accepted) : Counted (· ≤ ·) tracker accepted where
  initial := Nat.le_of_eq counted.initial
  transitions := Nat.le_of_eq counted.transitions
  actions id count found := Nat.le_of_eq (counted.actions id count found)
  pairs pair member := Nat.le_of_eq (counted.pairs pair member)

/-- One more observation raises no bound. -/
theorem Counted.later {tracker : MatchedEvidenceTracker} {accepted : List LabelledAction}
    (counted : Counted (· ≤ ·) tracker accepted) (more : List LabelledAction) :
    Counted (· ≤ ·) tracker (accepted ++ more) where
  initial := Nat.le_trans counted.initial (by rw [List.countP_append]; exact Nat.le_add_right _ _)
  transitions := Nat.le_trans counted.transitions (by rw [List.countP_append]; exact Nat.le_add_right _ _)
  actions id count found := Nat.le_trans (counted.actions id count found)
    (by rw [actionCount, actionCount, List.countP_append]; exact Nat.le_add_right _ _)
  pairs pair member := Nat.le_trans (counted.pairs pair member)
    (by rw [following_append, List.count_append]; exact Nat.le_add_right _ _)

/-- What no call changes. -/
structure Kept (first tracker : MatchedEvidenceTracker) : Prop where
  actions : ∀ id, (tracker.actions.get id).isSome = (first.actions.get id).isSome
  pairs : tracker.pairs.map (fun pair => (pair.source, pair.target)) =
    first.pairs.map fun pair => (pair.source, pair.target)
  labels : tracker.labels = first.labels
  lengths : tracker.lengths = first.lengths
  options : tracker.options = first.options

theorem Kept.refl (tracker : MatchedEvidenceTracker) : Kept tracker tracker := ⟨fun _ => rfl, rfl, rfl, rfl, rfl⟩

theorem Kept.trans {first second third : MatchedEvidenceTracker} (a : Kept first second) (b : Kept second third) :
    Kept first third where
  actions id := (b.actions id).trans (a.actions id)
  pairs := b.pairs.trans a.pairs
  labels := b.labels.trans a.labels
  lengths := b.lengths.trans a.lengths
  options := b.options.trans a.options

/-! ### Failing -/

def failed (tracker : MatchedEvidenceTracker) (reason : EvidenceUncertainty) : MatchedEvidenceTracker :=
  { tracker with
    uncertain := if reason ∈ tracker.uncertain then tracker.uncertain else tracker.uncertain ++ [reason]
    isSealed := true }

theorem failed_uncertain (tracker : MatchedEvidenceTracker) (reason : EvidenceUncertainty) :
    (failed tracker reason).uncertain ≠ [] := by
  by_cases member : reason ∈ tracker.uncertain
  · simp only [failed, member, if_true]
    exact List.ne_nil_of_mem member
  · simp [failed, member]

variable {α : Type} {tracker : MatchedEvidenceTracker} {Q : α → MatchedEvidenceTracker → Prop}
  {E : MatchedEvidenceError → MatchedEvidenceTracker → Prop}

theorem fail_ends {reason : EvidenceUncertainty} {message : String} :
    Ends (fail reason message : Method α) Q E tracker ↔ E ⟨js message⟩ (failed tracker reason) := Iff.rfl

theorem increment_ends {value : Nat} {Q : Nat → MatchedEvidenceTracker → Prop} (returns : Q (value + 1) tracker)
    (throws : ∀ error, E error (failed tracker .counter_overflow)) : Ends (increment value) Q E tracker := by
  unfold increment
  rw [ends_ite]
  exact ⟨fun _ => throws _, fun _ => returns⟩

theorem requireOpen_ends {Q : Unit → MatchedEvidenceTracker → Prop} (returns : tracker.isSealed = false → Q () tracker)
    (throws : tracker.isSealed = true → ∀ error, E error (failed tracker .protocol)) : Ends requireOpen Q E tracker := by
  unfold requireOpen
  rw [ends_bind, ends_get, ends_ite]
  constructor
  · intro shut
    exact throws shut _
  · intro open_
    exact returns (Bool.not_eq_true _ ▸ open_)

/-! ### Committing -/

/-- What an observation adds to a pair. -/
def bump (previous : Option JsString) (id : JsString) (pair : RequiredPair) : RequiredPair :=
  if some pair.source = previous ∧ pair.target = id then { pair with count := pair.count + 1 } else pair

/-- The loop over the pairs stops at the first one that overflows. -/
theorem countPairs_ends {previous : Option JsString} {id : JsString} {seen rest : List RequiredPair}
    {Q : Unit → MatchedEvidenceTracker → Prop} (state : tracker.pairs = seen ++ rest)
    (returns : Q () { tracker with pairs := seen ++ rest.map (bump previous id) })
    (throws : ∀ error k, E error
      (failed { tracker with pairs := seen ++ ((rest.take k).map (bump previous id) ++ rest.drop k) } .counter_overflow)) :
    Ends (countPairs previous id seen rest) Q E tracker := by
  induction rest generalizing seen tracker with
  | nil =>
    rw [List.map_nil, ← state] at returns
    exact returns
  | cons pair rest ih =>
    unfold countPairs
    rw [ends_ite]
    constructor
    · intro matches_
      have bumped : bump previous id pair = { pair with count := pair.count + 1 } := if_pos matches_
      rw [ends_bind]
      apply increment_ends
      · rw [ends_bind, ends_modify]
        apply ih
        · rw [List.append_assoc]
          rfl
        · rw [List.map_cons, bumped] at returns
          rw [List.append_assoc]
          exact returns
        · intro error k
          have thrown := throws error (k + 1)
          rw [List.take_succ_cons, List.map_cons, bumped, List.drop_succ_cons] at thrown
          rw [List.append_assoc]
          exact thrown
      · intro error
        have thrown := throws error 0
        rw [List.take_zero, List.map_nil, List.nil_append, List.drop_zero, ← state] at thrown
        exact thrown
    · intro differs
      have bumped : bump previous id pair = pair := if_neg differs
      apply ih
      · rw [List.append_assoc]
        exact state
      · rw [List.map_cons, bumped] at returns
        rw [List.append_assoc]
        exact returns
      · intro error k
        have thrown := throws error (k + 1)
        rw [List.take_succ_cons, List.map_cons, bumped, List.drop_succ_cons] at thrown
        rw [List.append_assoc]
        exact thrown

theorem countAction_ends {id : JsString} {Q : Unit → MatchedEvidenceTracker → Prop}
    (returns : ∀ actions : JsMap JsString Nat,
      (∀ other, actions.get other = (tracker.actions.get other).map fun count => if other = id then count + 1 else count) →
        Q () { tracker with actions })
    (throws : ∀ error, E error (failed tracker .counter_overflow)) : Ends (countAction id) Q E tracker := by
  unfold countAction
  rw [ends_bind, ends_get]
  cases found : tracker.actions.get id with
  | none =>
    apply returns tracker.actions
    intro other
    by_cases same : other = id
    · rw [same, found]
      rfl
    · simp [same]
  | some count =>
    dsimp only
    rw [ends_bind]
    apply increment_ends
    · rw [ends_modify]
      apply returns
      intro other
      rw [JsMap.get_set]
      by_cases same : other = id
      · simp [same, found]
      · simp [same, Ne.symm same]
    · exact throws

end Mirror.Replay.MatchedEvidenceTracker
