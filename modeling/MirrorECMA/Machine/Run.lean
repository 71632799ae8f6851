namespace Machine

variable {σ ι ο : Type}

/-- One step of a machine, as it is seen from outside. -/
structure Transition (σ ι ο : Type) where
  before : σ
  input : ι
  output : ο
  after : σ

/-- The steps that a machine takes from its initial state; an input that it is not ready for takes none. -/
inductive Run (step : σ → ι → Option (σ × ο)) (initial : σ) : List (Transition σ ι ο) → σ → Prop
  | start : Run step initial [] initial
  | next {trace : List (Transition σ ι ο)} {state after : σ} {input : ι} {output : ο} :
    Run step initial trace state → step state input = some (after, output) →
    Run step initial (trace ++ [⟨state, input, output, after⟩]) after

/-- What an earlier step was is not changed by a later one. -/
theorem earlier {trace : List (Transition σ ι ο)} {P : Transition σ ι ο → Prop} (found : ∃ t ∈ trace, P t)
    (t : Transition σ ι ο) : ∃ u ∈ trace ++ [t], P u := by
  rcases found with ⟨u, member, holds⟩
  exact ⟨u, List.mem_append_left _ member, holds⟩

theorem exists_last {trace : List (Transition σ ι ο)} {P : Transition σ ι ο → Prop} {t : Transition σ ι ο} :
    (∃ u ∈ trace ++ [t], P u) ↔ (∃ u ∈ trace, P u) ∨ P t := by
  constructor
  · intro found
    rcases found with ⟨u, member, holds⟩
    rcases List.mem_append.mp member with member | member
    · exact .inl ⟨u, member, holds⟩
    · cases List.mem_singleton.mp member
      exact .inr holds
  · intro found
    rcases found with found | holds
    · exact earlier found t
    · exact ⟨t, List.mem_append_right _ (List.mem_singleton_self _), holds⟩

/-- No step of this kind follows another one. -/
def AtMostOnce (kind : Transition σ ι ο → Prop) (trace : List (Transition σ ι ο)) : Prop :=
  ∀ earlier t later, trace = earlier ++ t :: later → kind t → ∀ u ∈ earlier, ¬ kind u

namespace Run

variable {step : σ → ι → Option (σ × ο)} {initial : σ}

/-- What holds at the start and is kept by every step holds of every run. -/
theorem invariant {P : List (Transition σ ι ο) → σ → Prop} (start : P [] initial)
    (keeps : ∀ trace state input output after, P trace state → step state input = some (after, output) →
      P (trace ++ [⟨state, input, output, after⟩]) after)
    {trace : List (Transition σ ι ο)} {state : σ} (run : Run step initial trace state) : P trace state := by
  induction run with
  | start => exact start
  | next run taken ih => exact keeps _ _ _ _ _ ih taken

/-- A run that goes on from where one has ended. -/
theorem trans {earlier later : List (Transition σ ι ο)} {middle state : σ} (run : Run step initial earlier middle)
    (more : Run step middle later state) : Run step initial (earlier ++ later) state := by
  induction more with
  | start =>
    rw [List.append_nil]
    exact run
  | next _ taken ih =>
    rw [← List.append_assoc]
    exact ih.next taken

/-- A run up to one of its steps is a run. -/
theorem split {earlier later : List (Transition σ ι ο)} {t : Transition σ ι ο} {state : σ}
    (run : Run step initial (earlier ++ t :: later) state) :
    Run step initial earlier t.before ∧ step t.before t.input = some (t.after, t.output) := by
  generalize whole : earlier ++ t :: later = trace at run
  induction run generalizing later with
  | start => simp at whole
  | @next trace state after input output run taken ih =>
    rcases List.eq_nil_or_concat later with rfl | ⟨front, last, rfl⟩
    · rcases List.append_inj' whole rfl with ⟨rfl, same⟩
      cases List.cons.inj same |>.1
      exact ⟨run, taken⟩
    · have shifted : (earlier ++ t :: front) ++ [last] = trace ++ [⟨state, input, output, after⟩] := by
        simpa using whole
      exact ih (List.append_inj' shifted rfl).1

/-- What every step keeps, once reached, holds to the end. -/
theorem stable {P : σ → Prop} (keeps : ∀ state input output after, P state → step state input = some (after, output) → P after)
    {earlier later : List (Transition σ ι ο)} {t : Transition σ ι ο} {state : σ}
    (run : Run step initial (earlier ++ t :: later) state) (reached : P t.before) : P state := by
  generalize whole : earlier ++ t :: later = trace at run
  induction run generalizing later with
  | start => simp at whole
  | @next trace state after input output run taken ih =>
    rcases List.eq_nil_or_concat later with rfl | ⟨front, last, rfl⟩
    · rcases List.append_inj' whole rfl with ⟨rfl, same⟩
      cases List.cons.inj same |>.1
      exact keeps _ _ _ _ reached taken
    · have shifted : (earlier ++ t :: front) ++ [last] = trace ++ [⟨state, input, output, after⟩] := by
        simpa using whole
      exact keeps _ _ _ _ (ih (List.append_inj' shifted rfl).1) taken

/-- Every step of a run is one that the machine takes. -/
theorem taken {trace : List (Transition σ ι ο)} {state : σ} (run : Run step initial trace state)
    {t : Transition σ ι ο} (member : t ∈ trace) : step t.before t.input = some (t.after, t.output) := by
  rcases List.append_of_mem member with ⟨earlier, later, rfl⟩
  exact run.split.2

end Run

/-- Take these inputs one after another. -/
def follow (step : σ → ι → Option (σ × ο)) (state : σ) : List ι → Option (List (Transition σ ι ο) × σ)
  | [] => some ([], state)
  | input :: rest => do
    let (after, output) ← step state input
    let (trace, final) ← follow step after rest
    return (⟨state, input, output, after⟩ :: trace, final)

theorem Run.follow {step : σ → ι → Option (σ × ο)} {initial state final : σ} {inputs : List ι}
    {earlier trace : List (Transition σ ι ο)} (run : Run step initial earlier state)
    (followed : Machine.follow step state inputs = some (trace, final)) : Run step initial (earlier ++ trace) final := by
  induction inputs generalizing earlier state trace with
  | nil =>
    cases followed
    rw [List.append_nil]
    exact run
  | cons input rest ih =>
    simp only [Machine.follow, Option.bind_eq_bind, Option.bind_eq_some_iff, Prod.exists, Option.pure_def,
      Option.some.injEq, Prod.mk.injEq] at followed
    rcases followed with ⟨after, output, taken, later, last, more, rfl, rfl⟩
    have whole := ih (run.next taken) more
    rw [List.append_assoc] at whole
    exact whole

end Machine
