namespace Machine

variable {ε σ α β : Type}

/-- Code that may change its state before it throws. -/
abbrev Throwing (ε σ α : Type) := ExceptT ε (StateM σ) α

namespace Throwing

/-- From this state the code ends well: `Q` holds of what it returns, `E` of what it throws, with the state it leaves. -/
def Ends (m : Throwing ε σ α) (Q : α → σ → Prop) (E : ε → σ → Prop) (state : σ) : Prop :=
  match m.run.run state with
  | (.ok value, after) => Q value after
  | (.error thrown, after) => E thrown after

variable {Q : α → σ → Prop} {R : β → σ → Prop} {E F : ε → σ → Prop} {state : σ}

@[simp] theorem ends_pure {value : α} : Ends (pure value : Throwing ε σ α) Q E state ↔ Q value state := Iff.rfl

@[simp] theorem ends_throw {thrown : ε} : Ends (throw thrown : Throwing ε σ α) Q E state ↔ E thrown state := Iff.rfl

@[simp] theorem ends_get {Q : σ → σ → Prop} : Ends (get : Throwing ε σ σ) Q E state ↔ Q state state := Iff.rfl

@[simp] theorem ends_modify {Q : PUnit → σ → Prop} {change : σ → σ} :
    Ends (modify change : Throwing ε σ PUnit) Q E state ↔ Q ⟨⟩ (change state) := Iff.rfl

@[simp] theorem ends_bind {m : Throwing ε σ α} {next : α → Throwing ε σ β} :
    Ends (m >>= next) R E state ↔ Ends m (fun value after => Ends (next value) R E after) E state := by
  have run : (m >>= next).run.run state =
      match m.run.run state with
      | (.ok value, after) => (next value).run.run after
      | (.error thrown, after) => (.error thrown, after) := by
    simp only [ExceptT.run_bind, StateT.run_bind]
    show Id.run _ = _
    cases m.run.run state with
    | mk result after => cases result <;> rfl
  unfold Ends
  rw [run]
  cases m.run.run state with
  | mk result after => cases result <;> rfl

theorem ends_ite {condition : Prop} [Decidable condition] {first second : Throwing ε σ α} :
    Ends (if condition then first else second) Q E state ↔
      (condition → Ends first Q E state) ∧ (¬ condition → Ends second Q E state) := by
  by_cases holds : condition <;> simp [holds]

/-- What the code ensures, and what follows from it. -/
theorem Ends.mono {m : Throwing ε σ α} {Q' : α → σ → Prop} (ends : Ends m Q E state)
    (returns : ∀ value after, Q value after → Q' value after) (throws : ∀ thrown after, E thrown after → F thrown after) :
    Ends m Q' F state := by
  unfold Ends at ends ⊢
  split at ends
  · exact returns _ _ ends
  · exact throws _ _ ends

theorem ends_returned {m : Throwing ε σ α} {value : α} {after : σ} (ends : Ends m Q E state)
    (run : m.run.run state = (.ok value, after)) : Q value after := by
  unfold Ends at ends
  rw [run] at ends
  exact ends

theorem ends_thrown {m : Throwing ε σ α} {thrown : ε} {after : σ} (ends : Ends m Q E state)
    (run : m.run.run state = (.error thrown, after)) : E thrown after := by
  unfold Ends at ends
  rw [run] at ends
  exact ends

/-- Nothing runs after code that only throws. -/
theorem bind_stops {m : Throwing ε σ α} (stops : Ends m (fun _ _ => False) E state) (first second : α → Throwing ε σ β) :
    (m >>= first).run.run state = (m >>= second).run.run state := by
  unfold Ends at stops
  simp only [ExceptT.run_bind, StateT.run_bind]
  show Id.run _ = Id.run _
  cases found : m.run.run state with
  | mk result after =>
    rw [found] at stops
    cases result with
    | ok => cases stops
    | error thrown => rfl

end Throwing

end Machine
