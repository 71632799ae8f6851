import Mathlib.Data.List.Forall2

namespace ECMA

variable {ε α β : Type}

/-- A sequence returns when both of its parts do. -/
theorem bind_eq_ok {first : Except ε α} {next : α → Except ε β} {result : β} :
    (first >>= next) = .ok result ↔ ∃ value, first = .ok value ∧ next value = .ok result := by
  cases first with
  | error thrown => simp [bind, Except.bind]
  | ok value => simp [bind, Except.bind]

@[simp] theorem ok_bind (value : α) (next : α → Except ε β) : (Except.ok value >>= next) = next value := rfl

@[simp] theorem error_bind (thrown : ε) (next : α → Except ε β) :
    (Except.error thrown >>= next) = .error thrown := rfl

@[simp] theorem pure_eq_ok (value : α) : (pure value : Except ε α) = .ok value := rfl

theorem map_eq_ok {first : Except ε α} {f : α → β} {result : β} :
    (do return f (← first)) = Except.ok (ε := ε) result ↔ ∃ value, first = .ok value ∧ f value = result := by
  simp [bind_eq_ok]

theorem fmap_eq_ok {first : Except ε α} {f : α → β} {result : β} :
    f <$> first = .ok result ↔ ∃ value, first = .ok value ∧ f value = result := map_eq_ok

theorem mapError_eq_ok {δ : Type} {result : Except ε α} {f : ε → δ} {value : α} :
    result.mapError f = .ok value ↔ result = .ok value := by
  cases result <;> simp [Except.mapError]

theorem cons_eq_ok {head : Except ε α} {tail : Except ε (List α)} {x : α} {xs : List α} :
    (do return (← head) :: (← tail)) = Except.ok (ε := ε) (x :: xs) ↔ head = .ok x ∧ tail = .ok xs := by
  simp [bind_eq_ok]

theorem forM_eq_ok {check : α → Except ε Unit} {xs : List α} :
    xs.forM check = .ok () ↔ ∀ x ∈ xs, check x = .ok () := by
  induction xs with
  | nil => simp
  | cons x rest ih =>
    have unfolded : (x :: rest).forM check = (check x >>= fun _ => rest.forM check) := rfl
    rw [unfolded, bind_eq_ok, List.forall_mem_cons, ih]
    constructor
    · intro checked
      rcases checked with ⟨_, first, others⟩
      exact ⟨first, others⟩
    · intro checked
      exact ⟨(), checked.1, checked.2⟩

theorem mapM_eq_ok {f : α → Except ε β} {xs : List α} {ys : List β} :
    xs.mapM f = .ok ys ↔ List.Forall₂ (fun x y => f x = .ok y) xs ys := by
  induction xs generalizing ys with
  | nil => simp [eq_comm]
  | cons x rest ih =>
    rw [List.mapM_cons, bind_eq_ok]
    constructor
    · intro mapped
      rcases mapped with ⟨y, first, mapped⟩
      rcases bind_eq_ok.mp mapped with ⟨others, found, rest⟩
      cases rest
      exact .cons first (ih.mp found)
    · intro mapped
      cases mapped with
      | cons first others => exact ⟨_, first, by rw [ih.mpr others]; rfl⟩

theorem forall₂_right {R : α → β → Prop} {xs : List α} {ys : List β} (all : List.Forall₂ R xs ys) {y : β}
    (member : y ∈ ys) : ∃ x ∈ xs, R x y := by
  induction all with
  | nil => cases member
  | cons holds _ ih =>
    rcases List.mem_cons.mp member with rfl | member
    · exact ⟨_, List.mem_cons_self, holds⟩
    · rcases ih member with ⟨x, among, holds⟩
      exact ⟨x, List.mem_cons_of_mem _ among, holds⟩

theorem forall_unit {p : Unit → Prop} : (∀ u, p u) ↔ p () :=
  ⟨fun all => all (), fun one _ => one⟩

theorem exists_unit {p : Unit → Prop} : (∃ u, p u) ↔ p () :=
  ⟨fun found => found.elim fun _ holds => holds, fun holds => ⟨(), holds⟩⟩

/-- A map returns when every element passes its check. -/
theorem mapM_eq_ok_map {f : α → Except ε β} {P : α → Prop} {g : α → β} {xs : List α} {ys : List β}
    (each : ∀ x ∈ xs, ∀ y, f x = .ok y ↔ P x ∧ y = g x) : xs.mapM f = .ok ys ↔ (∀ x ∈ xs, P x) ∧ ys = xs.map g := by
  rw [mapM_eq_ok]
  induction xs generalizing ys with
  | nil => simp
  | cons x rest ih =>
    have others := fun zs : List β => @ih zs fun y member => each y (List.mem_cons_of_mem x member)
    rw [List.forall_mem_cons, List.map_cons]
    constructor
    · intro mapped
      cases mapped with
      | cons first mapped =>
        have head := (each x List.mem_cons_self _).mp first
        have tail := (others _).mp mapped
        exact ⟨⟨head.1, tail.1⟩, by rw [head.2, tail.2]⟩
    · intro checked
      rcases checked with ⟨⟨head, tail⟩, rfl⟩
      exact .cons ((each x List.mem_cons_self _).mpr ⟨head, rfl⟩) ((others _).mpr ⟨tail, rfl⟩)

theorem mapM_ok {f : α → Except ε β} {g : α → β} {xs : List α} (each : ∀ x ∈ xs, f x = .ok (g x)) :
    xs.mapM f = .ok (xs.map g) := by
  refine (mapM_eq_ok_map (P := fun _ => True) (g := g) fun x member y => ?_).mpr ⟨fun _ _ => trivial, rfl⟩
  rw [each x member, Except.ok.injEq, eq_comm, true_and]

theorem foldlM_from {f : β → α → Except ε β} {P : β → List α → Prop} {xs done : List α} {state result : β}
    (keeps : ∀ state done x next, P state done → f state x = .ok next → P next (done ++ [x])) (holds : P state done)
    (returned : xs.foldlM f state = .ok result) : P result (done ++ xs) := by
  induction xs generalizing done state with
  | nil =>
    cases returned
    rw [List.append_nil]
    exact holds
  | cons x rest ih =>
    rw [List.foldlM_cons, bind_eq_ok] at returned
    rcases returned with ⟨next, taken, others⟩
    have whole := ih (keeps state done x next holds taken) others
    rw [List.append_assoc] at whole
    exact whole

/-- What holds before a loop and is kept by its body holds after the loop. -/
theorem foldlM_ok {f : β → α → Except ε β} {P : β → List α → Prop} {xs : List α} {start result : β}
    (keeps : ∀ state done x next, P state done → f state x = .ok next → P next (done ++ [x])) (begins : P start [])
    (returned : xs.foldlM f start = .ok result) : P result xs := foldlM_from keeps begins returned

/-! ### Throwing with a state -/

variable {σ : Type}

theorem run_bind_eq_ok {first : StateT σ (Except ε) α} {next : α → StateT σ (Except ε) β} {before : σ}
    {result : β × σ} : (first >>= next).run before = .ok result ↔
      ∃ value middle, first.run before = .ok (value, middle) ∧ (next value).run middle = .ok result := by
  simp [StateT.run_bind, bind_eq_ok, Prod.exists]

theorem run_lift_eq_ok {lifted : Except ε α} {before after : σ} {value : α} :
    (liftM lifted : StateT σ (Except ε) α).run before = .ok (value, after) ↔ lifted = .ok value ∧ after = before := by
  cases lifted with
  | error thrown => simp [liftM, monadLift, MonadLift.monadLift, StateT.lift, StateT.run, bind, Except.bind]
  | ok found =>
    simp [liftM, monadLift, MonadLift.monadLift, StateT.lift, StateT.run, bind, Except.bind, pure, Except.pure, eq_comm]

theorem run_pure_eq_ok {value result : α} {before after : σ} :
    (pure value : StateT σ (Except ε) α).run before = .ok (result, after) ↔ value = result ∧ after = before := by
  rw [StateT.run_pure, pure_eq_ok, Except.ok.injEq, Prod.mk.injEq, @eq_comm _ before]

theorem run_throw_ne_ok {thrown : ε} {before : σ} {result : α × σ} :
    (throw thrown : StateT σ (Except ε) α).run before ≠ .ok result := by
  intro returned
  cases returned

end ECMA
