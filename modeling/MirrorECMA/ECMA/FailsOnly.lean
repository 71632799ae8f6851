import MirrorECMA.ECMA.Coerced

namespace ECMA

variable {ε α β : Type}

/-- A computation throws nothing but these failures. -/
def FailsOnly (own : ε → Prop) (outcome : Except ε α) : Prop := ∀ thrown, outcome = .error thrown → own thrown

variable {own : ε → Prop}

@[simp] theorem failsOnly_ok (value : α) : FailsOnly own (Except.ok value) := by
  intro thrown failed
  cases failed

@[simp] theorem failsOnly_error {thrown : ε} : FailsOnly own (Except.error thrown : Except ε α) ↔ own thrown := by
  constructor
  · exact fun only => only thrown rfl
  · intro proper other failed
    cases failed
    exact proper

theorem failsOnly_iff {outcome : Except ε α} :
    FailsOnly own outcome ↔ (∃ value, outcome = .ok value) ∨ ∃ thrown, outcome = .error thrown ∧ own thrown := by
  cases outcome with
  | error thrown => simp
  | ok value => simp

/-- A sequence goes on to its second part where the first returns. -/
theorem failsOnly_bind {first : Except ε α} {next : α → Except ε β} :
    FailsOnly own (first >>= next) ↔ FailsOnly own first ∧ ∀ value, first = .ok value → FailsOnly own (next value) := by
  cases first with
  | error thrown => simp
  | ok value => simp

/-- A loop comes to an item when it has passed the items before. -/
theorem failsOnly_forM {check : α → Except ε Unit} {xs : List α} : FailsOnly own (xs.forM check) ↔
    ∀ before x after, xs = before ++ x :: after → (∀ y ∈ before, check y = .ok ()) → FailsOnly own (check x) := by
  induction xs with
  | nil =>
    constructor
    · intro _ before x after shape
      exact absurd shape.symm (List.append_ne_nil_of_right_ne_nil _ (List.cons_ne_nil _ _))
    · exact fun _ => failsOnly_ok ()
  | cons first rest ih =>
    have unfolded : (first :: rest).forM check = (check first >>= fun _ => rest.forM check) := rfl
    rw [unfolded, failsOnly_bind]
    constructor
    · rintro ⟨head, tail⟩ before x after shape passed
      cases before with
      | nil =>
        cases shape
        exact head
      | cons y before =>
        cases shape
        have others := ih.mp (tail () (passed first List.mem_cons_self))
        exact others before x after rfl fun z among => passed z (List.mem_cons_of_mem _ among)
    · intro each
      refine ⟨each [] first rest rfl (by simp), fun done passed => ih.mpr ?_⟩
      intro before x after shape earlier
      apply each (first :: before) x after (by rw [shape]; rfl)
      intro y among
      rcases List.mem_cons.mp among with same | among
      · rw [same]
        exact passed
      · exact earlier y among

theorem failsOnly_mapM {f : α → Except ε β} {xs : List α} (each : ∀ x ∈ xs, FailsOnly own (f x)) :
    FailsOnly own (xs.mapM f) := by
  induction xs with
  | nil => exact failsOnly_ok []
  | cons x rest ih =>
    rw [List.mapM_cons, failsOnly_bind]
    refine ⟨each x List.mem_cons_self, fun y _ => ?_⟩
    rw [failsOnly_bind]
    exact ⟨ih fun z among => each z (List.mem_cons_of_mem _ among), fun ys _ => failsOnly_ok _⟩

namespace Reading

variable {failure : ε}

theorem check_failsOnly (proper : own failure) (condition : Bool) : FailsOnly own (check failure condition) := by
  cases condition
  · exact failsOnly_error.mpr proper
  · exact failsOnly_ok ()

theorem own_failsOnly (proper : own failure) (value : Fields Json) (key : String) :
    FailsOnly own (Reading.own failure value key) := by
  unfold Reading.own
  split
  · exact failsOnly_ok _
  · exact failsOnly_error.mpr proper

theorem record_failsOnly (proper : own failure) (value : Json) : FailsOnly own (record failure value) := by
  unfold record
  split
  · exact failsOnly_ok _
  · exact failsOnly_error.mpr proper

theorem array_failsOnly (proper : own failure) (low high : Nat) (value : Json) :
    FailsOnly own (array failure low high value) := by
  unfold array
  split
  · split
    · exact failsOnly_ok _
    · exact failsOnly_error.mpr proper
  · exact failsOnly_error.mpr proper

theorem text_failsOnly (proper : own failure) (valid : JsString → Bool) (value : Json) :
    FailsOnly own (text failure valid value) := by
  unfold text
  split
  · split
    · exact failsOnly_ok _
    · exact failsOnly_error.mpr proper
  · exact failsOnly_error.mpr proper

theorem integer_failsOnly (proper : own failure) (min max : Nat) (value : Json) :
    FailsOnly own (integer failure min max value) := by
  unfold integer
  split
  · split
    · split
      · exact failsOnly_ok _
      · exact failsOnly_error.mpr proper
    · exact failsOnly_error.mpr proper
  · exact failsOnly_error.mpr proper

variable [NumberText] {typeError : ε}

theorem coerced_failsOnly (proper : own failure) (foreign : ¬ own typeError) {members : List String} {value : Json} :
    FailsOnly own (coerced typeError failure members value) ↔ toText value ≠ none := by
  unfold coerced
  split
  · rename_i textless
    simp [textless, foreign]
  · rename_i text found
    simp [found, check_failsOnly proper]

end Reading

/-! ### Values without a text -/

/-- An object with a `toString` of its own, or an array that has one in it. -/
inductive Textless : Json → Prop
  | object {fields : Fields Json} (shadowed : Fields.has fields (js "toString") = true) : Textless (.object fields)
  | item {items : List Json} {item : Json} (member : item ∈ items) (inside : Textless item) : Textless (.array items)

section

variable [NumberText]

mutual

theorem toText_eq_none (value : Json) : toText value = none ↔ Textless value := by
  cases value with
  | array items =>
    rw [toText, Option.map_eq_none_iff, joinTexts_eq_none items]
    constructor
    · rintro ⟨item, member, inside⟩
      exact .item member inside
    · rintro (_ | ⟨member, inside⟩)
      exact ⟨_, member, inside⟩
  | object fields =>
    rw [toText]
    constructor
    · intro none
      split at none
      · rename_i shadowed
        exact .object shadowed
      · cases none
    · rintro (shadowed | _)
      rw [if_pos shadowed]
  | _ =>
    constructor
    · intro none
      simp [toText] at none
    · intro textless
      cases textless

theorem joinTexts_eq_none (items : List Json) : joinTexts items = none ↔ ∃ item ∈ items, Textless item := by
  match items with
  | [] => simp [joinTexts]
  | item :: rest =>
    have others := joinTexts_eq_none rest
    have first := toText_eq_none item
    by_cases null : item = .null
    · subst null
      have text : ¬ Textless .null := fun textless => nomatch textless
      rw [joinTexts, Option.map_eq_none_iff, others]
      simp [text]
    · rw [joinTexts.eq_3 item rest null]
      simp only [List.mem_cons, exists_eq_or_imp, ← first, ← others]
      cases toText item with
      | none => simp
      | some text => cases joinTexts rest <;> simp

end

end

end ECMA
