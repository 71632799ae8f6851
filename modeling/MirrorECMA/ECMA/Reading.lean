import MirrorECMA.ECMA.CodeUnitOrder
import MirrorECMA.ECMA.Shape
import MirrorECMA.ECMA.Stringify
import MirrorECMA.ECMA.Throws

namespace ECMA.Reading

/-! Readers of parsed values: what they return, and the failure each of them throws otherwise. -/

variable {ε : Type} {failure : ε}

def check (failure : ε) (condition : Bool) : Except ε Unit := if condition then .ok () else .error failure

/-- An own property. -/
def own (failure : ε) (value : Fields Json) (key : String) : Except ε Json :=
  match Fields.get value (js key) with
  | some found => .ok found
  | none => .error failure

/-- An object that is no array. -/
def record (failure : ε) (value : Json) : Except ε (Fields Json) :=
  match value with
  | .object fields => .ok fields
  | _ => .error failure

/-- An array whose length lies between two bounds. -/
def array (failure : ε) (low high : Nat) (value : Json) : Except ε (List Json) :=
  match value with
  | .array items => if low ≤ items.length ∧ items.length ≤ high then .ok items else .error failure
  | _ => .error failure

/-- The own keys and the expected ones are the same up to their order. -/
def sameKeys (value : Fields Json) (keys : List String) : Bool :=
  decide (sort compareCodeUnits (Fields.keys value) = sort compareCodeUnits (keys.map js))

def exact (failure : ε) (value : Fields Json) (keys : List String) : Except ε Unit := check failure (sameKeys value keys)

/-- A string that passes a test. -/
def text (failure : ε) (valid : JsString → Bool) (value : Json) : Except ε JsString :=
  match value with
  | .string s => if valid s then .ok s else .error failure
  | _ => .error failure

/-- A safe integer between two bounds. -/
def integer (failure : ε) (min max : Nat) (value : Json) : Except ε Double :=
  match value with
  | .number d => match d.toInt? with
    | some i => if d.isSafeInteger ∧ (min : Int) ≤ i ∧ i ≤ max then .ok d else .error failure
    | none => .error failure
  | _ => .error failure

/-- `members.includes(String(value))`. -/
def coerced [NumberText] (typeError failure : ε) (members : List String) (value : Json) : Except ε Unit :=
  match toText value with
  | none => .error typeError
  | some text => check failure (decide (text ∈ members.map js))

/-- `value === literal`. -/
def equalsText (value : Json) (literal : String) : Bool := decide (value = .string (js literal))

theorem check_ok {condition : Bool} {done : Unit} : check failure condition = .ok done ↔ condition = true := by
  cases condition <;> simp [check]

theorem own_ok {value : Fields Json} {key : String} {found : Json} :
    own failure value key = .ok found ↔ Fields.get value (js key) = some found := by
  unfold own
  split <;> simp_all

theorem record_ok {value : Json} {fields : Fields Json} : record failure value = .ok fields ↔ value = .object fields := by
  unfold record
  split <;> simp_all

theorem exact_ok {value : Fields Json} {keys : List String} {done : Unit} :
    exact failure value keys = .ok done ↔ sameKeys value keys = true := check_ok

theorem array_ok {value : Json} {low high : Nat} {items : List Json} : array failure low high value = .ok items ↔
    value = .array items ∧ low ≤ items.length ∧ items.length ≤ high := by
  unfold array
  split
  · rename_i found
    by_cases within : low ≤ found.length ∧ found.length ≤ high
    · rw [if_pos within, Except.ok.injEq, Json.array.injEq]
      constructor
      · intro same
        exact ⟨same, same ▸ within⟩
      · intro same
        exact same.1
    · rw [if_neg within, Json.array.injEq]
      constructor
      · intro read
        cases read
      · intro same
        exact absurd (same.1 ▸ same.2) within
  · rename_i other
    constructor
    · intro read
      cases read
    · intro same
      exact absurd same.1 (other items)

theorem text_ok {value : Json} {valid : JsString → Bool} {s : JsString} :
    text failure valid value = .ok s ↔ value = .string s ∧ valid s = true := by
  unfold text
  split
  · rename_i found
    rw [Json.string.injEq]
    constructor
    · intro read
      split at read
      · rename_i passes
        cases read
        exact ⟨rfl, passes⟩
      · cases read
    · intro both
      rw [both.1, if_pos both.2]
  · rename_i other
    constructor
    · intro read
      cases read
    · intro both
      exact absurd both.1 (other s)

theorem integer_ok {value : Json} {min max : Nat} {d : Double} (read : integer failure min max value = .ok d) :
    value = .number d ∧ ∃ i : Int, d.toInt? = some i ∧ min ≤ i ∧ i ≤ max := by
  unfold integer at read
  split at read
  · split at read
    · rename_i i found
      split at read
      · rename_i within
        cases read
        exact ⟨rfl, i, found, within.2⟩
      · cases read
    · cases read
  · cases read

theorem equalsText_iff {value : Json} {literal : String} : equalsText value literal = true ↔ value = .string (js literal) := by
  rw [equalsText, decide_eq_true_eq]

/-- An object has no other keys than the expected ones. -/
theorem sameKeys_mem {value : Fields Json} {keys : List String} (same : sameKeys value keys = true) {key : String} {v : Json}
    (found : Fields.get value (js key) = some v) : key ∈ keys := by
  rw [sameKeys, decide_eq_true_eq] at same
  have present : js key ∈ Fields.keys value := Fields.get_isSome.mp (by rw [found]; rfl)
  have member : js key ∈ keys.map js := (perm_of_sort_eq same).subset present
  rcases List.mem_map.mp member with ⟨other, among, equal⟩
  exact js_inj.mp equal ▸ among

/-- An object has all of the expected keys. -/
theorem sameKeys_get {value : Fields Json} {keys : List String} (same : sameKeys value keys = true) {key : String}
    (among : key ∈ keys) : ∃ v, Fields.get value (js key) = some v := by
  rw [sameKeys, decide_eq_true_eq] at same
  have member : js key ∈ Fields.keys value := (perm_of_sort_eq same).symm.subset (List.mem_map_of_mem among)
  exact Option.isSome_iff_exists.mp (Fields.get_isSome.mpr member)

end ECMA.Reading
