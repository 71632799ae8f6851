import MirrorECMA.ECMA.Json

namespace ECMA

inductive Segment where
  | field (key : JsString)
  | index (n : Nat)
  deriving DecidableEq

namespace Json

/-- A property or an element; `none` is `undefined`. -/
def child (json : Option Json) (segment : Segment) : Option Json :=
  match json, segment with
  | some (.object fields), .field key => Fields.get fields key
  | some (.array items), .index n => items[n]?
  | _, _ => none

/-- The value at a place. -/
def place (json : Option Json) (path : List Segment) : Option Json := path.foldl child json

/-- `Boolean` of a value or of `undefined`. -/
def toBoolean : Option Json → Bool
  | none | some .null | some (.number .nan) | some (.number .negativeZero) => false
  | some (.bool b) => b
  | some (.number d) => decide (d ≠ .finite 0)
  | some (.string s) => !s.isEmpty
  | some (.array _) | some (.object _) => true

/-- What stands at a place, without what is under it. -/
inductive Kind where
  | undefined
  | null
  | bool (b : Bool)
  | number (d : Double)
  | string (s : JsString)
  | array (length : Nat)
  | object
  deriving DecidableEq

def kind : Option Json → Kind
  | none => .undefined
  | some .null => .null
  | some (.bool b) => .bool b
  | some (.number d) => .number d
  | some (.string s) => .string s
  | some (.array items) => .array items.length
  | some (.object _) => .object

mutual

/-- Assign to a property of the object at a place. -/
def assign (path : List Segment) (key : JsString) (value : Json) : Json → Json
  | .object fields =>
    match path with
    | [] => .object (Fields.set fields key value)
    | .field name :: rest => .object (assignField rest key value name fields)
    | _ => .object fields
  | .array items =>
    match path with
    | .index n :: rest => .array (assignItem rest key value n items)
    | _ => .array items
  | json => json

def assignField (path : List Segment) (key : JsString) (value : Json) (name : JsString) :
    List (JsString × Json) → List (JsString × Json)
  | [] => []
  | (k, v) :: rest => if k = name then (k, assign path key value v) :: rest else (k, v) :: assignField path key value name rest

def assignItem (path : List Segment) (key : JsString) (value : Json) : Nat → List Json → List Json
  | _, [] => []
  | 0, item :: rest => assign path key value item :: rest
  | n + 1, item :: rest => item :: assignItem path key value n rest

end

section

variable {json : Option Json} {path rest : List Segment} {segment : Segment}

@[simp] theorem place_nil (json : Option Json) : place json [] = json := rfl

@[simp] theorem place_cons (json : Option Json) (segment : Segment) (path : List Segment) :
    place json (segment :: path) = place (child json segment) path := rfl

theorem place_append (json : Option Json) (path rest : List Segment) : place json (path ++ rest) = place (place json path) rest :=
  List.foldl_append

@[simp] theorem child_none (segment : Segment) : child none segment = none := rfl

@[simp] theorem place_none (path : List Segment) : place none path = none := by
  induction path with
  | nil => rfl
  | cons segment rest ih => rw [place_cons, child_none, ih]

/-- What is no object and no array has nothing under it. -/
theorem child_leaf (leaf : ∀ n, kind json ≠ .array n) (other : kind json ≠ .object) (segment : Segment) : child json segment = none := by
  match json, segment with
  | some (.object _), _ => exact absurd rfl other
  | some (.array _), _ => exact absurd rfl (leaf _)
  | none, _ | some .null, _ | some (.bool _), _ | some (.number _), _ | some (.string _), _ => rfl

theorem kind_object (same : kind json = .object) : ∃ fields, json = some (.object fields) := by
  match json with
  | some (.object fields) => exact ⟨fields, rfl⟩
  | none | some .null | some (.bool _) | some (.number _) | some (.string _) | some (.array _) => cases same

theorem kind_undefined : kind json = .undefined ↔ json = none := by
  constructor
  · intro same
    match json with
    | none => rfl
    | some .null | some (.bool _) | some (.number _) | some (.string _) | some (.array _) | some (.object _) => cases same
  · intro same
    rw [same]
    rfl

theorem get_assignField (path : List Segment) (key : JsString) (value : Json) (name other : JsString) (fields : Fields Json) :
    Fields.get (assignField path key value name fields) other =
      if name = other then (Fields.get fields other).map (assign path key value) else Fields.get fields other := by
  induction fields with
  | nil =>
    rw [assignField]
    split <;> rfl
  | cons field rest ih =>
    rcases field with ⟨k, v⟩
    rw [assignField]
    by_cases hit : k = name
    · subst hit
      by_cases same : k = other
      · simp [Fields.get, same]
      · simp [Fields.get, same]
    · rw [if_neg hit, Fields.get, ih, Fields.get]
      by_cases same : k = other
      · subst same
        simp [Ne.symm hit]
      · simp [same]

theorem getElem?_assignItem (path : List Segment) (key : JsString) (value : Json) (n m : Nat) (items : List Json) :
    (assignItem path key value n items)[m]? = if n = m then items[m]?.map (assign path key value) else items[m]? := by
  induction items generalizing n m with
  | nil => cases n <;> simp [assignItem]
  | cons item rest ih =>
    cases n with
    | zero => cases m <;> simp [assignItem]
    | succ n => cases m <;> simp [assignItem, ih]

theorem length_assignItem (path : List Segment) (key : JsString) (value : Json) (n : Nat) (items : List Json) :
    (assignItem path key value n items).length = items.length := by
  induction items generalizing n with
  | nil => cases n <;> rfl
  | cons item rest ih => cases n <;> simp [assignItem, ih]

theorem kind_assign (path : List Segment) (key : JsString) (value json : Json) :
    kind (some (assign path key value json)) = kind (some json) := by
  match json, path with
  | .array items, .index n :: rest =>
    rw [assign]
    exact congrArg Kind.array (length_assignItem rest key value n items)
  | .object _, [] | .object _, .field _ :: _ | .object _, .index _ :: _ | .array _, [] | .array _, .field _ :: _ => simp [assign, kind]
  | .null, _ | .bool _, _ | .number _, _ | .string _, _ => simp [assign]

/-- Under the first step towards the place, the assignment is made there; elsewhere nothing changes. -/
theorem child_assign (segment : Segment) (path : List Segment) (key : JsString) (value : Json) (json : Json) (other : Segment) :
    child (some (assign (segment :: path) key value json)) other =
      if segment = other then (child (some json) other).map (assign path key value) else child (some json) other := by
  match json, segment, other with
  | .object fields, .field name, .field other =>
    rw [assign]
    simp only [child, get_assignField, Segment.field.injEq]
  | .array items, .index n, .index m =>
    rw [assign]
    simp only [child, getElem?_assignItem, Segment.index.injEq]
  | .object _, .field _, .index _ | .object _, .index _, .field _ | .object _, .index _, .index _ => simp [assign, child]
  | .array _, .field _, .field _ | .array _, .field _, .index _ | .array _, .index _, .field _ => simp [assign, child]
  | .null, _, _ | .bool _, _, _ | .number _, _, _ | .string _, _, _ => simp [assign, child]

theorem child_assign_nil {segment : Segment} {key : JsString} {value json : Json} (differ : segment ≠ .field key) :
    child (some (assign [] key value json)) segment = child (some json) segment := by
  match json, segment with
  | .object fields, .field name =>
    have names : key ≠ name := fun same => differ (by rw [same])
    simp [assign, child, Fields.get_set, names]
  | .object _, .index _ => simp [assign, child]
  | .null, _ | .bool _, _ | .number _, _ | .string _, _ | .array _, _ => simp [assign, child]

theorem place_assign_self {path : List Segment} {key : JsString} {value json : Json} {fields : Fields Json}
    (there : place (some json) path = some (.object fields)) :
    place (some (assign path key value json)) (path ++ [.field key]) = some value := by
  induction path generalizing json with
  | nil =>
    cases there
    simp [assign, child, Fields.get_set]
  | cons segment path ih =>
    rw [place_cons] at there
    rw [List.cons_append, place_cons, child_assign, if_pos rfl]
    cases below : child (some json) segment with
    | none =>
      rw [below, place_none] at there
      cases there
    | some inner =>
      rw [below] at there
      exact ih there

/-- An assignment changes nothing but what is under its place. -/
theorem kind_place_assign {path other : List Segment} {key : JsString} {value : Json} {json : Json} {fields : Fields Json}
    (there : place (some json) path = some (.object fields)) (apart : ¬ path ++ [.field key] <+: other) :
    kind (place (some (assign path key value json)) other) = kind (place (some json) other) := by
  induction path generalizing json other with
  | nil =>
    cases there
    cases other with
    | nil => exact kind_assign ..
    | cons segment rest =>
      have differ : segment ≠ .field key := fun same => apart (by rw [same]; exact ⟨rest, rfl⟩)
      rw [place_cons, place_cons, child_assign_nil differ]
  | cons segment path ih =>
    cases other with
    | nil => exact kind_assign ..
    | cons first rest =>
      rw [place_cons, place_cons, child_assign]
      split
      · rename_i hit
        subst hit
        rw [place_cons] at there
        cases below : child (some json) segment with
        | none => rfl
        | some inner =>
          rw [below] at there
          exact ih there fun inside => apart ((List.prefix_cons_inj segment).mpr inside)
      · rfl

/-- An assignment leaves every value that is not above or under its place. -/
theorem place_assign_apart {path other : List Segment} {key : JsString} {value : Json} {json : Json}
    (inside : ¬ path ++ [.field key] <+: other) (above : ¬ other <+: path ++ [.field key]) :
    place (some (assign path key value json)) other = place (some json) other := by
  induction path generalizing json other with
  | nil =>
    cases other with
    | nil => exact absurd List.nil_prefix above
    | cons segment rest =>
      have differ : segment ≠ .field key := fun same => inside (by rw [same]; exact ⟨rest, rfl⟩)
      rw [place_cons, place_cons, child_assign_nil differ]
  | cons segment path ih =>
    cases other with
    | nil => exact absurd List.nil_prefix above
    | cons first rest =>
      rw [place_cons, place_cons, child_assign]
      split
      · rename_i hit
        subst hit
        cases below : child (some json) segment with
        | none => rfl
        | some inner =>
          exact ih (fun under => inside ((List.prefix_cons_inj segment).mpr under))
            fun beyond => above ((List.prefix_cons_inj segment).mpr beyond)
      · rfl

end

end Json

end ECMA
