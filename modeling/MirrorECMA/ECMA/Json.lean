import MirrorECMA.ECMA.Text

namespace ECMA

/-- A finite double is kept as its exact value. -/
inductive Double where
  | nan
  | infinity (negative : Bool)
  | negativeZero
  | finite (value : Rat)
  deriving DecidableEq, Repr

def Double.isFinite : Double → Bool
  | .nan | .infinity _ => false
  | .negativeZero | .finite _ => true

/-- The mathematical integer of an integral double. -/
def Double.toInt? : Double → Option Int
  | .nan | .infinity _ => none
  | .negativeZero => some 0
  | .finite q => if q.den = 1 then some q.num else none

def maxSafeInteger : Nat := 2 ^ 53 - 1

/-- `Number.isSafeInteger`. -/
def Double.isSafeInteger (d : Double) : Bool :=
  match d.toInt? with
  | some i => decide (i.natAbs ≤ maxSafeInteger)
  | none => false

def Double.ofNat (n : Nat) : Double := .finite n

@[simp] theorem Double.toInt?_ofNat (n : Nat) : (Double.ofNat n).toInt? = some (n : Int) := by
  simp [Double.ofNat, Double.toInt?]

@[simp] theorem Double.toInt?_intCast (i : Int) : (Double.finite i).toInt? = some i := by
  simp [Double.toInt?]

theorem Double.isSafeInteger_iff {d : Double} :
    d.isSafeInteger = true ↔ ∃ i : Int, d.toInt? = some i ∧ i.natAbs ≤ maxSafeInteger := by
  unfold Double.isSafeInteger
  cases d.toInt? <;> simp

/-- `Number` applied to the text of a numeric literal. -/
class NumberConversion where
  number : JsString → Double

/-- Integers up to `Number.MAX_SAFE_INTEGER` are read exactly. -/
class SafeNumberConversion extends NumberConversion where
  safe_exact : ∀ n, n ≤ maxSafeInteger → number (decimal n) = .ofNat n

/-- The own enumerable properties of an object, in property order. -/
abbrev Fields (α : Type) := List (JsString × α)

namespace Fields

variable {α β : Type}

def keys (fields : Fields α) : List JsString := fields.map Prod.fst

/-- Read an own property. -/
def get (fields : Fields α) (key : JsString) : Option α :=
  match fields with
  | [] => none
  | (k, v) :: rest => if k = key then some v else get rest key

def has (fields : Fields α) (key : JsString) : Bool := (get fields key).isSome

/-- Define an own property: an existing one keeps its place, a new one goes last. -/
def set (fields : Fields α) (key : JsString) (value : α) : Fields α :=
  match fields with
  | [] => [(key, value)]
  | (k, v) :: rest => if k = key then (k, value) :: rest else (k, v) :: set rest key value

/-- Define the entries one after another on an empty object. -/
def ofEntries (entries : List (JsString × α)) : Fields α :=
  entries.foldl (fun fields entry => set fields entry.1 entry.2) []

/-- No property is listed twice: what every object satisfies. -/
def Distinct (fields : Fields α) : Prop := (keys fields).Nodup

instance (fields : Fields α) : Decidable (Distinct fields) := inferInstanceAs (Decidable (List.Nodup _))

@[simp] theorem keys_nil : keys ([] : Fields α) = [] := rfl

@[simp] theorem keys_cons (k : JsString) (v : α) (rest : Fields α) : keys ((k, v) :: rest) = k :: keys rest := rfl

theorem get_isSome {fields : Fields α} {key : JsString} : (get fields key).isSome ↔ key ∈ keys fields := by
  induction fields with
  | nil => simp [get, keys]
  | cons entry rest ih =>
    obtain ⟨k, v⟩ := entry
    by_cases same : k = key
    · simp [get, same]
    · simp [get, same, ih, Ne.symm same]

theorem has_iff {fields : Fields α} {key : JsString} : has fields key = true ↔ key ∈ keys fields := get_isSome

theorem get_eq_none {fields : Fields α} {key : JsString} : get fields key = none ↔ key ∉ keys fields := by
  rw [← get_isSome, Option.not_isSome_iff_eq_none]

theorem mem_of_get {fields : Fields α} {key : JsString} {value : α} (found : get fields key = some value) :
    (key, value) ∈ fields := by
  induction fields with
  | nil => cases found
  | cons entry rest ih =>
    obtain ⟨k, v⟩ := entry
    by_cases same : k = key
    · simp only [get, same, ↓reduceIte, Option.some.injEq] at found
      simp [same, found]
    · simp only [get, same, ↓reduceIte] at found
      exact List.mem_cons_of_mem _ (ih found)

theorem get_of_mem {fields : Fields α} (distinct : Distinct fields) {key : JsString} {value : α}
    (member : (key, value) ∈ fields) : get fields key = some value := by
  induction fields with
  | nil => cases member
  | cons entry rest ih =>
    obtain ⟨k, v⟩ := entry
    simp only [Distinct, keys_cons, List.nodup_cons] at distinct
    rcases List.mem_cons.mp member with head | tail
    · cases head
      simp [get]
    · have other : k ≠ key := fun same => distinct.1 (same ▸ List.mem_map_of_mem tail)
      simp only [get, other, ↓reduceIte]
      exact ih distinct.2 tail

theorem keys_set (fields : Fields α) (key : JsString) (value : α) :
    keys (set fields key value) = if key ∈ keys fields then keys fields else keys fields ++ [key] := by
  induction fields with
  | nil => rfl
  | cons entry rest ih =>
    obtain ⟨k, v⟩ := entry
    by_cases same : k = key
    · simp [set, same]
    · simp only [set, same, ↓reduceIte, keys_cons, ih, List.mem_cons, Ne.symm same, false_or]
      split <;> rfl

theorem set_distinct {fields : Fields α} (distinct : Distinct fields) (key : JsString) (value : α) :
    Distinct (set fields key value) := by
  unfold Distinct at *
  rw [keys_set]
  split
  · exact distinct
  · rename_i fresh
    refine List.nodup_append.mpr ⟨distinct, by simp, ?_⟩
    intro left member right single same
    rw [List.mem_singleton.mp single] at same
    exact fresh (same ▸ member)

theorem set_fresh {fields : Fields α} {key : JsString} (fresh : key ∉ keys fields) (value : α) :
    set fields key value = fields ++ [(key, value)] := by
  induction fields with
  | nil => rfl
  | cons entry rest ih =>
    obtain ⟨k, v⟩ := entry
    simp only [keys_cons, List.mem_cons, not_or] at fresh
    simp [set, Ne.symm fresh.1, ih fresh.2]

theorem get_set (fields : Fields α) (key other : JsString) (value : α) :
    get (set fields key value) other = if key = other then some value else get fields other := by
  induction fields with
  | nil => simp [set, get]
  | cons entry rest ih =>
    obtain ⟨k, v⟩ := entry
    by_cases same : k = key
    · by_cases hit : key = other <;> simp [set, get, same, hit]
    · by_cases here : k = other
      · subst here
        simp [set, same, get, Ne.symm same]
      · simp only [set, same, ↓reduceIte, get, here, ih]

theorem foldl_set_distinct (entries : List (JsString × α)) :
    ∀ fields : Fields α, Distinct fields →
      Distinct (entries.foldl (fun fields entry => set fields entry.1 entry.2) fields) := by
  induction entries with
  | nil => exact fun _ distinct => distinct
  | cons entry rest ih => exact fun fields distinct => ih _ (set_distinct distinct _ _)

theorem ofEntries_distinct (entries : List (JsString × α)) : Distinct (ofEntries entries) :=
  foldl_set_distinct entries [] List.nodup_nil

theorem foldl_set_fresh (entries : List (JsString × α)) :
    ∀ fields : Fields α, (keys fields ++ entries.map Prod.fst).Nodup →
      entries.foldl (fun fields entry => set fields entry.1 entry.2) fields = fields ++ entries := by
  induction entries with
  | nil => simp
  | cons entry rest ih =>
    intro fields distinct
    have fresh : entry.1 ∉ keys fields := fun member =>
      (List.nodup_append.mp distinct).2.2 _ member _ (by simp) rfl
    rw [List.foldl_cons, set_fresh fresh, ih, List.append_assoc, List.singleton_append]
    simpa [keys] using distinct

theorem mem_set {fields : Fields α} {key : JsString} {value : α} {entry : JsString × α}
    (member : entry ∈ set fields key value) : entry ∈ fields ∨ entry = (key, value) := by
  induction fields with
  | nil => exact .inr (List.mem_singleton.mp member)
  | cons first rest ih =>
    obtain ⟨k, v⟩ := first
    by_cases same : k = key
    · rw [set, if_pos same, List.mem_cons] at member
      rcases member with here | later
      · exact .inr (same ▸ here)
      · exact .inl (List.mem_cons_of_mem _ later)
    · rw [set, if_neg same, List.mem_cons] at member
      rcases member with here | later
      · exact .inl (here ▸ List.mem_cons_self)
      · exact (ih later).imp (List.mem_cons_of_mem _) id

theorem mem_foldl_set {entries : List (JsString × α)} {entry : JsString × α} :
    ∀ {fields : Fields α}, entry ∈ entries.foldl (fun fields entry => set fields entry.1 entry.2) fields →
      entry ∈ fields ∨ entry ∈ entries := by
  induction entries with
  | nil => exact fun member => .inl member
  | cons first rest ih =>
    intro fields member
    rcases ih member with early | late
    · rcases mem_set early with old | new
      · exact .inl old
      · exact .inr (List.mem_cons.mpr (.inl new))
    · exact .inr (List.mem_cons_of_mem _ late)

theorem mem_ofEntries {entries : List (JsString × α)} {entry : JsString × α} (member : entry ∈ ofEntries entries) :
    entry ∈ entries := (mem_foldl_set member).resolve_left List.not_mem_nil

/-- Entries without a repeated key are the object's properties as they stand. -/
theorem ofEntries_eq {entries : List (JsString × α)} (distinct : Distinct entries) :
    ofEntries entries = entries :=
  foldl_set_fresh entries [] (by simpa [Distinct, keys] using distinct)

end Fields

/-- What `JSON.parse` returns and `JSON.stringify` reads. -/
inductive Json where
  | null
  | bool (value : Bool)
  | number (value : Double)
  | string (text : JsString)
  | array (items : List Json)
  | object (fields : List (JsString × Json))

namespace Json

theorem sizeOf_item {items : List Json} {item : Json} (member : item ∈ items) :
    sizeOf item < sizeOf (Json.array items) := by
  have smaller := List.sizeOf_lt_of_mem member
  simp only [Json.array.sizeOf_spec]
  omega

theorem sizeOf_field {fields : List (JsString × Json)} {field : JsString × Json} (member : field ∈ fields) :
    sizeOf field.2 < sizeOf (Json.object fields) := by
  have smaller := List.sizeOf_lt_of_mem member
  obtain ⟨key, value⟩ := field
  simp only [Prod.mk.sizeOf_spec] at smaller
  simp only [Json.object.sizeOf_spec]
  omega

theorem sizeOf_value {fields : List (JsString × Json)} {key : JsString} {value : Json}
    (member : (key, value) ∈ fields) : sizeOf value < sizeOf (Json.object fields) := sizeOf_field member

/-- Induction over a JSON tree, with the children of a container by membership. -/
@[elab_as_elim]
theorem children_induct {motive : Json → Prop} (null : motive .null) (bool : ∀ b, motive (.bool b))
    (number : ∀ d, motive (.number d)) (string : ∀ s, motive (.string s))
    (array : ∀ items, (∀ item ∈ items, motive item) → motive (.array items))
    (object : ∀ fields, (∀ field ∈ fields, motive field.2) → motive (.object fields)) :
    ∀ json, motive json
  | .null => null
  | .bool b => bool b
  | .number d => number d
  | .string s => string s
  | .array items => array items fun item _ =>
      children_induct null bool number string array object item
  | .object fields => object fields fun field _ =>
      children_induct null bool number string array object field.2
termination_by json => sizeOf json
decreasing_by
  · exact sizeOf_item ‹_›
  · exact sizeOf_field ‹_›

mutual

def same : Json → Json → Bool
  | .null, .null => true
  | .bool a, .bool b => a == b
  | .number a, .number b => decide (a = b)
  | .string a, .string b => decide (a = b)
  | .array as, .array bs => sameItems as bs
  | .object as, .object bs => sameFields as bs
  | _, _ => false

def sameItems : List Json → List Json → Bool
  | [], [] => true
  | a :: as, b :: bs => same a b && sameItems as bs
  | _, _ => false

def sameFields : List (JsString × Json) → List (JsString × Json) → Bool
  | [], [] => true
  | (k, a) :: as, (l, b) :: bs => decide (k = l) && same a b && sameFields as bs
  | _, _ => false

end

theorem sameItems_iff {as : List Json} (each : ∀ a ∈ as, ∀ b, same a b = true ↔ a = b) (bs : List Json) :
    sameItems as bs = true ↔ as = bs := by
  induction as generalizing bs with
  | nil => cases bs <;> simp [sameItems]
  | cons a as ih =>
    cases bs with
    | nil => simp [sameItems]
    | cons b bs =>
      rw [sameItems, Bool.and_eq_true, each a List.mem_cons_self, List.cons.injEq,
        ih fun a member => each a (List.mem_cons_of_mem _ member)]

theorem sameFields_iff {as : List (JsString × Json)} (each : ∀ a ∈ as, ∀ b, same a.2 b = true ↔ a.2 = b)
    (bs : List (JsString × Json)) : sameFields as bs = true ↔ as = bs := by
  induction as generalizing bs with
  | nil => cases bs <;> simp [sameFields]
  | cons a as ih =>
    cases bs with
    | nil => simp [sameFields]
    | cons b bs =>
      rw [sameFields, Bool.and_eq_true, Bool.and_eq_true, decide_eq_true_eq, each a List.mem_cons_self, List.cons.injEq,
        Prod.ext_iff, ih fun a member => each a (List.mem_cons_of_mem _ member)]

theorem same_iff (a b : Json) : same a b = true ↔ a = b := by
  induction a using children_induct generalizing b with
  | null => cases b <;> simp [same]
  | bool a => cases b <;> simp [same]
  | number a => cases b <;> simp [same]
  | string a => cases b <;> simp [same]
  | array items ih =>
    cases b with
    | array others => rw [same, sameItems_iff ih, Json.array.injEq]
    | _ => simp [same]
  | object fields ih =>
    cases b with
    | object others => rw [same, sameFields_iff ih, Json.object.injEq]
    | _ => simp [same]

instance : DecidableEq Json := fun a b => decidable_of_iff _ (same_iff a b)

/-- No object of the tree repeats a key. -/
inductive KeysDistinct : Json → Prop
  | null : KeysDistinct .null
  | bool (b : Bool) : KeysDistinct (.bool b)
  | number (d : Double) : KeysDistinct (.number d)
  | string (s : JsString) : KeysDistinct (.string s)
  | array {items : List Json} : (∀ item ∈ items, KeysDistinct item) → KeysDistinct (.array items)
  | object {fields : Fields Json} :
    Fields.Distinct fields → (∀ field ∈ fields, KeysDistinct field.2) → KeysDistinct (.object fields)

end Json

end ECMA
