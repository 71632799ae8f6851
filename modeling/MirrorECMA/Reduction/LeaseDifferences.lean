import MirrorECMA.Reduction.LeaseTrace
import Mathlib.Data.List.Dedup

namespace Mirror.Reduction.Lease

open ECMA ECMA.Json

/-! ### Where two values differ -/

theorem mem_unionKeys {left right : List JsString} {key : JsString} : key ∈ unionKeys left right ↔ key ∈ left ∨ key ∈ right := by
  rw [unionKeys, mem_sort, List.mem_dedup, List.mem_append]

theorem unionKeys_nodup (left right : List JsString) : (unionKeys left right).Nodup :=
  (sort_perm _ _).nodup_iff.mpr (List.nodup_dedup _)

/-- Two values are of different kinds at a place and of the same kind at each place above it. -/
def Differs (left right : Option Json) (path : List Segment) : Prop :=
  kind (place left path) ≠ kind (place right path) ∧
    ∀ above, above <+: path → above ≠ path → kind (place left above) = kind (place right above)

section

variable {left right : Option Json} {path : List Segment}

theorem differs_cons (segment : Segment) :
    Differs left right (segment :: path) ↔ kind left = kind right ∧ Differs (child left segment) (child right segment) path := by
  constructor
  · rintro ⟨differ, same⟩
    refine ⟨same [] List.nil_prefix (List.cons_ne_nil _ _).symm, differ, fun above inside proper => ?_⟩
    exact same (segment :: above) ((List.prefix_cons_inj segment).mpr inside) fun equal => proper (List.cons_injective equal)
  · rintro ⟨here, differ, same⟩
    refine ⟨differ, fun above inside proper => ?_⟩
    cases above with
    | nil => exact here
    | cons first rest =>
      rcases List.cons_prefix_cons.mp inside with ⟨rfl, below⟩
      exact same rest below fun equal => proper (by rw [equal])

theorem differs_here (differ : kind left ≠ kind right) : Differs left right path ↔ path = [] := by
  constructor
  · intro differs
    cases path with
    | nil => rfl
    | cons segment rest => exact absurd ((differs_cons segment).mp differs).1 differ
  · intro empty
    rw [empty]
    exact ⟨differ, fun above inside proper => absurd (List.prefix_nil.mp inside) proper⟩

theorem not_differs_self (value : Option Json) (path : List Segment) : ¬ Differs value value path := fun differs => differs.1 rfl

/-- Values of one kind without elements and properties do not differ. -/
theorem not_differs_leaf (same : kind left = kind right) (items : ∀ n, kind left ≠ .array n) (fields : kind left ≠ .object)
    (path : List Segment) : ¬ Differs left right path := by
  intro differs
  cases path with
  | nil => exact differs.1 same
  | cons segment rest =>
    have below := ((differs_cons segment).mp differs).2
    rw [child_leaf items fields, child_leaf (same ▸ items) (same ▸ fields)] at below
    exact not_differs_self none rest below

end

theorem differs_items {left right : List Json} {path : List Segment} (lengths : left.length = right.length) :
    Differs (some (.array left)) (some (.array right)) path ↔
      ∃ n rest, path = .index (0 + n) :: rest ∧ n < left.length ∧ Differs left[n]? right[n]? rest := by
  have same : kind (some (.array left)) = kind (some (.array right)) := congrArg Kind.array lengths
  simp only [Nat.zero_add]
  constructor
  · intro differs
    cases path with
    | nil => exact absurd same differs.1
    | cons segment rest =>
      have below := ((differs_cons segment).mp differs).2
      cases segment with
      | field key => exact absurd below (not_differs_self none rest)
      | index n =>
        refine ⟨n, rest, rfl, ?_, below⟩
        by_contra outside
        simp only [child, List.getElem?_eq_none (not_lt.mp outside), List.getElem?_eq_none (lengths ▸ not_lt.mp outside)] at below
        exact not_differs_self none rest below
  · rintro ⟨n, rest, rfl, _, below⟩
    exact (differs_cons (.index n)).mpr ⟨same, below⟩

theorem differs_fields {left right : Fields Json} {path : List Segment} :
    Differs (some (.object left)) (some (.object right)) path ↔
      ∃ key rest, path = .field key :: rest ∧ key ∈ unionKeys (Fields.keys left) (Fields.keys right) ∧
        Differs (Fields.get left key) (Fields.get right key) rest := by
  constructor
  · intro differs
    cases path with
    | nil => exact absurd rfl differs.1
    | cons segment rest =>
      have below := ((differs_cons segment).mp differs).2
      cases segment with
      | index n => exact absurd below (not_differs_self none rest)
      | field key =>
        refine ⟨key, rest, rfl, ?_, below⟩
        by_contra outside
        rw [mem_unionKeys, not_or] at outside
        simp only [child, Fields.get_eq_none.mpr outside.1, Fields.get_eq_none.mpr outside.2] at below
        exact not_differs_self none rest below
  · rintro ⟨key, rest, rfl, _, below⟩
    exact (differs_cons (.field key)).mpr ⟨rfl, below⟩

/-! ### Lists of places -/

def segmentText : Segment → JsString
  | .field key => js "/" ++ key
  | .index n => js "/" ++ decimal n

def placeText (path : List Segment) : JsString := path.flatMap segmentText

/-- The texts of places, each of them once. -/
def Lists (texts : List JsString) (start : JsString) (inside : List Segment → Prop) : Prop :=
  ∃ paths : List (List Segment), texts = paths.map (start ++ placeText ·) ∧ paths.Nodup ∧ ∀ path, path ∈ paths ↔ inside path

section

variable {xs ys : List JsString} {start : JsString} {p q : List Segment → Prop}

theorem Lists.mono (lists : Lists xs start p) (same : ∀ path, p path ↔ q path) : Lists xs start q := by
  rcases lists with ⟨paths, texts, once, member⟩
  exact ⟨paths, texts, once, fun path => (member path).trans (same path)⟩

theorem Lists.none (empty : ∀ path, ¬ p path) : Lists [] start p :=
  ⟨[], rfl, List.nodup_nil, fun path => ⟨fun member => absurd member List.not_mem_nil, fun inside => absurd inside (empty path)⟩⟩

theorem Lists.here (only : ∀ path, p path ↔ path = []) : Lists [start] start p := by
  refine ⟨[[]], ?_, List.nodup_singleton _, fun path => ?_⟩
  · simp [placeText]
  · rw [List.mem_singleton, only]

theorem Lists.append (left : Lists xs start p) (right : Lists ys start q) (apart : ∀ path, p path → ¬ q path) :
    Lists (xs ++ ys) start fun path => p path ∨ q path := by
  rcases left with ⟨before, rfl, once, first⟩
  rcases right with ⟨after, rfl, again, second⟩
  refine ⟨before ++ after, List.map_append.symm, ?_, fun path => ?_⟩
  · refine List.nodup_append.mpr ⟨once, again, fun path early other late same => ?_⟩
    exact apart path ((first path).mp early) ((second path).mp (same ▸ late))
  · rw [List.mem_append, first, second]

theorem Lists.under (segment : Segment) (lists : Lists xs (start ++ segmentText segment) p) :
    Lists xs start fun path => ∃ rest, path = segment :: rest ∧ p rest := by
  rcases lists with ⟨paths, rfl, once, member⟩
  refine ⟨paths.map (segment :: ·), ?_, once.map List.cons_injective, fun path => ?_⟩
  · rw [List.map_map]
    exact List.map_congr_left fun path _ => by simp [placeText]
  · simp only [List.mem_map, member]
    exact ⟨fun ⟨rest, inside, same⟩ => ⟨rest, same.symm, inside⟩, fun ⟨rest, same, inside⟩ => ⟨rest, inside, same.symm⟩⟩

/-- The places below some properties, one property after another. -/
theorem Lists.flatMap {keys : List JsString} {texts : JsString → List JsString} {below : JsString → List Segment → Prop}
    (distinct : keys.Nodup) (each : ∀ key ∈ keys, Lists (texts key) (start ++ segmentText (.field key)) (below key)) :
    Lists (keys.flatMap texts) start fun path => ∃ key rest, path = .field key :: rest ∧ key ∈ keys ∧ below key rest := by
  induction keys with
  | nil => exact .none fun path inside => by rcases inside with ⟨_, _, _, member, _⟩; cases member
  | cons key keys ih =>
    rcases List.nodup_cons.mp distinct with ⟨fresh, distinct⟩
    have first := (each key List.mem_cons_self).under
    have later := ih distinct fun other member => each other (List.mem_cons_of_mem _ member)
    refine (first.append later ?_).mono fun path => ?_
    · rintro path ⟨_, rfl, _⟩ ⟨other, _, same, member, _⟩
      cases same
      exact fresh member
    · constructor
      · rintro (⟨rest, rfl, inside⟩ | ⟨other, rest, rfl, member, inside⟩)
        · exact ⟨key, rest, rfl, List.mem_cons_self, inside⟩
        · exact ⟨other, rest, rfl, List.mem_cons_of_mem _ member, inside⟩
      · rintro ⟨other, rest, rfl, member, inside⟩
        rcases List.mem_cons.mp member with rfl | member
        · exact .inl ⟨rest, rfl, inside⟩
        · exact .inr ⟨other, rest, rfl, member, inside⟩

end

/-! ### The structural difference -/

theorem get_differencesFields (fields : Fields Json) (key : JsString) :
    Fields.get (differencesFields fields) key = (Fields.get fields key).map differences := by
  induction fields with
  | nil => rfl
  | cons field rest ih =>
    rcases field with ⟨name, value⟩
    rw [differencesFields, Fields.get, Fields.get, ih]
    split <;> rfl

theorem differencesItems_lists {left : List Json}
    (each : ∀ item ∈ left, ∀ right path, Lists (differences item right path) path (Differs (some item) right))
    (right : List Json) (path : JsString) (index : Nat) :
    Lists (differencesItems left right path index) path fun p =>
      ∃ n rest, p = .index (index + n) :: rest ∧ n < left.length ∧ Differs left[n]? right[n]? rest := by
  induction left generalizing right index with
  | nil => exact .none fun path inside => by rcases inside with ⟨_, _, _, short, _⟩; cases short
  | cons item left ih =>
    have first : Lists (differences item right.head? (path ++ js "/" ++ decimal index)) (path ++ segmentText (.index index))
        (Differs (some item) right.head?) := by
      rw [segmentText, ← List.append_assoc]
      exact each item List.mem_cons_self _ _
    have later := ih (fun other member => each other (List.mem_cons_of_mem _ member)) right.tail (index + 1)
    rw [differencesItems]
    refine (first.under.append later ?_).mono fun p => ?_
    · rintro p ⟨_, rfl, _⟩ ⟨n, _, same, _⟩
      simp only [List.cons.injEq, Segment.index.injEq] at same
      omega
    · constructor
      · rintro (⟨rest, rfl, differs⟩ | ⟨n, rest, rfl, short, differs⟩)
        · refine ⟨0, rest, rfl, Nat.zero_lt_succ _, ?_⟩
          rwa [List.head?_eq_getElem?] at differs
        · refine ⟨n + 1, rest, by rw [Nat.add_right_comm, Nat.add_assoc], Nat.succ_lt_succ short, ?_⟩
          rwa [List.getElem?_tail] at differs
      · rintro ⟨n, rest, rfl, short, differs⟩
        cases n with
        | zero => exact .inl ⟨rest, rfl, by rwa [List.head?_eq_getElem?]⟩
        | succ n =>
          refine .inr ⟨n, rest, by rw [Nat.add_right_comm, Nat.add_assoc], Nat.lt_of_succ_lt_succ short, ?_⟩
          rwa [List.getElem?_tail]

theorem differencesFields_lists {left : Fields Json}
    (each : ∀ field ∈ left, ∀ right path, Lists (differences field.2 right path) path (Differs (some field.2) right))
    (right : Fields Json) (path : JsString) :
    Lists (differences (.object left) (some (.object right)) path) path fun p =>
      ∃ key rest, p = .field key :: rest ∧ key ∈ unionKeys (Fields.keys left) (Fields.keys right) ∧
        Differs (Fields.get left key) (Fields.get right key) rest := by
  rw [differences]
  refine .flatMap (unionKeys_nodup _ _) fun key member => ?_
  rw [get_differencesFields, segmentText, ← List.append_assoc]
  cases found : Fields.get left key with
  | some value => exact each _ (Fields.mem_of_get found) _ _
  | none =>
    -- only the other object has the key
    have there : (Fields.get right key).isSome :=
      Fields.get_isSome.mpr ((mem_unionKeys.mp member).resolve_left (Fields.get_eq_none.mp found))
    refine .here fun rest => differs_here fun same => ?_
    rw [kind_undefined.mp same.symm] at there
    cases there

theorem other_lists {left right : Option Json} {path : JsString} {texts : List JsString} (differ : kind left ≠ kind right)
    (here : texts = [path]) : Lists texts path (Differs left right) := by
  rw [here]
  exact .here fun p => differs_here differ

/-- Values that hold no others differ as a whole or not at all. -/
theorem leaf_lists {left right : Option Json} {path : JsString} {texts : List JsString} (items : ∀ n, kind left ≠ .array n)
    (fields : kind left ≠ .object) (either : texts = if kind left = kind right then [] else [path]) :
    Lists texts path (Differs left right) := by
  split at either
  · rename_i same
    rw [either]
    exact .none (not_differs_leaf same items fields)
  · rename_i differ
    exact other_lists differ either

theorem differences_lists (left : Json) (right : Option Json) (path : JsString) :
    Lists (differences left right path) path (Differs (some left) right) := by
  induction left using children_induct generalizing right path with
  | null => exact leaf_lists (by simp [kind]) (by simp [kind]) (by simp [differences])
  | bool => exact leaf_lists (by simp [kind]) (by simp [kind]) (by simp [differences])
  | number => exact leaf_lists (by simp [kind]) (by simp [kind]) (by simp [differences])
  | string => exact leaf_lists (by simp [kind]) (by simp [kind]) (by simp [differences])
  | array items ih =>
    cases right with
    | none => exact other_lists (by simp [kind]) (by simp [differences])
    | some other =>
      cases other with
      | array others =>
        rw [differences]
        split
        · rename_i lengths
          exact .here fun p => differs_here fun same => lengths (Kind.array.inj same)
        · rename_i lengths
          refine (differencesItems_lists ih others path 0).mono fun p => ?_
          exact (differs_items (not_not.mp lengths)).symm
      | _ => exact other_lists (by simp [kind]) (by simp [differences])
  | object fields ih =>
    cases right with
    | none => exact other_lists (by simp [kind]) (by simp [differences])
    | some other =>
      cases other with
      | object others => exact (differencesFields_lists ih others path).mono fun p => differs_fields.symm
      | _ => exact other_lists (by simp [kind]) (by simp [differences])

end Mirror.Reduction.Lease
