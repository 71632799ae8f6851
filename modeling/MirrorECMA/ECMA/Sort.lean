import Mathlib.Data.List.Sort

namespace ECMA

variable {α β γ : Type}

/-- `Array.prototype.sort` with a comparator, which is stable. -/
def sort (compare : α → α → Int) (xs : List α) : List α := xs.insertionSort fun a b => compare a b ≤ 0

/-- What `Array.prototype.sort` asks of a comparator. -/
structure Consistent (compare : α → α → Int) : Prop where
  total : ∀ a b, compare a b ≤ 0 ∨ compare b a ≤ 0
  trans : ∀ {a b c}, compare a b ≤ 0 → compare b c ≤ 0 → compare a c ≤ 0

theorem Consistent.on {compare : β → β → Int} (consistent : Consistent compare) (key : α → β) :
    Consistent fun a b => compare (key a) (key b) :=
  ⟨fun a b => consistent.total (key a) (key b), fun first second => consistent.trans first second⟩

theorem sort_perm (compare : α → α → Int) (xs : List α) : (sort compare xs).Perm xs := List.perm_insertionSort _ _

theorem mem_sort {compare : α → α → Int} {xs : List α} {a : α} : a ∈ sort compare xs ↔ a ∈ xs :=
  (sort_perm compare xs).mem_iff

theorem sort_pairwise {compare : α → α → Int} (consistent : Consistent compare) (xs : List α) :
    (sort compare xs).Pairwise fun a b => compare a b ≤ 0 := by
  have : Std.Total fun a b => compare a b ≤ 0 := ⟨consistent.total⟩
  have : IsTrans α fun a b => compare a b ≤ 0 := ⟨fun _ _ _ => consistent.trans⟩
  exact List.pairwise_insertionSort _ xs

theorem sort_of_pairwise {compare : α → α → Int} {xs : List α} (sorted : xs.Pairwise fun a b => compare a b ≤ 0) :
    sort compare xs = xs := List.Pairwise.insertionSort_eq sorted

theorem sort_sort {compare : α → α → Int} (consistent : Consistent compare) (xs : List α) :
    sort compare (sort compare xs) = sort compare xs := sort_of_pairwise (sort_pairwise consistent xs)

theorem sort_map (compare : β → β → Int) (f : α → β) (xs : List α) :
    sort compare (xs.map f) = (sort (fun a b => compare (f a) (f b)) xs).map f :=
  (List.map_insertionSort _ _ f xs fun _ _ _ _ => Iff.rfl).symm

/-- Where the comparator tells all elements apart, the order they come in does not matter. -/
theorem sort_eq_of_perm {compare : α → α → Int} (consistent : Consistent compare) {xs ys : List α}
    (apart : ∀ a ∈ xs, ∀ b ∈ xs, compare a b ≤ 0 → compare b a ≤ 0 → a = b) (same : xs.Perm ys) :
    sort compare xs = sort compare ys := by
  refine List.Perm.eq_of_pairwise (fun a b left right => ?_) (sort_pairwise consistent xs) (sort_pairwise consistent ys)
    ((sort_perm compare xs).trans (same.trans (sort_perm compare ys).symm))
  exact apart a (mem_sort.mp left) b (same.mem_iff.mpr (mem_sort.mp right))

theorem map_eq_self {f : α → α} {xs : List α} (each : ∀ a ∈ xs, f a = a) : xs.map f = xs :=
  (List.map_congr_left each).trans (List.map_id xs)

/-- Putting a list of normal forms in order is a normal form of lists. -/
theorem sort_map_idem {compare : α → α → Int} (consistent : Consistent compare) {f : α → α} {xs : List α}
    (idem : ∀ a ∈ xs, f (f a) = f a) :
    sort compare ((sort compare (xs.map f)).map f) = sort compare (xs.map f) := by
  have fixed : ∀ a ∈ sort compare (xs.map f), f a = a := by
    intro a member
    obtain ⟨b, inside, rfl⟩ := List.mem_map.mp (mem_sort.mp member)
    exact idem b inside
  rw [map_eq_self fixed, sort_sort consistent]

/-- A recursion that treats each element by itself is a map. -/
theorem eq_map {f : List α → List β} {g : α → β} (nil : f [] = []) (cons : ∀ a rest, f (a :: rest) = g a :: f rest)
    (xs : List α) : f xs = xs.map g := by
  induction xs with
  | nil => exact nil
  | cons a rest ih => rw [cons, ih, List.map_cons]

/-! ### Pairing the elements of two lists -/

theorem exists_pairs {f : α → γ} {g : β → γ} {xs : List α} {ys : List β} (same : xs.map f = ys.map g) :
    ∃ pairs : List (α × β), pairs.map Prod.fst = xs ∧ pairs.map Prod.snd = ys ∧ ∀ p ∈ pairs, f p.1 = g p.2 := by
  induction xs generalizing ys with
  | nil =>
    cases ys with
    | nil => exact ⟨[], rfl, rfl, by simp⟩
    | cons y ys => cases same
  | cons x xs ih =>
    cases ys with
    | nil => cases same
    | cons y ys =>
      obtain ⟨head, tail⟩ := List.cons.inj same
      obtain ⟨pairs, rfl, rfl, each⟩ := ih tail
      exact ⟨(x, y) :: pairs, rfl, rfl, List.forall_mem_cons.mpr ⟨head, each⟩⟩

theorem exists_pairs_of_perm {f : α → γ} {g : β → γ} {xs : List α} {ys : List β} (same : (xs.map f).Perm (ys.map g)) :
    ∃ pairs : List (α × β), (pairs.map Prod.fst).Perm xs ∧ (pairs.map Prod.snd).Perm ys ∧
      ∀ p ∈ pairs, f p.1 = g p.2 := by
  induction xs generalizing ys with
  | nil =>
    rw [List.map_nil, List.nil_perm, List.map_eq_nil_iff] at same
    exact ⟨[], .nil, same ▸ .nil, by simp⟩
  | cons x xs ih =>
    obtain ⟨y, member, image⟩ := List.mem_map.mp (same.subset List.mem_cons_self)
    obtain ⟨before, after, rfl⟩ := List.append_of_mem member
    have middle : (before ++ y :: after).Perm (y :: (before ++ after)) := List.perm_middle
    have rest : (xs.map f).Perm ((before ++ after).map g) := by
      have whole := same.trans (middle.map g)
      rw [List.map_cons, List.map_cons, image] at whole
      exact whole.cons_inv
    obtain ⟨pairs, first, second, each⟩ := ih rest
    exact ⟨(x, y) :: pairs, first.cons x, (second.cons y).trans middle.symm,
      List.forall_mem_cons.mpr ⟨image.symm, each⟩⟩

/-! ### Lists of pairs -/

theorem perm_of_sort_eq {compare : α → α → Int} {xs ys : List α} (same : sort compare xs = sort compare ys) :
    xs.Perm ys := (sort_perm compare xs).symm.trans (same ▸ sort_perm compare ys)

theorem mem_of_pairs {pairs : List (α × β)} {xs : List α} (perm : (pairs.map Prod.fst).Perm xs) {p : α × β}
    (member : p ∈ pairs) : p.1 ∈ xs := perm.subset (List.mem_map_of_mem member)

/-- Lists whose elements pair up have the same images where the pairs have equal ones. -/
theorem images_eq {f : α → γ} {g : β → γ} {pairs : List (α × β)} (each : ∀ p ∈ pairs, f p.1 = g p.2) :
    (pairs.map Prod.fst).map f = (pairs.map Prod.snd).map g := by
  rw [List.map_map, List.map_map]
  exact List.map_congr_left each

/-- Lists whose elements pair up have permuted images where the pairs have equal ones. -/
theorem images_perm {f : α → γ} {g : β → γ} {pairs : List (α × β)} {xs : List α} {ys : List β}
    (first : (pairs.map Prod.fst).Perm xs) (second : (pairs.map Prod.snd).Perm ys) (each : ∀ p ∈ pairs, f p.1 = g p.2) :
    (xs.map f).Perm (ys.map g) := (first.map f).symm.trans (images_eq each ▸ second.map g)

end ECMA
