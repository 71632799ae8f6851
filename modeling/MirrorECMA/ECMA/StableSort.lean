import MirrorECMA.ECMA.Sort

namespace ECMA

variable {α : Type}

/-! ### Elements that a comparator does not tell apart -/

/-- The elements that compare equal to this one. -/
def tied (compare : α → α → Int) (a b : α) : Bool := decide (compare a b ≤ 0) && decide (compare b a ≤ 0)

theorem tied_iff {compare : α → α → Int} {a b : α} : tied compare a b = true ↔ compare a b ≤ 0 ∧ compare b a ≤ 0 := by
  rw [tied, Bool.and_eq_true, decide_eq_true_eq, decide_eq_true_eq]

/-- A rearrangement that keeps the order of tied elements. -/
def Keeps (compare : α → α → Int) (xs ys : List α) : Prop := ∀ a, xs.filter (tied compare a) = ys.filter (tied compare a)

theorem Keeps.symm {compare : α → α → Int} {xs ys : List α} (keeps : Keeps compare xs ys) : Keeps compare ys xs :=
  fun a => (keeps a).symm

variable {compare : α → α → Int} (consistent : Consistent compare)

include consistent

theorem tied_refl (a : α) : tied compare a a = true := by
  have below : compare a a ≤ 0 := (consistent.total a a).elim id id
  exact tied_iff.mpr ⟨below, below⟩

/-- The sort is stable. -/
theorem sort_keeps (xs : List α) : Keeps compare (sort compare xs) xs := by
  intro a
  have equal : (xs.filter (tied compare a)).Pairwise fun b c => compare b c ≤ 0 := by
    apply List.pairwise_iff_forall_sublist.mpr
    intro b c both
    have first := tied_iff.mp (List.mem_filter.mp (both.subset List.mem_cons_self)).2
    have second := tied_iff.mp (List.mem_filter.mp (both.subset (List.mem_cons_of_mem _ List.mem_cons_self))).2
    exact consistent.trans first.2 second.1
  have inside : (xs.filter (tied compare a)).Sublist (sort compare xs) :=
    List.sublist_insertionSort equal List.filter_sublist
  have within := inside.filter (tied compare a)
  simp only [List.filter_filter, Bool.and_self] at within
  have length : (xs.filter (tied compare a)).length = ((sort compare xs).filter (tied compare a)).length :=
    ((sort_perm compare xs).filter _).length_eq.symm
  exact (within.eq_of_length length).symm

/-- Sorted lists with the same tied elements, in the same order, are equal. -/
theorem eq_of_keeps {xs ys : List α} (left : xs.Pairwise fun a b => compare a b ≤ 0)
    (right : ys.Pairwise fun a b => compare a b ≤ 0) (keeps : Keeps compare xs ys) : xs = ys := by
  have heads {a b : α} {xs ys : List α} (sorted : (a :: xs).Pairwise fun a b => compare a b ≤ 0)
      (keeps : Keeps compare (a :: xs) (b :: ys)) : compare a b ≤ 0 := by
    have found : b ∈ (a :: xs).filter (tied compare b) := by
      rw [keeps b]
      exact List.mem_filter.mpr ⟨List.mem_cons_self, tied_refl consistent b⟩
    rcases List.mem_cons.mp (List.mem_filter.mp found).1 with same | among
    · rw [same]
      exact (tied_iff.mp (tied_refl consistent a)).1
    · exact (List.pairwise_cons.mp sorted).1 b among
  induction xs generalizing ys with
  | nil =>
    cases ys with
    | nil => rfl
    | cons b ys =>
      have none := keeps b
      rw [List.filter_cons_of_pos (tied_refl consistent b)] at none
      cases none
  | cons a xs ih =>
    cases ys with
    | nil =>
      have none := keeps a
      rw [List.filter_cons_of_pos (tied_refl consistent a)] at none
      cases none
    | cons b ys =>
      have below : compare a b ≤ 0 := heads left keeps
      have above : compare b a ≤ 0 := heads right keeps.symm
      have first := keeps a
      rw [List.filter_cons_of_pos (tied_refl consistent a), List.filter_cons_of_pos (tied_iff.mpr ⟨below, above⟩)] at first
      obtain rfl : a = b := (List.cons.inj first).1
      congr 1
      apply ih (List.pairwise_cons.mp left).2 (List.pairwise_cons.mp right).2
      intro c
      have whole := keeps c
      rw [List.filter_cons, List.filter_cons] at whole
      split at whole
      · exact (List.cons.inj whole).2
      · exact whole

theorem sort_eq_iff {xs ys : List α} : sort compare xs = sort compare ys ↔ Keeps compare xs ys := by
  constructor
  · intro same a
    rw [← sort_keeps consistent xs a, same, sort_keeps consistent ys a]
  · intro keeps
    apply eq_of_keeps consistent (sort_pairwise consistent xs) (sort_pairwise consistent ys)
    intro a
    rw [sort_keeps consistent xs a, sort_keeps consistent ys a]
    exact keeps a

theorem Keeps.perm {xs ys : List α} (keeps : Keeps compare xs ys) : xs.Perm ys :=
  perm_of_sort_eq ((sort_eq_iff consistent).mpr keeps)

end ECMA
