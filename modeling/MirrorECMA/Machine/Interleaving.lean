import Mathlib.Data.List.Nodup

namespace Machine

variable {α κ : Type} [DecidableEq κ]

/-- How often a word leaves an owner that still has elements to come; `prior` owns the element before it. -/
def switches (owner : α → κ) : Option κ → List α → Nat
  | _, [] => 0
  | prior, x :: rest =>
    (if prior.any fun k => decide (k ≠ owner x ∧ k ∈ rest.map owner) then 1 else 0) + switches owner (some (owner x)) rest

/-- The elements of a word are those of the chains, each chain in its order; `key i` owns the elements of chain `i`. -/
structure Interleaves (owner : α → κ) (key : Nat → κ) (chains : List (List α)) (word : List α) : Prop where
  owned : ∀ x ∈ word, ∃ i < chains.length, owner x = key i
  chain : ∀ i chain, chains[i]? = some chain → word.filter (fun x => decide (owner x = key i)) = chain

/-- Whether a step of chain `i` leaves a chain that is not at its end. -/
def leaves (chains : List (List α)) (prior : Option Nat) (i : Nat) : Nat :=
  if prior.any fun p => decide (p ≠ i) && !(chains[p]?.getD []).isEmpty then 1 else 0

/-- The words that begin with the next element of chain `i`. -/
def wordsFrom (next : List (List α) → List (List α)) (chains : List (List α)) (i : Nat) : List (List α) :=
  match chains[i]? with
  | some (x :: rest) => (next (chains.set i rest)).map (x :: ·)
  | _ => []

/-- The words of `left` elements that the chains allow with no more switches than `budget`, `used` among them. -/
def words (budget : Nat) : Nat → Option Nat → Nat → List (List α) → List (List α)
  | 0, _, _, _ => [[]]
  | left + 1, prior, used, chains =>
    (List.range chains.length).flatMap fun i =>
      if used + leaves chains prior i ≤ budget then
        wordsFrom (words budget left (some i) (used + leaves chains prior i)) chains i
      else []

section

variable {owner : α → κ} {key : Nat → κ} {chains : List (List α)} {word tail rest : List α} {x : α} {i p : Nat}

theorem Interleaves.nil (whole : Interleaves owner key chains []) : chains.flatten.length = 0 := by
  rw [List.length_eq_zero_iff, List.flatten_eq_nil_iff]
  intro chain member
  rcases List.mem_iff_getElem?.mp member with ⟨i, found⟩
  exact (whole.chain i chain found).symm

theorem interleaves_of_empty (empty : chains.flatten.length = 0) : Interleaves owner key chains [] where
  owned := by simp
  chain i chain found := by
    rw [List.length_eq_zero_iff, List.flatten_eq_nil_iff] at empty
    exact (empty chain (List.mem_of_getElem? found)).symm

/-- Which chain the first element of a word is taken from. -/
theorem Interleaves.first (whole : Interleaves owner key chains (x :: tail)) :
    ∃ i < chains.length, owner x = key i ∧
      chains[i]? = some (x :: tail.filter fun y => decide (owner y = key i)) := by
  rcases whole.owned x List.mem_cons_self with ⟨i, inside, owned⟩
  refine ⟨i, inside, owned, ?_⟩
  have found := List.getElem?_eq_getElem inside
  have same := whole.chain i _ found
  rw [List.filter_cons_of_pos (by simpa using owned)] at same
  rw [found, same]

theorem interleaves_cons (injective : ∀ i j, i < chains.length → j < chains.length → key i = key j → i = j)
    (found : chains[i]? = some (x :: rest)) (owned : owner x = key i) :
    Interleaves owner key chains (x :: tail) ↔ Interleaves owner key (chains.set i rest) tail := by
  have inside := (List.getElem?_eq_some_iff.mp found).1
  constructor
  · intro whole
    constructor
    · intro y member
      rw [List.length_set]
      exact whole.owned y (List.mem_cons_of_mem _ member)
    · intro j chain other
      by_cases same : j = i
      · subst same
        rw [List.getElem?_set_self inside, Option.some.injEq] at other
        have kept := whole.chain _ _ found
        rw [List.filter_cons_of_pos (by simpa using owned)] at kept
        rw [← other]
        exact (List.cons.inj kept).2
      · rw [List.getElem?_set_ne (Ne.symm same)] at other
        have kept := whole.chain j chain other
        have apart : owner x ≠ key j := fun clash =>
          same (injective j i (List.getElem?_eq_some_iff.mp other).1 inside (clash.symm.trans owned))
        rwa [List.filter_cons_of_neg (by simpa using apart)] at kept
  · intro rests
    constructor
    · intro y member
      rcases List.mem_cons.mp member with rfl | member
      · exact ⟨i, inside, owned⟩
      · have kept := rests.owned y member
        rwa [List.length_set] at kept
    · intro j chain other
      by_cases same : j = i
      · subst same
        cases found.symm.trans other
        rw [List.filter_cons_of_pos (by simpa using owned), rests.chain j rest (List.getElem?_set_self inside)]
      · have apart : owner x ≠ key j := fun clash =>
          same (injective j i (List.getElem?_eq_some_iff.mp other).1 inside (clash.symm.trans owned))
        rw [List.filter_cons_of_neg (by simpa using apart)]
        exact rests.chain j chain (by rw [List.getElem?_set_ne (Ne.symm same)]; exact other)

/-- The chain that a step leaves has elements left when its owner has some in the rest of the word. -/
theorem Interleaves.leaves (injective : ∀ i j, i < chains.length → j < chains.length → key i = key j → i = j)
    (whole : Interleaves owner key chains (x :: tail)) (inside : i < chains.length) (owned : owner x = key i)
    {prior : Option Nat} (known : ∀ p, prior = some p → p < chains.length) :
    Machine.leaves chains prior i =
      if (prior.map key).any fun k => decide (k ≠ owner x ∧ k ∈ tail.map owner) then 1 else 0 := by
  unfold Machine.leaves
  cases prior with
  | none => rfl
  | some p =>
    have bound := known p rfl
    have kept := whole.chain p _ (List.getElem?_eq_getElem bound)
    have left : (decide (p ≠ i) && !(chains[p]?.getD []).isEmpty) = decide (key p ≠ owner x ∧ key p ∈ tail.map owner) := by
      rw [List.getElem?_eq_getElem bound, Option.getD_some, ← kept]
      by_cases same : p = i
      · subst same
        simp [owned]
      · have apart : key p ≠ key i := fun clash => same (injective p i bound inside clash)
        rw [List.filter_cons_of_neg (by rw [owned]; simpa using Ne.symm apart)]
        rw [Bool.eq_iff_iff]
        simp only [ne_eq, same, not_false_eq_true, decide_true, Bool.true_and, Bool.not_eq_true', owned, apart,
          List.mem_map, true_and, decide_eq_true_eq, List.isEmpty_eq_false_iff_exists_mem, List.mem_filter]
    simp only [Option.any_some, Option.map_some, left]

omit [DecidableEq κ] in
theorem length_set (found : chains[i]? = some (x :: rest)) :
    (chains.set i rest).flatten.length + 1 = chains.flatten.length := by
  induction chains generalizing i with
  | nil => cases found
  | cons chain others ih =>
    cases i with
    | zero =>
      cases found
      simp only [List.set_cons_zero, List.flatten_cons, List.length_append, List.length_cons]
      omega
    | succ i =>
      have shorter := ih (i := i) found
      simp only [List.set_cons_succ, List.flatten_cons, List.length_append]
      omega

omit [DecidableEq κ] in
theorem keyed_set (keyed : ∀ i chain, chains[i]? = some chain → ∀ x ∈ chain, owner x = key i)
    (found : chains[i]? = some (x :: rest)) :
    ∀ j chain, (chains.set i rest)[j]? = some chain → ∀ y ∈ chain, owner y = key j := by
  intro j chain other y member
  by_cases same : j = i
  · subst same
    rw [List.getElem?_set_self (List.getElem?_eq_some_iff.mp found).1, Option.some.injEq] at other
    exact keyed _ _ found y (List.mem_cons_of_mem _ (other ▸ member))
  · rw [List.getElem?_set_ne (Ne.symm same)] at other
    exact keyed _ _ other y member

omit [DecidableEq κ] in
theorem mem_wordsFrom {next : List (List α) → List (List α)} : word ∈ wordsFrom next chains i ↔
    ∃ x rest tail, chains[i]? = some (x :: rest) ∧ tail ∈ next (chains.set i rest) ∧ word = x :: tail := by
  unfold wordsFrom
  constructor
  · intro member
    split at member
    · rename_i x rest found
      rcases List.mem_map.mp member with ⟨tail, among, rfl⟩
      exact ⟨x, rest, tail, found, among, rfl⟩
    · cases member
  · intro taken
    rcases taken with ⟨x, rest, tail, found, among, rfl⟩
    rw [found]
    exact List.mem_map_of_mem among

omit [DecidableEq κ] in
theorem mem_words_succ {budget left used : Nat} {prior : Option Nat} : word ∈ words budget (left + 1) prior used chains ↔
    ∃ i x rest tail, chains[i]? = some (x :: rest) ∧ used + Machine.leaves chains prior i ≤ budget ∧
      tail ∈ words budget left (some i) (used + Machine.leaves chains prior i) (chains.set i rest) ∧ word = x :: tail := by
  simp only [words, List.mem_flatMap, List.mem_range]
  constructor
  · intro found
    rcases found with ⟨i, _, member⟩
    split at member
    · rename_i within
      rcases mem_wordsFrom.mp member with ⟨x, rest, tail, chain, among, same⟩
      exact ⟨i, x, rest, tail, chain, within, among, same⟩
    · cases member
  · intro found
    rcases found with ⟨i, x, rest, tail, chain, within, among, same⟩
    refine ⟨i, (List.getElem?_eq_some_iff.mp chain).1, ?_⟩
    rw [if_pos within]
    exact mem_wordsFrom.mpr ⟨x, rest, tail, chain, among, same⟩

omit [DecidableEq κ] in
theorem words_length {budget : Nat} (left : Nat) (prior : Option Nat) (used : Nat)
    (member : word ∈ words budget left prior used chains) : word.length = left := by
  induction left generalizing prior used chains word with
  | zero => rw [List.mem_singleton.mp member, List.length_nil]
  | succ left ih =>
    rcases mem_words_succ.mp member with ⟨i, x, rest, tail, _, _, among, rfl⟩
    rw [List.length_cons, ih _ _ among]

/-- The enumeration holds the interleavings that stay within the budget, and nothing else. -/
theorem mem_words {budget : Nat} (left : Nat) (prior : Option Nat) (used : Nat)
    (injective : ∀ i j, i < chains.length → j < chains.length → key i = key j → i = j)
    (keyed : ∀ i chain, chains[i]? = some chain → ∀ x ∈ chain, owner x = key i)
    (total : chains.flatten.length = left) (known : ∀ p, prior = some p → p < chains.length)
    (within : used ≤ budget) :
    word ∈ words budget left prior used chains ↔
      Interleaves owner key chains word ∧ used + switches owner (prior.map key) word ≤ budget := by
  induction left generalizing prior used chains word with
  | zero =>
    have nothing : word ∈ words budget 0 prior used chains ↔ word = [] := by simp [words]
    rw [nothing]
    constructor
    · intro empty
      subst empty
      exact ⟨interleaves_of_empty total, by simpa [switches] using within⟩
    · intro whole
      cases word with
      | nil => rfl
      | cons x tail =>
        rcases whole.1.first with ⟨i, inside, owned, found⟩
        have shorter := length_set found
        omega
  | succ left ih =>
    have step (i : Nat) (x : α) (rest tail : List α) (found : chains[i]? = some (x :: rest))
        (within : used + Machine.leaves chains prior i ≤ budget) :
        tail ∈ words budget left (some i) (used + Machine.leaves chains prior i) (chains.set i rest) ↔
          Interleaves owner key chains (x :: tail) ∧
            used + Machine.leaves chains prior i + switches owner (some (owner x)) tail ≤ budget := by
      have inside := (List.getElem?_eq_some_iff.mp found).1
      have owned := keyed i _ found x List.mem_cons_self
      have shorter := length_set found
      have inner : tail ∈ words budget left (some i) (used + Machine.leaves chains prior i) (chains.set i rest) ↔ _ :=
        ih (some i) (used + Machine.leaves chains prior i) (by rw [List.length_set]; exact injective) (keyed_set keyed found)
          (by omega) (by rw [List.length_set]; intro p same; cases same; exact inside) within
      rw [inner, interleaves_cons injective found owned, Option.map_some, owned]
    rw [mem_words_succ]
    constructor
    · intro found
      rcases found with ⟨i, x, rest, tail, chain, within, among, rfl⟩
      rcases (step i x rest tail chain within).mp among with ⟨whole, bound⟩
      have owned := keyed i _ chain x List.mem_cons_self
      have left := whole.leaves injective (List.getElem?_eq_some_iff.mp chain).1 owned known
      refine ⟨whole, ?_⟩
      rw [switches, ← left]
      omega
    · intro found
      rcases found with ⟨whole, bound⟩
      cases word with
      | nil =>
        have empty := whole.nil
        omega
      | cons x tail =>
        rcases whole.first with ⟨i, inside, owned, chain⟩
        have left := whole.leaves injective inside owned known
        rw [switches, ← left] at bound
        exact ⟨i, x, _, tail, chain, by omega, (step i x _ tail chain (by omega)).mpr ⟨whole, by omega⟩, rfl⟩

omit [DecidableEq κ] in
/-- No word is listed twice. -/
theorem words_nodup {budget : Nat} (left : Nat) (prior : Option Nat) (used : Nat)
    (injective : ∀ i j, i < chains.length → j < chains.length → key i = key j → i = j)
    (keyed : ∀ i chain, chains[i]? = some chain → ∀ x ∈ chain, owner x = key i) :
    (words budget left prior used chains).Nodup := by
  induction left generalizing prior used chains with
  | zero => simp [words]
  | succ left ih =>
    rw [words, List.nodup_flatMap]
    constructor
    · intro i _
      split
      · unfold wordsFrom
        split
        · rename_i x rest found
          have inner : (words budget left (some i) (used + Machine.leaves chains prior i) (chains.set i rest)).Nodup :=
            ih (some i) (used + Machine.leaves chains prior i) (by rw [List.length_set]; exact injective) (keyed_set keyed found)
          exact inner.map List.cons_injective
        · exact List.nodup_nil
      · exact List.nodup_nil
    · refine List.Pairwise.imp_of_mem ?_ List.nodup_range
      intro i j inside other apart
      rw [List.mem_range] at inside other
      -- The words of two branches begin with elements of two owners.
      intro word first second
      dsimp only at first second
      split at first
      · split at second
        · rcases mem_wordsFrom.mp first with ⟨x, rest, tail, chain, _, rfl⟩
          rcases mem_wordsFrom.mp second with ⟨y, rest', tail', chain', _, same⟩
          cases same
          have owned := keyed i _ chain x List.mem_cons_self
          exact apart (injective i j inside other (owned.symm.trans (keyed j _ chain' x List.mem_cons_self)))
        · cases second
      · cases first

end

end Machine
