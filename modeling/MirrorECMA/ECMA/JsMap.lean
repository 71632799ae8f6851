namespace ECMA

/-- A `Map`: its entries in insertion order. -/
abbrev JsMap (κ α : Type) := List (κ × α)

namespace JsMap

variable {κ α : Type}

def keys (map : JsMap κ α) : List κ := map.map Prod.fst

/-- No key is listed twice: what every `Map` satisfies. -/
def Distinct (map : JsMap κ α) : Prop := (keys map).Nodup

variable [DecidableEq κ]

def get (map : JsMap κ α) (key : κ) : Option α :=
  match map with
  | [] => none
  | (k, value) :: rest => if k = key then some value else get rest key

/-- An existing entry keeps its place, a new one goes last. -/
def set (map : JsMap κ α) (key : κ) (value : α) : JsMap κ α :=
  match map with
  | [] => [(key, value)]
  | (k, old) :: rest => if k = key then (k, value) :: rest else (k, old) :: set rest key value

def delete (map : JsMap κ α) (key : κ) : JsMap κ α := map.filter fun entry => decide (entry.1 ≠ key)

@[simp] theorem get_nil (key : κ) : get ([] : JsMap κ α) key = none := rfl

theorem get_cons (k : κ) (value : α) (rest : JsMap κ α) (key : κ) :
    get ((k, value) :: rest) key = if k = key then some value else get rest key := rfl

theorem set_cons (k : κ) (old : α) (rest : JsMap κ α) (key : κ) (value : α) :
    set ((k, old) :: rest) key value = if k = key then (k, value) :: rest else (k, old) :: set rest key value := rfl

theorem get_eq_none {map : JsMap κ α} {key : κ} : get map key = none ↔ key ∉ keys map := by
  induction map with
  | nil => simp [keys]
  | cons entry rest ih =>
    rcases entry with ⟨k, value⟩
    by_cases same : k = key
    · simp [get_cons, keys, same]
    · simpa [get_cons, keys, same, Ne.symm same] using ih

theorem mem_of_get {map : JsMap κ α} {key : κ} {value : α} (found : get map key = some value) : (key, value) ∈ map := by
  induction map with
  | nil => cases found
  | cons entry rest ih =>
    rcases entry with ⟨k, other⟩
    by_cases same : k = key
    · simp only [get_cons, same, ↓reduceIte, Option.some.injEq] at found
      simp [same, found]
    · simp only [get_cons, same, ↓reduceIte] at found
      exact List.mem_cons_of_mem _ (ih found)

theorem get_of_mem {map : JsMap κ α} (distinct : Distinct map) {key : κ} {value : α} (member : (key, value) ∈ map) :
    get map key = some value := by
  induction map with
  | nil => cases member
  | cons entry rest ih =>
    rcases entry with ⟨k, other⟩
    have apart := List.nodup_cons.mp distinct
    rcases List.mem_cons.mp member with head | tail
    · cases head
      simp [get_cons]
    · have inside : key ∈ keys rest := List.mem_map_of_mem (f := Prod.fst) tail
      have different : k ≠ key := fun same => apart.1 (same ▸ inside)
      simp only [get_cons, different, ↓reduceIte]
      exact ih apart.2 tail

theorem set_fresh {map : JsMap κ α} {key : κ} (fresh : key ∉ keys map) (value : α) :
    set map key value = map ++ [(key, value)] := by
  induction map with
  | nil => rfl
  | cons entry rest ih =>
    rcases entry with ⟨k, other⟩
    have first : k ≠ key := fun same => fresh (same ▸ List.mem_cons_self)
    have later : key ∉ keys rest := fun member => fresh (List.mem_cons_of_mem _ member)
    simp only [set_cons, first, ↓reduceIte, List.cons_append, ih later]

theorem get_set (map : JsMap κ α) (key other : κ) (value : α) :
    get (set map key value) other = if key = other then some value else get map other := by
  induction map with
  | nil => rfl
  | cons entry rest ih =>
    rcases entry with ⟨k, old⟩
    by_cases same : k = key
    · subst same
      by_cases wanted : k = other <;> simp [set_cons, get_cons, wanted]
    · by_cases first : k = other
      · subst first
        simp [set_cons, get_cons, same, Ne.symm same]
      · simp [set_cons, get_cons, same, first, ih]

theorem keys_delete (map : JsMap κ α) (key : κ) : keys (delete map key) = (keys map).filter (decide <| · ≠ key) := by
  rw [keys, keys, List.filter_map]
  rfl

theorem delete_sublist (map : JsMap κ α) (key : κ) : (delete map key).Sublist map := List.filter_sublist

theorem not_mem_delete (map : JsMap κ α) (key : κ) : key ∉ keys (delete map key) := by simp [keys_delete]

theorem delete_fresh {map : JsMap κ α} {key : κ} (fresh : key ∉ keys map) : delete map key = map := by
  apply List.filter_eq_self.mpr
  intro entry member
  simpa using fun same : entry.1 = key => fresh (same ▸ List.mem_map_of_mem member)

/-- The entries are the deleted one and the ones that stay. -/
theorem perm_delete {map : JsMap κ α} (distinct : Distinct map) {key : κ} {value : α} (found : get map key = some value) :
    map.Perm ((key, value) :: delete map key) := by
  induction map with
  | nil => cases found
  | cons entry rest ih =>
    rcases entry with ⟨k, other⟩
    have apart := List.nodup_cons.mp distinct
    by_cases same : k = key
    · simp only [get_cons, same, ↓reduceIte, Option.some.injEq] at found
      have stays : delete rest key = rest := delete_fresh (same ▸ apart.1)
      simp only [delete, List.filter_cons, same, ne_eq, not_true_eq_false, decide_false, Bool.false_eq_true, ↓reduceIte]
      rw [found]
      exact List.Perm.cons _ (List.Perm.of_eq stays.symm)
    · simp only [get_cons, same, ↓reduceIte] at found
      simp only [delete, List.filter_cons, same, ne_eq, not_false_eq_true, decide_true, ↓reduceIte]
      exact ((ih apart.2 found).cons _).trans (List.Perm.swap _ _ _)

end JsMap

end ECMA
