import MirrorECMA.ECMA.ParseExact

namespace ECMA.Grammar

def blank : Whitespace := ⟨[], by simp⟩

/-- Elements written without white space. -/
def Items.compact (first : Value) : List Value → Items
  | [] => .last blank first blank
  | next :: rest => .cons blank first blank (Items.compact next rest)

def Members.compact (first : StringToken × Value) : List (StringToken × Value) → Members
  | [] => .last blank first.1 blank blank first.2 blank
  | next :: rest => .cons blank first.1 blank blank first.2 blank (Members.compact next rest)

def Value.compactArray : List Value → Value
  | [] => .emptyArray blank
  | first :: rest => .array (Items.compact first rest)

def Value.compactObject : List (StringToken × Value) → Value
  | [] => .emptyObject blank
  | first :: rest => .object (Members.compact first rest)

theorem Items.compact_render (first : Value) (rest : List Value) :
    (Items.compact first rest).render = [comma].intercalate ((first :: rest).map Value.render) ++ [closeBracket] := by
  induction rest generalizing first with
  | nil => simp [Items.compact, Items.render, blank]
  | cons next rest ih => simp [Items.compact, Items.render, blank, ih, List.intercalate_cons_cons]

theorem Members.compact_render (first : StringToken × Value) (rest : List (StringToken × Value)) :
    (Members.compact first rest).render =
      [comma].intercalate ((first :: rest).map fun member => member.1.render ++ colon :: member.2.render) ++ [closeBrace] := by
  induction rest generalizing first with
  | nil => simp [Members.compact, Members.render, blank]
  | cons next rest ih => simp [Members.compact, Members.render, blank, ih, List.intercalate_cons_cons]

theorem Value.compactArray_render (items : List Value) :
    (Value.compactArray items).render = openBracket :: ([comma].intercalate (items.map Value.render) ++ [closeBracket]) := by
  cases items with
  | nil => rfl
  | cons first rest => rw [Value.compactArray, Value.render, Items.compact_render]

theorem Value.compactObject_render (members : List (StringToken × Value)) : (Value.compactObject members).render =
    openBrace :: ([comma].intercalate (members.map fun member => member.1.render ++ colon :: member.2.render) ++
      [closeBrace]) := by
  cases members with
  | nil => rfl
  | cons first rest => rw [Value.compactObject, Value.render, Members.compact_render]

section

variable [NumberConversion]

theorem jsonParse_token (t : StringToken) : jsonParse t.render = some (.string t.decoded) := by
  have whole := jsonParse_render ⟨blank, .string t, blank⟩
  simp only [Text.render, blank, List.nil_append, List.append_nil, Value.render, Value.eval] at whole
  exact whole

theorem Items.compact_eval (first : Value) (rest : List Value) :
    (Items.compact first rest).eval = (first :: rest).map Value.eval := by
  induction rest generalizing first with
  | nil => rfl
  | cons next rest ih => rw [Items.compact, Items.eval, ih, List.map_cons (l := next :: rest)]

theorem Members.compact_eval (first : StringToken × Value) (rest : List (StringToken × Value)) :
    (Members.compact first rest).eval = (first :: rest).map fun member => (member.1.decoded, member.2.eval) := by
  induction rest generalizing first with
  | nil => rfl
  | cons next rest ih => rw [Members.compact, Members.eval, ih, List.map_cons (l := next :: rest)]

theorem Value.compactArray_eval (items : List Value) : (Value.compactArray items).eval = .array (items.map Value.eval) := by
  cases items with
  | nil => rfl
  | cons first rest => rw [Value.compactArray, Value.eval, Items.compact_eval]

theorem Value.compactObject_eval (members : List (StringToken × Value)) : (Value.compactObject members).eval =
    .object (Fields.ofEntries (members.map fun member => (member.1.decoded, member.2.eval))) := by
  cases members with
  | nil => rfl
  | cons first rest => rw [Value.compactObject, Value.eval, Members.compact_eval]

end

/-! ### Measures and restrictions of compact values -/

def maximum (depths : List Nat) : Nat := depths.foldr max 0

theorem Items.compact_depth (first : Value) (rest : List Value) :
    (Items.compact first rest).depth = maximum ((first :: rest).map Value.depth) := by
  induction rest generalizing first with
  | nil => simp [Items.compact, Items.depth, maximum]
  | cons next rest ih => rw [Items.compact, Items.depth, ih]; rfl

theorem Members.compact_depth (first : StringToken × Value) (rest : List (StringToken × Value)) :
    (Members.compact first rest).depth = maximum ((first :: rest).map fun member => member.2.depth) := by
  induction rest generalizing first with
  | nil => simp [Members.compact, Members.depth, maximum]
  | cons next rest ih => rw [Members.compact, Members.depth, ih]; rfl

theorem Value.compactArray_depth (items : List Value) :
    (Value.compactArray items).depth = maximum (items.map Value.depth) + 1 := by
  cases items with
  | nil => rfl
  | cons first rest => rw [Value.compactArray, Value.depth, Items.compact_depth]

theorem Value.compactObject_depth (members : List (StringToken × Value)) :
    (Value.compactObject members).depth = maximum (members.map fun member => member.2.depth) + 1 := by
  cases members with
  | nil => rfl
  | cons first rest => rw [Value.compactObject, Value.depth, Members.compact_depth]

theorem Members.compact_keys (first : StringToken × Value) (rest : List (StringToken × Value)) :
    (Members.compact first rest).keys = (first :: rest).map fun member => member.1.decoded := by
  induction rest generalizing first with
  | nil => rfl
  | cons next rest ih => rw [Members.compact, Members.keys, ih, List.map_cons (l := next :: rest)]

/-- A property of elements one by one holds of compact elements when it holds of each. -/
theorem Items.compact_all {P : Value → Prop} {Q : Items → Prop} (last : ∀ item, P item → Q (.last blank item blank))
    (cons : ∀ item rest, P item → Q rest → Q (.cons blank item blank rest)) {first : Value} {rest : List Value}
    (each : ∀ item ∈ first :: rest, P item) : Q (Items.compact first rest) := by
  induction rest generalizing first with
  | nil => exact last first (each first List.mem_cons_self)
  | cons next rest ih =>
    exact cons first _ (each first List.mem_cons_self) (ih fun item member => each item (List.mem_cons_of_mem _ member))

theorem Members.compact_all {P : StringToken × Value → Prop} {Q : Members → Prop}
    (last : ∀ key value, P (key, value) → Q (.last blank key blank blank value blank))
    (cons : ∀ key value rest, P (key, value) → Q rest → Q (.cons blank key blank blank value blank rest))
    {first : StringToken × Value} {rest : List (StringToken × Value)} (each : ∀ member ∈ first :: rest, P member) :
    Q (Members.compact first rest) := by
  induction rest generalizing first with
  | nil => exact last _ _ (each first List.mem_cons_self)
  | cons next rest ih =>
    exact cons _ _ _ (each first List.mem_cons_self) (ih fun item member => each item (List.mem_cons_of_mem _ member))

theorem Value.compactArray_keysDistinct {items : List Value} (each : ∀ item ∈ items, item.KeysDistinct) :
    (Value.compactArray items).KeysDistinct := by
  cases items with
  | nil => trivial
  | cons first rest => exact Items.compact_all (fun _ => id) (fun _ _ => And.intro) each

theorem Value.compactObject_keysDistinct {members : List (StringToken × Value)}
    (distinct : (members.map fun member => member.1.decoded).Nodup) (each : ∀ member ∈ members, member.2.KeysDistinct) :
    (Value.compactObject members).KeysDistinct := by
  cases members with
  | nil => trivial
  | cons first rest =>
    rw [Value.compactObject, Value.KeysDistinct, Members.compact_keys]
    exact ⟨distinct, Members.compact_all (fun _ _ => id) (fun _ _ _ => And.intro) each⟩

theorem Value.compactArray_everyString {p : StringToken → Prop} {items : List Value}
    (each : ∀ item ∈ items, item.EveryString p) : (Value.compactArray items).EveryString p := by
  cases items with
  | nil => trivial
  | cons first rest => exact Items.compact_all (fun _ => id) (fun _ _ => And.intro) each

theorem Value.compactObject_everyString {p : StringToken → Prop} {members : List (StringToken × Value)}
    (each : ∀ member ∈ members, p member.1 ∧ member.2.EveryString p) : (Value.compactObject members).EveryString p := by
  cases members with
  | nil => trivial
  | cons first rest =>
    exact Members.compact_all (fun _ _ => id) (fun _ _ _ member others => ⟨member.1, member.2, others⟩) each

theorem Value.compactArray_everyNumber {p : JsString → Prop} {items : List Value}
    (each : ∀ item ∈ items, item.EveryNumber p) : (Value.compactArray items).EveryNumber p := by
  cases items with
  | nil => trivial
  | cons first rest => exact Items.compact_all (fun _ => id) (fun _ _ => And.intro) each

theorem Value.compactObject_everyNumber {p : JsString → Prop} {members : List (StringToken × Value)}
    (each : ∀ member ∈ members, member.2.EveryNumber p) : (Value.compactObject members).EveryNumber p := by
  cases members with
  | nil => trivial
  | cons first rest => exact Members.compact_all (fun _ _ => id) (fun _ _ _ => And.intro) each

end ECMA.Grammar
