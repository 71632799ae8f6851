import MirrorECMA.ECMA.Tokens

namespace ECMA.Grammar

def scanItem : JsString → Option (Item × JsString)
  | [] => none
  | u :: rest =>
    if u = backslash then
      match rest with
      | [] => none
      | letter :: tail =>
        if letter = 0x75 then (takeHex4 tail).map fun ((a, b, c, d), tail) => (.unicode a b c d, tail)
        else (Escape.ofLetter? letter).map fun e => (.escape e, tail)
    else if plain : isUnescaped u then some (.raw u plain, rest)
    else none

/-- The items up to the closing quote. -/
def scanString : Nat → JsString → Option (StringToken × JsString)
  | 0, _ => none
  | fuel + 1, s =>
    if s.head? = some quote then some ([], s.tail)
    else do
      let (item, s) ← scanItem s
      let (items, s) ← scanString fuel s
      return (item :: items, s)

theorem scanItem_sound {s rest : JsString} {item : Item} (found : scanItem s = some (item, rest)) :
    s = item.render ++ rest := by
  cases s with
  | nil => cases found
  | cons u tail =>
    simp only [scanItem] at found
    split at found
    · rename_i escaped
      subst escaped
      cases tail with
      | nil => cases found
      | cons letter tail =>
        simp only at found
        split at found
        · rename_i isU
          simp only [Option.map_eq_some_iff, Prod.exists, Prod.mk.injEq] at found
          obtain ⟨a, b, c, d, remaining, digits, rfl, rfl⟩ := found
          rw [takeHex4_sound digits, isU]
          rfl
        · simp only [Option.map_eq_some_iff, Prod.mk.injEq] at found
          obtain ⟨e, known, rfl, rfl⟩ := found
          rw [← Escape.letter_of_ofLetter? known]
          rfl
    · split at found
      · cases found
        rfl
      · cases found

theorem scanItem_complete (item : Item) (rest : JsString) : scanItem (item.render ++ rest) = some (item, rest) := by
  cases item with
  | raw u plain =>
    have notBackslash : u ≠ backslash := by
      rintro rfl
      exact absurd plain (by decide)
    simp only [Item.render, List.singleton_append, scanItem, if_neg notBackslash, dif_pos plain]
  | escape e =>
    simp only [Item.render, List.cons_append, List.nil_append, scanItem, ↓reduceIte,
      if_neg e.letter_ne_u, Escape.ofLetter?_letter, Option.map_some]
  | unicode a b c d =>
    simp only [Item.render, List.cons_append, List.nil_append, scanItem, ↓reduceIte, takeHex4_complete,
      Option.map_some]

theorem item_head (item : Item) (rest : JsString) : (item.render ++ rest).head? ≠ some quote := by
  cases item with
  | raw u plain =>
    intro same
    simp only [Item.render, List.singleton_append, List.head?_cons, Option.some.injEq] at same
    subst same
    exact absurd plain (by decide)
  | escape e => simp [Item.render]
  | unicode a b c d => simp [Item.render]

theorem scanString_sound {fuel : Nat} {s rest : JsString} {token : StringToken}
    (found : scanString fuel s = some (token, rest)) : s = token.renderTail ++ rest := by
  induction fuel generalizing s token with
  | zero => cases found
  | succ fuel ih =>
    simp only [scanString] at found
    split at found
    · rename_i closing
      cases found
      cases s with
      | nil => cases closing
      | cons u tail =>
        cases closing
        rfl
    · simp only [Option.bind_eq_bind, Option.bind_eq_some_iff, Prod.exists] at found
      obtain ⟨item, afterItem, first, items, afterItems, more, result⟩ := found
      cases result
      rw [scanItem_sound first, ih more]
      simp [StringToken.renderTail]

theorem scanString_complete (token : StringToken) {fuel : Nat} (enough : token.length < fuel) (rest : JsString) :
    scanString fuel (token.renderTail ++ rest) = some (token, rest) := by
  induction token generalizing fuel with
  | nil =>
    obtain ⟨fuel, rfl⟩ := Nat.exists_eq_succ_of_ne_zero (Nat.ne_of_gt enough)
    rfl
  | cons item items ih =>
    obtain ⟨fuel, rfl⟩ := Nat.exists_eq_succ_of_ne_zero (show fuel ≠ 0 by omega)
    have shape : StringToken.renderTail (item :: items) ++ rest =
        item.render ++ (StringToken.renderTail items ++ rest) := by
      simp [StringToken.renderTail]
    rw [shape, scanString, if_neg (item_head item _), scanItem_complete]
    simp only [Option.bind_eq_bind, Option.bind_some]
    rw [ih (by simp only [List.length_cons] at enough; omega)]
    rfl

theorem item_render_length (item : Item) : 0 < item.render.length := by
  cases item <;> simp [Item.render]

theorem renderTail_length (token : StringToken) : token.length < token.renderTail.length := by
  induction token with
  | nil => decide
  | cons item items ih =>
    have positive := item_render_length item
    simp only [StringToken.renderTail, List.flatMap_cons, List.append_assoc, List.length_append,
      List.length_cons, List.length_nil] at ih ⊢
    omega

/-! ### Values -/

def scanLiteral (text : JsString) (value : Value) (s : JsString) : Option (Value × JsString) :=
  if s.take text.length = text then some (value, s.drop text.length) else none

def scanNumber (s : JsString) : Option (Value × JsString) :=
  match found : numberPrefix s with
  | some (text, rest) => some (.number text (numberPrefix_sound found).2, rest)
  | none => none

mutual

def parseValue : Nat → JsString → Option (Value × JsString)
  | 0, _ => none
  | fuel + 1, s =>
    match s with
    | [] => none
    | u :: rest =>
      if u = openBrace then
        if (skipWhitespace rest).head? = some closeBrace then
          some (.emptyObject (takeWhitespace rest), (skipWhitespace rest).tail)
        else (parseMembers fuel rest).map fun (members, s) => (.object members, s)
      else if u = openBracket then
        if (skipWhitespace rest).head? = some closeBracket then
          some (.emptyArray (takeWhitespace rest), (skipWhitespace rest).tail)
        else (parseItems fuel rest).map fun (items, s) => (.array items, s)
      else if u = quote then (scanString (rest.length + 1) rest).map fun (token, s) => (.string token, s)
      else if u = 0x74 then scanLiteral (js "true") .true s
      else if u = 0x66 then scanLiteral (js "false") .false s
      else if u = 0x6E then scanLiteral (js "null") .null s
      else scanNumber s

def parseItems : Nat → JsString → Option (Items × JsString)
  | 0, _ => none
  | fuel + 1, s => do
    let (value, rest) ← parseValue fuel (skipWhitespace s)
    match skipWhitespace rest with
    | [] => none
    | u :: tail =>
      if u = closeBracket then some (.last (takeWhitespace s) value (takeWhitespace rest), tail)
      else if u = comma then
        (parseItems fuel tail).map fun (items, s') =>
          (.cons (takeWhitespace s) value (takeWhitespace rest) items, s')
      else none

def parseMembers : Nat → JsString → Option (Members × JsString)
  | 0, _ => none
  | fuel + 1, s =>
    match skipWhitespace s with
    | [] => none
    | open_ :: body =>
      if open_ = quote then do
        let (key, afterKey) ← scanString (body.length + 1) body
        match skipWhitespace afterKey with
        | [] => none
        | separator :: beforeValue =>
          if separator = colon then do
            let (value, rest) ← parseValue fuel (skipWhitespace beforeValue)
            match skipWhitespace rest with
            | [] => none
            | u :: tail =>
              if u = closeBrace then
                some (.last (takeWhitespace s) key (takeWhitespace afterKey) (takeWhitespace beforeValue) value
                  (takeWhitespace rest), tail)
              else if u = comma then
                (parseMembers fuel tail).map fun (members, s') =>
                  (.cons (takeWhitespace s) key (takeWhitespace afterKey) (takeWhitespace beforeValue) value
                    (takeWhitespace rest) members, s')
              else none
          else none
      else none

end

/-- One value with blanks around it, and nothing after it. -/
def parseText (s : JsString) : Option Text := do
  let (value, rest) ← parseValue (2 * s.length + 1) (skipWhitespace s)
  if skipWhitespace rest = [] then some ⟨takeWhitespace s, value, takeWhitespace rest⟩ else none

end ECMA.Grammar
