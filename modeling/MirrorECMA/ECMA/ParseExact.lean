import MirrorECMA.ECMA.Parse

namespace ECMA.Grammar

/-! ### What is parsed was written -/

theorem scanLiteral_sound {text s rest : JsString} {value found : Value}
    (scanned : scanLiteral text value s = some (found, rest)) (shape : value.render = text) :
    s = found.render ++ rest := by
  unfold scanLiteral at scanned
  split at scanned
  · rename_i taken
    cases scanned
    rw [shape]
    conv => lhs; rw [← List.take_append_drop text.length s, taken]
  · cases scanned

theorem scanNumber_sound {s rest : JsString} {value : Value} (scanned : scanNumber s = some (value, rest)) :
    s = value.render ++ rest := by
  unfold scanNumber at scanned
  split at scanned
  · rename_i found
    cases scanned
    exact (numberPrefix_sound found).1
  · cases scanned

theorem blank_split {s tail : JsString} {u : CodeUnit} (next : skipWhitespace s = u :: tail) :
    s = (takeWhitespace s).text ++ u :: tail := by
  conv => lhs; rw [← takeWhitespace_skip s, next]

theorem closing_split {s : JsString} {u : CodeUnit} (next : (skipWhitespace s).head? = some u) :
    s = (takeWhitespace s).text ++ u :: (skipWhitespace s).tail := by
  cases shape : skipWhitespace s with
  | nil => rw [shape] at next; cases next
  | cons v tail =>
    rw [shape] at next
    cases next
    exact blank_split shape

theorem parse_sound (fuel : Nat) :
    (∀ s rest value, parseValue fuel s = some (value, rest) → s = value.render ++ rest) ∧
    (∀ s rest items, parseItems fuel s = some (items, rest) → s = items.render ++ rest) ∧
    (∀ s rest members, parseMembers fuel s = some (members, rest) → s = members.render ++ rest) := by
  induction fuel with
  | zero => refine ⟨?_, ?_, ?_⟩ <;> (intro s rest result found; cases found)
  | succ fuel ih =>
    obtain ⟨valueIH, itemsIH, membersIH⟩ := ih
    refine ⟨?_, ?_, ?_⟩
    · intro s rest value found
      cases s with
      | nil => cases found
      | cons u tail =>
        simp only [parseValue] at found
        split at found
        · rename_i isObject
          subst isObject
          split at found
          · rename_i closing
            cases found
            simp only [Value.render, List.cons_append, List.append_assoc, List.nil_append]
            rw [← closing_split closing]
          · simp only [Option.map_eq_some_iff, Prod.exists, Prod.mk.injEq] at found
            obtain ⟨members, remaining, parsed, rfl, rfl⟩ := found
            simp only [Value.render, List.cons_append]
            rw [← membersIH _ _ _ parsed]
        split at found
        · rename_i isArray
          subst isArray
          split at found
          · rename_i closing
            cases found
            simp only [Value.render, List.cons_append, List.append_assoc, List.nil_append]
            rw [← closing_split closing]
          · simp only [Option.map_eq_some_iff, Prod.exists, Prod.mk.injEq] at found
            obtain ⟨items, remaining, parsed, rfl, rfl⟩ := found
            simp only [Value.render, List.cons_append]
            rw [← itemsIH _ _ _ parsed]
        split at found
        · rename_i isString
          subst isString
          simp only [Option.map_eq_some_iff, Prod.exists, Prod.mk.injEq] at found
          obtain ⟨token, remaining, parsed, rfl, rfl⟩ := found
          simp only [Value.render, StringToken.render, List.cons_append]
          rw [← scanString_sound parsed]
        split at found
        · exact scanLiteral_sound found rfl
        split at found
        · exact scanLiteral_sound found rfl
        split at found
        · exact scanLiteral_sound found rfl
        · exact scanNumber_sound found
    · intro s rest items found
      simp only [parseItems, Option.bind_eq_bind, Option.bind_eq_some_iff, Prod.exists] at found
      obtain ⟨value, afterValue, parsed, found⟩ := found
      have first := valueIH _ _ _ parsed
      split at found
      · cases found
      · rename_i u tail next
        have after := blank_split next
        split at found
        · rename_i closing
          subst closing
          cases found
          simp only [Items.render, List.append_assoc, List.cons_append, List.nil_append]
          rw [← after, ← first, takeWhitespace_skip]
        · split at found
          · rename_i separator
            subst separator
            simp only [Option.map_eq_some_iff, Prod.exists, Prod.mk.injEq] at found
            obtain ⟨items, remaining, more, rfl, rfl⟩ := found
            simp only [Items.render, List.append_assoc, List.cons_append]
            rw [← itemsIH _ _ _ more, ← after, ← first, takeWhitespace_skip]
          · cases found
    · intro s rest members found
      simp only [parseMembers] at found
      split at found
      · cases found
      · rename_i first body start
        split at found
        · rename_i isQuote
          subst isQuote
          simp only [Option.bind_eq_bind, Option.bind_eq_some_iff, Prod.exists] at found
          obtain ⟨key, afterKey, keyParsed, found⟩ := found
          have keyText := scanString_sound keyParsed
          split at found
          · cases found
          · rename_i separator beforeValue colonNext
            split at found
            · rename_i isColon
              subst isColon
              simp only [Option.bind_eq_some_iff, Prod.exists] at found
              obtain ⟨value, afterValue, parsed, found⟩ := found
              have valueText := valueIH _ _ _ parsed
              split at found
              · cases found
              · rename_i u tail next
                have after := blank_split next
                have keyBlank := blank_split colonNext
                have opening := blank_split start
                split at found
                · rename_i closing
                  subst closing
                  cases found
                  simp only [Members.render, StringToken.render, List.append_assoc, List.cons_append,
                    List.nil_append]
                  rw [← after, ← valueText, takeWhitespace_skip, ← keyBlank, ← keyText, ← opening]
                · split at found
                  · rename_i isComma
                    subst isComma
                    simp only [Option.map_eq_some_iff, Prod.exists, Prod.mk.injEq] at found
                    obtain ⟨members, remaining, more, rfl, rfl⟩ := found
                    simp only [Members.render, StringToken.render, List.append_assoc, List.cons_append]
                    rw [← membersIH _ _ _ more, ← after, ← valueText, takeWhitespace_skip, ← keyBlank, ← keyText,
                      ← opening]
                  · cases found
            · cases found
        · cases found

theorem parseText_sound {s : JsString} {text : Text} (found : parseText s = some text) : text.render = s := by
  simp only [parseText, Option.bind_eq_bind, Option.bind_eq_some_iff, Prod.exists] at found
  obtain ⟨value, rest, parsed, found⟩ := found
  split at found
  · rename_i ended
    cases found
    have trailing := takeWhitespace_skip rest
    rw [ended, List.append_nil] at trailing
    simp only [Text.render]
    rw [trailing, ← (parse_sound _).1 _ _ _ parsed, takeWhitespace_skip]
  · cases found

/-! ### What was written is parsed -/

mutual

/-- Fuel that a value needs. -/
def Value.height : Value → Nat
  | .array items => items.height + 1
  | .object members => members.height + 1
  | _ => 1

def Items.height : Items → Nat
  | .last _ value _ => value.height + 1
  | .cons _ value _ rest => max value.height rest.height + 1

def Members.height : Members → Nat
  | .last _ _ _ _ value _ => value.height + 1
  | .cons _ _ _ _ value _ rest => max value.height rest.height + 1

end

def startsValue (u : CodeUnit) : Bool :=
  u = openBrace || u = openBracket || u = quote || u = 0x74 || u = 0x66 || u = 0x6E || u = minus || isDigit u

theorem startsValue_plain {u : CodeUnit} (starts : startsValue u = true) :
    isWhitespace u = false ∧ u ≠ closeBrace ∧ u ≠ closeBracket := by
  refine ⟨?_, ?_, ?_⟩
  · cases blank : isWhitespace u with
    | false => rfl
    | true =>
      simp only [isWhitespace, Bool.or_eq_true, decide_eq_true_eq] at blank
      rcases blank with ((rfl | rfl) | rfl) | rfl <;> exact absurd starts (by decide)
  · rintro rfl
    exact absurd starts (by decide)
  · rintro rfl
    exact absurd starts (by decide)

theorem Value.head (value : Value) : ∃ u tail, value.render = u :: tail ∧ startsValue u = Bool.true := by
  cases value with
  | number text valid =>
    obtain ⟨u, tail, shape, first⟩ := number_head valid
    refine ⟨u, tail, shape, ?_⟩
    rcases first with rfl | digit
    · decide
    · simp [startsValue, digit]
  | null => exact ⟨_, _, rfl, by decide⟩
  | true => exact ⟨_, _, rfl, by decide⟩
  | false => exact ⟨_, _, rfl, by decide⟩
  | string token => exact ⟨_, _, rfl, by decide⟩
  | emptyArray inner => exact ⟨_, _, rfl, by decide⟩
  | array items => exact ⟨_, _, rfl, by decide⟩
  | emptyObject inner => exact ⟨_, _, rfl, by decide⟩
  | object members => exact ⟨_, _, rfl, by decide⟩

theorem Value.stops (value : Value) (rest : JsString) : Stops isWhitespace (value.render ++ rest) := by
  obtain ⟨u, tail, shape, starts⟩ := value.head
  rw [shape, List.cons_append, stops_cons]
  exact (startsValue_plain starts).1

theorem skip_to_value (before : Whitespace) (value : Value) (rest : JsString) :
    skipWhitespace (before.text ++ (value.render ++ rest)) = value.render ++ rest ∧
      takeWhitespace (before.text ++ (value.render ++ rest)) = before :=
  ⟨skipWhitespace_append before (value.stops rest), takeWhitespace_append before (value.stops rest)⟩

theorem skip_to_unit (before : Whitespace) {u : CodeUnit} (plain : isWhitespace u = false) (rest : JsString) :
    skipWhitespace (before.text ++ u :: rest) = u :: rest ∧ takeWhitespace (before.text ++ u :: rest) = before :=
  ⟨skipWhitespace_append before (stops_cons.mpr plain), takeWhitespace_append before (stops_cons.mpr plain)⟩

theorem value_append_ne (value : Value) (rest : JsString) : value.render ++ rest ≠ [] := by
  rcases value.head with ⟨u, tail, shape, _⟩
  rw [shape]
  exact List.cons_ne_nil _ _

theorem skip_to_key (before : Whitespace) (key : StringToken) (rest : JsString) :
    skipWhitespace (before.text ++ (key.render ++ rest)) = key.render ++ rest :=
  (skip_to_unit before (u := quote) (by decide) (key.renderTail ++ rest)).1

theorem blank_endsNumber (u : CodeUnit) (blank : isWhitespace u = true) : endsNumber u = false := by
  simp only [isWhitespace, Bool.or_eq_true, decide_eq_true_eq] at blank
  rcases blank with ((rfl | rfl) | rfl) | rfl <;> decide

theorem stops_after_blank (blank : Whitespace) {rest : JsString} (stop : Stops endsNumber rest) :
    Stops endsNumber (blank.text ++ rest) := by
  obtain ⟨text, all⟩ := blank
  cases text with
  | nil => exact stop
  | cons u tail =>
    rw [List.cons_append, stops_cons]
    exact blank_endsNumber u (all u List.mem_cons_self)

theorem stops_at_unit (blank : Whitespace) {u : CodeUnit} (plain : endsNumber u = false) (rest : JsString) :
    Stops endsNumber (blank.text ++ u :: rest) := stops_after_blank blank (stops_cons.mpr plain)

theorem scanLiteral_complete (text rest : JsString) (value : Value) :
    scanLiteral text value (text ++ rest) = some (value, rest) := by
  simp [scanLiteral]

theorem scanNumber_complete {text rest : JsString} (valid : IsNumber text) (stop : Stops endsNumber rest) :
    scanNumber (text ++ rest) = some (.number text valid, rest) := by
  have found := numberPrefix_complete valid stop
  unfold scanNumber
  split
  · rename_i matched
    rw [found] at matched
    cases matched
    rfl
  · rename_i failed
    rw [found] at failed
    cases failed

theorem scanString_render (token : StringToken) (rest : JsString) :
    scanString ((token.renderTail ++ rest).length + 1) (token.renderTail ++ rest) = some (token, rest) := by
  have bound := renderTail_length token
  exact scanString_complete token (by rw [List.length_append]; omega) rest

theorem items_open (items : Items) (rest : JsString) :
    (skipWhitespace (items.render ++ rest)).head? ≠ some closeBracket := by
  have open_ (before : Whitespace) (value : Value) (more : JsString) :
      (skipWhitespace (before.text ++ (value.render ++ more))).head? ≠ some closeBracket := by
    obtain ⟨u, tail, shape, starts⟩ := value.head
    rw [(skip_to_value before value more).1, shape]
    simpa using (startsValue_plain starts).2.2
  cases items <;> simpa only [Items.render, List.append_assoc] using open_ _ _ _

theorem members_open (members : Members) (rest : JsString) :
    (skipWhitespace (members.render ++ rest)).head? ≠ some closeBrace := by
  have open_ (before : Whitespace) (more : JsString) :
      (skipWhitespace (before.text ++ quote :: more)).head? ≠ some closeBrace := by
    rw [(skip_to_unit before (by decide) more).1, List.head?_cons]
    decide
  cases members <;> simpa only [Members.render, StringToken.render, List.append_assoc, List.cons_append]
    using open_ _ _

mutual

theorem parseValue_complete (value : Value) {fuel : Nat} (enough : value.height ≤ fuel) {rest : JsString}
    (stop : Stops endsNumber rest) : parseValue fuel (value.render ++ rest) = some (value, rest) := by
  obtain ⟨fuel, rfl⟩ : ∃ n, fuel = n + 1 := by
    refine Nat.exists_eq_succ_of_ne_zero ?_
    cases value <;> simp only [Value.height] at enough <;> omega
  cases value with
  | null => exact scanLiteral_complete (js "null") rest .null
  | true => exact scanLiteral_complete (js "true") rest .true
  | false => exact scanLiteral_complete (js "false") rest .false
  | number text valid =>
    obtain ⟨u, tail, shape, first⟩ := number_head valid
    have scanned := scanNumber_complete valid stop
    simp only [Value.render, shape, List.cons_append] at scanned ⊢
    rcases first with rfl | digit
    · exact scanned
    · have plain : ∀ v, isDigit v = false → u ≠ v := fun v other same => by
        rw [same, other] at digit
        cases digit
      rw [parseValue, if_neg (plain _ (by decide)), if_neg (plain _ (by decide)), if_neg (plain _ (by decide)),
        if_neg (plain _ (by decide)), if_neg (plain _ (by decide)), if_neg (plain _ (by decide)), scanned]
  | string token =>
    simp only [Value.render, StringToken.render, List.cons_append]
    rw [parseValue, if_neg (by decide), if_neg (by decide), if_pos rfl, scanString_render]
    rfl
  | emptyArray inner =>
    have closing := skip_to_unit inner (u := closeBracket) (by decide) rest
    simp only [Value.render, List.cons_append, List.append_assoc, List.nil_append]
    rw [parseValue, if_neg (by decide), if_pos rfl, closing.1, closing.2]
    rfl
  | array items =>
    simp only [Value.height, Nat.add_le_add_iff_right] at enough
    simp only [Value.render, List.cons_append]
    rw [parseValue, if_neg (by decide), if_pos rfl, if_neg (items_open items rest),
      parseItems_complete items enough]
    rfl
  | emptyObject inner =>
    have closing := skip_to_unit inner (u := closeBrace) (by decide) rest
    simp only [Value.render, List.cons_append, List.append_assoc, List.nil_append]
    rw [parseValue, if_pos rfl, closing.1, closing.2]
    rfl
  | object members =>
    simp only [Value.height, Nat.add_le_add_iff_right] at enough
    simp only [Value.render, List.cons_append]
    rw [parseValue, if_pos rfl, if_neg (members_open members rest), parseMembers_complete members enough]
    rfl

theorem parseItems_complete (items : Items) {fuel : Nat} (enough : items.height ≤ fuel) (rest : JsString) :
    parseItems fuel (items.render ++ rest) = some (items, rest) := by
  cases items with
  | last before value after =>
    obtain ⟨fuel, rfl⟩ : ∃ n, fuel = n + 1 :=
      Nat.exists_eq_succ_of_ne_zero (by simp only [Items.height] at enough; omega)
    simp only [Items.height, Nat.add_le_add_iff_right] at enough
    have closing := skip_to_unit after (u := closeBracket) (by decide) rest
    have parsed := parseValue_complete value enough
      (stops_at_unit after (u := closeBracket) (by decide) rest)
    simp only [Items.render, List.append_assoc, List.cons_append, List.nil_append]
    rw [parseItems, (skip_to_value before value _).1, (skip_to_value before value _).2, parsed]
    simp only [Option.bind_eq_bind, Option.bind_some, closing.1, closing.2, ↓reduceIte]
  | cons before value after more =>
    obtain ⟨fuel, rfl⟩ : ∃ n, fuel = n + 1 :=
      Nat.exists_eq_succ_of_ne_zero (by simp only [Items.height] at enough; omega)
    simp only [Items.height, Nat.add_le_add_iff_right, Nat.max_le] at enough
    have separator := skip_to_unit after (u := comma) (by decide) (more.render ++ rest)
    have parsed := parseValue_complete value enough.1
      (stops_at_unit after (u := comma) (by decide) (more.render ++ rest))
    simp only [Items.render, List.append_assoc, List.cons_append]
    rw [parseItems, (skip_to_value before value _).1, (skip_to_value before value _).2, parsed]
    simp only [Option.bind_eq_bind, Option.bind_some, separator.1, separator.2, ↓reduceIte,
      parseItems_complete more enough.2 rest]
    rfl

theorem parseMembers_complete (members : Members) {fuel : Nat} (enough : members.height ≤ fuel) (rest : JsString) :
    parseMembers fuel (members.render ++ rest) = some (members, rest) := by
  cases members with
  | last before key afterKey beforeValue value after =>
    obtain ⟨fuel, rfl⟩ : ∃ n, fuel = n + 1 :=
      Nat.exists_eq_succ_of_ne_zero (by simp only [Members.height] at enough; omega)
    simp only [Members.height, Nat.add_le_add_iff_right] at enough
    have closing := skip_to_unit after (u := closeBrace) (by decide) rest
    have parsed := parseValue_complete value enough
      (stops_at_unit after (u := closeBrace) (by decide) rest)
    simp only [Members.render, StringToken.render, List.append_assoc, List.cons_append, List.nil_append]
    rw [parseMembers, (skip_to_unit before (u := quote) (by decide) _).1,
      (skip_to_unit before (u := quote) (by decide) _).2]
    simp only [↓reduceIte, scanString_render, Option.bind_eq_bind, Option.bind_some,
      (skip_to_unit afterKey (u := colon) (by decide) _).1, (skip_to_unit afterKey (u := colon) (by decide) _).2,
      (skip_to_value beforeValue value _).1, (skip_to_value beforeValue value _).2, parsed, closing.1, closing.2]
  | cons before key afterKey beforeValue value after more =>
    obtain ⟨fuel, rfl⟩ : ∃ n, fuel = n + 1 :=
      Nat.exists_eq_succ_of_ne_zero (by simp only [Members.height] at enough; omega)
    simp only [Members.height, Nat.add_le_add_iff_right, Nat.max_le] at enough
    have separator := skip_to_unit after (u := comma) (by decide) (more.render ++ rest)
    have parsed := parseValue_complete value enough.1
      (stops_at_unit after (u := comma) (by decide) (more.render ++ rest))
    simp only [Members.render, StringToken.render, List.append_assoc, List.cons_append]
    rw [parseMembers, (skip_to_unit before (u := quote) (by decide) _).1,
      (skip_to_unit before (u := quote) (by decide) _).2]
    simp only [↓reduceIte, scanString_render, Option.bind_eq_bind, Option.bind_some,
      (skip_to_unit afterKey (u := colon) (by decide) _).1, (skip_to_unit afterKey (u := colon) (by decide) _).2,
      (skip_to_value beforeValue value _).1, (skip_to_value beforeValue value _).2, parsed, separator.1, separator.2,
      parseMembers_complete more enough.2 rest]
    rfl

end

mutual

theorem Value.height_le (value : Value) : value.height ≤ 2 * value.render.length := by
  obtain ⟨u, tail, shape, -⟩ := value.head
  have positive : 0 < value.render.length := by simp [shape]
  cases value with
  | array items =>
    have bound := items.height_le
    simp only [Value.height, Value.render, List.length_cons]
    omega
  | object members =>
    have bound := members.height_le
    simp only [Value.height, Value.render, List.length_cons]
    omega
  | _ => simp only [Value.height]; omega

theorem Items.height_le (items : Items) : items.height ≤ 2 * items.render.length := by
  cases items with
  | last before value after =>
    have bound := value.height_le
    simp only [Items.height, Items.render, List.length_append, List.length_cons]
    omega
  | cons before value after rest =>
    have first := value.height_le
    have later := rest.height_le
    simp only [Items.height, Items.render, List.length_append, List.length_cons]
    omega

theorem Members.height_le (members : Members) : members.height ≤ 2 * members.render.length := by
  cases members with
  | last before key afterKey beforeValue value after =>
    have bound := value.height_le
    simp only [Members.height, Members.render, List.length_append, List.length_cons]
    omega
  | cons before key afterKey beforeValue value after rest =>
    have first := value.height_le
    have later := rest.height_le
    simp only [Members.height, Members.render, List.length_append, List.length_cons]
    omega

end

theorem parseText_complete (text : Text) : parseText text.render = some text := by
  have bound := text.value.height_le
  have tail : Stops endsNumber text.after.text := by
    have padded := stops_after_blank text.after (Stops.nil endsNumber)
    rwa [List.append_nil] at padded
  have blank := skipWhitespace_append text.after (Stops.nil isWhitespace)
  have taken := takeWhitespace_append text.after (Stops.nil isWhitespace)
  rw [List.append_nil] at blank taken
  unfold parseText Text.render
  rw [(skip_to_value text.before text.value _).1, (skip_to_value text.before text.value _).2,
    parseValue_complete text.value (by simp only [List.length_append]; omega) tail]
  simp only [Option.bind_eq_bind, Option.bind_some, blank, taken, ↓reduceIte]

/-- The parser decides the grammar, and with it that a text is written in one way. -/
theorem parseText_iff {s : JsString} {text : Text} : parseText s = some text ↔ text.render = s :=
  ⟨parseText_sound, fun written => written ▸ parseText_complete text⟩

theorem render_injective : Function.Injective Text.render := by
  intro first second same
  have parsed := parseText_complete first
  rw [same, parseText_complete second] at parsed
  exact (Option.some.inj parsed).symm

/-- Two values that end in the same place in one text are the same. -/
theorem Value.render_injective : Function.Injective Value.render := by
  intro first second same
  have blank : Whitespace := ⟨[], by simp⟩
  have whole : (⟨blank, first, blank⟩ : Text) = ⟨blank, second, blank⟩ :=
    ECMA.Grammar.render_injective (by simp only [Text.render, same])
  exact congrArg Text.value whole

/-- `JSON.parse`, with `none` for its `SyntaxError`. -/
def jsonParse [NumberConversion] (s : JsString) : Option Json := (parseText s).map fun text => text.value.eval

theorem jsonParse_iff [NumberConversion] {s : JsString} {json : Json} :
    jsonParse s = some json ↔ ∃ text : Text, text.render = s ∧ text.value.eval = json := by
  simp only [jsonParse, Option.map_eq_some_iff, parseText_iff]

theorem jsonParse_render [NumberConversion] (text : Text) : jsonParse text.render = some text.value.eval :=
  jsonParse_iff.mpr ⟨text, rfl, rfl⟩

mutual

theorem Value.eval_keysDistinct [NumberConversion] (value : Value) : Json.KeysDistinct value.eval := by
  cases value with
  | null => exact .null
  | true => exact .bool _
  | false => exact .bool _
  | number text valid => exact .number _
  | string token => exact .string _
  | emptyArray inner => exact .array (by simp)
  | array items => exact .array items.eval_keysDistinct
  | emptyObject inner => exact .object List.nodup_nil (by simp)
  | object members =>
    exact .object (Fields.ofEntries_distinct _) fun field member =>
      members.eval_keysDistinct field (Fields.mem_ofEntries member)

theorem Items.eval_keysDistinct [NumberConversion] (items : Items) : ∀ item ∈ items.eval, Json.KeysDistinct item := by
  cases items with
  | last before value after => simpa [Items.eval] using value.eval_keysDistinct
  | cons before value after rest =>
    exact List.forall_mem_cons.mpr ⟨value.eval_keysDistinct, rest.eval_keysDistinct⟩

theorem Members.eval_keysDistinct [NumberConversion] (members : Members) :
    ∀ entry ∈ members.eval, Json.KeysDistinct entry.2 := by
  cases members with
  | last before key afterKey beforeValue value after => simpa [Members.eval] using value.eval_keysDistinct
  | cons before key afterKey beforeValue value after rest =>
    exact List.forall_mem_cons.mpr ⟨value.eval_keysDistinct, rest.eval_keysDistinct⟩

end

/-- A parsed object has one value for each key. -/
theorem jsonParse_keysDistinct [NumberConversion] {s : JsString} {json : Json} (parsed : jsonParse s = some json) :
    json.KeysDistinct := by
  obtain ⟨text, -, rfl⟩ := jsonParse_iff.mp parsed
  exact text.value.eval_keysDistinct

end ECMA.Grammar
