import MirrorECMA.ModelInterface.StrictString

namespace Mirror.ModelInterface.StrictJsonParser

open ECMA ECMA.Grammar

theorem skipWhitespace_twice (s : JsString) : skipWhitespace (skipWhitespace s) = skipWhitespace s :=
  skipWhitespace_of_stops (skipWhitespace_stops s)

theorem literal_sound {source s rest : JsString} {result json : Json}
    (read : literal source result s = .ok (json, rest)) : s = source ++ rest ∧ json = result := by
  unfold literal at read
  split at read
  · cases read
  · rename_i taken
    cases read
    refine ⟨?_, rfl⟩
    conv => lhs; rw [← List.take_append_drop source.length s, Decidable.not_not.mp taken]

theorem objectLoop_skip (read : JsString → Except SyntaxFailure (Json × JsString)) (fuel : Nat)
    (keys : List JsString) (result : Fields Json) (s : JsString) :
    objectLoop read (fuel + 1) keys result (skipWhitespace s) = objectLoop read (fuel + 1) keys result s := by
  simp only [objectLoop, skipWhitespace_twice]

theorem items_count_pos (items : Items) : 0 < items.count := by
  cases items <;> simp [Items.count]

theorem members_count_pos (members : Members) : 0 < members.count := by
  cases members <;> simp [Members.count]

theorem items_count (items : Items) : items.count ≤ items.render.length := by
  cases items with
  | last before v after =>
    simp only [Items.count, Items.render, List.length_append, List.length_cons]
    omega
  | cons before v after rest =>
    have bound := items_count rest
    simp only [Items.count, Items.render, List.length_append, List.length_cons]
    omega

theorem members_count (members : Members) : members.count ≤ members.render.length := by
  cases members with
  | last before key afterKey beforeValue v after =>
    simp only [Members.count, Members.render, List.length_append, List.length_cons]
    omega
  | cons before key afterKey beforeValue v after rest =>
    have bound := members_count rest
    simp only [Members.count, Members.render, List.length_append, List.length_cons]
    omega

/-- The fuel of a loop is the text it has left, which has room for every turn. -/
theorem items_fuel (items : Items) (rest : JsString) :
    items.count ≤ (skipWhitespace (items.render ++ rest)).length := by
  cases items with
  | last before v after =>
    simp only [Items.count, Items.render, List.append_assoc, (skip_to_value before v _).1, List.length_append,
      List.length_cons]
    omega
  | cons before v after more =>
    have bound := items_count more
    simp only [Items.count, Items.render, List.append_assoc, List.cons_append, (skip_to_value before v _).1,
      List.length_append, List.length_cons]
    omega

theorem members_fuel (members : Members) (rest : JsString) :
    members.count ≤ (skipWhitespace (members.render ++ rest)).length := by
  cases members with
  | last before key afterKey beforeValue v after =>
    simp only [Members.count, Members.render, StringToken.render, List.append_assoc, List.cons_append,
      (skip_to_unit before (u := quote) (by decide) _).1, List.length_append, List.length_cons]
    omega
  | cons before key afterKey beforeValue v after more =>
    have bound := members_count more
    simp only [Members.count, Members.render, StringToken.render, List.append_assoc, List.cons_append,
      (skip_to_unit before (u := quote) (by decide) _).1, List.length_append, List.length_cons]
    omega

theorem literal_complete (source rest : JsString) (result : Json) :
    literal source result (source ++ rest) = .ok (result, rest) := by
  simp [literal]

theorem arrayLoop_fuel {read : JsString → Except SyntaxFailure (Json × JsString)} {fuel : Nat} {result : List Json}
    {s : JsString} {parsed : Json × JsString} (returned : arrayLoop read fuel result s = .ok parsed) : fuel ≠ 0 := by
  rintro rfl
  cases returned

theorem objectLoop_fuel {read : JsString → Except SyntaxFailure (Json × JsString)} {fuel : Nat}
    {keys : List JsString} {result : Fields Json} {s : JsString} {parsed : Json × JsString}
    (returned : objectLoop read fuel keys result s = .ok parsed) : fuel ≠ 0 := by
  rintro rfl
  cases returned

section

variable [NumberConversion]

def IsFiniteNumber (text : JsString) : Prop := (NumberConversion.number text).isFinite = true

/-- What the parser asks of a written value, with so many container levels left. -/
def Strict (levels : Nat) (v : Value) : Prop :=
  v.KeysDistinct ∧ v.EveryString SurrogatesPaired ∧ v.EveryNumber IsFiniteNumber ∧ v.depth ≤ levels

def StrictItems (levels : Nat) (items : Items) : Prop :=
  items.KeysDistinct ∧ items.EveryString SurrogatesPaired ∧ items.EveryNumber IsFiniteNumber ∧ items.depth ≤ levels

def StrictMembers (levels : Nat) (members : Members) : Prop :=
  members.KeysDistinct ∧ members.EveryString SurrogatesPaired ∧ members.EveryNumber IsFiniteNumber ∧
    members.depth ≤ levels

theorem strict_array {levels : Nat} {items : Items} :
    Strict (levels + 1) (.array items) ↔ StrictItems levels items := by
  simp [Strict, StrictItems, Value.KeysDistinct, Value.EveryString, Value.EveryNumber, Value.depth]

theorem strict_object {levels : Nat} {members : Members} :
    Strict (levels + 1) (.object members) ↔ members.keys.Nodup ∧ StrictMembers levels members := by
  simp [Strict, StrictMembers, Value.KeysDistinct, Value.EveryString, Value.EveryNumber, Value.depth, and_assoc]

theorem strictItems_last {levels : Nat} {before after : Whitespace} {v : Value} :
    StrictItems levels (.last before v after) ↔ Strict levels v := by
  simp [Strict, StrictItems, Items.KeysDistinct, Items.EveryString, Items.EveryNumber, Items.depth]

theorem strictItems_cons {levels : Nat} {before after : Whitespace} {v : Value} {rest : Items} :
    StrictItems levels (.cons before v after rest) ↔ Strict levels v ∧ StrictItems levels rest := by
  simp only [Strict, StrictItems, Items.KeysDistinct, Items.EveryString, Items.EveryNumber, Items.depth, Nat.max_le]
  grind

theorem strictMembers_last {levels : Nat} {before afterKey beforeValue after : Whitespace} {key : StringToken}
    {v : Value} : StrictMembers levels (.last before key afterKey beforeValue v after) ↔
      SurrogatesPaired key ∧ Strict levels v := by
  simp only [Strict, StrictMembers, Members.KeysDistinct, Members.EveryString, Members.EveryNumber, Members.depth]
  grind

theorem strictMembers_cons {levels : Nat} {before afterKey beforeValue after : Whitespace} {key : StringToken}
    {v : Value} {rest : Members} : StrictMembers levels (.cons before key afterKey beforeValue v after rest) ↔
      SurrogatesPaired key ∧ Strict levels v ∧ StrictMembers levels rest := by
  simp only [Strict, StrictMembers, Members.KeysDistinct, Members.EveryString, Members.EveryNumber, Members.depth,
    Nat.max_le]
  grind

/-- A blank before a value is the parser's to skip. -/
theorem value_skip (levels : Nat) (s : JsString) : value levels (skipWhitespace s) = value levels s := by
  unfold value
  rw [skipWhitespace_twice]

theorem arrayLoop_skip (levels fuel : Nat) (result : List Json) (s : JsString) :
    arrayLoop (value levels) (fuel + 1) result (skipWhitespace s) = arrayLoop (value levels) (fuel + 1) result s := by
  simp only [arrayLoop, value_skip]

/-- What a sound reader of values returns. -/
def Sound (levels : Nat) (read : JsString → Except SyntaxFailure (Json × JsString)) : Prop :=
  ∀ s json rest, read s = .ok (json, rest) →
    ∃ (before : Whitespace) (v : Value), s = before.text ++ (v.render ++ rest) ∧ v.eval = json ∧ Strict levels v

theorem arrayLoop_sound {levels : Nat} {read : JsString → Except SyntaxFailure (Json × JsString)}
    (sound : Sound levels read) {fuel : Nat} {result : List Json} {s rest : JsString} {json : Json}
    (parsed : arrayLoop read fuel result s = .ok (json, rest)) :
    ∃ items : Items, s = items.render ++ rest ∧ json = .array (result ++ items.eval) ∧ StrictItems levels items := by
  induction fuel generalizing result s with
  | zero => cases parsed
  | succ fuel ih =>
    simp only [arrayLoop, bind_eq_ok, Prod.exists] at parsed
    obtain ⟨item, afterItem, first, parsed⟩ := parsed
    obtain ⟨before, v, rfl, rfl, strict⟩ := sound _ _ _ first
    split at parsed
    · rename_i closing
      cases parsed
      refine ⟨.last before v (takeWhitespace afterItem), ?_, rfl, strictItems_last.mpr strict⟩
      simp only [Items.render, List.append_assoc, List.cons_append, List.nil_append, ← closing_split closing]
    · split at parsed
      · cases parsed
      · rename_i separator
        rw [ne_eq, Decidable.not_not] at separator
        obtain ⟨items, more, rfl, strictRest⟩ := ih parsed
        refine ⟨.cons before v (takeWhitespace afterItem) items, ?_, by simp [Items.eval],
          strictItems_cons.mpr ⟨strict, strictRest⟩⟩
        simp only [Items.render, List.append_assoc, List.cons_append, ← more, ← closing_split separator]

theorem objectLoop_sound {levels : Nat} {read : JsString → Except SyntaxFailure (Json × JsString)}
    (sound : Sound levels read) {fuel : Nat} {keys : List JsString} {result : Fields Json} {s rest : JsString}
    {json : Json} (parsed : objectLoop read fuel keys result s = .ok (json, rest)) :
    ∃ members : Members, s = members.render ++ rest ∧
      json = .object (members.eval.foldl (fun fields entry => Fields.set fields entry.1 entry.2) result) ∧
      members.keys.Nodup ∧ (∀ key ∈ members.keys, key ∉ keys) ∧ StrictMembers levels members := by
  induction fuel generalizing keys result s with
  | zero => cases parsed
  | succ fuel ih =>
    simp only [objectLoop] at parsed
    split at parsed
    · cases parsed
    rename_i opening
    rw [ne_eq, Decidable.not_not] at opening
    simp only [bind_eq_ok, Prod.exists] at parsed
    obtain ⟨key, afterKey, keyRead, parsed⟩ := parsed
    obtain ⟨token, paired, keyText, rfl⟩ := string_sound opening keyRead
    split at parsed
    · cases parsed
    rename_i fresh
    split at parsed
    · cases parsed
    rename_i separator
    rw [ne_eq, Decidable.not_not] at separator
    simp only [bind_eq_ok, Prod.exists] at parsed
    obtain ⟨item, afterItem, first, parsed⟩ := parsed
    obtain ⟨beforeValue, v, valueText, rfl, strict⟩ := sound _ _ _ first
    have leading := takeWhitespace_skip s
    have named := closing_split separator
    split at parsed
    · rename_i closing
      cases parsed
      refine ⟨.last (takeWhitespace s) token (takeWhitespace afterKey) beforeValue v (takeWhitespace afterItem),
        ?_, rfl, by simp [Members.keys], by simpa [Members.keys] using fresh,
        strictMembers_last.mpr ⟨paired, strict⟩⟩
      simp only [Members.render, List.append_assoc, List.cons_append, List.nil_append]
      rw [← closing_split closing, ← valueText, ← named, ← keyText, leading]
    · split at parsed
      · cases parsed
      · rename_i next
        rw [ne_eq, Decidable.not_not] at next
        obtain ⟨members, more, rfl, distinct, apart, strictRest⟩ := ih parsed
        refine ⟨.cons (takeWhitespace s) token (takeWhitespace afterKey) beforeValue v (takeWhitespace afterItem)
          members, ?_, rfl, ?_, ?_, strictMembers_cons.mpr ⟨paired, strict, strictRest⟩⟩
        · simp only [Members.render, List.append_assoc, List.cons_append]
          rw [← more, ← closing_split next, ← valueText, ← named, ← keyText, leading]
        · refine List.nodup_cons.mpr ⟨fun member => apart _ member (by simp), distinct⟩
        · intro key member seen
          rcases List.mem_cons.mp member with rfl | member
          · exact fresh seen
          · exact apart key member (List.mem_append_left _ seen)

theorem number_sound {s rest : JsString} {json : Json} (read : number s = .ok (json, rest)) :
    ∃ text, ∃ valid : IsNumber text, s = text ++ rest ∧ json = (Value.number text valid).eval ∧ IsFiniteNumber text := by
  unfold number at read
  split at read
  · cases read
  · rename_i text remaining found
    simp only at read
    split at read
    · rename_i finite
      cases read
      exact ⟨text, (numberPrefix_sound found).2, (numberPrefix_sound found).1, rfl, finite⟩
    · cases read

theorem strict_token {levels : Nat} {token : StringToken} (paired : SurrogatesPaired token) :
    Strict levels (.string token) := ⟨True.intro, paired, True.intro, Nat.zero_le _⟩

theorem strict_number {levels : Nat} {text : JsString} (valid : IsNumber text) (finite : IsFiniteNumber text) :
    Strict levels (.number text valid) := ⟨True.intro, True.intro, finite, Nat.zero_le _⟩

theorem strict_empty {levels : Nat} (inner : Whitespace) :
    Strict (levels + 1) (.emptyArray inner) ∧ Strict (levels + 1) (.emptyObject inner) :=
  ⟨⟨True.intro, True.intro, True.intro, Nat.le_add_left _ _⟩, ⟨True.intro, True.intro, True.intro, Nat.le_add_left _ _⟩⟩

theorem strict_literal {levels : Nat} : Strict levels .null ∧ Strict levels .true ∧ Strict levels .false :=
  ⟨⟨True.intro, True.intro, True.intro, Nat.zero_le _⟩, ⟨True.intro, True.intro, True.intro, Nat.zero_le _⟩,
    ⟨True.intro, True.intro, True.intro, Nat.zero_le _⟩⟩

theorem value_sound (levels : Nat) : Sound levels (value levels) := by
  induction levels using Nat.strongRecOn with
  | ind levels ih =>
    intro s json rest parsed
    have leading := takeWhitespace_skip s
    suffices ∃ v : Value, skipWhitespace s = v.render ++ rest ∧ v.eval = json ∧ Strict levels v by
      obtain ⟨v, shape, more⟩ := this
      exact ⟨takeWhitespace s, v, by rw [← shape, leading], more⟩
    unfold value at parsed
    simp only at parsed
    split at parsed
    · cases parsed
    rename_i u tail start
    rw [start] at parsed ⊢
    split at parsed
    · rename_i isObject
      subst isObject
      split at parsed
      · cases parsed
      rename_i below
      split at parsed
      · rename_i closing
        cases parsed
        refine ⟨.emptyObject (takeWhitespace tail), ?_, rfl, (strict_empty _).2⟩
        simp only [Value.render, List.cons_append, List.append_assoc, List.nil_append, ← closing_split closing]
      · obtain ⟨fuel, size⟩ := Nat.exists_eq_succ_of_ne_zero (objectLoop_fuel parsed)
        rw [size, objectLoop_skip] at parsed
        obtain ⟨members, rfl, rfl, distinct, -, strict⟩ := objectLoop_sound (ih below (by omega)) parsed
        exact ⟨.object members, rfl, rfl, strict_object.mpr ⟨distinct, strict⟩⟩
    split at parsed
    · rename_i isArray
      subst isArray
      split at parsed
      · cases parsed
      rename_i below
      split at parsed
      · rename_i closing
        cases parsed
        refine ⟨.emptyArray (takeWhitespace tail), ?_, rfl, (strict_empty _).1⟩
        simp only [Value.render, List.cons_append, List.append_assoc, List.nil_append, ← closing_split closing]
      · obtain ⟨fuel, size⟩ := Nat.exists_eq_succ_of_ne_zero (arrayLoop_fuel parsed)
        rw [size, arrayLoop_skip] at parsed
        obtain ⟨items, rfl, rfl, strict⟩ := arrayLoop_sound (ih below (by omega)) parsed
        exact ⟨.array items, rfl, rfl, strict_array.mpr strict⟩
    split at parsed
    · rename_i isString
      subst isString
      simp only [bind_eq_ok, Prod.exists, pure_eq_ok, Except.ok.injEq, Prod.mk.injEq] at parsed
      obtain ⟨text, remaining, read, rfl, rfl⟩ := parsed
      obtain ⟨token, paired, shape, rfl⟩ := string_sound rfl read
      exact ⟨.string token, shape, rfl, strict_token paired⟩
    split at parsed
    · obtain ⟨shape, rfl⟩ := literal_sound parsed
      exact ⟨.true, shape, rfl, strict_literal.2.1⟩
    split at parsed
    · obtain ⟨shape, rfl⟩ := literal_sound parsed
      exact ⟨.false, shape, rfl, strict_literal.2.2⟩
    split at parsed
    · obtain ⟨shape, rfl⟩ := literal_sound parsed
      exact ⟨.null, shape, rfl, strict_literal.1⟩
    split at parsed
    · obtain ⟨text, valid, shape, rfl, finite⟩ := number_sound parsed
      exact ⟨.number text valid, shape, rfl, strict_number valid finite⟩
    · cases parsed

theorem number_complete {text rest : JsString} (valid : IsNumber text) (finite : IsFiniteNumber text)
    (stop : Stops endsNumber rest) :
    number (text ++ rest) = .ok ((Value.number text valid).eval, rest) := by
  simp only [number, numberPrefix_complete valid stop]
  rw [if_pos (show (NumberConversion.number text).isFinite = true from finite)]
  rfl

theorem value_after_blank (levels : Nat) (before : Whitespace) (v : Value) (rest : JsString) :
    value levels (before.text ++ (v.render ++ rest)) = value levels (v.render ++ rest) := by
  rw [← value_skip, (skip_to_value before v rest).1]

theorem value_object (levels : Nat) (tail : JsString) : value (levels + 1) (openBrace :: tail) =
    if (skipWhitespace tail).head? = some closeBrace then .ok (.object [], (skipWhitespace tail).tail)
    else objectLoop (value levels) (skipWhitespace tail).length [] [] (skipWhitespace tail) := by
  rw [value]
  simp only [skipWhitespace_of_stops (stops_cons.mpr (show isWhitespace openBrace = false by decide)), ↓reduceIte]

theorem value_array (levels : Nat) (tail : JsString) : value (levels + 1) (openBracket :: tail) =
    if (skipWhitespace tail).head? = some closeBracket then .ok (.array [], (skipWhitespace tail).tail)
    else arrayLoop (value levels) (skipWhitespace tail).length [] (skipWhitespace tail) := by
  rw [value]
  simp only [skipWhitespace_of_stops (stops_cons.mpr (show isWhitespace openBracket = false by decide)), ↓reduceIte]
  rw [if_neg (by decide)]

mutual

theorem value_complete (v : Value) {levels : Nat} (strict : Strict levels v) {rest : JsString}
    (stop : Stops endsNumber rest) : value levels (v.render ++ rest) = .ok (v.eval, rest) := by
  have unread := skipWhitespace_of_stops (v.stops rest)
  cases v with
  | null =>
    unfold value
    simp only [unread]
    exact literal_complete (js "null") rest .null
  | true =>
    unfold value
    simp only [unread]
    exact literal_complete (js "true") rest (.bool true)
  | false =>
    unfold value
    simp only [unread]
    exact literal_complete (js "false") rest (.bool false)
  | number text valid =>
    obtain ⟨u, tail, shape, first⟩ := number_head valid
    have scanned := number_complete valid strict.2.2.1 stop
    unfold value
    simp only [unread]
    simp only [Value.render, shape, List.cons_append] at scanned ⊢
    rcases first with rfl | digit
    · exact scanned
    · have plain : ∀ v, isDigit v = false → u ≠ v := fun v other same => by
        rw [same, other] at digit
        cases digit
      rw [if_neg (plain _ (by decide)), if_neg (plain _ (by decide)), if_neg (plain _ (by decide)),
        if_neg (plain _ (by decide)), if_neg (plain _ (by decide)), if_neg (plain _ (by decide)),
        if_pos (.inr digit), scanned]
  | string token =>
    have read := string_complete strict.2.1 rest
    unfold value
    simp only [unread]
    simp only [Value.render, StringToken.render, List.cons_append] at read ⊢
    rw [if_neg (by decide), if_neg (by decide), if_pos True.intro, read]
    rfl
  | emptyArray inner =>
    obtain ⟨below, rfl⟩ : ∃ n, levels = n + 1 := Nat.exists_eq_succ_of_ne_zero (Nat.ne_of_gt strict.2.2.2)
    have closing := skip_to_unit inner (u := closeBracket) (by decide) rest
    simp only [Value.render, List.cons_append, List.append_assoc, List.nil_append]
    rw [value_array, closing.1, List.head?_cons, if_pos rfl]
    rfl
  | array items =>
    obtain ⟨below, rfl⟩ : ∃ n, levels = n + 1 :=
      Nat.exists_eq_succ_of_ne_zero (Nat.ne_of_gt (Nat.lt_of_lt_of_le (Nat.succ_pos _) strict.2.2.2))
    have enough := items_fuel items rest
    obtain ⟨fuel, size⟩ : ∃ n, (skipWhitespace (items.render ++ rest)).length = n + 1 :=
      Nat.exists_eq_succ_of_ne_zero (Nat.ne_of_gt (Nat.lt_of_lt_of_le (items_count_pos items) enough))
    simp only [Value.render, List.cons_append]
    rw [value_array, if_neg (items_open items rest), size, arrayLoop_skip, ← size,
      arrayLoop_complete items (strict_array.mp strict) enough]
    rfl
  | emptyObject inner =>
    obtain ⟨below, rfl⟩ : ∃ n, levels = n + 1 := Nat.exists_eq_succ_of_ne_zero (Nat.ne_of_gt strict.2.2.2)
    have closing := skip_to_unit inner (u := closeBrace) (by decide) rest
    simp only [Value.render, List.cons_append, List.append_assoc, List.nil_append]
    rw [value_object, closing.1, List.head?_cons, if_pos rfl]
    rfl
  | object members =>
    obtain ⟨below, rfl⟩ : ∃ n, levels = n + 1 :=
      Nat.exists_eq_succ_of_ne_zero (Nat.ne_of_gt (Nat.lt_of_lt_of_le (Nat.succ_pos _) strict.2.2.2))
    have enough := members_fuel members rest
    obtain ⟨fuel, size⟩ : ∃ n, (skipWhitespace (members.render ++ rest)).length = n + 1 :=
      Nat.exists_eq_succ_of_ne_zero (Nat.ne_of_gt (Nat.lt_of_lt_of_le (members_count_pos members) enough))
    obtain ⟨distinct, strictMembers⟩ := strict_object.mp strict
    simp only [Value.render, List.cons_append]
    rw [value_object, if_neg (members_open members rest), size, objectLoop_skip, ← size,
      objectLoop_complete members strictMembers distinct enough (by simp)]
    rfl

theorem arrayLoop_complete (items : Items) {levels : Nat} (strict : StrictItems levels items) {fuel : Nat}
    (enough : items.count ≤ fuel) (result : List Json) (rest : JsString) :
    arrayLoop (value levels) fuel result (items.render ++ rest) = .ok (.array (result ++ items.eval), rest) := by
  cases items with
  | last before v after =>
    obtain ⟨fuel, rfl⟩ : ∃ n, fuel = n + 1 := Nat.exists_eq_succ_of_ne_zero (Nat.ne_of_gt enough)
    have closing := skip_to_unit after (u := closeBracket) (by decide) rest
    have read := value_complete v (strictItems_last.mp strict)
      (stops_at_unit after (u := closeBracket) (by decide) rest)
    simp only [Items.render, List.append_assoc, List.cons_append, List.nil_append]
    rw [arrayLoop, value_after_blank, read]
    simp only [ok_bind, closing.1, List.head?_cons, ↓reduceIte, List.tail_cons, Items.eval]
  | cons before v after more =>
    obtain ⟨fuel, rfl⟩ : ∃ n, fuel = n + 1 :=
      Nat.exists_eq_succ_of_ne_zero (Nat.ne_of_gt (Nat.lt_of_lt_of_le (Nat.succ_pos _) enough))
    simp only [Items.count, Nat.add_le_add_iff_right] at enough
    obtain ⟨strictFirst, strictRest⟩ := strictItems_cons.mp strict
    have separator := skip_to_unit after (u := comma) (by decide) (more.render ++ rest)
    have read := value_complete v strictFirst (stops_at_unit after (u := comma) (by decide) (more.render ++ rest))
    simp only [Items.render, List.append_assoc, List.cons_append]
    rw [arrayLoop, value_after_blank, read]
    simp only [ok_bind, separator.1, List.head?_cons, List.tail_cons]
    rw [if_neg (by decide), if_neg (by decide), arrayLoop_complete more strictRest enough]
    simp [Items.eval]

theorem objectLoop_complete (members : Members) {levels : Nat} (strict : StrictMembers levels members)
    (distinct : members.keys.Nodup) {fuel : Nat} (enough : members.count ≤ fuel) {keys : List JsString}
    (apart : ∀ key ∈ members.keys, key ∉ keys) (result : Fields Json) (rest : JsString) :
    objectLoop (value levels) fuel keys result (members.render ++ rest) =
      .ok (.object (members.eval.foldl (fun fields entry => Fields.set fields entry.1 entry.2) result), rest) := by
  cases members with
  | last before key afterKey beforeValue v after =>
    obtain ⟨fuel, rfl⟩ : ∃ n, fuel = n + 1 := Nat.exists_eq_succ_of_ne_zero (Nat.ne_of_gt enough)
    obtain ⟨paired, strictValue⟩ := strictMembers_last.mp strict
    have closing := skip_to_unit after (u := closeBrace) (by decide) rest
    have read := value_complete v strictValue (stops_at_unit after (u := closeBrace) (by decide) rest)
    have keyRead := string_complete paired
    simp only [Members.render, StringToken.render, List.append_assoc, List.cons_append, List.nil_append] at keyRead ⊢
    rw [objectLoop]
    simp only [(skip_to_unit before (u := quote) (by decide) _).1, List.head?_cons, keyRead, ok_bind]
    rw [if_neg (by simp), if_neg (apart _ (by simp [Members.keys]))]
    simp only [(skip_to_unit afterKey (u := colon) (by decide) _).1, List.head?_cons, List.tail_cons,
      value_after_blank, read, ok_bind, closing.1]
    rw [if_neg (by simp), if_pos True.intro]
    rfl
  | cons before key afterKey beforeValue v after more =>
    obtain ⟨fuel, rfl⟩ : ∃ n, fuel = n + 1 :=
      Nat.exists_eq_succ_of_ne_zero (Nat.ne_of_gt (Nat.lt_of_lt_of_le (Nat.succ_pos _) enough))
    simp only [Members.count, Nat.add_le_add_iff_right] at enough
    obtain ⟨paired, strictValue, strictRest⟩ := strictMembers_cons.mp strict
    obtain ⟨fresh, distinctRest⟩ := List.nodup_cons.mp distinct
    have separator := skip_to_unit after (u := comma) (by decide) (more.render ++ rest)
    have read := value_complete v strictValue (stops_at_unit after (u := comma) (by decide) (more.render ++ rest))
    have keyRead := string_complete paired
    have apartRest : ∀ other ∈ more.keys, other ∉ keys ++ [key.decoded] := by
      intro other member seen
      rcases List.mem_append.mp seen with seen | same
      · exact apart other (List.mem_cons_of_mem _ member) seen
      · exact fresh (List.mem_singleton.mp same ▸ member)
    simp only [Members.render, StringToken.render, List.append_assoc, List.cons_append] at keyRead ⊢
    rw [objectLoop]
    simp only [(skip_to_unit before (u := quote) (by decide) _).1, List.head?_cons, keyRead, ok_bind]
    rw [if_neg (by simp), if_neg (apart _ (by simp [Members.keys]))]
    simp only [(skip_to_unit afterKey (u := colon) (by decide) _).1, List.head?_cons, List.tail_cons,
      value_after_blank, read, ok_bind, separator.1]
    rw [if_neg (by simp), if_neg (by decide), if_neg (by simp),
      objectLoop_complete more strictRest distinctRest enough apartRest]
    rfl

end

theorem parse_iff {text : JsString} {json : Json} : parse text = .ok json ↔
    ∃ written : Text, written.render = text ∧ Strict MAX_MODEL_INTERFACE_JSON_DEPTH written.value ∧
      written.value.eval = json := by
  refine ⟨fun parsed => ?_, ?_⟩
  · simp only [parse, bind_eq_ok, Prod.exists] at parsed
    obtain ⟨result, rest, read, parsed⟩ := parsed
    obtain ⟨before, v, rfl, rfl, strict⟩ := value_sound _ _ _ _ read
    split at parsed
    · cases parsed
    · rename_i ended
      have trailing := takeWhitespace_skip rest
      rw [Decidable.not_not.mp ended, List.append_nil] at trailing
      cases parsed
      exact ⟨⟨before, v, takeWhitespace rest⟩, by rw [Text.render, trailing], strict, rfl⟩
  · rintro ⟨⟨before, v, after⟩, rfl, strict, rfl⟩
    have stop := stops_after_blank after (Stops.nil endsNumber)
    have trailing := skipWhitespace_append after (Stops.nil isWhitespace)
    rw [List.append_nil] at stop trailing
    simp only [parse, Text.render, value_after_blank, value_complete v strict stop, ok_bind, trailing]
    rfl

end

end Mirror.ModelInterface.StrictJsonParser

namespace Mirror.ModelInterface

open ECMA ECMA.Grammar StrictJsonParser

variable [NumberConversion]

/-- What RFC 8259 leaves open and the strict parser settles, for one written text. -/
structure StrictText (text : Text) : Prop where
  keys : text.value.KeysDistinct
  surrogates : text.value.EveryString SurrogatesPaired
  numbers : text.value.EveryNumber fun literal => (NumberConversion.number literal).isFinite = true
  nesting : text.value.depth ≤ 128

theorem parseStrictJson_ok {text : JsString} {json : Json} : parseStrictJson text = .ok json ↔
    utf8Length text ≤ MAX_MODEL_INTERFACE_MESSAGE_BYTES ∧ StrictJsonParser.parse text = .ok json := by
  unfold parseStrictJson
  simp only
  split
  · rename_i large
    simp only [fail, reduceCtorEq, false_iff]
    omega
  · rename_i small
    split
    · rename_i result parsed
      simp only [parsed, Except.ok.injEq]
      exact ⟨fun same => ⟨Nat.not_lt.mp small, same⟩, And.right⟩
    · rename_i parsed
      simp [parsed, fail]

theorem parseStrictJson_iff (text : JsString) (json : Json) : parseStrictJson text = .ok json ↔
    utf8Length text ≤ 65535 ∧ (∃ written : Text, written.render = text ∧ StrictText written) ∧
      jsonParse text = some json := by
  rw [parseStrictJson_ok, parse_iff, jsonParse_iff]
  refine and_congr Iff.rfl ⟨?_, ?_⟩
  · rintro ⟨written, shape, ⟨keys, surrogates, numbers, nesting⟩, value⟩
    exact ⟨⟨written, shape, keys, surrogates, numbers, nesting⟩, written, shape, value⟩
  · rintro ⟨⟨written, shape, keys, surrogates, numbers, nesting⟩, other, sameShape, value⟩
    obtain rfl := render_injective (shape.trans sameShape.symm)
    exact ⟨written, shape, ⟨keys, surrogates, numbers, nesting⟩, value⟩

/-- A text is read exactly when it is strict JSON of at most 65535 bytes, and then as `JSON.parse` reads it. -/
theorem parseStrictJson_exact (text : JsString) :
    ((∃ json, parseStrictJson text = .ok json) ↔
      utf8Length text ≤ 65535 ∧ ∃ written : Text, written.render = text ∧ StrictText written) ∧
    ∀ json, parseStrictJson text = .ok json → jsonParse text = some json := by
  refine ⟨⟨?_, ?_⟩, fun json read => ((parseStrictJson_iff text json).mp read).2.2⟩
  · rintro ⟨json, read⟩
    obtain ⟨small, strict, -⟩ := (parseStrictJson_iff text json).mp read
    exact ⟨small, strict⟩
  · rintro ⟨small, written, shape, strict⟩
    exact ⟨written.value.eval, (parseStrictJson_iff text _).mpr
      ⟨small, ⟨written, shape, strict⟩, shape ▸ jsonParse_render written⟩⟩

end Mirror.ModelInterface
