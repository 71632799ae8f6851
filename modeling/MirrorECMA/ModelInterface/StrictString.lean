import MirrorECMA.ModelInterface.StrictJson
import MirrorECMA.ECMA.Throws

namespace Mirror.ModelInterface.StrictJsonParser

open ECMA ECMA.Grammar

/-- What one turn of the string loop reads. -/
inductive Turn : StringToken → Prop
  | plain (item : Item) (whole : isSurrogate item.unit = false) : Turn [item]
  | rawPair (high low : CodeUnit) (highPlain : isUnescaped high = true) (lowPlain : isUnescaped low = true)
      (isHigh : isHighSurrogate high = true) (isLow : isLowSurrogate low = true) :
      Turn [.raw high highPlain, .raw low lowPlain]
  | escapedPair (a b c d e f g h : HexDigit)
      (isHigh : isHighSurrogate (hexUnit a.unit b.unit c.unit d.unit) = true)
      (isLow : isLowSurrogate (hexUnit e.unit f.unit g.unit h.unit) = true) :
      Turn [.unicode a b c d, .unicode e f g h]

inductive Turns : StringToken → Prop
  | nil : Turns []
  | append {turn rest : StringToken} : Turn turn → Turns rest → Turns (turn ++ rest)

theorem isWellFormed_plain {u : CodeUnit} (plain : isSurrogate u = false) (rest : JsString) :
    isWellFormed (u :: rest) = isWellFormed rest := by
  cases rest with
  | nil => simp [isWellFormed, plain]
  | cons v rest => simp [isWellFormed, plain]

theorem isWellFormed_pair {u v : CodeUnit} (high : isHighSurrogate u = true) (low : isLowSurrogate v = true)
    (rest : JsString) : isWellFormed (u :: v :: rest) = isWellFormed rest := by
  simp [isWellFormed, high_surrogate high, high, low]

theorem pairsUniform_cons {item : Item} (notHigh : isHighSurrogate item.unit = false) (rest : StringToken) :
    PairsUniform (item :: rest) ↔ PairsUniform rest := by
  cases item with
  | raw u plain =>
    rcases rest with _ | ⟨next, rest⟩
    · rfl
    · cases next <;> simp_all [PairsUniform, Item.unit]
  | escape e => rfl
  | unicode a b c d =>
    rcases rest with _ | ⟨next, rest⟩
    · rfl
    · cases next <;> simp_all [PairsUniform, Item.unit]

theorem Turn.surrogatesPaired {turn : StringToken} (read : Turn turn) (rest : StringToken) :
    SurrogatesPaired (turn ++ rest) ↔ SurrogatesPaired rest := by
  unfold SurrogatesPaired StringToken.decoded
  cases read with
  | plain item whole =>
    rw [List.singleton_append, List.map_cons, isWellFormed_plain whole, pairsUniform_cons (not_surrogate whole).1]
  | rawPair high low highPlain lowPlain isHigh isLow =>
    have lowEnds : isHighSurrogate (Item.raw low lowPlain).unit = false := low_not_high isLow
    simp only [List.cons_append, List.nil_append, List.map_cons, Item.unit, isWellFormed_pair isHigh isLow,
      PairsUniform]
    rw [pairsUniform_cons lowEnds]
  | escapedPair a b c d e f g h isHigh isLow =>
    have lowEnds : isHighSurrogate (Item.unicode e f g h).unit = false := low_not_high isLow
    simp only [List.cons_append, List.nil_append, List.map_cons, Item.unit, isWellFormed_pair isHigh isLow,
      PairsUniform]
    rw [pairsUniform_cons lowEnds]

theorem Turns.surrogatesPaired {token : StringToken} (read : Turns token) : SurrogatesPaired token := by
  induction read with
  | nil => exact ⟨rfl, True.intro⟩
  | append turn _ ih => exact (turn.surrogatesPaired _).mpr ih

theorem escape_plain (e : Escape) : isSurrogate e.unit = false := by
  cases e <;> decide

/-- A surrogate that begins a string without unpaired ones begins a pair. -/
theorem first_turn {item : Item} {rest : StringToken} (paired : SurrogatesPaired (item :: rest)) :
    ∃ turn more, item :: rest = turn ++ more ∧ Turn turn := by
  cases surrogate : isSurrogate item.unit with
  | false => exact ⟨[item], rest, rfl, .plain item surrogate⟩
  | true =>
    obtain ⟨wellFormed, uniform⟩ := paired
    rcases rest with _ | ⟨next, rest⟩
    · simp [StringToken.decoded, isWellFormed, surrogate] at wellFormed
    · simp only [StringToken.decoded, List.map_cons, isWellFormed, surrogate, ↓reduceIte,
        Bool.and_eq_true] at wellFormed
      obtain ⟨⟨high, low⟩, -⟩ := wellFormed
      have noEscape (e : Escape) (bad : isSurrogate e.unit = true) : False := by
        rw [escape_plain e] at bad
        cases bad
      cases item with
      | escape e => exact (noEscape e surrogate).elim
      | raw u plain =>
        cases next with
        | escape e => exact (noEscape e (low_surrogate low)).elim
        | raw v lowPlain => exact ⟨_, rest, rfl, .rawPair u v plain lowPlain high low⟩
        | unicode a b c d => exact (uniform.1 ⟨high, low⟩).elim
      | unicode a b c d =>
        cases next with
        | escape e => exact (noEscape e (low_surrogate low)).elim
        | raw v lowPlain => exact (uniform.1 ⟨high, low⟩).elim
        | unicode e f g h => exact ⟨_, rest, rfl, .escapedPair a b c d e f g h high low⟩

theorem Turn.ne_nil {turn : StringToken} (read : Turn turn) : 0 < turn.length := by
  cases read <;> simp

theorem turns_of_paired {token : StringToken} (paired : SurrogatesPaired token) : Turns token := by
  generalize size : token.length = n
  induction n using Nat.strongRecOn generalizing token with
  | ind n ih =>
    cases token with
    | nil => exact .nil
    | cons item rest =>
      obtain ⟨turn, more, shape, read⟩ := first_turn paired
      have positive := read.ne_nil
      rw [shape] at paired size ⊢
      rw [List.length_append] at size
      exact .append read (ih more.length (by omega) ((read.surrogatesPaired more).mp paired) rfl)

theorem hex4_sound {s rest : JsString} {n : Nat} (read : hex4 s = .ok (n, rest)) :
    ∃ a b c d : HexDigit, s = a.unit :: b.unit :: c.unit :: d.unit :: rest ∧
      n = ((hexValue a.unit * 16 + hexValue b.unit) * 16 + hexValue c.unit) * 16 + hexValue d.unit := by
  unfold hex4 at read
  match s with
  | a :: b :: c :: d :: tail =>
    simp only [List.take_succ_cons, List.take_zero, List.length_cons, List.length_nil, List.all_cons, List.all_nil,
      Bool.and_true, Bool.and_eq_true, true_and, List.foldl_cons, List.foldl_nil, List.drop_succ_cons,
      List.drop_zero] at read
    split at read
    · rename_i valid
      cases read
      exact ⟨⟨a, valid.1⟩, ⟨b, valid.2.1⟩, ⟨c, valid.2.2.1⟩, ⟨d, valid.2.2.2⟩, rfl, by simp⟩
    · cases read
  | [] | [_] | [_, _] | [_, _, _] => simp [failSyntax] at read

theorem hex4_complete (a b c d : HexDigit) (rest : JsString) :
    hex4 (a.unit :: b.unit :: c.unit :: d.unit :: rest) =
      .ok (((hexValue a.unit * 16 + hexValue b.unit) * 16 + hexValue c.unit) * 16 + hexValue d.unit, rest) := by
  simp [hex4, a.valid, b.valid, c.valid, d.valid]

theorem hex_bound (a b c d : HexDigit) :
    ((hexValue a.unit * 16 + hexValue b.unit) * 16 + hexValue c.unit) * 16 + hexValue d.unit < 2 ^ 16 := by
  have first := hexValue_lt a.valid
  have second := hexValue_lt b.valid
  have third := hexValue_lt c.valid
  have fourth := hexValue_lt d.valid
  omega

theorem hexUnit_toNat (a b c d : HexDigit) : (hexUnit a.unit b.unit c.unit d.unit).toNat =
    ((hexValue a.unit * 16 + hexValue b.unit) * 16 + hexValue c.unit) * 16 + hexValue d.unit := by
  have bound := hex_bound a b c d
  rw [hexUnit, BitVec.toNat_ofNat, Nat.mod_eq_of_lt bound]

/-- The pair as one code point, the way the parser adds it up. -/
theorem fromCodePoint_surrogates {high low : CodeUnit} (isHigh : isHighSurrogate high = true)
    (isLow : isLowSurrogate low = true) :
    fromCodePoint (0x10000 + (high.toNat - 0xD800) * 0x400 + low.toNat - 0xDC00) = [high, low] := by
  have lower : 0xDC00 ≤ low.toNat := by
    simp only [isLowSurrogate, Bool.and_eq_true, decide_eq_true_eq] at isLow
    exact isLow.1
  have same : 0x10000 + (high.toNat - 0xD800) * 0x400 + low.toNat - 0xDC00 = pairScalar high low := by
    unfold pairScalar
    omega
  rw [same, fromCodePoint_pair isHigh isLow]

theorem unicodeEscape_sound {s rest units : JsString} (read : unicodeEscape s = .ok (units, rest)) :
    ∃ turn, Turn turn ∧ backslash :: 0x75 :: s = turn.flatMap Item.render ++ rest ∧ units = turn.map Item.unit := by
  simp only [unicodeEscape, bind_eq_ok, Prod.exists] at read
  obtain ⟨first, afterFirst, digits, read⟩ := read
  obtain ⟨a, b, c, d, rfl, rfl⟩ := hex4_sound digits
  rw [← hexUnit_toNat] at read
  split at read
  · rename_i high
    split at read
    · cases read
    · rename_i escape
      simp only [bind_eq_ok, Prod.exists] at read
      obtain ⟨second, afterSecond, moreDigits, read⟩ := read
      obtain ⟨e, f, g, h, tail, rfl⟩ := hex4_sound moreDigits
      rw [← hexUnit_toNat] at read
      split at read
      · cases read
      · rename_i low
        have isHigh : isHighSurrogate (hexUnit a.unit b.unit c.unit d.unit) = true := by
          simp [isHighSurrogate, high]
        have isLow : isLowSurrogate (hexUnit e.unit f.unit g.unit h.unit) = true := by
          simp only [isLowSurrogate, Bool.and_eq_true, decide_eq_true_eq]
          omega
        rw [fromCodePoint_surrogates isHigh isLow] at read
        cases read
        refine ⟨_, .escapedPair a b c d e f g h isHigh isLow, ?_, rfl⟩
        have split := List.take_append_drop 2 afterFirst
        rw [Decidable.not_not.mp escape, tail] at split
        rw [← split]
        rfl
  · rename_i notHigh
    split at read
    · cases read
    · rename_i notLow
      cases read
      have whole : isSurrogate (hexUnit a.unit b.unit c.unit d.unit) = false := by
        simp only [isSurrogate, Bool.and_eq_false_iff, decide_eq_false_iff_not]
        omega
      exact ⟨_, .plain (.unicode a b c d) whole, rfl, fromCodePoint_unit _⟩

theorem escaped_letter {letter unit : CodeUnit} (known : simpleEscape letter = some unit) :
    ∃ e : Escape, e.letter = letter ∧ e.unit = unit := by
  unfold simpleEscape at known
  repeat' split at known
  all_goals cases known
  all_goals subst letter
  · exact ⟨.quote, rfl, rfl⟩
  · exact ⟨.backslash, rfl, rfl⟩
  · exact ⟨.slash, rfl, rfl⟩
  · exact ⟨.backspace, rfl, rfl⟩
  · exact ⟨.formFeed, rfl, rfl⟩
  · exact ⟨.lineFeed, rfl, rfl⟩
  · exact ⟨.carriageReturn, rfl, rfl⟩
  · exact ⟨.tab, rfl, rfl⟩

theorem surrogate_unescaped {u : CodeUnit} (surrogate : isSurrogate u = true) : isUnescaped u = true := by
  have quoted : u ≠ quote := by
    rintro rfl
    exact absurd surrogate (by decide)
  have escaped : u ≠ backslash := by
    rintro rfl
    exact absurd surrogate (by decide)
  simp only [isSurrogate, Bool.and_eq_true, decide_eq_true_eq] at surrogate
  simp only [isUnescaped, quoted, escaped, ne_eq, not_false_eq_true, decide_true, Bool.and_true,
    decide_eq_true_eq]
  omega

theorem stringUnit_sound {char : CodeUnit} {s rest units : JsString} (inside : char ≠ quote)
    (read : stringUnit char s = .ok (units, rest)) :
    ∃ turn, Turn turn ∧ char :: s = turn.flatMap Item.render ++ rest ∧ units = turn.map Item.unit := by
  unfold stringUnit at read
  split at read
  · rename_i escape
    subst escape
    split at read
    · cases read
    · split at read
      · rename_i isU
        subst isU
        exact unicodeEscape_sound read
      · split at read
        · rename_i known
          obtain ⟨e, rfl, rfl⟩ := escaped_letter known
          cases read
          exact ⟨_, .plain (.escape e) (escape_plain e), rfl, rfl⟩
        · cases read
  · rename_i notEscape
    split at read
    · cases read
    · rename_i printable
      split at read
      · rename_i surrogate
        have isSurrogate : isSurrogate char = true := by simp [isSurrogate, surrogate]
        split at read
        · cases read
        · rename_i low tail
          split at read
          · cases read
          · rename_i high
            split at read
            · cases read
            · rename_i second
              have isHigh : isHighSurrogate char = true := by
                simp only [isHighSurrogate, Bool.and_eq_true, decide_eq_true_eq]
                omega
              have isLow : isLowSurrogate low = true := by
                simp only [isLowSurrogate, Bool.and_eq_true, decide_eq_true_eq]
                omega
              cases read
              exact ⟨_, .rawPair char low (surrogate_unescaped isSurrogate)
                (surrogate_unescaped (low_surrogate isLow)) isHigh isLow, rfl, rfl⟩
      · rename_i whole
        have plain : isUnescaped char = true := by
          simp only [isUnescaped, inside, notEscape, ne_eq, not_false_eq_true, decide_true, Bool.and_true,
            decide_eq_true_eq]
          omega
        have notSurrogate : isSurrogate char = false := by
          simp only [isSurrogate, Bool.and_eq_false_iff, decide_eq_false_iff_not]
          omega
        cases read
        exact ⟨_, .plain (.raw char plain) notSurrogate, rfl, rfl⟩

theorem stringLoop_sound {fuel : Nat} {result s text rest : JsString}
    (read : stringLoop fuel result s = .ok (text, rest)) :
    ∃ token : StringToken, SurrogatesPaired token ∧ s = token.renderTail ++ rest ∧ text = result ++ token.decoded := by
  suffices ∃ token : StringToken, Turns token ∧ s = token.renderTail ++ rest ∧ text = result ++ token.decoded by
    obtain ⟨token, turns, more⟩ := this
    exact ⟨token, turns.surrogatesPaired, more⟩
  induction fuel generalizing result s with
  | zero => cases read
  | succ fuel ih =>
    unfold stringLoop at read
    split at read
    · cases read
    · split at read
      · rename_i closing
        subst closing
        cases read
        exact ⟨[], .nil, rfl, by simp [StringToken.decoded]⟩
      · rename_i inside
        simp only [bind_eq_ok, Prod.exists] at read
        obtain ⟨units, afterUnits, first, read⟩ := read
        obtain ⟨turn, isTurn, shape, rfl⟩ := stringUnit_sound inside first
        obtain ⟨token, turns, rfl, rfl⟩ := ih read
        refine ⟨turn ++ token, .append isTurn turns, ?_, ?_⟩
        · rw [shape]
          simp [StringToken.renderTail]
        · simp [StringToken.decoded]

theorem simpleEscape_letter (e : Escape) : simpleEscape e.letter = some e.unit := by
  cases e <;> decide

theorem unicodeEscape_plain (a b c d : HexDigit)
    (whole : isSurrogate (hexUnit a.unit b.unit c.unit d.unit) = false) (rest : JsString) :
    unicodeEscape (a.unit :: b.unit :: c.unit :: d.unit :: rest) =
      .ok ([hexUnit a.unit b.unit c.unit d.unit], rest) := by
  have range : ¬ (0xD800 ≤ (hexUnit a.unit b.unit c.unit d.unit).toNat ∧
      (hexUnit a.unit b.unit c.unit d.unit).toNat ≤ 0xDFFF) := by
    simpa [isSurrogate] using whole
  simp only [unicodeEscape, hex4_complete, ok_bind, ← hexUnit_toNat]
  rw [if_neg (by omega), if_neg (by omega), fromCodePoint_unit]

theorem unicodeEscape_pair (a b c d e f g h : HexDigit)
    (isHigh : isHighSurrogate (hexUnit a.unit b.unit c.unit d.unit) = true)
    (isLow : isLowSurrogate (hexUnit e.unit f.unit g.unit h.unit) = true) (rest : JsString) :
    unicodeEscape (a.unit :: b.unit :: c.unit :: d.unit :: ((Item.unicode e f g h).render ++ rest)) =
      .ok ([hexUnit a.unit b.unit c.unit d.unit, hexUnit e.unit f.unit g.unit h.unit], rest) := by
  have high : 0xD800 ≤ (hexUnit a.unit b.unit c.unit d.unit).toNat ∧
      (hexUnit a.unit b.unit c.unit d.unit).toNat ≤ 0xDBFF := by
    simpa [isHighSurrogate] using isHigh
  have low : 0xDC00 ≤ (hexUnit e.unit f.unit g.unit h.unit).toNat ∧
      (hexUnit e.unit f.unit g.unit h.unit).toNat ≤ 0xDFFF := by
    simpa [isLowSurrogate] using isLow
  simp only [unicodeEscape, hex4_complete, ok_bind, ← hexUnit_toNat, Item.render, List.cons_append, List.nil_append]
  rw [if_pos high, if_neg (by simp)]
  simp only [List.drop_succ_cons, List.drop_zero, hex4_complete, ok_bind, ← hexUnit_toNat]
  rw [if_neg (by omega), fromCodePoint_surrogates isHigh isLow]

theorem stringUnit_complete {turn : StringToken} (isTurn : Turn turn) :
    ∃ char tail, turn.flatMap Item.render = char :: tail ∧ char ≠ quote ∧
      ∀ rest, stringUnit char (tail ++ rest) = .ok (turn.map Item.unit, rest) := by
  cases isTurn with
  | plain item whole =>
    cases item with
    | raw u plain =>
      have printable : u ≠ quote ∧ u ≠ backslash ∧ ¬ u.toNat < 0x20 := by
        simp only [isUnescaped, Bool.and_eq_true, decide_eq_true_eq, ne_eq] at plain
        exact ⟨plain.1.2, plain.2, by omega⟩
      change isSurrogate u = false at whole
      have range : ¬ (0xD800 ≤ u.toNat ∧ u.toNat ≤ 0xDFFF) := by simpa [isSurrogate] using whole
      refine ⟨u, [], rfl, printable.1, fun rest => ?_⟩
      unfold stringUnit
      rw [if_neg printable.2.1, if_neg printable.2.2, if_neg range]
      rfl
    | escape e =>
      refine ⟨backslash, [e.letter], rfl, by decide, fun rest => ?_⟩
      unfold stringUnit
      rw [if_pos rfl, List.singleton_append]
      simp only [if_neg e.letter_ne_u, simpleEscape_letter]
      rfl
    | unicode a b c d =>
      refine ⟨backslash, [0x75, a.unit, b.unit, c.unit, d.unit], rfl, by decide, fun rest => ?_⟩
      unfold stringUnit
      rw [if_pos rfl]
      simp only [List.cons_append, List.nil_append, ↓reduceIte]
      exact unicodeEscape_plain a b c d whole rest
  | rawPair high low highPlain lowPlain isHigh isLow =>
    have printable : high ≠ quote ∧ high ≠ backslash ∧ ¬ high.toNat < 0x20 := by
      simp only [isUnescaped, Bool.and_eq_true, decide_eq_true_eq, ne_eq] at highPlain
      exact ⟨highPlain.1.2, highPlain.2, by omega⟩
    simp only [isHighSurrogate, isLowSurrogate, Bool.and_eq_true, decide_eq_true_eq] at isHigh isLow
    refine ⟨high, [low], rfl, printable.1, fun rest => ?_⟩
    unfold stringUnit
    rw [if_neg printable.2.1, if_neg printable.2.2, if_pos (by omega), List.singleton_append]
    simp only
    rw [if_neg (by omega), if_neg (by omega)]
    rfl
  | escapedPair a b c d e f g h isHigh isLow =>
    refine ⟨backslash, 0x75 :: a.unit :: b.unit :: c.unit :: d.unit :: (Item.unicode e f g h).render, rfl,
      by decide, fun rest => ?_⟩
    unfold stringUnit
    rw [if_pos rfl]
    simp only [List.cons_append, ↓reduceIte]
    exact unicodeEscape_pair a b c d e f g h isHigh isLow rest

theorem stringLoop_complete {token : StringToken} (turns : Turns token) {fuel : Nat}
    (enough : token.renderTail.length ≤ fuel) (result rest : JsString) :
    stringLoop fuel result (token.renderTail ++ rest) = .ok (result ++ token.decoded, rest) := by
  induction turns generalizing fuel result with
  | nil =>
    obtain ⟨fuel, rfl⟩ : ∃ n, fuel = n + 1 := Nat.exists_eq_succ_of_ne_zero (by
      simp only [StringToken.renderTail, List.length_append, List.length_cons] at enough
      omega)
    simp [StringToken.renderTail, StringToken.decoded, stringLoop]
  | append isTurn turns ih =>
    rename_i turn token
    obtain ⟨char, tail, shape, inside, read⟩ := stringUnit_complete isTurn
    have written : StringToken.renderTail (turn ++ token) = char :: (tail ++ token.renderTail) := by
      rw [StringToken.renderTail, List.flatMap_append, shape]
      simp [StringToken.renderTail]
    rw [written, List.length_cons, List.length_append] at enough
    obtain ⟨fuel, rfl⟩ := Nat.exists_eq_succ_of_ne_zero (show fuel ≠ 0 by omega)
    rw [written, List.cons_append, List.append_assoc, stringLoop]
    simp only [if_neg inside, read, ok_bind]
    rw [ih (by omega)]
    simp [StringToken.decoded]

theorem string_sound {s text rest : JsString} (opening : s.head? = some quote)
    (read : string s = .ok (text, rest)) :
    ∃ token : StringToken, SurrogatesPaired token ∧ s = token.render ++ rest ∧ text = token.decoded := by
  cases s with
  | nil => cases opening
  | cons u tail =>
    cases opening
    obtain ⟨token, paired, shape, rfl⟩ := stringLoop_sound read
    rw [List.tail_cons] at shape
    exact ⟨token, paired, by rw [shape]; rfl, rfl⟩

theorem string_complete {token : StringToken} (paired : SurrogatesPaired token) (rest : JsString) :
    string (token.render ++ rest) = .ok (token.decoded, rest) := by
  simp only [string, StringToken.render, List.cons_append, List.tail_cons]
  exact stringLoop_complete (turns_of_paired paired) (by simp only [List.length_cons, List.length_append]; omega) [] rest

end Mirror.ModelInterface.StrictJsonParser
