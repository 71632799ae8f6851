import MirrorECMA.ECMA.Grammar

namespace ECMA.Grammar

/-- The rest does not go on with a unit of the class. -/
def Stops (p : CodeUnit → Bool) (rest : JsString) : Prop := ∀ u ∈ rest.head?, p u = false

theorem Stops.nil (p : CodeUnit → Bool) : Stops p [] := by simp [Stops]

theorem stops_cons {p : CodeUnit → Bool} {u : CodeUnit} {rest : JsString} : Stops p (u :: rest) ↔ p u = false := by
  simp [Stops]

theorem takeWhile_stop {p : CodeUnit → Bool} {run rest : JsString} (all : ∀ u ∈ run, p u = true)
    (stop : Stops p rest) : (run ++ rest).takeWhile p = run ∧ (run ++ rest).dropWhile p = rest := by
  have tail : rest.takeWhile p = [] ∧ rest.dropWhile p = rest := by
    cases rest with
    | nil => exact ⟨rfl, rfl⟩
    | cons u rest =>
      rw [stops_cons] at stop
      simp [stop]
  rw [List.takeWhile_append_of_pos all, List.dropWhile_append_of_pos all, tail.1, tail.2, List.append_nil]
  exact ⟨rfl, rfl⟩

theorem dropWhile_stops (p : CodeUnit → Bool) (s : JsString) : Stops p (s.dropWhile p) := by
  intro u head
  have stopped := List.head?_dropWhile_not p s
  rw [Option.mem_def.mp head] at stopped
  exact stopped

def takeWhitespace (s : JsString) : Whitespace :=
  ⟨s.takeWhile isWhitespace, fun _ member => List.all_eq_true.mp List.all_takeWhile _ member⟩

def skipWhitespace (s : JsString) : JsString := s.dropWhile isWhitespace

theorem takeWhitespace_skip (s : JsString) : (takeWhitespace s).text ++ skipWhitespace s = s :=
  List.takeWhile_append_dropWhile

theorem skipWhitespace_stops (s : JsString) : Stops isWhitespace (skipWhitespace s) := dropWhile_stops _ _

theorem skipWhitespace_length (s : JsString) : (skipWhitespace s).length ≤ s.length :=
  (List.dropWhile_sublist _).length_le

theorem takeWhitespace_append (blank : Whitespace) {rest : JsString} (stop : Stops isWhitespace rest) :
    takeWhitespace (blank.text ++ rest) = blank := by
  cases blank
  simp only [takeWhitespace, (takeWhile_stop ‹_› stop).1]

theorem skipWhitespace_append (blank : Whitespace) {rest : JsString} (stop : Stops isWhitespace rest) :
    skipWhitespace (blank.text ++ rest) = rest := (takeWhile_stop blank.blank stop).2

theorem skipWhitespace_of_stops {rest : JsString} (stop : Stops isWhitespace rest) :
    skipWhitespace rest = rest := (@takeWhile_stop _ [] _ (by simp) stop).2

/-! ### Numbers -/

def signPrefix : JsString → JsString × JsString
  | u :: rest => if u = minus then ([minus], rest) else ([], u :: rest)
  | [] => ([], [])

def integerPrefix : JsString → Option (JsString × JsString)
  | u :: rest =>
    if u = 0x30 then some ([u], rest)
    else if 0x31 ≤ u.toNat && u.toNat ≤ 0x39 then some (u :: rest.takeWhile isDigit, rest.dropWhile isDigit)
    else none
  | [] => none

def fractionPrefix : JsString → JsString × JsString
  | u :: rest =>
    if u = dot ∧ rest.takeWhile isDigit ≠ [] then (u :: rest.takeWhile isDigit, rest.dropWhile isDigit)
    else ([], u :: rest)
  | [] => ([], [])

def exponentSign : JsString → JsString × JsString
  | u :: rest => if u = plus ∨ u = minus then ([u], rest) else ([], u :: rest)
  | [] => ([], [])

def exponentPrefix : JsString → JsString × JsString
  | u :: rest =>
    if (u = 0x65 ∨ u = 0x45) ∧ (exponentSign rest).2.takeWhile isDigit ≠ [] then
      (u :: ((exponentSign rest).1 ++ (exponentSign rest).2.takeWhile isDigit),
        (exponentSign rest).2.dropWhile isDigit)
    else ([], u :: rest)
  | [] => ([], [])

/-- The longest number a text begins with, and what follows it. -/
def numberPrefix (s : JsString) : Option (JsString × JsString) := do
  let (sign, s) := signPrefix s
  let (integer, s) ← integerPrefix s
  let (fraction, s) := fractionPrefix s
  let (exponent, s) := exponentPrefix s
  return (sign ++ (integer ++ (fraction ++ exponent)), s)

theorem digits_takeWhile (s : JsString) : ∀ u ∈ s.takeWhile isDigit, isDigit u = true :=
  fun _ member => List.all_eq_true.mp List.all_takeWhile _ member

theorem signPrefix_spec (s : JsString) : s = (signPrefix s).1 ++ (signPrefix s).2 ∧ IsSign (signPrefix s).1 := by
  cases s with
  | nil => exact ⟨rfl, .inl rfl⟩
  | cons u rest =>
    by_cases negative : u = minus
    · rw [signPrefix, if_pos negative, negative]
      exact ⟨rfl, .inr rfl⟩
    · rw [signPrefix, if_neg negative]
      exact ⟨rfl, .inl rfl⟩

theorem integerPrefix_spec {s text rest : JsString} (found : integerPrefix s = some (text, rest)) :
    s = text ++ rest ∧ IsInteger text := by
  cases s with
  | nil => cases found
  | cons u tail =>
    simp only [integerPrefix] at found
    split at found
    · rename_i zero
      cases found
      exact ⟨rfl, .inl (by rw [zero])⟩
    · split at found
      · rename_i nonzero
        cases found
        simp only [Bool.and_eq_true, decide_eq_true_eq] at nonzero
        refine ⟨by simp [List.takeWhile_append_dropWhile], .inr ⟨u, _, rfl, nonzero.1, nonzero.2, ?_⟩⟩
        exact digits_takeWhile tail
      · cases found

theorem fractionPrefix_spec (s : JsString) :
    s = (fractionPrefix s).1 ++ (fractionPrefix s).2 ∧ IsFraction (fractionPrefix s).1 := by
  cases s with
  | nil => exact ⟨rfl, .inl rfl⟩
  | cons u rest =>
    by_cases fraction : u = dot ∧ rest.takeWhile isDigit ≠ []
    · rw [fractionPrefix, if_pos fraction, fraction.1]
      refine ⟨?_, .inr ⟨_, rfl, fraction.2, digits_takeWhile rest⟩⟩
      rw [List.cons_append, List.takeWhile_append_dropWhile]
    · rw [fractionPrefix, if_neg fraction]
      exact ⟨rfl, .inl rfl⟩

theorem exponentSign_spec (s : JsString) : s = (exponentSign s).1 ++ (exponentSign s).2 ∧
    ((exponentSign s).1 = [] ∨ (exponentSign s).1 = [plus] ∨ (exponentSign s).1 = [minus]) := by
  cases s with
  | nil => simp [exponentSign]
  | cons u rest =>
    by_cases signed : u = plus ∨ u = minus
    · rw [exponentSign, if_pos signed]
      exact ⟨rfl, .inr (signed.imp (congrArg (fun u => [u])) (congrArg (fun u => [u])))⟩
    · rw [exponentSign, if_neg signed]
      exact ⟨rfl, .inl rfl⟩

theorem exponentPrefix_spec (s : JsString) :
    s = (exponentPrefix s).1 ++ (exponentPrefix s).2 ∧ IsExponent (exponentPrefix s).1 := by
  cases s with
  | nil => exact ⟨rfl, .inl rfl⟩
  | cons u rest =>
    by_cases exponent : (u = 0x65 ∨ u = 0x45) ∧ (exponentSign rest).2.takeWhile isDigit ≠ []
    · obtain ⟨split, sign⟩ := exponentSign_spec rest
      rw [exponentPrefix, if_pos exponent]
      refine ⟨?_, .inr ⟨u, _, _, rfl, exponent.1, sign, exponent.2, digits_takeWhile _⟩⟩
      rw [List.cons_append, List.append_assoc, List.takeWhile_append_dropWhile, ← split]
    · rw [exponentPrefix, if_neg exponent]
      exact ⟨rfl, .inl rfl⟩

theorem numberPrefix_sound {s text rest : JsString} (found : numberPrefix s = some (text, rest)) :
    s = text ++ rest ∧ IsNumber text := by
  have sign := signPrefix_spec s
  simp only [numberPrefix, Option.bind_eq_bind, Option.bind_eq_some_iff, Prod.exists] at found
  obtain ⟨integer, afterInteger, matched, found⟩ := found
  have integerSpec := integerPrefix_spec matched
  have fraction := fractionPrefix_spec afterInteger
  have exponent := exponentPrefix_spec (fractionPrefix afterInteger).2
  cases found
  refine ⟨?_, _, _, _, _, rfl, sign.2, integerSpec.2, fraction.2, exponent.2⟩
  simp only [List.append_assoc]
  rw [← exponent.1, ← fraction.1, ← integerSpec.1, ← sign.1]

/-- A number ends where no digit, point or exponent letter follows. -/
def endsNumber (u : CodeUnit) : Bool := isDigit u || u = dot || u = 0x65 || u = 0x45

theorem Stops.mono {p q : CodeUnit → Bool} {rest : JsString} (stop : Stops p rest)
    (weaker : ∀ u, q u = true → p u = true) : Stops q rest := by
  intro u head
  cases hit : q u
  · rfl
  · have taken := weaker u hit
    rw [stop u head] at taken
    cases taken

theorem integerPrefix_complete {text : JsString} (valid : IsInteger text) {rest : JsString}
    (stop : Stops isDigit rest) : integerPrefix (text ++ rest) = some (text, rest) := by
  rcases valid with rfl | ⟨head, digits, rfl, lower, upper, all⟩
  · rfl
  · have nonzero : head ≠ 0x30 := by
      rintro rfl
      exact absurd lower (by decide)
    rw [List.cons_append, integerPrefix, if_neg nonzero, if_pos (by simp [lower, upper]),
      (takeWhile_stop all stop).1, (takeWhile_stop all stop).2]

theorem signPrefix_complete {sign : JsString} (valid : IsSign sign) {integer : JsString}
    (isInteger : IsInteger integer) (rest : JsString) :
    signPrefix (sign ++ (integer ++ rest)) = (sign, integer ++ rest) := by
  rcases valid with rfl | rfl
  · rcases isInteger with rfl | ⟨head, digits, rfl, lower, _, _⟩
    · rfl
    · have positive : head ≠ minus := by
        rintro rfl
        exact absurd lower (by decide)
      rw [List.nil_append, List.cons_append, signPrefix, if_neg positive]
  · rfl

theorem exponentSign_complete {sign digits : JsString} (valid : sign = [] ∨ sign = [plus] ∨ sign = [minus])
    (isDigits : IsDigits digits) (rest : JsString) :
    exponentSign (sign ++ (digits ++ rest)) = (sign, digits ++ rest) := by
  rcases valid with rfl | rfl | rfl
  · obtain ⟨nonempty, all⟩ := isDigits
    cases digits with
    | nil => exact absurd rfl nonempty
    | cons head tail =>
      have digit := all head List.mem_cons_self
      have unsigned : ¬ (head = plus ∨ head = minus) := by
        rintro (rfl | rfl) <;> exact absurd digit (by decide)
      rw [List.nil_append, List.cons_append, exponentSign, if_neg unsigned]
  · rfl
  · rfl

theorem exponentPrefix_complete {text : JsString} (valid : IsExponent text) {rest : JsString}
    (stop : Stops endsNumber rest) : exponentPrefix (text ++ rest) = (text, rest) := by
  have digitStop : Stops isDigit rest := stop.mono fun u digit => by simp [endsNumber, digit]
  rcases valid with rfl | ⟨letter, sign, digits, rfl, isLetter, isSign, isDigits⟩
  · cases rest with
    | nil => rfl
    | cons u tail =>
      have none : ¬ ((u = 0x65 ∨ u = 0x45) ∧ (exponentSign tail).2.takeWhile isDigit ≠ []) := by
        rintro ⟨rfl | rfl, -⟩ <;> exact absurd (stops_cons.mp stop) (by decide)
      rw [List.nil_append, exponentPrefix, if_neg none]
  · have signed := exponentSign_complete isSign isDigits rest
    have taken := takeWhile_stop isDigits.2 digitStop
    rw [List.cons_append, List.append_assoc, exponentPrefix, signed, taken.1, taken.2,
      if_pos ⟨isLetter, isDigits.1⟩]

theorem fractionPrefix_complete {text : JsString} (valid : IsFraction text) {rest : JsString}
    (digitStop : Stops isDigit rest) (dotStop : Stops (fun u => u = dot) rest) :
    fractionPrefix (text ++ rest) = (text, rest) := by
  rcases valid with rfl | ⟨digits, rfl, isDigits⟩
  · cases rest with
    | nil => rfl
    | cons u tail =>
      have none : ¬ (u = dot ∧ tail.takeWhile isDigit ≠ []) := by
        rintro ⟨rfl, -⟩
        exact absurd (stops_cons.mp dotStop) (by decide)
      rw [List.nil_append, fractionPrefix, if_neg none]
  · have taken := takeWhile_stop isDigits.2 digitStop
    rw [List.cons_append, fractionPrefix, taken.1, taken.2, if_pos ⟨rfl, isDigits.1⟩]

theorem exponent_stops {text : JsString} (valid : IsExponent text) {rest : JsString}
    (stop : Stops endsNumber rest) :
    Stops isDigit (text ++ rest) ∧ Stops (fun u => u = dot) (text ++ rest) := by
  rcases valid with rfl | ⟨letter, sign, digits, rfl, isLetter, -, -⟩
  · exact ⟨stop.mono fun u digit => by simp [endsNumber, digit],
      stop.mono fun u point => by simpa [endsNumber] using Or.inl (Or.inl (Or.inr point))⟩
  · rw [List.cons_append, stops_cons, stops_cons]
    rcases isLetter with rfl | rfl <;> decide

theorem fraction_stops {text : JsString} (valid : IsFraction text) {rest : JsString}
    (stop : Stops isDigit rest) : Stops isDigit (text ++ rest) := by
  rcases valid with rfl | ⟨digits, rfl, -⟩
  · exact stop
  · rw [List.cons_append, stops_cons]
    decide

theorem numberPrefix_complete {text : JsString} (valid : IsNumber text) {rest : JsString}
    (stop : Stops endsNumber rest) : numberPrefix (text ++ rest) = some (text, rest) := by
  obtain ⟨sign, integer, fraction, exponent, rfl, isSign, isInteger, isFraction, isExponent⟩ := valid
  obtain ⟨digitStop, dotStop⟩ := exponent_stops isExponent stop
  simp only [List.append_assoc, numberPrefix, signPrefix_complete isSign isInteger,
    integerPrefix_complete isInteger (fraction_stops isFraction digitStop),
    fractionPrefix_complete isFraction digitStop dotStop, exponentPrefix_complete isExponent stop,
    Option.bind_eq_bind, Option.bind_some, Option.pure_def]

theorem number_head {text : JsString} (valid : IsNumber text) :
    ∃ u rest, text = u :: rest ∧ (u = minus ∨ isDigit u = true) := by
  obtain ⟨sign, integer, fraction, exponent, rfl, isSign, isInteger, -, -⟩ := valid
  rcases isSign with rfl | rfl
  · rcases isInteger with rfl | ⟨head, digits, rfl, lower, upper, -⟩
    · exact ⟨0x30, _, rfl, .inr (by decide)⟩
    · exact ⟨head, _, rfl, .inr (by simp only [isDigit, Bool.and_eq_true, decide_eq_true_eq]; omega)⟩
  · exact ⟨minus, _, rfl, .inl rfl⟩

theorem decimal_isInteger (n : Nat) : IsInteger (decimal n) := by
  by_cases positive : 0 < n
  · obtain ⟨u, rest, text, lower, upper⟩ := decimal_head positive
    refine .inr ⟨u, rest, text, lower, upper, fun v member => ?_⟩
    exact decimal_isDigit n v (text ▸ List.mem_cons_of_mem u member)
  · have zero : n = 0 := by omega
    subst zero
    exact .inl rfl

theorem decimal_isNumber (n : Nat) : IsNumber (decimal n) :=
  ⟨[], decimal n, [], [], by simp, .inl rfl, decimal_isInteger n, .inl rfl, .inl rfl⟩

/-! ### Strings -/

def Escape.ofLetter? (u : CodeUnit) : Option Escape :=
  if u = 0x22 then some .quote else if u = 0x5C then some .backslash else if u = 0x2F then some .slash
  else if u = 0x62 then some .backspace else if u = 0x66 then some .formFeed
  else if u = 0x6E then some .lineFeed else if u = 0x72 then some .carriageReturn
  else if u = 0x74 then some .tab else none

theorem Escape.ofLetter?_letter (e : Escape) : Escape.ofLetter? e.letter = some e := by
  cases e <;> decide

theorem Escape.letter_ne_u (e : Escape) : e.letter ≠ 0x75 := by
  cases e <;> decide

theorem Escape.letter_of_ofLetter? {u : CodeUnit} {e : Escape} (found : Escape.ofLetter? u = some e) :
    e.letter = u := by
  unfold Escape.ofLetter? at found
  repeat' split at found
  all_goals cases found
  all_goals exact Eq.symm ‹_›

/-- Four hexadecimal digits and what follows them. -/
def takeHex4 : JsString → Option ((HexDigit × HexDigit × HexDigit × HexDigit) × JsString)
  | a :: b :: c :: d :: rest =>
    if ha : isHexDigit a then if hb : isHexDigit b then if hc : isHexDigit c then if hd : isHexDigit d then
      some ((⟨a, ha⟩, ⟨b, hb⟩, ⟨c, hc⟩, ⟨d, hd⟩), rest)
    else none else none else none else none
  | _ => none

theorem takeHex4_complete (a b c d : HexDigit) (rest : JsString) :
    takeHex4 (a.unit :: b.unit :: c.unit :: d.unit :: rest) = some ((a, b, c, d), rest) := by
  simp [takeHex4, a.valid, b.valid, c.valid, d.valid]

theorem takeHex4_sound {s rest : JsString} {a b c d : HexDigit} (found : takeHex4 s = some ((a, b, c, d), rest)) :
    s = a.unit :: b.unit :: c.unit :: d.unit :: rest := by
  match s, found with
  | a' :: b' :: c' :: d' :: tail, found =>
    simp only [takeHex4] at found
    repeat' split at found
    all_goals cases found
    rfl

end ECMA.Grammar
