import Mathlib.Logic.Relation
import MirrorECMA.ECMA.FailsOnly
import MirrorECMA.ECMA.Scan

namespace ECMA.Scan

open Grammar

theorem head_cons {u : CodeUnit} {text : JsString} : text.head? = some u ↔ ∃ rest, text = u :: rest := by
  cases text <;> simp

/-! ### String tokens -/

/-- The rest of a token, after its opening quote, is that of a JSON string. -/
def IsString (token : JsString) : Prop := ∃ string : StringToken, string.renderTail = token

section

variable {ε : Type} (rules : Rules ε)

theorem closing_cons {escaped : Bool} {u : CodeUnit} {text token after : JsString}
    (closed : (do let (token, rest) ← closing rules escaped text; return (u :: token, rest)) =
      Except.ok (ε := ε) (token, after)) :
    ∃ inner, closing rules escaped text = .ok (inner, after) ∧ token = u :: inner := by
  obtain ⟨⟨inner, rest⟩, found, same⟩ := bind_eq_ok.mp closed
  cases same
  exact ⟨inner, found, rfl⟩

theorem closing_last {escaped : Bool} {text token after : JsString} (closed : closing rules escaped text = .ok (token, after)) :
    token.getLast? = some quote := by
  have extended {u : CodeUnit} {inner : JsString} (last : inner.getLast? = some quote) :
      (u :: inner).getLast? = some quote := by
    rw [List.getLast?_cons, last]
    rfl
  induction escaped, text using closing.induct generalizing token with
  | case1 => cases closed
  | case2 u rest ih =>
    rw [closing] at closed
    obtain ⟨inner, found, rfl⟩ := closing_cons rules closed
    exact extended (ih found)
  | case3 rest =>
    rw [closing, if_pos rfl] at closed
    cases closed
    rfl
  | case4 u rest other control =>
    rw [closing, if_neg other, if_pos control] at closed
    cases closed
  | case5 u rest other control ih =>
    rw [closing, if_neg other, if_neg control] at closed
    obtain ⟨inner, found, rfl⟩ := closing_cons rules closed
    exact extended (ih found)

theorem closing_failsOnly {own : ε → Prop} (proper : ∀ fault, own (rules.fault fault)) (escaped : Bool) (text : JsString) :
    FailsOnly own (closing rules escaped text) := by
  have extended {escaped : Bool} {u : CodeUnit} {text : JsString} (inner : FailsOnly own (closing rules escaped text)) :
      FailsOnly own (do let (token, rest) ← closing rules escaped text; return (u :: token, rest)) :=
    failsOnly_bind.mpr ⟨inner, fun _ _ => failsOnly_ok _⟩
  induction escaped, text using closing.induct with
  | case1 =>
    rw [closing]
    exact failsOnly_error.mpr (proper _)
  | case2 u rest ih =>
    rw [closing]
    exact extended ih
  | case3 rest =>
    rw [closing, if_pos rfl]
    exact failsOnly_ok _
  | case4 u rest other control =>
    rw [closing, if_neg other, if_pos control]
    exact failsOnly_error.mpr (proper _)
  | case5 u rest other control ih =>
    rw [closing, if_neg other, if_neg control]
    exact extended ih

variable [NumberConversion]

/-- A closed token is a JSON string exactly when `JSON.parse` reads it as one. -/
theorem isString_iff {token : JsString} (closed : token.getLast? = some quote) :
    IsString token ↔ ∃ value, jsonParse (quote :: token) = some (.string value) := by
  constructor
  · rintro ⟨string, rfl⟩
    refine ⟨string.decoded, jsonParse_iff.mpr ⟨⟨⟨[], by simp⟩, .string string, ⟨[], by simp⟩⟩, ?_, rfl⟩⟩
    simp [Text.render, Value.render, StringToken.render]
  · rintro ⟨value, parsed⟩
    obtain ⟨⟨before, written, after⟩, rendered, read⟩ := jsonParse_iff.mp parsed
    cases written with
    | string string =>
      simp only [Text.render, Value.render, StringToken.render] at rendered
      have first : before.text = [] := by
        cases shape : before.text with
        | nil => rfl
        | cons u rest =>
          rw [shape] at rendered
          cases rendered
          exact absurd (before.blank quote (by rw [shape]; exact List.mem_cons_self)) (by decide)
      have last : after.text = [] := by
        cases shape : after.text.getLast? with
        | none => exact List.getLast?_eq_none_iff.mp shape
        | some u =>
          have ends : (quote :: token).getLast? = some u := by
            rw [← rendered, List.getLast?_append, List.getLast?_append, shape]
            rfl
          rw [List.getLast?_cons, closed] at ends
          cases ends
          exact absurd (after.blank quote (List.mem_of_getLast? shape)) (by decide)
      rw [first, last, List.nil_append, List.append_nil] at rendered
      exact ⟨string, (List.cons.inj rendered).2⟩
    | _ => cases read

/-! ### The calls of a scan -/

/-- A call of `value`, or a turn of one of the two loops. -/
inductive Call where
  | value (levels maxBytes : Nat) (cursor : Cursor)
  | members (levels left : Nat) (keys : List JsString) (cursor : Cursor)
  | items (levels left : Nat) (cursor : Cursor)

def Call.run : Call → Except ε Cursor
  | .value levels maxBytes cursor => Scan.value rules levels maxBytes cursor
  | .members levels left keys cursor => Scan.members rules (Scan.value rules levels) left keys cursor
  | .items levels left cursor => Scan.items rules (Scan.value rules levels) left cursor

/-- A call begins with a string token, of which this follows the opening quote. -/
inductive Reads : Call → JsString → Prop
  | value {levels maxBytes nodes : Nat} {rest text token after : JsString} (room : nodes + 1 ≤ rules.maxNodes)
      (opens : skipWhitespace rest = quote :: text) (closed : closing rules false text = .ok (token, after)) :
      Reads (.value (levels + 1) maxBytes ⟨rest, nodes⟩) token
  | key {levels left nodes : Nat} {keys : List JsString} {text token after : JsString}
      (closed : closing rules false text = .ok (token, after)) :
      Reads (.members levels left keys ⟨quote :: text, nodes⟩) token

/-- What one call calls, where everything before has been read. -/
inductive Calls : Call → Call → Prop
  | object {levels maxBytes nodes : Nat} {rest text : JsString} (room : nodes + 1 ≤ rules.maxNodes)
      (opens : skipWhitespace rest = openBrace :: text) (filled : (skipWhitespace text).head? ≠ some closeBrace) :
      Calls (.value (levels + 1) maxBytes ⟨rest, nodes⟩)
        (.members levels rules.maxMembers [] ⟨skipWhitespace text, nodes + 1⟩)
  | array {levels maxBytes nodes : Nat} {rest text : JsString} (room : nodes + 1 ≤ rules.maxNodes)
      (opens : skipWhitespace rest = openBracket :: text) (filled : (skipWhitespace text).head? ≠ some closeBracket) :
      Calls (.value (levels + 1) maxBytes ⟨rest, nodes⟩) (.items levels rules.maxItems ⟨skipWhitespace text, nodes + 1⟩)
  | member {levels left nodes : Nat} {keys : List JsString} {rest after text key : JsString}
      (read : stringToken rules rules.maxBytes rest = .ok (key, after)) (fresh : key ∉ keys)
      (named : skipWhitespace after = colon :: text) :
      Calls (.members levels (left + 1) keys ⟨rest, nodes⟩) (.value levels (rules.bytesOf key) ⟨text, nodes⟩)
  | nextMember {levels left nodes : Nat} {keys : List JsString} {rest after text key more : JsString} {cursor : Cursor}
      (read : stringToken rules rules.maxBytes rest = .ok (key, after)) (fresh : key ∉ keys)
      (named : skipWhitespace after = colon :: text)
      (ended : Scan.value rules levels (rules.bytesOf key) ⟨text, nodes⟩ = .ok cursor)
      (separated : skipWhitespace cursor.rest = comma :: more) :
      Calls (.members levels (left + 1) keys ⟨rest, nodes⟩)
        (.members levels left (keys ++ [key]) ⟨skipWhitespace more, cursor.nodes⟩)
  | item {levels left : Nat} {cursor : Cursor} :
      Calls (.items levels (left + 1) cursor) (.value levels rules.maxBytes cursor)
  | nextItem {levels left : Nat} {before cursor : Cursor} {more : JsString}
      (ended : Scan.value rules levels rules.maxBytes before = .ok cursor)
      (separated : skipWhitespace cursor.rest = comma :: more) :
      Calls (.items levels (left + 1) before) (.items levels left ⟨skipWhitespace more, cursor.nodes⟩)

/-- The scan of a text comes to a string token. -/
def ComesTo (text token : JsString) : Prop :=
  ∃ call, Relation.ReflTransGen (Calls rules) (.value (rules.maxDepth + 1) rules.maxBytes ⟨text, 0⟩) call ∧
    Reads rules call token

section

variable {rules} {own : ε → Prop} (proper : ∀ fault, own (rules.fault fault))
  (bounded : ∀ value maxBytes, FailsOnly own (rules.checkString value maxBytes)) (foreign : ¬ own rules.syntaxError)

include proper bounded foreign

theorem stringToken_failsOnly {maxBytes : Nat} {rest : JsString} : FailsOnly own (stringToken rules maxBytes rest) ↔
    ∀ text token after, rest = quote :: text → closing rules false text = .ok (token, after) → IsString token := by
  unfold stringToken
  by_cases opens : rest.head? = some quote
  · obtain ⟨text, rfl⟩ := head_cons.mp opens
    rw [if_neg (not_not.mpr opens), failsOnly_bind]
    constructor
    · rintro ⟨_, each⟩ text token after same closed
      cases same
      have next := each (token, after) closed
      rw [isString_iff (closing_last rules closed)]
      dsimp only at next
      split at next
      · rename_i value parsed
        exact ⟨value, parsed⟩
      · exact absurd (failsOnly_error.mp next) foreign
    · intro strings
      refine ⟨closing_failsOnly rules proper false _, fun closed found => ?_⟩
      obtain ⟨token, after⟩ := closed
      obtain ⟨value, parsed⟩ := (isString_iff (closing_last rules found)).mp (strings text token after rfl found)
      simp only [parsed]
      exact failsOnly_bind.mpr ⟨bounded value maxBytes, fun _ _ => failsOnly_ok _⟩
  · rw [if_pos opens]
    constructor
    · rintro _ text token after rfl
      exact absurd rfl opens
    · exact fun _ => failsOnly_error.mpr (proper _)

omit [NumberConversion] proper bounded foreign in
theorem cons_ne {u v : CodeUnit} (other : u ≠ v) {text rest more : JsString} (opens : text = u :: rest) :
    text ≠ v :: more := by
  intro same
  rw [opens] at same
  exact other (List.cons.inj same).1

theorem value_failsOnly (levels maxBytes : Nat) (cursor : Cursor) :
    FailsOnly own (Scan.value rules levels maxBytes cursor) ↔
      (∀ token, Reads rules (.value levels maxBytes cursor) token → IsString token) ∧
        ∀ next, Calls rules (.value levels maxBytes cursor) next → FailsOnly own (next.run rules) := by
  obtain ⟨rest, nodes⟩ := cursor
  cases levels with
  | zero =>
    constructor
    · intro _
      refine ⟨fun token reads => ?_, fun next calls => ?_⟩
      · cases reads
      · cases calls
    · exact fun _ => failsOnly_error.mpr (proper _)
  | succ levels =>
    unfold Scan.value
    by_cases room : nodes + 1 ≤ rules.maxNodes
    · rw [if_neg (Nat.not_lt.mpr room)]
      dsimp only
      by_cases braces : (skipWhitespace rest).head? = some openBrace
      · obtain ⟨text, opens⟩ := head_cons.mp braces
        have silent : ∀ token, Reads rules (.value (levels + 1) maxBytes ⟨rest, nodes⟩) token → IsString token := by
          intro token reads
          cases reads with
          | value _ starts => exact absurd starts (cons_ne (by decide) opens)
        rw [if_pos braces, opens, List.tail_cons]
        by_cases empty : (skipWhitespace text).head? = some closeBrace
        · rw [if_pos empty]
          refine ⟨fun _ => ⟨silent, fun next calls => ?_⟩, fun _ => failsOnly_ok _⟩
          cases calls with
          | object _ starts filled =>
            rw [opens] at starts
            cases starts
            exact absurd empty filled
          | array _ starts => exact absurd starts (cons_ne (by decide) opens)
        · rw [if_neg empty]
          refine ⟨fun only => ⟨silent, fun next calls => ?_⟩, fun each => each.2 _ (.object room opens empty)⟩
          cases calls with
          | object _ starts _ =>
            rw [opens] at starts
            cases starts
            exact only
          | array _ starts => exact absurd starts (cons_ne (by decide) opens)
      rw [if_neg braces]
      by_cases brackets : (skipWhitespace rest).head? = some openBracket
      · obtain ⟨text, opens⟩ := head_cons.mp brackets
        have silent : ∀ token, Reads rules (.value (levels + 1) maxBytes ⟨rest, nodes⟩) token → IsString token := by
          intro token reads
          cases reads with
          | value _ starts => exact absurd starts (cons_ne (by decide) opens)
        rw [if_pos brackets, opens, List.tail_cons]
        by_cases empty : (skipWhitespace text).head? = some closeBracket
        · rw [if_pos empty]
          refine ⟨fun _ => ⟨silent, fun next calls => ?_⟩, fun _ => failsOnly_ok _⟩
          cases calls with
          | object _ starts => exact absurd starts (cons_ne (by decide) opens)
          | array _ starts filled =>
            rw [opens] at starts
            cases starts
            exact absurd empty filled
        · rw [if_neg empty]
          refine ⟨fun only => ⟨silent, fun next calls => ?_⟩, fun each => each.2 _ (.array room opens empty)⟩
          cases calls with
          | object _ starts => exact absurd starts (cons_ne (by decide) opens)
          | array _ starts _ =>
            rw [opens] at starts
            cases starts
            exact only
      rw [if_neg brackets]
      have uncalled : ∀ next, Calls rules (.value (levels + 1) maxBytes ⟨rest, nodes⟩) next → FailsOnly own (next.run rules) := by
        intro next calls
        cases calls with
        | object _ opens => exact absurd (head_cons.mpr ⟨_, opens⟩) braces
        | array _ opens => exact absurd (head_cons.mpr ⟨_, opens⟩) brackets
      by_cases quoted : (skipWhitespace rest).head? = some quote
      · rw [if_pos quoted, failsOnly_bind, stringToken_failsOnly proper bounded foreign]
        constructor
        · rintro ⟨strings, _⟩
          refine ⟨fun token reads => ?_, uncalled⟩
          cases reads with
          | value _ opens closed => exact strings _ _ _ opens closed
        · rintro ⟨strings, _⟩
          exact ⟨fun text token after opens closed => strings token (.value room opens closed), fun _ _ => failsOnly_ok _⟩
      · rw [if_neg quoted]
        constructor
        · intro _
          refine ⟨fun token reads => ?_, uncalled⟩
          cases reads with
          | value _ opens => exact absurd (head_cons.mpr ⟨_, opens⟩) quoted
        · intro _
          split
          · exact failsOnly_ok _
          · exact failsOnly_error.mpr (proper _)
    · rw [if_pos (Nat.lt_of_not_le room)]
      refine ⟨fun _ => ⟨fun token reads => ?_, fun next calls => ?_⟩, fun _ => failsOnly_error.mpr (proper _)⟩
      · cases reads with
        | value inside => exact absurd inside room
      · cases calls with
        | object inside => exact absurd inside room
        | array inside => exact absurd inside room

theorem members_failsOnly (levels left : Nat) (keys : List JsString) (cursor : Cursor) :
    FailsOnly own (Scan.members rules (Scan.value rules levels) left keys cursor) ↔
      (∀ token, Reads rules (.members levels left keys cursor) token → IsString token) ∧
        ∀ next, Calls rules (.members levels left keys cursor) next → FailsOnly own (next.run rules) := by
  obtain ⟨rest, nodes⟩ := cursor
  unfold Scan.members
  rw [failsOnly_bind, stringToken_failsOnly proper bounded foreign]
  apply and_congr
  · constructor
    · intro strings token reads
      cases reads with
      | key closed => exact strings _ _ _ rfl closed
    · rintro strings text token after rfl closed
      exact strings token (.key closed)
  · constructor
    · intro each next calls
      cases calls with
      | member read fresh named =>
        have goes := each _ read
        dsimp only at goes
        rw [if_neg fresh, named, if_neg (by simp)] at goes
        exact (failsOnly_bind.mp goes).1
      | nextMember read fresh named ended separated =>
        have goes := each _ read
        dsimp only at goes
        rw [if_neg fresh, named, if_neg (by simp)] at goes
        have rest := (failsOnly_bind.mp goes).2 _ ended
        rw [separated, if_neg (by simp), if_neg (by simp)] at rest
        exact rest
    · rintro calls ⟨key, after⟩ read
      dsimp only
      by_cases known : key ∈ keys
      · rw [if_pos known]
        exact failsOnly_error.mpr (proper _)
      rw [if_neg known]
      cases left with
      | zero => exact failsOnly_error.mpr (proper _)
      | succ left =>
        dsimp only
        by_cases colons : (skipWhitespace after).head? = some colon
        · obtain ⟨text, named⟩ := head_cons.mp colons
          rw [if_neg (not_not.mpr colons), failsOnly_bind, named]
          refine ⟨calls _ (.member read known named), fun cursor ended => ?_⟩
          by_cases closes : (skipWhitespace cursor.rest).head? = some closeBrace
          · rw [if_pos closes]
            exact failsOnly_ok _
          rw [if_neg closes]
          by_cases commas : (skipWhitespace cursor.rest).head? = some comma
          · obtain ⟨more, separated⟩ := head_cons.mp commas
            rw [if_neg (not_not.mpr commas), separated]
            exact calls _ (.nextMember read known named ended separated)
          · rw [if_pos commas]
            exact failsOnly_error.mpr (proper _)
        · rw [if_pos colons]
          exact failsOnly_error.mpr (proper _)

omit bounded foreign in
theorem items_failsOnly (levels left : Nat) (cursor : Cursor) :
    FailsOnly own (Scan.items rules (Scan.value rules levels) left cursor) ↔
      (∀ token, Reads rules (.items levels left cursor) token → IsString token) ∧
        ∀ next, Calls rules (.items levels left cursor) next → FailsOnly own (next.run rules) := by
  have silent : ∀ token, Reads rules (.items levels left cursor) token → IsString token := fun _ reads => nomatch reads
  cases left with
  | zero =>
    refine ⟨fun _ => ⟨silent, fun next calls => ?_⟩, fun _ => failsOnly_error.mpr (proper _)⟩
    cases calls
  | succ left =>
    unfold Scan.items
    rw [failsOnly_bind]
    constructor
    · rintro ⟨first, each⟩
      refine ⟨silent, fun next calls => ?_⟩
      cases calls with
      | item => exact first
      | nextItem ended separated =>
        have rest := each _ ended
        dsimp only at rest
        rw [separated, if_neg (by simp), if_neg (by simp)] at rest
        exact rest
    · rintro ⟨_, calls⟩
      refine ⟨calls _ .item, fun cursor ended => ?_⟩
      dsimp only
      by_cases closes : (skipWhitespace cursor.rest).head? = some closeBracket
      · rw [if_pos closes]
        exact failsOnly_ok _
      rw [if_neg closes]
      by_cases commas : (skipWhitespace cursor.rest).head? = some comma
      · obtain ⟨more, separated⟩ := head_cons.mp commas
        rw [if_neg (not_not.mpr commas), separated]
        exact calls _ (.nextItem ended separated)
      · rw [if_pos commas]
        exact failsOnly_error.mpr (proper _)

/-- One call fails with no foreign failure when its token is a string and the calls that it makes do not. -/
theorem run_failsOnly (call : Call) : FailsOnly own (call.run rules) ↔
    (∀ token, Reads rules call token → IsString token) ∧ ∀ next, Calls rules call next → FailsOnly own (next.run rules) :=
  match call with
  | .value levels maxBytes cursor => value_failsOnly proper bounded foreign levels maxBytes cursor
  | .members levels left keys cursor => members_failsOnly proper bounded foreign levels left keys cursor
  | .items levels left cursor => items_failsOnly proper levels left cursor

/-- The levels below a call, and the turns that a loop has left. -/
def Call.levels : Call → Nat
  | .value levels _ _ | .members levels _ _ _ | .items levels _ _ => levels

def Call.turns : Call → Nat
  | .value _ _ _ => 0
  | .members _ left _ _ | .items _ left _ => left + 1

omit proper bounded foreign in
theorem Calls.decreases {call next : Call} (calls : Calls rules call next) :
    Prod.Lex (· < ·) (· < ·) (next.levels, next.turns) (call.levels, call.turns) := by
  cases calls with
  | object => exact .left _ _ (Nat.lt_succ_self _)
  | array => exact .left _ _ (Nat.lt_succ_self _)
  | member => exact .right _ (Nat.succ_pos _)
  | nextMember => exact .right _ (Nat.lt_succ_self _)
  | item => exact .right _ (Nat.succ_pos _)
  | nextItem => exact .right _ (Nat.lt_succ_self _)

theorem failsOnly_of_strings (call : Call)
    (strings : ∀ last, Relation.ReflTransGen (Calls rules) call last → ∀ token, Reads rules last token → IsString token) :
    FailsOnly own (call.run rules) := by
  apply (run_failsOnly proper bounded foreign call).mpr
  refine ⟨strings call .refl, fun next calls => ?_⟩
  exact failsOnly_of_strings next fun last reached => strings last (.head calls reached)
termination_by (call.levels, call.turns)
decreasing_by exact calls.decreases

/-- A scan fails with no foreign failure exactly when every token that it comes to is a string. -/
theorem scan_failsOnly {text : JsString} :
    FailsOnly own (scan rules text) ↔ ∀ token, ComesTo rules text token → IsString token := by
  have ending : FailsOnly own (scan rules text) ↔
      FailsOnly own ((Call.value (rules.maxDepth + 1) rules.maxBytes ⟨text, 0⟩).run rules) := by
    rw [scan, failsOnly_bind]
    refine ⟨fun only => only.1, fun only => ⟨only, fun cursor _ => ?_⟩⟩
    split
    · exact failsOnly_ok ()
    · exact failsOnly_error.mpr (proper _)
  rw [ending]
  constructor
  · rintro only token ⟨last, reached, reads⟩
    have kept : FailsOnly own (last.run rules) := by
      clear reads
      induction reached with
      | refl => exact only
      | tail _ calls ih => exact ((run_failsOnly proper bounded foreign _).mp ih).2 _ calls
    exact ((run_failsOnly proper bounded foreign last).mp kept).1 token reads
  · intro strings
    apply failsOnly_of_strings proper bounded foreign
    exact fun last reached token reads => strings token ⟨last, reached, reads⟩

end

end

end ECMA.Scan
