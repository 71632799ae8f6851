import MirrorECMA.ECMA.ParseExact

namespace ECMA.Scan

open Grammar

/-! A scan of a JSON text that bounds it before `JSON.parse` reads it. -/

inductive Fault where
  | limits
  | expectedString
  | control
  | unterminated
  | duplicateKey (key : JsString)
  | members
  | colon
  | comma
  | items
  | value
  | trailing
  deriving DecidableEq

/-- What sets one scanner apart from another. -/
structure Rules (ε : Type) where
  maxDepth : Nat
  maxNodes : Nat
  maxMembers : Nat
  maxItems : Nat
  maxBytes : Nat
  /-- The bytes that a string may have as the value of a key. -/
  bytesOf : JsString → Nat
  /-- The check of a decoded string against the bytes it may have. -/
  checkString : JsString → Nat → Except ε Unit
  fault : Fault → ε
  /-- What `JSON.parse` throws on one token. -/
  syntaxError : ε

/-- The text that has not been read, and how many values have been entered. -/
structure Cursor where
  rest : JsString
  nodes : Nat

section

variable {ε : Type} (rules : Rules ε)

def stop {α : Type} (fault : Fault) : Except ε α := .error (rules.fault fault)

/-- The units of a string token up to and with the closing quote, and what follows. -/
def closing : Bool → JsString → Except ε (JsString × JsString)
  | _, [] => stop rules .unterminated
  | true, u :: rest => do
    let (token, rest) ← closing false rest
    return (u :: token, rest)
  | false, u :: rest =>
    if u = quote then return ([u], rest)
    else if u ≠ backslash ∧ u.toNat < 0x20 then stop rules .control
    else do
      let (token, rest) ← closing (decide (u = backslash)) rest
      return (u :: token, rest)

/-- `true`, `false`, `null` or a number at the start of a text; what follows it. -/
def scalar (rest : JsString) : Option JsString :=
  if rest.take 4 = js "true" then some (rest.drop 4)
  else if rest.take 5 = js "false" then some (rest.drop 5)
  else if rest.take 4 = js "null" then some (rest.drop 4)
  else (numberPrefix rest).map Prod.snd

variable [NumberConversion]

def stringToken (maxBytes : Nat) (rest : JsString) : Except ε (JsString × JsString) :=
  if rest.head? ≠ some quote then stop rules .expectedString
  else do
    let (token, rest) ← closing rules false rest.tail
    match jsonParse (quote :: token) with
    | some (.string value) => do
      rules.checkString value maxBytes
      return (value, rest)
    | _ => .error rules.syntaxError

/-- The loop over the members of an object, which may have so many more. -/
def members (value : Nat → Cursor → Except ε Cursor) : Nat → List JsString → Cursor → Except ε Cursor
  | left, keys, ⟨rest, nodes⟩ => do
    let (key, rest) ← stringToken rules rules.maxBytes rest
    if key ∈ keys then stop rules (.duplicateKey key)
    else match left with
      | 0 => stop rules .members
      | left + 1 =>
        let rest := skipWhitespace rest
        if rest.head? ≠ some colon then stop rules .colon
        else do
          let ⟨rest, nodes⟩ ← value (rules.bytesOf key) ⟨rest.tail, nodes⟩
          let rest := skipWhitespace rest
          if rest.head? = some closeBrace then return ⟨rest.tail, nodes⟩
          else if rest.head? ≠ some comma then stop rules .comma
          else members value left (keys ++ [key]) ⟨skipWhitespace rest.tail, nodes⟩

/-- The loop over the elements of an array, which may have so many more. -/
def items (value : Nat → Cursor → Except ε Cursor) : Nat → Cursor → Except ε Cursor
  | 0, _ => stop rules .items
  | left + 1, cursor => do
    let ⟨rest, nodes⟩ ← value rules.maxBytes cursor
    let rest := skipWhitespace rest
    if rest.head? = some closeBracket then return ⟨rest.tail, nodes⟩
    else if rest.head? ≠ some comma then stop rules .comma
    else items value left ⟨skipWhitespace rest.tail, nodes⟩

/-- `value` with so many levels left, of which the value takes one. -/
def value : Nat → Nat → Cursor → Except ε Cursor
  | 0, _, _ => stop rules .limits
  | levels + 1, maxBytes, ⟨rest, nodes⟩ =>
    if nodes + 1 > rules.maxNodes then stop rules .limits
    else
      let rest := skipWhitespace rest
      if rest.head? = some openBrace then
        let inner := skipWhitespace rest.tail
        if inner.head? = some closeBrace then return ⟨inner.tail, nodes + 1⟩
        else members rules (value levels) rules.maxMembers [] ⟨inner, nodes + 1⟩
      else if rest.head? = some openBracket then
        let inner := skipWhitespace rest.tail
        if inner.head? = some closeBracket then return ⟨inner.tail, nodes + 1⟩
        else items rules (value levels) rules.maxItems ⟨inner, nodes + 1⟩
      else if rest.head? = some quote then do
        let (_, rest) ← stringToken rules maxBytes rest
        return ⟨rest, nodes + 1⟩
      else match scalar rest with
        | some rest => return ⟨rest, nodes + 1⟩
        | none => stop rules .value

/-- The scan of a whole text. -/
def scan (text : JsString) : Except ε Unit := do
  let cursor ← value rules (rules.maxDepth + 1) rules.maxBytes ⟨text, 0⟩
  if skipWhitespace cursor.rest = [] then return ()
  else stop rules .trailing

end

end ECMA.Scan
