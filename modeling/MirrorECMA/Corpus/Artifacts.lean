import MirrorECMA.Framework.Json
import MirrorECMA.ModelInterface.StrictJson

namespace Mirror.Corpus

open ECMA ECMA.Grammar
open Mirror.Framework (compareBytes)
open Mirror.Reproduction (Platform)
open Mirror.ModelInterface.StrictJsonParser (SyntaxFailure failSyntax literal nestingExceeded)

structure ProjectedCorpusError where
  message : JsString
  deriving DecidableEq

def fail {α : Type} (message : JsString) : Except ProjectedCorpusError α := .error ⟨message⟩

/-! ### Canonical artifacts -/

def quoteCharacter (codePoint : Nat) : JsString :=
  if codePoint = 0x22 then js "\\\""
  else if codePoint = 0x5C then js "\\\\"
  else if codePoint = 0x0A then js "\\n"
  else if codePoint = 0x0D then js "\\r"
  else if codePoint < 0x20 then unicodeEscapeText (BitVec.ofNat 16 codePoint)
  else fromCodePoint codePoint

def quote (value : JsString) : JsString := Grammar.quote :: ((codePoints value).flatMap quoteCharacter ++ [Grammar.quote])

mutual

/-- The keys are in the order of their bytes. -/
def canonical : Json → Except ProjectedCorpusError JsString
  | .null => .ok (js "null")
  | .string value => .ok (quote value)
  | .bool value => .ok (if value then js "true" else js "false")
  | .number value =>
    if value.isSafeInteger then .ok (integerText (value.toInt?.getD 0)) else fail (js "unsupported canonical artifact value")
  | .array items => do
    let texts ← (canonicalItems items).mapM fun text => text
    return openBracket :: ((js ",").intercalate texts ++ [closeBracket])
  | .object fields => do
    let texts ← (sort (fun a b => compareBytes a.1 b.1) (canonicalFields fields)).mapM Prod.snd
    return openBrace :: ((js ",").intercalate texts ++ [closeBrace])

def canonicalItems : List Json → List (Except ProjectedCorpusError JsString)
  | [] => []
  | item :: rest => canonical item :: canonicalItems rest

/-- The text of every member, or what is thrown for it, under its key. -/
def canonicalFields : List (JsString × Json) → List (JsString × Except ProjectedCorpusError JsString)
  | [] => []
  | (key, value) :: rest => (key, do return quote key ++ colon :: (← canonical value)) :: canonicalFields rest

end

def canonicalFile (bytes : List UInt8) (value : Json) : Except ProjectedCorpusError Unit := do
  let text ← canonical value
  if bytes ≠ utf8Bytes (text ++ js "\n") then fail (js "artifact is not canonical JSON with exactly one LF")
  else return ()

/-! ### Artifacts as they are read -/

namespace ArtifactJsonParser

/-- The methods `string`, `unicodeEscape`, `hex4` and `literal` are those of `StrictJsonParser`. -/
def string (rest : JsString) : Except SyntaxFailure (JsString × JsString) := ModelInterface.StrictJsonParser.string rest

/-- What is read, the text behind it and what is left of `budget.nodes`. -/
abbrev Read := Except SyntaxFailure (Json × JsString × Nat)

section

variable [NumberConversion]

def number (rest : JsString) : Except SyntaxFailure (Json × JsString) :=
  match numberPrefix rest with
  | none => failSyntax rest (js "invalid number")
  | some (text, rest) =>
    let value := NumberConversion.number text
    if value.isSafeInteger then .ok (.number value, rest) else failSyntax rest (js "number must be a safe integer")

def objectLoop (value : JsString → Nat → Read) : Nat → List JsString → Fields Json → JsString → Nat → Read
  | 0, _, _, rest, _ => failSyntax rest (js "expected an object key")
  | fuel + 1, keys, result, rest, nodes =>
    let rest := skipWhitespace rest
    if rest.head? ≠ some Grammar.quote then failSyntax rest (js "expected an object key")
    else do
      let keyOffset := rest
      let (key, rest) ← string rest
      if key ∈ keys then failSyntax keyOffset (js "duplicate object key '" ++ key ++ js "'")
      else
        let rest := skipWhitespace rest
        if rest.head? ≠ some colon then failSyntax rest (js "expected ':' after object key")
        else do
          let (item, rest, nodes) ← value rest.tail nodes
          let result := result.set key item
          let rest := skipWhitespace rest
          if rest.head? = some closeBrace then .ok (.object result, rest.tail, nodes)
          else if rest.head? ≠ some comma then failSyntax rest (js "expected ',' or '\x7d' after object member")
          else objectLoop value fuel (keys ++ [key]) result rest.tail nodes

def arrayLoop (value : JsString → Nat → Read) : Nat → List Json → JsString → Nat → Read
  | 0, _, rest, _ => failSyntax rest (js "expected a JSON value")
  | fuel + 1, result, rest, nodes => do
    let (item, rest, nodes) ← value rest nodes
    let result := result ++ [item]
    let rest := skipWhitespace rest
    if rest.head? = some closeBracket then .ok (.array result, rest.tail, nodes)
    else if rest.head? ≠ some comma then failSyntax rest (js "expected ',' or ']' after array element")
    else arrayLoop value fuel result rest.tail nodes

/-- A value of one token. -/
def token (read : Except SyntaxFailure (Json × JsString)) (nodes : Nat) : Read := do
  let (value, rest) ← read
  return (value, rest, nodes)

/-- `value` with `levels = 128 - depth` container levels left. -/
def value : Nat → JsString → Nat → Read
  | levels, rest, nodes =>
    match nodes with
    | 0 => failSyntax rest (js "aggregate JSON node limit exceeded")
    | nodes + 1 =>
      let rest := skipWhitespace rest
      match rest with
      | [] => failSyntax rest (js "expected a JSON value")
      | char :: tail =>
        if char = openBrace then
          match levels with
          | 0 => token (nestingExceeded rest) nodes
          | levels + 1 =>
            let inner := skipWhitespace tail
            if inner.head? = some closeBrace then .ok (.object [], inner.tail, nodes)
            else objectLoop (value levels) inner.length [] [] inner nodes
        else if char = openBracket then
          match levels with
          | 0 => token (nestingExceeded rest) nodes
          | levels + 1 =>
            let inner := skipWhitespace tail
            if inner.head? = some closeBracket then .ok (.array [], inner.tail, nodes)
            else arrayLoop (value levels) inner.length [] inner nodes
        else if char = Grammar.quote then do
          let (text, rest) ← string rest
          return (.string text, rest, nodes)
        else if char = 0x74 then token (literal (js "true") (.bool true) rest) nodes
        else if char = 0x66 then token (literal (js "false") (.bool false) rest) nodes
        else if char = 0x6E then token (literal (js "null") .null rest) nodes
        else if char = minus ∨ isDigit char then token (number rest) nodes
        else failSyntax rest (js "expected a JSON value")

/-- `syntax`, with the whole text. -/
def syntaxError {α : Type} (text : JsString) (failure : SyntaxFailure) : Except ProjectedCorpusError α :=
  fail (js "JSON at offset " ++ decimal (text.length - failure.rest.length + failure.overrun) ++ js ": " ++ failure.message)

/-- The value, and what is left of `budget.nodes`. -/
def parse (text : JsString) (nodes : Nat) : Except ProjectedCorpusError (Json × Nat) :=
  match value 128 text nodes with
  | .error failure => syntaxError text failure
  | .ok (value, rest, nodes) =>
    let rest := skipWhitespace rest
    if rest ≠ [] then syntaxError text ⟨rest, 0, js "trailing characters after JSON value"⟩
    else .ok (value, nodes)

end

end ArtifactJsonParser

def parse [Platform] [NumberConversion] (bytes : List UInt8) (nodes : Nat) : Except ProjectedCorpusError (Json × Nat) :=
  match Platform.decodeUtf8 bytes with
  | none => fail (js "artifact must be UTF-8")
  | some source => ArtifactJsonParser.parse source nodes

end Mirror.Corpus
