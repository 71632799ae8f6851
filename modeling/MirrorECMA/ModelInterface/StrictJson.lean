import MirrorECMA.ECMA.ParseExact

namespace Mirror.ModelInterface

open ECMA ECMA.Grammar

/-- `ModelInterfaceProtocolError`, by its message. -/
structure ModelInterfaceProtocolError where
  message : JsString
  deriving DecidableEq

def fail {α : Type} (path message : JsString) : Except ModelInterfaceProtocolError α :=
  .error ⟨path ++ js ": " ++ message⟩

def MAX_MODEL_INTERFACE_MESSAGE_BYTES : Nat := 65535
def MAX_MODEL_INTERFACE_JSON_DEPTH : Nat := 128

namespace StrictJsonParser

/-- A call of `syntax`: the unread text, and how far `offset` ran past its end. -/
structure SyntaxFailure where
  rest : JsString
  overrun : Nat
  message : JsString

def failSyntax {α : Type} (rest : JsString) (message : JsString) : Except SyntaxFailure α :=
  .error ⟨rest, 0, message⟩

def hex4 (rest : JsString) : Except SyntaxFailure (Nat × JsString) :=
  let text := rest.take 4
  if text.length = 4 ∧ text.all isHexDigit then
    .ok (text.foldl (fun n u => n * 16 + hexValue u) 0, rest.drop 4)
  else failSyntax rest (js "incomplete Unicode escape")

def unicodeEscape (rest : JsString) : Except SyntaxFailure (JsString × JsString) := do
  let (first, rest) ← hex4 rest
  if 0xD800 ≤ first ∧ first ≤ 0xDBFF then
    if rest.take 2 ≠ [backslash, 0x75] then
      failSyntax rest (js "high surrogate is not followed by a low surrogate")
    else
      let (second, rest) ← hex4 (rest.drop 2)
      if second < 0xDC00 ∨ 0xDFFF < second then
        failSyntax rest (js "high surrogate is not followed by a low surrogate")
      else .ok (fromCodePoint (0x10000 + (first - 0xD800) * 0x400 + second - 0xDC00), rest)
  else if 0xDC00 ≤ first ∧ first ≤ 0xDFFF then failSyntax rest (js "unpaired low surrogate")
  else .ok (fromCodePoint first, rest)

/-- The escapes of one letter. -/
def simpleEscape (escaped : CodeUnit) : Option CodeUnit :=
  if escaped = 0x22 then some 0x22 else if escaped = 0x5C then some 0x5C else if escaped = 0x2F then some 0x2F
  else if escaped = 0x62 then some 0x08 else if escaped = 0x66 then some 0x0C
  else if escaped = 0x6E then some 0x0A else if escaped = 0x72 then some 0x0D
  else if escaped = 0x74 then some 0x09 else none

/-- What one turn of the loop of `string` appends, after a unit other than the closing quote. -/
def stringUnit (char : CodeUnit) (rest : JsString) : Except SyntaxFailure (JsString × JsString) :=
  if char = backslash then
    match rest with
    | [] => .error ⟨[], 1, js "invalid string escape"⟩
    | escaped :: rest =>
      if escaped = 0x75 then unicodeEscape rest
      else match simpleEscape escaped with
        | some unit => .ok ([unit], rest)
        | none => failSyntax rest (js "invalid string escape")
  else if char.toNat < 0x20 then failSyntax rest (js "unescaped control character in string")
  else if 0xD800 ≤ char.toNat ∧ char.toNat ≤ 0xDFFF then
    match rest with
    | [] => failSyntax rest (js "unpaired UTF-16 surrogate")
    | low :: tail =>
      if 0xDBFF < char.toNat then failSyntax rest (js "unpaired UTF-16 surrogate")
      else if low.toNat < 0xDC00 ∨ 0xDFFF < low.toNat then failSyntax rest (js "unpaired UTF-16 surrogate")
      else .ok ([char, low], tail)
  else .ok ([char], rest)

/-- The loop of `string`, from behind the opening quote. -/
def stringLoop : Nat → JsString → JsString → Except SyntaxFailure (JsString × JsString)
  | 0, _, rest => failSyntax rest (js "unterminated string")
  | fuel + 1, result, rest =>
    match rest with
    | [] => failSyntax rest (js "unterminated string")
    | char :: rest =>
      if char = quote then .ok (result, rest)
      else do
        let (units, rest) ← stringUnit char rest
        stringLoop fuel (result ++ units) rest

/-- The text is at the opening quote. -/
def string (rest : JsString) : Except SyntaxFailure (JsString × JsString) := stringLoop rest.length [] rest.tail

def literal (source : JsString) (result : Json) (rest : JsString) : Except SyntaxFailure (Json × JsString) :=
  if rest.take source.length ≠ source then failSyntax rest (js "expected '" ++ source ++ js "'")
  else .ok (result, rest.drop source.length)

section

variable [NumberConversion]

def number (rest : JsString) : Except SyntaxFailure (Json × JsString) :=
  match numberPrefix rest with
  | none => failSyntax rest (js "invalid number")
  | some (text, rest) =>
    let value := NumberConversion.number text
    if value.isFinite then .ok (.number value, rest)
    else failSyntax rest (js "number is outside the finite range")

def objectLoop (value : JsString → Except SyntaxFailure (Json × JsString)) : Nat → List JsString → Fields Json → JsString → Except SyntaxFailure (Json × JsString)
  | 0, _, _, rest => failSyntax rest (js "expected an object key")
  | fuel + 1, keys, result, rest =>
    let rest := skipWhitespace rest
    if rest.head? ≠ some quote then failSyntax rest (js "expected an object key")
    else do
      let keyOffset := rest
      let (key, rest) ← string rest
      if key ∈ keys then failSyntax keyOffset (js "duplicate object key '" ++ key ++ js "'")
      else
        let rest := skipWhitespace rest
        if rest.head? ≠ some colon then failSyntax rest (js "expected ':' after object key")
        else do
          let (item, rest) ← value rest.tail
          let result := result.set key item
          let rest := skipWhitespace rest
          if rest.head? = some closeBrace then .ok (.object result, rest.tail)
          else if rest.head? ≠ some comma then failSyntax rest (js "expected ',' or '\x7d' after object member")
          else objectLoop value fuel (keys ++ [key]) result rest.tail

def arrayLoop (value : JsString → Except SyntaxFailure (Json × JsString)) : Nat → List Json → JsString → Except SyntaxFailure (Json × JsString)
  | 0, _, rest => failSyntax rest (js "expected a JSON value")
  | fuel + 1, result, rest => do
    let (item, rest) ← value rest
    let result := result ++ [item]
    let rest := skipWhitespace rest
    if rest.head? = some closeBracket then .ok (.array result, rest.tail)
    else if rest.head? ≠ some comma then failSyntax rest (js "expected ',' or ']' after array element")
    else arrayLoop value fuel result rest.tail

def nestingExceeded (rest : JsString) : Except SyntaxFailure (Json × JsString) :=
  failSyntax rest (js "JSON nesting exceeds 128")

/-- `value` with `levels = MAX_MODEL_INTERFACE_JSON_DEPTH - depth` container levels left. -/
def value : Nat → JsString → Except SyntaxFailure (Json × JsString)
  | levels, rest =>
    let rest := skipWhitespace rest
    match rest with
    | [] => failSyntax rest (js "expected a JSON value")
    | char :: tail =>
      if char = openBrace then
        match levels with
        | 0 => nestingExceeded rest
        | levels + 1 =>
          let inner := skipWhitespace tail
          if inner.head? = some closeBrace then .ok (.object [], inner.tail)
          else objectLoop (value levels) inner.length [] [] inner
      else if char = openBracket then
        match levels with
        | 0 => nestingExceeded rest
        | levels + 1 =>
          let inner := skipWhitespace tail
          if inner.head? = some closeBracket then .ok (.array [], inner.tail)
          else arrayLoop (value levels) inner.length [] inner
      else if char = quote then do
        let (text, rest) ← string rest
        return (.string text, rest)
      else if char = 0x74 then literal (js "true") (.bool true) rest
      else if char = 0x66 then literal (js "false") (.bool false) rest
      else if char = 0x6E then literal (js "null") .null rest
      else if char = minus ∨ isDigit char then number rest
      else failSyntax rest (js "expected a JSON value")

def parse (text : JsString) : Except SyntaxFailure Json := do
  let (result, rest) ← value MAX_MODEL_INTERFACE_JSON_DEPTH text
  let rest := skipWhitespace rest
  if rest ≠ [] then failSyntax rest (js "trailing characters after JSON value")
  else .ok result

end

end StrictJsonParser

/-- `parseStrictJson`. -/
def parseStrictJson [NumberConversion] (text : JsString) : Except ModelInterfaceProtocolError Json :=
  let bytes := utf8Length text
  if bytes > MAX_MODEL_INTERFACE_MESSAGE_BYTES then
    fail (js "strict JSON") (js "message is " ++ decimal bytes ++ js " UTF-8 bytes; maximum is " ++
      decimal MAX_MODEL_INTERFACE_MESSAGE_BYTES)
  else match StrictJsonParser.parse text with
    | .ok result => .ok result
    | .error failure =>
      fail (js "strict JSON at offset " ++ decimal (text.length - failure.rest.length + failure.overrun))
        failure.message

end Mirror.ModelInterface
