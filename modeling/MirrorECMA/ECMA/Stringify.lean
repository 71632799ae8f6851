import MirrorECMA.ECMA.Json

namespace ECMA

/-- `String` of a number. -/
class NumberText where
  text : Double → JsString

def hexDigitUnit (n : Nat) : CodeUnit := BitVec.ofNat 16 (if n < 10 then 0x30 + n else 0x57 + n)

/-- `\u` and four lower-case hexadecimal digits. -/
def unicodeEscapeText (u : CodeUnit) : JsString :=
  [0x5C, 0x75, hexDigitUnit (u.toNat / 0x1000), hexDigitUnit (u.toNat / 0x100 % 0x10),
    hexDigitUnit (u.toNat / 0x10 % 0x10), hexDigitUnit (u.toNat % 0x10)]

def quoteUnit (u : CodeUnit) : JsString :=
  if u = 0x08 then js "\\b" else if u = 0x09 then js "\\t" else if u = 0x0A then js "\\n"
  else if u = 0x0C then js "\\f" else if u = 0x0D then js "\\r" else if u = 0x22 then js "\\\""
  else if u = 0x5C then js "\\\\" else if u.toNat < 0x20 then unicodeEscapeText u else [u]

def quoteUnits : JsString → JsString
  | [] => []
  | [u] => if isSurrogate u then unicodeEscapeText u else quoteUnit u
  | u :: v :: rest =>
    if isHighSurrogate u && isLowSurrogate v then u :: v :: quoteUnits rest
    else (if isSurrogate u then unicodeEscapeText u else quoteUnit u) ++ quoteUnits (v :: rest)

/-- `JSON.stringify` of a string: unpaired surrogates are escaped. -/
def quoteJson (s : JsString) : JsString := 0x22 :: (quoteUnits s ++ [0x22])

section

variable [NumberText]

mutual

/-- `JSON.stringify`. -/
def jsonStringify : Json → JsString
  | .null => js "null"
  | .bool b => if b then js "true" else js "false"
  | .number d => if d.isFinite then NumberText.text d else js "null"
  | .string s => quoteJson s
  | .array items => 0x5B :: ((js ",").intercalate (stringifyItems items) ++ [0x5D])
  | .object fields => 0x7B :: ((js ",").intercalate (stringifyFields fields) ++ [0x7D])

def stringifyItems : List Json → List JsString
  | [] => []
  | item :: rest => jsonStringify item :: stringifyItems rest

def stringifyFields : List (JsString × Json) → List JsString
  | [] => []
  | (key, value) :: rest => (quoteJson key ++ 0x3A :: jsonStringify value) :: stringifyFields rest

end

mutual

/-- A template literal of a parsed value, with `none` for the `TypeError` of an own `toString`. -/
def toText : Json → Option JsString
  | .null => some (js "null")
  | .bool b => some (if b then js "true" else js "false")
  | .number d => some (NumberText.text d)
  | .string s => some s
  | .array items => (joinTexts items).map fun texts => (js ",").intercalate texts
  | .object fields => if Fields.has fields (js "toString") then none else some (js "[object Object]")

/-- The texts that `Array.prototype.join` puts together. -/
def joinTexts : List Json → Option (List JsString)
  | [] => some []
  | .null :: rest => (joinTexts rest).map fun texts => [] :: texts
  | item :: rest => do return (← toText item) :: (← joinTexts rest)

end

end

end ECMA
