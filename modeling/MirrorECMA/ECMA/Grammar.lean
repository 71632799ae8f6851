import MirrorECMA.ECMA.Json

namespace ECMA.Grammar

abbrev quote : CodeUnit := 0x22
abbrev backslash : CodeUnit := 0x5C
abbrev comma : CodeUnit := 0x2C
abbrev colon : CodeUnit := 0x3A
abbrev openBrace : CodeUnit := 0x7B
abbrev closeBrace : CodeUnit := 0x7D
abbrev openBracket : CodeUnit := 0x5B
abbrev closeBracket : CodeUnit := 0x5D
abbrev minus : CodeUnit := 0x2D
abbrev plus : CodeUnit := 0x2B
abbrev dot : CodeUnit := 0x2E

/-! ### Tokens of RFC 8259 -/

def isWhitespace (u : CodeUnit) : Bool := u = 0x20 || u = 0x09 || u = 0x0A || u = 0x0D

structure Whitespace where
  text : JsString
  blank : ∀ u ∈ text, isWhitespace u = true

def isHexDigit (u : CodeUnit) : Bool :=
  isDigit u || (0x41 ≤ u.toNat && u.toNat ≤ 0x46) || (0x61 ≤ u.toNat && u.toNat ≤ 0x66)

def hexValue (u : CodeUnit) : Nat :=
  if u.toNat ≤ 0x39 then u.toNat - 0x30 else if u.toNat ≤ 0x46 then u.toNat - 0x37 else u.toNat - 0x57

theorem hexValue_lt {u : CodeUnit} (hex : isHexDigit u = true) : hexValue u < 16 := by
  simp only [isHexDigit, isDigit, Bool.or_eq_true, Bool.and_eq_true, decide_eq_true_eq] at hex
  unfold hexValue
  split
  · omega
  · split <;> omega

structure HexDigit where
  unit : CodeUnit
  valid : isHexDigit unit = true

/-- What stands for itself between the quotes. -/
def isUnescaped (u : CodeUnit) : Bool := 0x20 ≤ u.toNat && u ≠ quote && u ≠ backslash

inductive Escape where
  | quote | backslash | slash | backspace | formFeed | lineFeed | carriageReturn | tab
  deriving DecidableEq, Repr

def Escape.letter : Escape → CodeUnit
  | .quote => 0x22 | .backslash => 0x5C | .slash => 0x2F | .backspace => 0x62
  | .formFeed => 0x66 | .lineFeed => 0x6E | .carriageReturn => 0x72 | .tab => 0x74

def Escape.unit : Escape → CodeUnit
  | .quote => 0x22 | .backslash => 0x5C | .slash => 0x2F | .backspace => 0x08
  | .formFeed => 0x0C | .lineFeed => 0x0A | .carriageReturn => 0x0D | .tab => 0x09

/-- One unit of a string as it is written. -/
inductive Item where
  | raw (unit : CodeUnit) (unescaped : isUnescaped unit = true)
  | escape (escape : Escape)
  | unicode (a b c d : HexDigit)

def hexUnit (a b c d : CodeUnit) : CodeUnit :=
  BitVec.ofNat 16 (((hexValue a * 16 + hexValue b) * 16 + hexValue c) * 16 + hexValue d)

def Item.render : Item → JsString
  | .raw u _ => [u]
  | .escape e => [Grammar.backslash, e.letter]
  | .unicode a b c d => [Grammar.backslash, 0x75, a.unit, b.unit, c.unit, d.unit]

def Item.unit : Item → CodeUnit
  | .raw u _ => u
  | .escape e => e.unit
  | .unicode a b c d => hexUnit a.unit b.unit c.unit d.unit

abbrev StringToken := List Item

/-- The token after its opening quote. -/
def StringToken.renderTail (token : StringToken) : JsString := token.flatMap Item.render ++ [quote]

def StringToken.render (token : StringToken) : JsString := quote :: token.renderTail

def StringToken.decoded (token : StringToken) : JsString := token.map Item.unit

def IsSign (text : JsString) : Prop := text = [] ∨ text = [minus]

def IsDigits (text : JsString) : Prop := text ≠ [] ∧ ∀ u ∈ text, isDigit u = true

def IsInteger (text : JsString) : Prop :=
  text = [0x30] ∨ ∃ head rest, text = head :: rest ∧ 0x31 ≤ head.toNat ∧ head.toNat ≤ 0x39 ∧
    ∀ u ∈ rest, isDigit u = true

def IsFraction (text : JsString) : Prop := text = [] ∨ ∃ digits, text = dot :: digits ∧ IsDigits digits

def IsExponent (text : JsString) : Prop :=
  text = [] ∨ ∃ letter sign digits, text = letter :: (sign ++ digits) ∧ (letter = 0x65 ∨ letter = 0x45) ∧
    (sign = [] ∨ sign = [plus] ∨ sign = [minus]) ∧ IsDigits digits

/-- `number = [ minus ] int [ frac ] [ exp ]`. -/
def IsNumber (text : JsString) : Prop :=
  ∃ sign integer fraction exponent, text = sign ++ (integer ++ (fraction ++ exponent)) ∧
    IsSign sign ∧ IsInteger integer ∧ IsFraction fraction ∧ IsExponent exponent

/-! ### Values -/

mutual

/-- A JSON value as it is written, every blank included. -/
inductive Value where
  | null
  | true
  | false
  | number (text : JsString) (valid : IsNumber text)
  | string (token : StringToken)
  | emptyArray (inner : Whitespace)
  | array (items : Items)
  | emptyObject (inner : Whitespace)
  | object (members : Members)

inductive Items where
  | last (before : Whitespace) (value : Value) (after : Whitespace)
  | cons (before : Whitespace) (value : Value) (after : Whitespace) (rest : Items)

inductive Members where
  | last (before : Whitespace) (key : StringToken) (afterKey beforeValue : Whitespace) (value : Value)
      (after : Whitespace)
  | cons (before : Whitespace) (key : StringToken) (afterKey beforeValue : Whitespace) (value : Value)
      (after : Whitespace) (rest : Members)

end

structure Text where
  before : Whitespace
  value : Value
  after : Whitespace

mutual

def Value.render : Value → JsString
  | .null => js "null"
  | .true => js "true"
  | .false => js "false"
  | .number text _ => text
  | .string token => token.render
  | .emptyArray inner => openBracket :: (inner.text ++ [closeBracket])
  | .array items => openBracket :: items.render
  | .emptyObject inner => openBrace :: (inner.text ++ [closeBrace])
  | .object members => openBrace :: members.render

/-- The elements up to and with the closing bracket. -/
def Items.render : Items → JsString
  | .last before value after => before.text ++ (value.render ++ (after.text ++ [closeBracket]))
  | .cons before value after rest => before.text ++ (value.render ++ (after.text ++ comma :: rest.render))

/-- The members up to and with the closing brace. -/
def Members.render : Members → JsString
  | .last before key afterKey beforeValue value after =>
    before.text ++ (key.render ++ (afterKey.text ++ colon :: (beforeValue.text ++
      (value.render ++ (after.text ++ [closeBrace])))))
  | .cons before key afterKey beforeValue value after rest =>
    before.text ++ (key.render ++ (afterKey.text ++ colon :: (beforeValue.text ++
      (value.render ++ (after.text ++ comma :: rest.render)))))

end

def Text.render (text : Text) : JsString := text.before.text ++ (text.value.render ++ text.after.text)

section

variable [NumberConversion]

mutual

/-- The tree of a value; the last of several members with one key stands. -/
def Value.eval : Value → Json
  | .null => .null
  | .true => .bool Bool.true
  | .false => .bool Bool.false
  | .number text _ => .number (NumberConversion.number text)
  | .string token => .string token.decoded
  | .emptyArray _ => .array []
  | .array items => .array items.eval
  | .emptyObject _ => .object []
  | .object members => .object (Fields.ofEntries members.eval)

def Items.eval : Items → List Json
  | .last _ value _ => [value.eval]
  | .cons _ value _ rest => value.eval :: rest.eval

def Members.eval : Members → List (JsString × Json)
  | .last _ key _ _ value _ => [(key.decoded, value.eval)]
  | .cons _ key _ _ value _ rest => (key.decoded, value.eval) :: rest.eval

end

end

/-! ### Measures and restrictions -/

mutual

/-- How many containers are open at the deepest place. -/
def Value.depth : Value → Nat
  | .null | .true | .false | .number _ _ | .string _ => 0
  | .emptyArray _ | .emptyObject _ => 1
  | .array items => items.depth + 1
  | .object members => members.depth + 1

def Items.depth : Items → Nat
  | .last _ value _ => value.depth
  | .cons _ value _ rest => max value.depth rest.depth

def Members.depth : Members → Nat
  | .last _ _ _ _ value _ => value.depth
  | .cons _ _ _ _ value _ rest => max value.depth rest.depth

end

def Items.count : Items → Nat
  | .last _ _ _ => 1
  | .cons _ _ _ rest => rest.count + 1

def Members.count : Members → Nat
  | .last _ _ _ _ _ _ => 1
  | .cons _ _ _ _ _ _ rest => rest.count + 1

def Members.keys : Members → List JsString
  | .last _ key _ _ _ _ => [key.decoded]
  | .cons _ key _ _ _ _ rest => key.decoded :: rest.keys

mutual

/-- No object repeats a decoded key. -/
def Value.KeysDistinct : Value → Prop
  | .array items => items.KeysDistinct
  | .object members => members.keys.Nodup ∧ members.KeysDistinct
  | _ => True

def Items.KeysDistinct : Items → Prop
  | .last _ value _ => value.KeysDistinct
  | .cons _ value _ rest => value.KeysDistinct ∧ rest.KeysDistinct

def Members.KeysDistinct : Members → Prop
  | .last _ _ _ _ value _ => value.KeysDistinct
  | .cons _ _ _ _ value _ rest => value.KeysDistinct ∧ rest.KeysDistinct

end

mutual

/-- Every string of the text, keys included, satisfies `p`. -/
def Value.EveryString (p : StringToken → Prop) : Value → Prop
  | .string token => p token
  | .array items => items.EveryString p
  | .object members => members.EveryString p
  | _ => True

def Items.EveryString (p : StringToken → Prop) : Items → Prop
  | .last _ value _ => value.EveryString p
  | .cons _ value _ rest => value.EveryString p ∧ rest.EveryString p

def Members.EveryString (p : StringToken → Prop) : Members → Prop
  | .last _ key _ _ value _ => p key ∧ value.EveryString p
  | .cons _ key _ _ value _ rest => p key ∧ value.EveryString p ∧ rest.EveryString p

end

mutual

/-- Every numeric literal of the text satisfies `p`. -/
def Value.EveryNumber (p : JsString → Prop) : Value → Prop
  | .number text _ => p text
  | .array items => items.EveryNumber p
  | .object members => members.EveryNumber p
  | _ => True

def Items.EveryNumber (p : JsString → Prop) : Items → Prop
  | .last _ value _ => value.EveryNumber p
  | .cons _ value _ rest => value.EveryNumber p ∧ rest.EveryNumber p

def Members.EveryNumber (p : JsString → Prop) : Members → Prop
  | .last _ _ _ _ value _ => value.EveryNumber p
  | .cons _ _ _ _ value _ rest => value.EveryNumber p ∧ rest.EveryNumber p

end

/-- The two halves of a pair are both written raw or both escaped. -/
def PairsUniform : StringToken → Prop
  | .raw high _ :: .unicode a b c d :: rest =>
    ¬ (isHighSurrogate high = true ∧ isLowSurrogate (hexUnit a.unit b.unit c.unit d.unit) = true) ∧
      PairsUniform (.unicode a b c d :: rest)
  | .unicode a b c d :: .raw low plain :: rest =>
    ¬ (isHighSurrogate (hexUnit a.unit b.unit c.unit d.unit) = true ∧ isLowSurrogate low = true) ∧
      PairsUniform (.raw low plain :: rest)
  | _ :: rest => PairsUniform rest
  | [] => True

/-- A string without unpaired surrogates whose pairs are written one way. -/
def SurrogatesPaired (token : StringToken) : Prop :=
  isWellFormed token.decoded = true ∧ PairsUniform token

end ECMA.Grammar
