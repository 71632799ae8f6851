import MirrorECMA.ModelInterface.Digest

namespace Mirror.Reproduction

open ECMA Mirror.ModelInterface

/-- What `node:buffer`, `TextDecoder` and `Date` compute. -/
class Platform extends Sha256 where
  /-- `new TextDecoder("utf-8", { fatal: true }).decode(bytes)`, with `none` where it throws. -/
  decodeUtf8 : List UInt8 → Option JsString
  /-- `Buffer.from(text, "base64")`. -/
  fromBase64 : JsString → List UInt8
  /-- `bytes.toString("base64")`. -/
  toBase64 : List UInt8 → JsString
  /-- `bytes.toString("utf8")`. -/
  toUtf8 : List UInt8 → JsString
  /-- `Date.parse`. -/
  dateParse : JsString → Double

/-- `string | Uint8Array`. -/
inductive RawText where
  | text (text : JsString)
  | bytes (bytes : List UInt8)

/-! ### Regular expressions -/

def isLower (u : CodeUnit) : Bool := 0x61 ≤ u.toNat && u.toNat ≤ 0x7A

def isUpper (u : CodeUnit) : Bool := 0x41 ≤ u.toNat && u.toNat ≤ 0x5A

def isAlphanumeric (u : CodeUnit) : Bool := isUpper u || isLower u || isDigit u

/-- One of the units of a literal. -/
def isAmong (literal : String) (u : CodeUnit) : Bool := decide (u ∈ js literal)

/-- A first unit of one kind before units of another. -/
def startsAndContinues (first rest : CodeUnit → Bool) : JsString → Bool
  | [] => false
  | u :: s => first u && s.all rest

/-- So many lower-case hexadecimal digits. -/
def hexadecimal (n : Nat) (s : JsString) : Bool := decide (s.length = n) && s.all isLowerHexDigit

def SHA256 (s : JsString) : Bool := hexadecimal 64 s

def GIT_REVISION (s : JsString) : Bool := hexadecimal 40 s

def STABLE_ID (s : JsString) : Bool := startsAndContinues isAlphanumeric (fun u => isAlphanumeric u || isAmong "._/-" u) s

def OPAQUE_ID (s : JsString) : Bool := startsAndContinues isAlphanumeric (fun u => isAlphanumeric u || isAmong "._:-" u) s

/-- `\s`. -/
def isSpace (u : CodeUnit) : Bool :=
  (0x09 ≤ u.toNat && u.toNat ≤ 0x0D) || (0x2000 ≤ u.toNat && u.toNat ≤ 0x200A) ||
    decide (u.toNat ∈ [0x20, 0xA0, 0x1680, 0x2028, 0x2029, 0x202F, 0x205F, 0x3000, 0xFEFF])

/-- `/^(?:https:\/\/|urn:)[^\s]+$/`. -/
def immutableUri (s : JsString) : Bool :=
  let body := fun (rest : JsString) => !rest.isEmpty && rest.all fun u => !isSpace u
  ((js "https://").isPrefixOf s && body (s.drop 8)) || ((js "urn:").isPrefixOf s && body (s.drop 4))

/-- `/^[A-Za-z0-9+/]*={0,2}$/`. -/
def base64Text (s : JsString) : Bool :=
  let padding := s.dropWhile fun u => isAlphanumeric u || isAmong "+/" u
  decide (padding.length ≤ 2) && padding.all fun u => decide (u = unit '=')

/-- `s.split(separator)` at a separator of one unit. -/
def splitAt (separator : CodeUnit) : JsString → List JsString
  | [] => [[]]
  | u :: s => if u = separator then [] :: splitAt separator s
    else match splitAt separator s with
      | [] => [[u]]
      | part :: parts => (u :: part) :: parts

/-! The pattern `CREDENTIAL_TEXT`, whose letters stand for both cases. -/

def lowered (u : CodeUnit) : CodeUnit := if isUpper u then u + 0x20 else u

/-- What follows a word, which is given in lower case. -/
def afterWord (word : String) (s : JsString) : Option JsString :=
  if (s.take (js word).length).map lowered = js word then some (s.drop (js word).length) else none

/-- A run of units, as long or as short as it has to be, and then a match. -/
def afterRun (p : CodeUnit → Bool) (rest : JsString → Bool) : JsString → Bool
  | [] => rest []
  | u :: s => rest (u :: s) || (p u && afterRun p rest s)

/-- Two words with at most one underscore or hyphen between them. -/
def joinedWords (first second : String) (s : JsString) : Bool :=
  match afterWord first s with
  | none => false
  | some rest => (afterWord second rest).isSome ||
      (match rest with
      | [] => false
      | u :: tail => isAmong "_-" u && (afterWord second tail).isSome)

def credentialHere (s : JsString) : Bool :=
  ((afterWord "authorization" s).any fun rest =>
      (afterWord ":" (rest.dropWhile isSpace)).any fun rest => (afterWord "bearer" (rest.dropWhile isSpace)).isSome) ||
    ((afterWord "cookie" s).any fun rest => (afterWord ":" (rest.dropWhile isSpace)).isSome) ||
    ((afterWord "password" s).any fun rest => (rest.dropWhile isSpace).head?.any (isAmong "=:")) ||
    ((afterWord "-----begin " s).any
      (afterRun (fun u => isUpper u || isLower u || u = unit ' ') fun rest => (afterWord "private key-----" rest).isSome)) ||
    joinedWords "access" "key" s || joinedWords "secret" "key" s || joinedWords "connection" "string" s

/-- `CREDENTIAL_TEXT.test(s)`. -/
def credentialText : JsString → Bool
  | [] => credentialHere []
  | u :: s => credentialHere (u :: s) || credentialText s

example : credentialText (js "x Authorization :  Bearer y") = true := by decide +kernel

end Mirror.Reproduction
