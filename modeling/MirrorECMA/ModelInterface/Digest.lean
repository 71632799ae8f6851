import MirrorECMA.ECMA.Utf8
import MirrorECMA.ModelInterface.Decode

namespace Mirror.ModelInterface

open ECMA

/-- The hexadecimal digest of `createHash("sha256")` over the bytes of all updates. -/
class Sha256 where
  hexDigest : List UInt8 → JsString

def isLowerHexDigit (u : CodeUnit) : Bool := isDigit u || (0x61 ≤ u.toNat && u.toNat ≤ 0x66)

/-- A semantic digest is 64 lowercase hexadecimal characters. -/
structure SemanticDigest where
  hex : JsString
  valid : hex.length = 64 ∧ hex.all isLowerHexDigit = true
  deriving DecidableEq

def semanticDigestFromHex (value : JsString) : Decoded SemanticDigest :=
  if valid : value.length = 64 ∧ value.all isLowerHexDigit = true then .ok ⟨value, valid⟩
  else fail (js "semanticDigest") (js "expected exactly 64 lowercase hexadecimal characters")

/-- Canonical UTF-8 bytes used by the semantic digest and descriptor cache. -/
def canonicalSemanticDescriptorBytes (value : Unknown) : Decoded (List UInt8) := do
  return utf8Bytes (← canonicalSemanticDescriptorString value)

/-- The bytes of the three updates of `semanticDescriptorDigest`. -/
def semanticDescriptorMessage (value : Unknown) : Decoded (List UInt8) := do
  return utf8Bytes (js MODEL_INTERFACE_DESCRIPTOR_DIGEST_DOMAIN) ++ 0 :: (← canonicalSemanticDescriptorBytes value)

/-- Domain-separated SHA-256 identity of the canonical semantic descriptor. -/
def semanticDescriptorDigest [Sha256] (value : Unknown) : Decoded SemanticDigest := do
  semanticDigestFromHex (Sha256.hexDigest (← semanticDescriptorMessage value))

end Mirror.ModelInterface
