import MirrorECMA.ECMA.JsMap
import MirrorECMA.ModelInterface.Digest
import MirrorECMA.ModelInterface.Plain

namespace Mirror.DescriptorCache

open ECMA ModelInterface

def DEFAULT_DESCRIPTOR_CACHE_ENTRIES : Nat := 128
def DEFAULT_DESCRIPTOR_CACHE_BYTES : Nat := 16 * 1024 * 1024

inductive DescriptorCacheErrorCode where
  | descriptor_cache_invalid_options
  | descriptor_cache_entry_too_large
  | descriptor_cache_corrupt
  | descriptor_cache_miss
  deriving DecidableEq

/-- What the methods throw: a `DescriptorCacheError`, or the error of a decoder they call. -/
inductive CacheFailure where
  | cache (code : DescriptorCacheErrorCode) (message : JsString)
  | protocol (error : ModelInterfaceProtocolError)
  deriving DecidableEq

structure CachedSemanticDescriptor where
  semanticDigest : SemanticDigest
  descriptorBytes : Nat
  descriptor : SemanticDescriptor
  canonicalBytes : List UInt8

/-- `identity` is what `!==` tells one entry object from another by. -/
structure CacheEntry where
  identity : Nat
  semanticDigest : SemanticDigest
  descriptor : SemanticDescriptor
  canonicalBytes : List UInt8

/-- The fields of the class; `created` counts the entry objects made so far. -/
structure Cache where
  maxEntries : Nat
  maxBytes : Nat
  entries : JsMap SemanticDigest CacheEntry := []
  storedBytes : Int := 0
  created : Nat := 0

abbrev Outcome (α : Type) := Except CacheFailure α

def positiveSafeInteger (value : Double) (name : JsString) : Outcome Nat :=
  if value.isSafeInteger = false ∨ value.toInt?.getD 0 ≤ 0 then
    .error (.cache .descriptor_cache_invalid_options (name ++ js " must be a positive safe integer"))
  else .ok (value.toInt?.getD 0).toNat

/-- The constructor, with its two options. -/
def Cache.create (maxEntries maxBytes : Option Double) : Outcome Cache := do
  let maxEntries ← positiveSafeInteger (maxEntries.getD (.ofNat DEFAULT_DESCRIPTOR_CACHE_ENTRIES)) (js "maxEntries")
  let maxBytes ← positiveSafeInteger (maxBytes.getD (.ofNat DEFAULT_DESCRIPTOR_CACHE_BYTES)) (js "maxBytes")
  return { maxEntries, maxBytes }

def Cache.size (cache : Cache) : Nat := cache.entries.length

def Cache.byteSize (cache : Cache) : Int := cache.storedBytes

def Cache.touch (cache : Cache) (digest : SemanticDigest) (entry : CacheEntry) : Cache :=
  { cache with entries := (cache.entries.delete digest).set digest entry }

def Cache.quarantine (cache : Cache) (digest : SemanticDigest) (entry : CacheEntry) : Cache :=
  if (cache.entries.get digest).map (·.identity) ≠ some entry.identity then cache
  else { cache with
    entries := cache.entries.delete digest
    storedBytes := cache.storedBytes - entry.canonicalBytes.length }

/-- The loop of `evictToQuota` over the map and the byte counter. -/
def evictOldest (maxEntries maxBytes : Nat) :
    JsMap SemanticDigest CacheEntry → Int → JsMap SemanticDigest CacheEntry × Int
  | [], stored => ([], stored)
  | oldest :: rest, stored =>
    if (oldest :: rest).length > maxEntries ∨ stored > maxBytes then
      evictOldest maxEntries maxBytes rest (stored - oldest.2.canonicalBytes.length)
    else (oldest :: rest, stored)

def Cache.evictToQuota (cache : Cache) : Cache :=
  let (entries, storedBytes) := evictOldest cache.maxEntries cache.maxBytes cache.entries cache.storedBytes
  { cache with entries, storedBytes }

section

variable [Sha256]

/-- The `try` block of `verifyEntry`; a failure keeps its message only. -/
def checkEntry (entry : CacheEntry) : Except JsString CachedSemanticDescriptor :=
  let recomputed : Decoded (SemanticDescriptor × List UInt8 × SemanticDigest) := do
    let descriptor ← decodeSemanticDescriptor (some entry.descriptor.toJson)
    let canonicalBytes ← canonicalSemanticDescriptorBytes (some descriptor.toJson)
    return (descriptor, canonicalBytes, ← semanticDescriptorDigest (some descriptor.toJson))
  match recomputed with
  | .error cause => .error cause.message
  | .ok (descriptor, canonicalBytes, digest) =>
    if digest ≠ entry.semanticDigest ∨ canonicalBytes ≠ entry.canonicalBytes then
      .error (js "cached descriptor identity mismatch")
    else .ok { semanticDigest := digest, descriptorBytes := canonicalBytes.length, descriptor, canonicalBytes }

def Cache.verifyEntry (cache : Cache) (entry : CacheEntry) : Outcome CachedSemanticDescriptor × Cache :=
  match checkEntry entry with
  | .ok verified => (.ok verified, cache)
  | .error message =>
    (.error (.cache .descriptor_cache_corrupt message), cache.quarantine entry.semanticDigest entry)

/-- What `put` computes before it looks at the entries. -/
def Cache.admit (cache : Cache) (value : Unknown) : Outcome (SemanticDescriptor × List UInt8 × SemanticDigest) := do
  let descriptor ← (decodeSemanticDescriptor value).mapError .protocol
  let canonicalBytes ← (canonicalSemanticDescriptorBytes (some descriptor.toJson)).mapError .protocol
  if canonicalBytes.length > MAX_MODEL_INTERFACE_DESCRIPTOR_BYTES ∨ canonicalBytes.length > cache.maxBytes then
    .error (.cache .descriptor_cache_entry_too_large (js "descriptor requires " ++ decimal canonicalBytes.length ++
      js " bytes; cache entry limit is " ++ decimal (min MAX_MODEL_INTERFACE_DESCRIPTOR_BYTES cache.maxBytes)))
  else
    let semanticDigest ← (semanticDescriptorDigest (some descriptor.toJson)).mapError .protocol
    return (descriptor, canonicalBytes, semanticDigest)

def Cache.put (cache : Cache) (value : Unknown) : Outcome CachedSemanticDescriptor × Cache :=
  match cache.admit value with
  | .error failure => (.error failure, cache)
  | .ok (descriptor, canonicalBytes, semanticDigest) =>
    match cache.entries.get semanticDigest with
    | some existing =>
      match cache.verifyEntry existing with
      | (.error failure, cache) => (.error failure, cache)
      | (.ok verified, cache) =>
        if verified.canonicalBytes ≠ canonicalBytes then
          (.error (.cache .descriptor_cache_corrupt
            (js "one semantic digest mapped to different canonical descriptor bytes")),
            cache.quarantine semanticDigest existing)
        else (.ok verified, cache.touch semanticDigest existing)
    | none =>
      let entry : CacheEntry := { identity := cache.created, semanticDigest, descriptor, canonicalBytes }
      let cache := { cache with
        entries := cache.entries.set semanticDigest entry
        storedBytes := cache.storedBytes + entry.canonicalBytes.length
        created := cache.created + 1 }
      cache.evictToQuota.verifyEntry entry

def Cache.get (cache : Cache) (semanticDigest : SemanticDigest) : Outcome (Option CachedSemanticDescriptor) × Cache :=
  match cache.entries.get semanticDigest with
  | none => (.ok none, cache)
  | some entry =>
    match cache.verifyEntry entry with
    | (.error failure, cache) => (.error failure, cache)
    | (.ok verified, cache) => (.ok (some verified), cache.touch semanticDigest entry)

def Cache.require (cache : Cache) (semanticDigest : SemanticDigest) : Outcome CachedSemanticDescriptor × Cache :=
  match cache.get semanticDigest with
  | (.error failure, cache) => (.error failure, cache)
  | (.ok (some entry), cache) => (.ok entry, cache)
  | (.ok none, cache) =>
    (.error (.cache .descriptor_cache_miss
      (js "descriptor " ++ semanticDigest.hex ++ js " is not present in the cache")), cache)

/-- Most-recent verified digest, suitable for a subsequent `ifNoneMatch`. -/
def Cache.mostRecentDigest (cache : Cache) : Outcome (Option SemanticDigest) × Cache :=
  match cache.entries.keys.getLast? with
  | none => (.ok none, cache)
  | some digest =>
    match cache.get digest with
    | (.error failure, cache) => (.error failure, cache)
    | (.ok _, cache) => (.ok (some digest), cache)

end

end Mirror.DescriptorCache
