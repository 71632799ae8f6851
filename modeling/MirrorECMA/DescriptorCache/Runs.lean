import MirrorECMA.DescriptorCache.Cache
import MirrorECMA.ModelInterface.DescriptorIdentity

namespace Mirror.DescriptorCache

open ECMA ModelInterface

/-! ### Histories -/

inductive Operation where
  | put (value : Unknown)
  | get (semanticDigest : SemanticDigest)
  | require (semanticDigest : SemanticDigest)
  | mostRecentDigest

section

variable [Sha256]

def Operation.run (cache : Cache) : Operation → Cache
  | .put value => (cache.put value).2
  | .get digest => (cache.get digest).2
  | .require digest => (cache.require digest).2
  | .mostRecentDigest => cache.mostRecentDigest.2

/-- The digest of the entry that a call put or got. -/
def Operation.used (cache : Cache) : Operation → Option SemanticDigest
  | .put value => (cache.put value).1.toOption.map (·.semanticDigest)
  | .get digest => ((cache.get digest).1.toOption.join).map (·.semanticDigest)
  | .require digest => (cache.require digest).1.toOption.map (·.semanticDigest)
  | .mostRecentDigest => cache.mostRecentDigest.1.toOption.join

def runAll (cache : Cache) : List Operation → Cache
  | [] => cache
  | operation :: rest => runAll (operation.run cache) rest

def uses (cache : Cache) : List Operation → List SemanticDigest
  | [] => []
  | operation :: rest => (operation.used cache).toList ++ uses (operation.run cache) rest

end

/-- The values that a history puts. -/
def puts (operations : List Operation) : List Unknown :=
  operations.filterMap fun
    | .put value => some value
    | _ => none

/-- The digests in the order of their last use. -/
def lastUses (used : List SemanticDigest) : List SemanticDigest :=
  used.foldl (fun order digest => order.erase digest ++ [digest]) []

/-! ### What the fields of a cache mean -/

def bytesOf (entries : JsMap SemanticDigest CacheEntry) : Nat :=
  (entries.map fun entry => entry.2.canonicalBytes.length).sum

/-- Both limits are met. -/
def Within (cache : Cache) (entries : JsMap SemanticDigest CacheEntry) : Prop :=
  entries.length ≤ cache.maxEntries ∧ bytesOf entries ≤ cache.maxBytes

/-- The entry holds its descriptor's canonical bytes and lies under its descriptor's digest. -/
structure Own [Sha256] (digest : SemanticDigest) (entry : CacheEntry) : Prop where
  decoded : decodeSemanticDescriptor (some entry.descriptor.toJson) = .ok entry.descriptor
  bytes : canonicalSemanticDescriptorBytes (some entry.descriptor.toJson) = .ok entry.canonicalBytes
  hashed : semanticDescriptorDigest (some entry.descriptor.toJson) = .ok digest
  key : entry.semanticDigest = digest

structure Consistent [Sha256] (cache : Cache) : Prop where
  byteSize : cache.byteSize = bytesOf cache.entries
  within : Within cache cache.entries
  distinct : cache.entries.Distinct
  own : ∀ slot ∈ cache.entries, Own slot.1 slot.2

theorem bytesOf_perm {entries others : JsMap SemanticDigest CacheEntry} (perm : entries.Perm others) :
    bytesOf entries = bytesOf others := (perm.map _).sum_nat

theorem bytesOf_append (entries others : JsMap SemanticDigest CacheEntry) :
    bytesOf (entries ++ others) = bytesOf entries + bytesOf others := by
  simp only [bytesOf, List.map_append, List.sum_append]

/-! ### Eviction -/

/-- No shorter run of oldest entries would do. -/
structure Evicts (cache : Cache) (entries rest : JsMap SemanticDigest CacheEntry) (count : Nat) : Prop where
  dropped : rest = entries.drop count
  enough : Within cache rest
  least : ∀ fewer < count, ¬ Within cache (entries.drop fewer)

theorem evictOldest_evicts (cache : Cache) (entries : JsMap SemanticDigest CacheEntry) :
    ∃ count rest, evictOldest cache.maxEntries cache.maxBytes entries (bytesOf entries) =
        (rest, (bytesOf rest : Int)) ∧
      Evicts cache entries rest count := by
  induction entries with
  | nil => exact ⟨0, [], rfl, rfl, ⟨Nat.zero_le _, Nat.zero_le _⟩, fun _ small => absurd small (Nat.not_lt_zero _)⟩
  | cons oldest entries ih =>
    by_cases past : (oldest :: entries).length > cache.maxEntries ∨ (bytesOf (oldest :: entries) : Int) > cache.maxBytes
    · rcases ih with ⟨count, rest, evicted, dropped, enough, least⟩
      have stored : (bytesOf (oldest :: entries) : Int) - oldest.2.canonicalBytes.length = bytesOf entries := by
        simp only [bytesOf, List.map_cons, List.sum_cons]
        omega
      refine ⟨count + 1, rest, ?_, dropped, enough, fun fewer small fits => ?_⟩
      · rw [evictOldest, if_pos past, stored, evicted]
      · cases fewer with
        | zero =>
          rcases past with past | past
          · exact absurd fits.1 (Nat.not_le_of_gt past)
          · exact absurd fits.2 (Nat.not_le_of_gt (Int.ofNat_lt.mp past))
        | succ fewer => exact least fewer (Nat.lt_of_succ_lt_succ small) fits
    · have fits : Within cache (oldest :: entries) := by
        rw [not_or] at past
        exact ⟨Nat.not_lt.mp past.1, Int.ofNat_le.mp (Int.not_lt.mp past.2)⟩
      refine ⟨0, oldest :: entries, ?_, rfl, fits, fun _ small => absurd small (Nat.not_lt_zero _)⟩
      rw [evictOldest, if_neg past]

/-- The newest entry stays when it meets the limits alone. -/
theorem Evicts.keeps_last {cache : Cache} {entries rest : JsMap SemanticDigest CacheEntry}
    {newest : SemanticDigest × CacheEntry} {count : Nat} (evicts : Evicts cache (entries ++ [newest]) rest count)
    (fits : Within cache [newest]) : rest = entries.drop count ++ [newest] := by
  have bound : count ≤ entries.length := by
    apply Nat.le_of_not_lt
    intro beyond
    apply evicts.least entries.length beyond
    rwa [List.drop_left]
  rw [evicts.dropped, List.drop_append_of_le_length bound]

/-! ### Entries that hold what `put` stored verify -/

theorem decoded_again {value : Unknown} {descriptor : SemanticDescriptor}
    (decoded : decodeSemanticDescriptor value = .ok descriptor) :
    decodeSemanticDescriptor (some descriptor.toJson) = .ok descriptor := by
  rcases decodeSemanticDescriptor_accepted decoded with ⟨wellFormed, fits⟩
  exact decodeSemanticDescriptor_plain wellFormed fits

theorem message_again {value : Unknown} {descriptor : SemanticDescriptor}
    (decoded : decodeSemanticDescriptor value = .ok descriptor) :
    semanticDescriptorMessage (some descriptor.toJson) = semanticDescriptorMessage value := by
  rw [semanticDescriptorMessage_written (decoded_again decoded), semanticDescriptorMessage_written decoded]

section

variable [Sha256]

theorem checkEntry_own {digest : SemanticDigest} {entry : CacheEntry} (own : Own digest entry) :
    checkEntry entry = .ok ⟨digest, entry.canonicalBytes.length, entry.descriptor, entry.canonicalBytes⟩ := by
  simp [checkEntry, own.decoded, own.bytes, own.hashed, own.key]

theorem verifyEntry_own {digest : SemanticDigest} {entry : CacheEntry} (own : Own digest entry) (cache : Cache) :
    cache.verifyEntry entry =
      (.ok ⟨digest, entry.canonicalBytes.length, entry.descriptor, entry.canonicalBytes⟩, cache) := by
  rw [Cache.verifyEntry, checkEntry_own own]

theorem admit_ok {cache : Cache} {value : Unknown} {descriptor : SemanticDescriptor} {bytes : List UInt8}
    {digest : SemanticDigest} (admitted : cache.admit value = .ok (descriptor, bytes, digest)) (identity : Nat) :
    decodeSemanticDescriptor value = .ok descriptor ∧ bytes.length ≤ cache.maxBytes ∧
      Own digest ⟨identity, digest, descriptor, bytes⟩ := by
  simp only [ Cache.admit, bind_eq_ok, mapError_eq_ok] at admitted
  rcases admitted with ⟨found, decoded, canonical, rendered, admitted⟩
  split at admitted
  · cases admitted
  · rename_i small
    simp only [bind_eq_ok, mapError_eq_ok, pure_eq_ok, Except.ok.injEq, Prod.mk.injEq] at admitted
    rcases admitted with ⟨hashed, sha, rfl, rfl, rfl⟩
    rw [not_or] at small
    exact ⟨decoded, Nat.not_lt.mp small.2, decoded_again decoded, rendered, sha, rfl⟩

/-- Equal digests come from equal bytes when the two hashed messages do not collide. -/
theorem bytes_of_digest {value other : Unknown} {digest : SemanticDigest} {entry otherEntry : CacheEntry}
    (own : Own digest entry) (otherOwn : Own digest otherEntry)
    (stored : semanticDescriptorMessage value = semanticDescriptorMessage (some entry.descriptor.toJson))
    (otherStored : semanticDescriptorMessage other = semanticDescriptorMessage (some otherEntry.descriptor.toJson))
    (collisionFree : CollisionFree value other) : entry.canonicalBytes = otherEntry.canonicalBytes := by
  rcases semanticDescriptorDigest_message own.hashed with ⟨message, hashed, hex⟩
  rcases semanticDescriptorDigest_message otherOwn.hashed with ⟨otherMessage, otherHashed, otherHex⟩
  have same := collisionFree message otherMessage (stored.trans hashed) (otherStored.trans otherHashed)
    (hex.trans otherHex.symm)
  rw [semanticDescriptorMessage, own.bytes] at hashed
  rw [semanticDescriptorMessage, otherOwn.bytes] at otherHashed
  have left := Except.ok.inj hashed
  have right := Except.ok.inj otherHashed
  rw [← left, ← right] at same
  exact (List.cons.inj (List.append_cancel_left same)).2

/-! ### What one call does -/

/-- The entry goes last and the oldest entries over the limits go. -/
structure Moved (cache after : Cache) (digest : SemanticDigest) (entry : CacheEntry) (count : Nat) : Prop where
  limits : after.maxEntries = cache.maxEntries ∧ after.maxBytes = cache.maxBytes
  evicts : Evicts cache (cache.entries.delete digest ++ [(digest, entry)]) after.entries count
  last : after.entries = (cache.entries.delete digest).drop count ++ [(digest, entry)]
  stored : after.storedBytes = bytesOf after.entries

theorem touch_moved {cache : Cache} (consistent : Consistent cache) {digest : SemanticDigest} {entry : CacheEntry}
    (found : cache.entries.get digest = some entry) : Moved cache (cache.touch digest entry) digest entry 0 := by
  have entries : (cache.touch digest entry).entries = cache.entries.delete digest ++ [(digest, entry)] :=
    JsMap.set_fresh (JsMap.not_mem_delete cache.entries digest) entry
  have perm : cache.entries.Perm (cache.touch digest entry).entries := by
    rw [entries]
    exact (JsMap.perm_delete consistent.distinct found).trans (List.perm_append_singleton _ _).symm
  have bytes : bytesOf (cache.touch digest entry).entries = bytesOf cache.entries := (bytesOf_perm perm).symm
  have within : Within cache (cache.touch digest entry).entries := by
    refine ⟨?_, bytes ▸ consistent.within.2⟩
    rw [← perm.length_eq]
    exact consistent.within.1
  refine ⟨⟨rfl, rfl⟩, ⟨?_, within, fun _ small => absurd small (Nat.not_lt_zero _)⟩, entries, ?_⟩
  · rw [entries, List.drop_zero]
  · rw [bytes]
    exact consistent.byteSize

theorem insert_moved {cache : Cache} (consistent : Consistent cache) (positive : 0 < cache.maxEntries)
    {digest : SemanticDigest} {entry : CacheEntry} (missing : cache.entries.get digest = none)
    (small : entry.canonicalBytes.length ≤ cache.maxBytes) :
    ∃ count, Moved cache (Cache.evictToQuota { cache with
      entries := cache.entries.set digest entry
      storedBytes := cache.storedBytes + entry.canonicalBytes.length
      created := cache.created + 1 }) digest entry count := by
  have fresh := JsMap.get_eq_none.mp missing
  have entries : cache.entries.set digest entry = cache.entries.delete digest ++ [(digest, entry)] := by
    rw [JsMap.delete_fresh fresh, JsMap.set_fresh fresh]
  have stored : cache.storedBytes + entry.canonicalBytes.length =
      bytesOf (cache.entries.delete digest ++ [(digest, entry)]) := by
    have size : cache.storedBytes = bytesOf cache.entries := consistent.byteSize
    have added : bytesOf [(digest, entry)] = entry.canonicalBytes.length := by simp [bytesOf]
    rw [size, bytesOf_append, JsMap.delete_fresh fresh, added, Int.natCast_add]
  have alone : Within cache [(digest, entry)] := by
    refine ⟨positive, ?_⟩
    simpa [bytesOf] using small
  rcases evictOldest_evicts cache (cache.entries.delete digest ++ [(digest, entry)]) with ⟨count, rest, evicted, evicts⟩
  refine ⟨count, ?_⟩
  rw [Cache.evictToQuota, entries, stored, evicted]
  exact ⟨⟨rfl, rfl⟩, evicts, evicts.keeps_last alone, rfl⟩

/-- Every entry was put with one of the values. -/
def PutWith (values : List Unknown) (cache : Cache) : Prop :=
  ∀ slot ∈ cache.entries, ∃ value ∈ values,
    semanticDescriptorMessage value = semanticDescriptorMessage (some slot.2.descriptor.toJson)

theorem put_cases {cache : Cache} (consistent : Consistent cache) (positive : 0 < cache.maxEntries)
    {values : List Unknown} (known : PutWith values cache) {value : Unknown}
    (collisionFree : ∀ other ∈ values, CollisionFree other value) :
    (∃ failure, cache.put value = (.error failure, cache)) ∨
      ∃ digest entry verified after count, cache.put value = (.ok verified, after) ∧ verified.semanticDigest = digest ∧
        semanticDescriptorDigest value = .ok digest ∧ canonicalSemanticDescriptorBytes value = .ok entry.canonicalBytes ∧
        Own digest entry ∧ Moved cache after digest entry count ∧
        semanticDescriptorMessage value = semanticDescriptorMessage (some entry.descriptor.toJson) := by
  cases admitted : cache.admit value with
  | error failure => exact .inl ⟨failure, by rw [Cache.put, admitted]⟩
  | ok parts =>
    rcases parts with ⟨descriptor, bytes, digest⟩
    rcases admit_ok admitted cache.created with ⟨decoded, small, own⟩
    have message := message_again decoded
    have hashed : semanticDescriptorDigest value = .ok digest := by
      rw [semanticDescriptorDigest, ← message]
      exact own.hashed
    have rendered : canonicalSemanticDescriptorBytes value = .ok bytes := by
      have same := own.bytes
      rw [canonicalSemanticDescriptorBytes, canonicalSemanticDescriptorString_written own.decoded] at same
      rw [canonicalSemanticDescriptorBytes, canonicalSemanticDescriptorString_written decoded]
      exact same
    cases found : cache.entries.get digest with
    | none =>
      have fits : (⟨cache.created, digest, descriptor, bytes⟩ : CacheEntry).canonicalBytes.length ≤ cache.maxBytes := small
      rcases insert_moved consistent positive found fits with ⟨count, moved⟩
      refine .inr ⟨digest, _, ⟨digest, bytes.length, descriptor, bytes⟩, _, count, ?_, rfl, hashed, rendered, own, moved,
        message.symm⟩
      rw [Cache.put, admitted]
      simp only [found]
      exact verifyEntry_own own _
    | some existing =>
      have member := JsMap.mem_of_get found
      have existingOwn := consistent.own _ member
      rcases known _ member with ⟨other, inside, stored⟩
      have same : existing.canonicalBytes = bytes := bytes_of_digest existingOwn own stored message.symm (collisionFree other inside)
      refine .inr ⟨digest, existing, ⟨digest, existing.canonicalBytes.length, existing.descriptor,
        existing.canonicalBytes⟩, cache.touch digest existing, 0, ?_, rfl, hashed, ?_, existingOwn,
        touch_moved consistent found, ?_⟩
      · rw [Cache.put, admitted]
        simp only [found, verifyEntry_own existingOwn, same, ne_eq, not_true_eq_false, ↓reduceIte]
      · rw [same]
        exact rendered
      · rw [semanticDescriptorMessage, rendered, semanticDescriptorMessage, existingOwn.bytes, same]

theorem get_cases {cache : Cache} (consistent : Consistent cache) (digest : SemanticDigest) :
    (cache.get digest = (.ok none, cache) ∧ digest ∉ cache.entries.keys) ∨
      ∃ entry after, (digest, entry) ∈ cache.entries ∧ Moved cache after digest entry 0 ∧ cache.get digest =
        (.ok (some ⟨digest, entry.canonicalBytes.length, entry.descriptor, entry.canonicalBytes⟩), after) := by
  cases found : cache.entries.get digest with
  | none => exact .inl ⟨by rw [Cache.get, found], JsMap.get_eq_none.mp found⟩
  | some entry =>
    have member := JsMap.mem_of_get found
    refine .inr ⟨entry, cache.touch digest entry, member, touch_moved consistent found, ?_⟩
    rw [Cache.get, found]
    simp only [verifyEntry_own (consistent.own _ member)]

/-! ### Whole histories -/

theorem Moved.member {cache after : Cache} {digest : SemanticDigest} {entry : CacheEntry} {count : Nat}
    (moved : Moved cache after digest entry count) {slot : SemanticDigest × CacheEntry} (member : slot ∈ after.entries) :
    slot ∈ cache.entries ∨ slot = (digest, entry) := by
  rw [moved.last] at member
  rcases List.mem_append.mp member with old | new
  · exact .inl ((JsMap.delete_sublist _ _).subset (List.mem_of_mem_drop old))
  · exact .inr (List.mem_singleton.mp new)

theorem Moved.keys {cache after : Cache} {digest : SemanticDigest} {entry : CacheEntry} {count : Nat}
    (moved : Moved cache after digest entry count) :
    after.entries.keys.Sublist ((cache.entries.delete digest).keys ++ [digest]) := by
  rw [moved.last, JsMap.keys, List.map_append]
  exact ((List.drop_sublist _ _).map _).append_right _

theorem Moved.consistent {cache after : Cache} {digest : SemanticDigest} {entry : CacheEntry} {count : Nat}
    (moved : Moved cache after digest entry count) (consistent : Consistent cache) (own : Own digest entry) :
    Consistent after where
  byteSize := moved.stored
  within := by
    rw [Within, moved.limits.1, moved.limits.2]
    exact moved.evicts.enough
  distinct := by
    apply moved.keys.nodup
    apply List.nodup_append.mpr
    refine ⟨((JsMap.delete_sublist _ _).map _).nodup consistent.distinct, List.nodup_singleton _, ?_⟩
    intro key inside other last same
    rw [List.mem_singleton.mp last] at same
    exact JsMap.not_mem_delete cache.entries digest (same ▸ inside)
  own slot member := by
    rcases moved.member member with old | rfl
    · exact consistent.own slot old
    · exact own

/-- What holds between the calls, given the values put and the digests used so far. -/
structure Steady (values : List Unknown) (used : List SemanticDigest) (cache : Cache) : Prop where
  consistent : Consistent cache
  positive : 0 < cache.maxEntries
  known : PutWith values cache
  recency : cache.entries.keys.Sublist (lastUses used)

theorem lastUses_append (used : List SemanticDigest) (digest : SemanticDigest) :
    lastUses (used ++ [digest]) = (lastUses used).erase digest ++ [digest] := by
  rw [lastUses, List.foldl_append]
  rfl

theorem Moved.steady {cache after : Cache} {digest : SemanticDigest} {entry : CacheEntry} {count : Nat}
    (moved : Moved cache after digest entry count) {values : List Unknown} {used : List SemanticDigest}
    (steady : Steady values used cache) (own : Own digest entry)
    (stored : ∃ value ∈ values, semanticDescriptorMessage value = semanticDescriptorMessage (some entry.descriptor.toJson)) :
    Steady values (used ++ [digest]) after where
  consistent := moved.consistent steady.consistent own
  positive := by rw [moved.limits.1]; exact steady.positive
  known slot member := by
    rcases moved.member member with old | rfl
    · exact steady.known slot old
    · exact stored
  recency := by
    rw [lastUses_append]
    apply moved.keys.trans
    apply List.Sublist.append_right
    have erased : (cache.entries.delete digest).keys = cache.entries.keys.erase digest := by
      rw [JsMap.keys_delete, List.Nodup.erase_eq_filter steady.consistent.distinct]
      congr 1
      funext key
      by_cases same : key = digest <;> simp [same]
    rw [erased]
    exact steady.recency.erase digest

theorem Steady.weaken {values more : List Unknown} {used : List SemanticDigest} {cache : Cache}
    (steady : Steady values used cache) : Steady (values ++ more) used cache where
  consistent := steady.consistent
  positive := steady.positive
  known slot member := by
    rcases steady.known slot member with ⟨value, inside, stored⟩
    exact ⟨value, List.mem_append_left _ inside, stored⟩
  recency := steady.recency

theorem get_steady {values : List Unknown} {used : List SemanticDigest} {cache : Cache}
    (steady : Steady values used cache) (digest : SemanticDigest) :
    Steady values (used ++ ((cache.get digest).1.toOption.join.map (·.semanticDigest)).toList) (cache.get digest).2 := by
  rcases get_cases steady.consistent digest with ⟨missed, -⟩ | ⟨entry, after, member, moved, got⟩
  · rw [missed]
    simpa [Except.toOption] using steady
  · have own := steady.consistent.own (digest, entry) member
    have stored := steady.known (digest, entry) member
    rw [got]
    exact moved.steady steady own stored

theorem require_eq (cache : Cache) (digest : SemanticDigest) :
    (cache.require digest).2 = (cache.get digest).2 ∧
      (cache.require digest).1.toOption = (cache.get digest).1.toOption.join := by
  unfold Cache.require
  split <;> rename_i same <;> rw [same] <;> exact ⟨rfl, rfl⟩

theorem step_steady {values : List Unknown} {used : List SemanticDigest} {cache : Cache}
    (steady : Steady values used cache) (operation : Operation)
    (collisionFree : ∀ other ∈ values, ∀ value ∈ puts [operation], CollisionFree other value) :
    Steady (values ++ puts [operation]) (used ++ (operation.used cache).toList) (operation.run cache) := by
  cases operation with
  | put value =>
    have free (other : Unknown) (inside : other ∈ values) := collisionFree other inside value (by simp [puts])
    rcases put_cases steady.consistent steady.positive steady.known free with
      ⟨failure, failed⟩ | ⟨digest, entry, verified, after, count, done, same, -, -, own, moved, stored⟩
    · simp only [Operation.run, Operation.used, failed, Except.toOption, Option.map_none, Option.toList_none,
        List.append_nil]
      exact steady.weaken
    · simp only [Operation.run, Operation.used, done, Except.toOption, Option.map_some, Option.toList_some, same]
      exact moved.steady steady.weaken own ⟨value, by simp [puts], stored⟩
  | get digest => exact (get_steady steady digest).weaken
  | require digest =>
    simp only [Operation.run, Operation.used, (require_eq cache digest).1, (require_eq cache digest).2]
    exact (get_steady steady digest).weaken
  | mostRecentDigest =>
    simp only [Operation.run, Operation.used]
    unfold Cache.mostRecentDigest
    cases last : cache.entries.keys.getLast? with
    | none =>
      simp only [Except.toOption, Option.join_some, Option.toList_none, List.append_nil]
      exact steady.weaken
    | some digest =>
      rcases get_cases steady.consistent digest with ⟨-, missing⟩ | ⟨entry, after, member, moved, got⟩
      · exact absurd (List.mem_of_getLast? last) missing
      · have own := steady.consistent.own (digest, entry) member
        have stored := steady.known (digest, entry) member
        simp only [got, Except.toOption, Option.join_some, Option.toList_some]
        exact (moved.steady steady own stored).weaken

theorem run_steady {values : List Unknown} {used : List SemanticDigest} {cache : Cache}
    (steady : Steady values used cache) (operations : List Operation)
    (collisionFree : ∀ other ∈ values ++ puts operations, ∀ value ∈ puts operations, CollisionFree other value) :
    Steady (values ++ puts operations) (used ++ uses cache operations) (runAll cache operations) := by
  induction operations generalizing values used cache with
  | nil => simpa [puts, uses, runAll] using steady
  | cons operation rest ih =>
    have split : puts (operation :: rest) = puts [operation] ++ puts rest := List.filterMap_append (l := [operation])
    rw [split, ← List.append_assoc] at collisionFree ⊢
    have step := step_steady steady operation fun other inside value member =>
      collisionFree other (List.mem_append_left _ (List.mem_append_left _ inside)) value (List.mem_append_left _ member)
    have later := ih step fun other inside value member => collisionFree other inside value (List.mem_append_right _ member)
    rwa [List.append_assoc used] at later

theorem create_steady {maxEntries maxBytes : Option Double} {cache : Cache}
    (created : Cache.create maxEntries maxBytes = .ok cache) : Steady [] [] cache := by
  simp only [Cache.create, bind_eq_ok, pure_eq_ok, Except.ok.injEq] at created
  rcases created with ⟨entries, positive, bytes, -, rfl⟩
  unfold positiveSafeInteger at positive
  split at positive
  · cases positive
  · rename_i valid
    rw [not_or] at valid
    have size : 0 < entries := by
      have value := Except.ok.inj positive
      omega
    refine ⟨⟨rfl, ⟨Nat.zero_le _, Nat.zero_le _⟩, List.nodup_nil, ?_⟩, size, ?_, List.Sublist.refl _⟩
    · intro slot member
      cases member
    · intro slot member
      cases member

/-- A put changes nothing when it throws. Else the descriptor's entry is the most recent one, and no more of the least
recently used entries are gone than the limits ask for. -/
structure PutEffect (cache : Cache) (value : Unknown) : Prop where
  thrown : ∀ failure after, cache.put value = (.error failure, after) → after = cache
  stored : ∀ cached after, cache.put value = (.ok cached, after) → ∃ entry count,
    semanticDescriptorDigest value = .ok cached.semanticDigest ∧
      canonicalSemanticDescriptorBytes value = .ok entry.canonicalBytes ∧
      after.entries.getLast? = some (cached.semanticDigest, entry) ∧
      Evicts cache (cache.entries.delete cached.semanticDigest ++ [(cached.semanticDigest, entry)]) after.entries count

/-- A get changes nothing when it throws or misses, else its entry becomes the most recent one. -/
structure GetEffect (cache : Cache) (digest : SemanticDigest) : Prop where
  thrown : ∀ failure after, cache.get digest = (.error failure, after) → after = cache
  missed : ∀ after, cache.get digest = (.ok none, after) → after = cache ∧ digest ∉ cache.entries.keys
  found : ∀ cached after, cache.get digest = (.ok (some cached), after) → ∃ entry, (digest, entry) ∈ cache.entries ∧
    after.entries = cache.entries.delete digest ++ [(digest, entry)]
  required : ∀ failure after, cache.require digest = (.error failure, after) → after = cache

theorem put_effect {values : List Unknown} {used : List SemanticDigest} {cache : Cache}
    (steady : Steady values used cache) {value : Unknown}
    (collisionFree : ∀ other ∈ values, CollisionFree other value) : PutEffect cache value := by
  rcases put_cases steady.consistent steady.positive steady.known collisionFree with
    ⟨failure, failed⟩ | ⟨digest, entry, verified, after, count, done, rfl, hashed, rendered, -, moved, -⟩
  · constructor
    · intro _ after same
      rw [failed] at same
      exact (Prod.mk.inj same).2.symm
    · intro _ _ same
      rw [failed] at same
      cases (Prod.mk.inj same).1
  · constructor
    · intro _ _ same
      rw [done] at same
      cases (Prod.mk.inj same).1
    · intro _ _ same
      rw [done] at same
      rcases Prod.mk.inj same with ⟨result, rfl⟩
      cases result
      refine ⟨entry, count, hashed, rendered, ?_, moved.evicts⟩
      rw [moved.last, List.getLast?_append]
      rfl

theorem get_effect {values : List Unknown} {used : List SemanticDigest} {cache : Cache}
    (steady : Steady values used cache) (digest : SemanticDigest) : GetEffect cache digest := by
  have require (after : Cache) (state : (cache.get digest).2 = after) : (cache.require digest).2 = after := by
    rw [(require_eq cache digest).1, state]
  rcases get_cases steady.consistent digest with ⟨missed, missing⟩ | ⟨entry, after, member, moved, got⟩
  · constructor
    · intro _ _ same
      rw [missed] at same
      cases (Prod.mk.inj same).1
    · intro _ same
      rw [missed] at same
      exact ⟨(Prod.mk.inj same).2.symm, missing⟩
    · intro _ _ same
      rw [missed] at same
      cases (Prod.mk.inj same).1
    · intro _ after same
      have state := require cache (by rw [missed])
      rw [same] at state
      exact state
  · constructor
    · intro _ _ same
      rw [got] at same
      cases (Prod.mk.inj same).1
    · intro _ same
      rw [got] at same
      cases (Prod.mk.inj same).1
    · intro _ _ same
      rw [got] at same
      rcases Prod.mk.inj same with ⟨-, rfl⟩
      exact ⟨entry, member, moved.last⟩
    · intro _ _ same
      rw [Cache.require, got] at same
      cases (Prod.mk.inj same).1

theorem puts_append (earlier later : List Operation) : puts (earlier ++ later) = puts earlier ++ puts later :=
  List.filterMap_append

/-- The counters, the quotas, the keys and the recency of a cache agree after every history of calls. -/
theorem cache_history {maxEntries maxBytes : Option Double} {empty : Cache}
    (created : Cache.create maxEntries maxBytes = .ok empty) (operations : List Operation)
    (collisionFree : ∀ value ∈ puts operations, ∀ other ∈ puts operations, CollisionFree value other) :
    (∀ earlier later, operations = earlier ++ later →
      Consistent (runAll empty earlier) ∧
        (runAll empty earlier).entries.keys.Sublist (lastUses (uses empty earlier)) ∧
        ∀ digest, GetEffect (runAll empty earlier) digest) ∧
      ∀ earlier value later, operations = earlier ++ .put value :: later → PutEffect (runAll empty earlier) value := by
  have steady (earlier later : List Operation) (same : operations = earlier ++ later) :
      Steady (puts earlier) (uses empty earlier) (runAll empty earlier) := by
    have free : ∀ other ∈ [] ++ puts earlier, ∀ value ∈ puts earlier, CollisionFree other value := by
      intro other inside value member
      rw [same, puts_append] at collisionFree
      exact collisionFree other (List.mem_append_left _ inside) value (List.mem_append_left _ member)
    simpa using run_steady (create_steady created) earlier free
  constructor
  · intro earlier later same
    have reached := steady earlier later same
    exact ⟨reached.consistent, reached.recency, get_effect reached⟩
  · intro earlier value later same
    apply put_effect (steady earlier (.put value :: later) same)
    intro other inside
    rw [same, puts_append] at collisionFree
    have put : value ∈ puts (.put value :: later) := by simp [puts]
    exact collisionFree other (List.mem_append_left _ inside) value (List.mem_append_right _ put)

end

/-- A cache of one entry after two puts of descriptors that differ in the order of a set only. -/
theorem flags_history : ∃ empty, Cache.create (some (.ofNat 1)) none = .ok empty ∧
    letI : Sha256 := ⟨fun _ => js "0cbbdd69c2232a9d19ad6dad77df8f608fe3afa3baebb5328b1657980075b93d"⟩
    Consistent (runAll empty [.put (some (counter (flags true false)).toJson),
      .put (some (counter (flags false true)).toJson)]) := by
  let _ : Sha256 := ⟨fun _ => js "0cbbdd69c2232a9d19ad6dad77df8f608fe3afa3baebb5328b1657980075b93d"⟩
  have created : Cache.create (some (.ofNat 1)) none =
      .ok { maxEntries := 1, maxBytes := DEFAULT_DESCRIPTOR_CACHE_BYTES } := rfl
  have message (first second : Bool) : semanticDescriptorMessage (some (counter (flags first second)).toJson) =
      .ok (utf8Bytes (js MODEL_INTERFACE_DESCRIPTOR_DIGEST_DOMAIN) ++
        0 :: utf8Bytes (written (counter (flags first second)).canonical.toJson).render) :=
    semanticDescriptorMessage_written (flags_decoded first second)
  have same : (counter (flags true false)).canonical = (counter (flags false true)).canonical :=
    (counter_reordered (flags_reordered true false)).canonical (counter_wellFormed (flags_accepted true false))
      (counter_keysDistinct (flags_keysDistinct true false))
  have hashed : ∀ value ∈ puts [.put (some (counter (flags true false)).toJson),
      .put (some (counter (flags false true)).toJson)], semanticDescriptorMessage value =
        semanticDescriptorMessage (some (counter (flags true false)).toJson) := by
    intro value member
    have cases : value = some (counter (flags true false)).toJson ∨ value = some (counter (flags false true)).toJson := by
      simpa [puts] using member
    rcases cases with rfl | rfl
    · rfl
    · rw [message, message, same]
  refine ⟨_, created, ((cache_history created _ ?_).1 _ [] (List.append_nil _).symm).1⟩
  intro value member other inside first second left right _
  have both := (hashed value member).trans (hashed other inside).symm
  exact Except.ok.inj (left.symm.trans (both.trans right))

end Mirror.DescriptorCache
