import MirrorECMA.ECMA.Coerced
import MirrorECMA.Reproduction.Validate

namespace Mirror.Reproduction

open ECMA ECMA.Shape Mirror.ModelInterface
open ECMA.Reading (own_ok record_ok check_ok exact_ok array_ok text_ok integer_ok equalsText equalsText_iff sameKeys sameKeys_mem)

/-! ### Properties of a declared type -/

theorem has_string {value : Fields Json} {key location : String} {pattern : JsString → Bool} {s : JsString}
    (read : textOf value key location pattern = .ok s) : Has value key .string := by
  rcases bind_eq_ok.mp read with ⟨v, found, valid⟩
  exact ⟨v, own_ok.mp found, s, (text_ok.mp valid).1⟩

theorem has_number {value : Fields Json} {key location : String} {min max : Nat} {d : Double}
    (read : integerOf value key location min max = .ok d) : Has value key .number := by
  rcases bind_eq_ok.mp read with ⟨v, found, valid⟩
  exact ⟨v, own_ok.mp found, d, (integer_ok valid).1⟩

theorem has_one {value : Fields Json} {key : String} {v : Json} (found : own value key = .ok v) {literal : String}
    (equal : equalsText v literal = true) {members : List String} (among : literal ∈ members) : Has value key (.oneOf members) :=
  ⟨v, own_ok.mp found, literal, among, equalsText_iff.mp equal⟩

/-- No array stands under these keys. -/
def NoArray (value : Fields Json) (keys : List String) : Prop :=
  ∀ key ∈ keys, ∀ items, Fields.get value (js key) ≠ some (.array items)

theorem noArray_cons {value : Fields Json} {key : String} {keys : List String} :
    NoArray value (key :: keys) ↔ (∀ items, Fields.get value (js key) ≠ some (.array items)) ∧ NoArray value keys :=
  List.forall_mem_cons

theorem noArray_nil (value : Fields Json) : NoArray value [] ↔ True := by simp [NoArray]

theorem noArray_absent {value : Fields Json} {keys : List String} (same : sameKeys value keys = true) {key : String}
    (absent : key ∉ keys) : (∀ items, Fields.get value (js key) ≠ some (.array items)) ↔ True := by
  rw [iff_true]
  intro items found
  exact absent (sameKeys_mem same found)

section

variable [NumberNotation]

theorem coerced_has {value : Fields Json} {key : String} {members : List String} {code message : String}
    (words : ∀ m ∈ members, isWord m = true) (read : coerced value key members code message = .ok ()) :
    Has value key (.oneOf members) ↔ ∀ items, Fields.get value (js key) ≠ some (.array items) := by
  rcases bind_eq_ok.mp read with ⟨v, found, coerced⟩
  rw [own_ok] at found
  rw [has_iff found, found, Shape.Holds, Reading.coerced_words words coerced]
  simp

end

/-! ### The declared types -/

def EvidenceRunRef : Shape := .record [
  ("schemaVersion", .oneOf ["mirrors.evidence-envelope/v1.0", "mirrors.evidence-public-summary/v1.0"]),
  ("runId", .string), ("envelopeSha256", .string), ("projectionKind", .oneOf ["private", "public"])]

/-- Whatever `dirtyContent` is, it is of its type. -/
def EvidenceComponentRef : Shape := .record [
  ("componentId", .string), ("repository", .string), ("revision", .string), ("dirty", .boolean)]

def EvidenceArtifactRef : Shape := .record [
  ("artifactId", .string), ("mediaType", .string), ("role", .oneOf ARTIFACT_ROLES), ("bytes", .number), ("sha256", .string),
  ("visibility", .oneOf ["public", "private"]), ("requirement", .oneOf ["required", "optional"]), ("location", .anyRecord)]

def CatalogSelectionRef : Shape := .record [
  ("schemaVersion", .oneOf ["mirrors.framework-catalog/v1"]), ("selectionKind", .oneOf ["sha256", "git-revision"]),
  ("selectionValue", .string)]

def ReproductionEvidenceLinks : Shape := .record [
  ("runRef", EvidenceRunRef), ("componentRefs", .array EvidenceComponentRef), ("artifactRefs", .array EvidenceArtifactRef),
  ("catalogSelectionRef", CatalogSelectionRef)]

def ReproductionIdentities : Shape := .record [
  ("suite", .record [("id", .string), ("definitionSha256", .string)]),
  ("model", .record [("sourceClosureSha256", .string)]),
  ("corpus", .record [("orderedOccurrencesSha256", .string), ("traceCount", .number)]),
  ("generatedInterface", .record [("semanticDigest", .string), ("moduleSha256", .string), ("targetProfile", .string),
    ("stateComputerContractVersion", .string)]),
  ("implementation", .record [("admissionId", .string), ("closureSha256", .string)]),
  ("executionProfile", .record [("id", .string), ("sha256", .string)])]

def BehavioralMismatch : Shape := .record [
  ("kind", .oneOf ["behavioral_mismatch"]), ("code", .oneOf ["replay_mismatch"]), ("traceIndex", .number),
  ("stateIndex", .number), ("action", .string)]

def Timeout : Shape := .record [("kind", .oneOf ["timeout"]), ("stage", .oneOf STAGES), ("budgetMs", .number)]

def ExecutionError : Shape := .record [
  ("kind", .oneOf ["execution_error"]), ("origin", .oneOf ["observer", "implementation"]),
  ("stage", .oneOf ["factory", "action", "observation"]), ("code", .string)]

def CodecError : Shape := .record [
  ("kind", .oneOf ["codec_error"]), ("stage", .oneOf ["input", "observation", "protocol"]), ("code", .string)]

def CoverageUnmet : Shape := .record [("kind", .oneOf ["coverage_unmet"]), ("requirements", .array .string)]

def Cancellation : Shape := .record [("kind", .oneOf ["cancellation"]), ("stage", .oneOf STAGES), ("code", .string)]

def ReproductionPrimarySignature : Shape :=
  .either BehavioralMismatch (.either Timeout (.either ExecutionError (.either CodecError (.either CoverageUnmet Cancellation))))

def ReproductionCleanupSignature : Shape :=
  .either (.record [("status", .oneOf ["succeeded"])])
    (.record [("status", .oneOf ["failed", "unconfirmed"]), ("code", .string)])

def ReproductionSignature : Shape := .record [
  ("primary", .either ReproductionPrimarySignature .null), ("cleanup", ReproductionCleanupSignature)]

def ReproductionCaptureData : Shape :=
  .either (.record [("role", .string), ("kind", .oneOf ["inline"]), ("mediaType", .string), ("bytes", .number),
      ("sha256", .string), ("base64", .string)])
    (.record [("role", .string), ("kind", .oneOf ["external"]), ("type", .string), ("sha256", .string), ("resolver", .string)])

def ReproductionHandling : Shape := .record [
  ("consentPolicyId", .string), ("redactionProfileId", .string), ("accessPolicyId", .string), ("retentionUntil", .string),
  ("deletionPolicyId", .string)]

def ReproductionBundle : Shape := .record [
  ("schema", .oneOf ["mirrorecma.reproduction-bundle/v1"]), ("evidenceLinks", ReproductionEvidenceLinks),
  ("identities", ReproductionIdentities), ("signature", ReproductionSignature), ("captures", .array ReproductionCaptureData),
  ("handling", ReproductionHandling)]

/-! ### Validators that do not coerce -/

theorem validateRunRef_typed {value : Json} (valid : validateRunRef value = .ok ()) : EvidenceRunRef.Holds value := by
  simp only [validateRunRef, bind_eq_ok, record_ok, exact_ok, check_ok] at valid
  rcases valid with ⟨r, rfl, _, _, version, first, projection, second, _, paired, _, runId, _, sha256, _⟩
  rw [Bool.or_eq_true, Bool.and_eq_true, Bool.and_eq_true] at paired
  have kinds : Has r "schemaVersion" (.oneOf ["mirrors.evidence-envelope/v1.0", "mirrors.evidence-public-summary/v1.0"]) ∧
      Has r "projectionKind" (.oneOf ["private", "public"]) := by
    rcases paired with ⟨envelope, priv⟩ | ⟨summary, pub⟩
    · exact ⟨has_one first envelope (by simp), has_one second priv (by simp)⟩
    · exact ⟨has_one first summary (by simp), has_one second pub (by simp)⟩
  simp [EvidenceRunRef, kinds, has_string runId, has_string sha256]

theorem validateComponentRef_typed {value : Json} (valid : validateComponentRef value = .ok ()) :
    EvidenceComponentRef.Holds value := by
  simp only [validateComponentRef, bind_eq_ok, record_ok, exact_ok, check_ok] at valid
  rcases valid with ⟨r, rfl, dirty, found, _, _, _, componentId, _, repository, _, revision, boolean⟩
  have flag : Has r "dirty" .boolean := by
    refine ⟨dirty, own_ok.mp found, ?_⟩
    unfold isBoolean at boolean
    split at boolean
    · exact ⟨_, rfl⟩
    · cases boolean
  simp [EvidenceComponentRef, has_string componentId, has_string repository, has_string revision, flag]

theorem validateCatalogRef_typed {value : Json} (valid : validateCatalogRef value = .ok ()) : CatalogSelectionRef.Holds value := by
  simp only [validateCatalogRef, bind_eq_ok, record_ok, exact_ok, check_ok] at valid
  rcases valid with ⟨r, rfl, _, _, version, first, _, schema, kind, second, _, selected, chosen⟩
  rw [Bool.or_eq_true, Bool.and_eq_true, Bool.and_eq_true] at chosen
  have kinds : Has r "selectionKind" (.oneOf ["sha256", "git-revision"]) := by
    rcases chosen with ⟨sha256, _⟩ | ⟨revision, _⟩
    · exact has_one second sha256 (by simp)
    · exact has_one second revision (by simp)
  simp [CatalogSelectionRef, has_one first schema (List.mem_singleton_self _), kinds, has_string selected]

/-- The properties of one object, read as texts one after another. -/
theorem validateIdentities_typed {value : Json} (valid : validateIdentities value = .ok ()) : ReproductionIdentities.Holds value := by
  simp only [validateIdentities, validateSuite, validateModel, validateCorpus, validateGeneratedInterface,
    validateImplementation, validateExecutionProfile, bind_eq_ok, record_ok, exact_ok] at valid
  rcases valid with ⟨ids, rfl, _, _, suite, suiteFound, _, ⟨_, rfl, _, _, _, suiteId, _, suiteDigest, _⟩,
    model, modelFound, _, ⟨_, rfl, _, _, _, modelDigest, _⟩,
    corpus, corpusFound, _, ⟨_, rfl, _, _, _, corpusDigest, _, traceCount, _⟩,
    generated, generatedFound, _, ⟨_, rfl, _, _, _, semantic, _, module, _, target, _, contract, _⟩,
    implementation, implementationFound, _, ⟨_, rfl, _, _, _, admission, _, closure, _⟩,
    profile, profileFound, ⟨_, rfl, _, _, _, profileId, _, profileDigest, _⟩⟩
  simp [ReproductionIdentities, has_iff (own_ok.mp suiteFound), has_iff (own_ok.mp modelFound), has_iff (own_ok.mp corpusFound),
    has_iff (own_ok.mp generatedFound), has_iff (own_ok.mp implementationFound), has_iff (own_ok.mp profileFound),
    has_string suiteId, has_string suiteDigest, has_string modelDigest, has_string corpusDigest, has_number traceCount,
    has_string semantic, has_string module, has_string target, has_string contract, has_string admission, has_string closure,
    has_string profileId, has_string profileDigest]

theorem validateCleanup_typed {cleanup : Fields Json} {status : Json} (found : own cleanup "status" = .ok status)
    (valid : validateCleanup cleanup status = .ok ()) : ReproductionCleanupSignature.Holds (.object cleanup) := by
  unfold validateCleanup at valid
  split at valid
  · rename_i succeeded
    simp [ReproductionCleanupSignature, has_one found succeeded (List.mem_singleton_self _)]
  · split at valid
    · rename_i failed
      simp only [bind_eq_ok] at valid
      rcases valid with ⟨_, _, _, code, _⟩
      have status : Has cleanup "status" (.oneOf ["failed", "unconfirmed"]) := by
        rcases Bool.or_eq_true _ _ ▸ failed with failed | unconfirmed
        · exact has_one found failed (by simp)
        · exact has_one found unconfirmed (by simp)
      simp [ReproductionCleanupSignature, status, has_string code]
    · cases valid

theorem validateHandling_typed [Platform] {value : Json} (valid : validateHandling value = .ok ()) :
    ReproductionHandling.Holds value := by
  simp only [validateHandling, bind_eq_ok, record_ok, exact_ok] at valid
  rcases valid with ⟨h, rfl, _, _, _, identifiers, _, retention, _⟩
  have each := forM_eq_ok.mp identifiers
  have text (key : String)
      (member : key ∈ ["consentPolicyId", "redactionProfileId", "accessPolicyId", "deletionPolicyId"]) : Has h key .string := by
    rcases bind_eq_ok.mp (each key member) with ⟨_, read, _⟩
    exact has_string read
  simp [ReproductionHandling, has_string retention, text]

theorem validateCapture_typed [Platform] {value : Json} {kind : CaptureKind} (valid : validateCapture value = .ok kind) :
    ReproductionCaptureData.Holds value := by
  simp only [validateCapture, bind_eq_ok, record_ok] at valid
  rcases valid with ⟨c, rfl, _, role, found, kindFound, valid⟩
  split at valid
  · rename_i inline
    simp only [validateInline, bind_eq_ok, exact_ok] at valid
    rcases valid with ⟨_, _, _, media, _, bytes, _, sha256, _, base64Found, encoded, read, _⟩
    have base : Has c "base64" .string := ⟨_, own_ok.mp base64Found, encoded, (text_ok.mp read).1⟩
    simp [ReproductionCaptureData, has_string role, has_one kindFound inline (List.mem_singleton_self _), has_string media,
      has_number bytes, has_string sha256, base]
  · split at valid
    · rename_i external
      simp only [validateExternal, bind_eq_ok, exact_ok] at valid
      rcases valid with ⟨_, _, _, type, _, _, _, sha256, _, resolver, _⟩
      simp [ReproductionCaptureData, has_string role, has_one kindFound external (List.mem_singleton_self _), has_string type,
        has_string sha256, has_string resolver]
    · cases valid

theorem has_kind {value : Fields Json} {key : String} {found : Json} (read : own value key = .ok found) {literal member : String}
    (equal : equalsText found literal = true) : Has value key (.oneOf [member]) ↔ literal = member := by
  rw [equalsText_iff] at equal
  rw [has_iff (own_ok.mp read), equal]
  simp [Shape.Holds]

/-! ### Validators that coerce -/

section

variable [NumberNotation]

theorem validateArtifactRef_typed {value : Json} (valid : validateArtifactRef value = .ok ()) :
    EvidenceArtifactRef.Holds value ↔ ∃ r, value = .object r ∧ NoArray r ["role", "visibility", "requirement"] := by
  simp only [validateArtifactRef, bind_eq_ok, record_ok, exact_ok] at valid
  rcases valid with ⟨r, rfl, _, _, _, artifactId, _, mediaType, _, role, _, bytes, _, sha256, _, visibility, _, requirement,
    _, locationFound, location, rfl, _⟩
  have located : Has r "location" .anyRecord := ⟨_, own_ok.mp locationFound, location, rfl⟩
  simp [EvidenceArtifactRef, has_string artifactId, has_string mediaType, coerced_has (by decide) role, has_number bytes,
    has_string sha256, coerced_has (by decide) visibility, coerced_has (by decide) requirement, located, noArray_cons, noArray_nil]

theorem validateTimeout_typed {primary : Fields Json} (valid : validateTimeout primary = .ok ()) :
    Has primary "stage" (.oneOf STAGES) ∧ Has primary "budgetMs" .number ↔ NoArray primary ["stage", "origin"] := by
  simp only [validateTimeout, bind_eq_ok, exact_ok] at valid
  rcases valid with ⟨_, same, _, stage, _, budget, _⟩
  simp [coerced_has (by decide) stage, has_number budget, noArray_cons, noArray_nil, noArray_absent same]

theorem validateExecutionError_typed {primary : Fields Json} (valid : validateExecutionError primary = .ok ()) :
    Has primary "origin" (.oneOf ["observer", "implementation"]) ∧ Has primary "stage" (.oneOf ["factory", "action", "observation"]) ∧
      Has primary "code" .string ↔ NoArray primary ["stage", "origin"] := by
  simp only [validateExecutionError, bind_eq_ok, exact_ok] at valid
  rcases valid with ⟨_, same, _, origin, _, stage, _, code, _⟩
  simp [coerced_has (by decide) origin, coerced_has (by decide) stage, has_string code, noArray_cons, noArray_nil, and_comm]

theorem validateCodecError_typed {primary : Fields Json} (valid : validateCodecError primary = .ok ()) :
    Has primary "stage" (.oneOf ["input", "observation", "protocol"]) ∧ Has primary "code" .string ↔
      NoArray primary ["stage", "origin"] := by
  simp only [validateCodecError, bind_eq_ok, exact_ok] at valid
  rcases valid with ⟨_, same, _, stage, _, code, _⟩
  simp [coerced_has (by decide) stage, has_string code, noArray_cons, noArray_nil, noArray_absent same]

theorem validateCancellation_typed {primary : Fields Json} (valid : validateCancellation primary = .ok ()) :
    Has primary "stage" (.oneOf STAGES) ∧ Has primary "code" .string ↔ NoArray primary ["stage", "origin"] := by
  simp only [validateCancellation, bind_eq_ok, exact_ok] at valid
  rcases valid with ⟨_, same, _, stage, _, code, _⟩
  simp [coerced_has (by decide) stage, has_string code, noArray_cons, noArray_nil, noArray_absent same]

theorem validateMismatch_typed {primary : Fields Json} (valid : validateMismatch primary = .ok ()) :
    (Has primary "code" (.oneOf ["replay_mismatch"]) ∧ Has primary "traceIndex" .number ∧ Has primary "stateIndex" .number ∧
      Has primary "action" .string) ∧ NoArray primary ["stage", "origin"] := by
  simp only [validateMismatch, bind_eq_ok, exact_ok, check_ok] at valid
  rcases valid with ⟨_, same, _, found, _, code, _, traceIndex, _, stateIndex, _, action, _⟩
  simp [has_one found code (List.mem_singleton_self _), has_number traceIndex, has_number stateIndex, has_string action,
    noArray_cons, noArray_nil, noArray_absent same]

theorem validateCoverage_typed {primary : Fields Json} (valid : validateCoverage primary = .ok ()) :
    Has primary "requirements" (.array .string) ∧ NoArray primary ["stage", "origin"] := by
  simp only [validateCoverage, bind_eq_ok, exact_ok] at valid
  rcases valid with ⟨_, same, v, found, requirements, listed, values, read, _⟩
  have shape := (array_ok.mp listed).1
  have texts : ∀ item ∈ requirements, ∃ s, item = .string s := by
    intro item member
    rcases List.getElem_of_mem member with ⟨i, inside, rfl⟩
    have entry : (requirements[i], i) ∈ requirements.zipIdx := List.mk_mem_zipIdx_iff_getElem?.mpr (List.getElem?_eq_getElem inside)
    rcases List.forall₂_iff_get.mp (mapM_eq_ok.mp read) with ⟨length, each⟩
    rcases List.getElem_of_mem entry with ⟨k, within, at_k⟩
    have one := each k within (length ▸ within)
    rw [List.get_eq_getElem, at_k] at one
    exact ⟨_, (text_ok.mp one).1⟩
  have typed : Has primary "requirements" (.array .string) := by
    rw [has_iff (own_ok.mp found), shape, holds_array]
    intro item member
    rw [Shape.Holds]
    exact texts item member
  exact ⟨typed, by simp [noArray_cons, noArray_nil, noArray_absent same]⟩

theorem validatePrimary_typed {primary : Fields Json} (valid : validatePrimary primary = .ok ()) :
    ReproductionPrimarySignature.Holds (.object primary) ↔ NoArray primary ["stage", "origin"] := by
  simp only [validatePrimary, bind_eq_ok] at valid
  rcases valid with ⟨kind, found, valid⟩
  simp only [ReproductionPrimarySignature, BehavioralMismatch, Timeout, ExecutionError, CodecError, CoverageUnmet, Cancellation,
    holds_either, holds_record, fieldsHold_cons, fieldsHold_nil]
  split at valid
  · rename_i this
    simp [has_kind found this, validateMismatch_typed valid]
  split at valid
  · rename_i this
    simp [has_kind found this, validateTimeout_typed valid]
  split at valid
  · rename_i this
    simp [has_kind found this, validateExecutionError_typed valid]
  split at valid
  · rename_i this
    simp [has_kind found this, validateCodecError_typed valid]
  split at valid
  · rename_i this
    simp [has_kind found this, validateCoverage_typed valid]
  split at valid
  · rename_i this
    simp [has_kind found this, validateCancellation_typed valid]
  · cases valid

theorem validateSignature_typed {value : Json} (valid : validateSignature value = .ok ()) :
    ReproductionSignature.Holds value ↔
      ∀ r, value.path ["primary"] = some (.object r) → NoArray r ["stage", "origin"] := by
  simp only [validateSignature, bind_eq_ok, record_ok, exact_ok] at valid
  rcases valid with ⟨s, rfl, _, _, _, cleanupFound, cleanup, rfl, status, statusFound, _, cleaned, p, found, valid⟩
  have cleanupTyped : Has s "cleanup" ReproductionCleanupSignature :=
    ⟨_, own_ok.mp cleanupFound, validateCleanup_typed statusFound cleaned⟩
  rw [own_ok] at found
  simp only [ReproductionSignature, holds_record, fieldsHold_cons, fieldsHold_nil, cleanupTyped, and_true, has_iff found,
    holds_either, Json.path_one found, Option.some.injEq]
  split at valid
  · rename_i null
    simp [null, Shape.Holds]
  · simp only [bind_eq_ok, record_ok] at valid
    rcases valid with ⟨primary, rfl, valid⟩
    simp [validatePrimary_typed valid, Shape.Holds]

theorem validateComponentRefs_typed {value : Json} (valid : validateComponentRefs value = .ok ()) :
    (Shape.array EvidenceComponentRef).Holds value := by
  rcases bind_eq_ok.mp valid with ⟨items, listed, valid⟩
  rcases bind_eq_ok.mp valid with ⟨_, each, _⟩
  rw [(array_ok.mp listed).1, holds_array]
  intro item member
  exact validateComponentRef_typed (forM_eq_ok.mp each item member)

theorem validateEvidenceArtifactReferences_typed {value : Json} (valid : validateEvidenceArtifactReferences value = .ok ()) :
    (Shape.array EvidenceArtifactRef).Holds value ↔
      ∀ items, value = .array items → ∀ r, .object r ∈ items → NoArray r ["role", "visibility", "requirement"] := by
  rcases bind_eq_ok.mp valid with ⟨items, listed, valid⟩
  rcases bind_eq_ok.mp valid with ⟨_, each, _⟩
  have typed (item : Json) (member : item ∈ items) := validateArtifactRef_typed (forM_eq_ok.mp each item member)
  rw [(array_ok.mp listed).1, holds_array]
  constructor
  · intro holds _ same r member
    cases same
    rcases (typed _ member).mp (holds _ member) with ⟨_, shape, noArray⟩
    cases shape
    exact noArray
  · intro noArray item member
    have object : ∃ r, item = .object r := by
      rcases bind_eq_ok.mp (forM_eq_ok.mp each item member) with ⟨r, shape, _⟩
      exact ⟨r, record_ok.mp shape⟩
    rcases object with ⟨r, rfl⟩
    exact (typed _ member).mpr ⟨r, rfl, noArray items rfl r member⟩

theorem validateEvidenceLinks_typed [Platform] {value : Json} (valid : validateEvidenceLinks value = .ok ()) :
    ReproductionEvidenceLinks.Holds value ↔
      ∀ items, value.path ["artifactRefs"] = some (.array items) →
        ∀ r, .object r ∈ items → NoArray r ["role", "visibility", "requirement"] := by
  simp only [validateEvidenceLinks, bind_eq_ok, record_ok, exact_ok, own_ok] at valid
  rcases valid with ⟨links, rfl, _, _, run, runFound, _, runValid, components, componentsFound, _, componentsValid, artifacts,
    artifactsFound, _, artifactsValid, catalog, catalogFound, catalogValid⟩
  simp [ReproductionEvidenceLinks, has_iff runFound, validateRunRef_typed runValid, has_iff componentsFound,
    validateComponentRefs_typed componentsValid, has_iff artifactsFound,
    validateEvidenceArtifactReferences_typed artifactsValid, has_iff catalogFound, validateCatalogRef_typed catalogValid,
    Json.path_one artifactsFound]

theorem validateCaptures_typed [Platform] {value : Json} (valid : validateCaptures value = .ok ()) :
    (Shape.array ReproductionCaptureData).Holds value := by
  rcases bind_eq_ok.mp valid with ⟨items, listed, valid⟩
  rcases bind_eq_ok.mp valid with ⟨kinds, each, _⟩
  rw [(array_ok.mp listed).1, holds_array]
  intro item member
  rcases List.getElem_of_mem member with ⟨i, inside, rfl⟩
  rcases List.forall₂_iff_get.mp (mapM_eq_ok.mp each) with ⟨length, valid⟩
  exact validateCapture_typed (valid i inside (length ▸ inside))

/-! ### The bundle -/

/-- No array stands where the validators coerce to a string. -/
structure Uncoerced (bundle : Json) : Prop where
  artifacts : ∀ items, bundle.path ["evidenceLinks", "artifactRefs"] = some (.array items) →
    ∀ r, .object r ∈ items → NoArray r ["role", "visibility", "requirement"]
  primary : ∀ r, bundle.path ["signature", "primary"] = some (.object r) → NoArray r ["stage", "origin"]

variable [Platform]

theorem validateReproductionBundle_typed {value bundle : Json} (valid : validateReproductionBundle value = .ok bundle) :
    bundle = value ∧ (ReproductionBundle.Holds bundle ↔ Uncoerced value) := by
  simp only [validateReproductionBundle, bind_eq_ok, record_ok, exact_ok, own_ok, check_ok, pure_eq_ok, Except.ok.injEq] at valid
  rcases valid with ⟨_, _, b, rfl, _, _, schema, schemaFound, _, schemaValid, links, linksFound, _, linksValid, identities,
    identitiesFound, _, identitiesValid, signature, signatureFound, _, signatureValid, captures, capturesFound, _, capturesValid,
    handling, handlingFound, _, handlingValid, rfl⟩
  have version : Has b "schema" (.oneOf ["mirrorecma.reproduction-bundle/v1"]) := by
    rw [decide_eq_true_eq] at schemaValid
    exact ⟨_, schemaFound, _, List.mem_singleton_self _, schemaValid⟩
  have typed : ReproductionBundle.Holds (.object b) ↔
      ReproductionEvidenceLinks.Holds links ∧ ReproductionSignature.Holds signature := by
    simp [ReproductionBundle, version, has_iff linksFound, has_iff identitiesFound, validateIdentities_typed identitiesValid,
      has_iff signatureFound, has_iff capturesFound, validateCaptures_typed capturesValid, has_iff handlingFound,
      validateHandling_typed handlingValid]
  refine ⟨rfl, typed.trans ?_⟩
  rw [validateEvidenceLinks_typed linksValid, validateSignature_typed signatureValid]
  constructor
  · intro both
    refine ⟨?_, ?_⟩
    · rw [Json.path_cons linksFound]
      exact both.1
    · rw [Json.path_cons signatureFound]
      exact both.2
  · intro uncoerced
    refine ⟨?_, ?_⟩
    · rw [← Json.path_cons linksFound]
      exact uncoerced.artifacts
    · rw [← Json.path_cons signatureFound]
      exact uncoerced.primary

/-- An accepted bundle is well typed where its text has no array in a coerced place, and only there. -/
theorem decodeReproductionBundle_typed [NumberConversion] {raw : RawText} {bundle : Json}
    (accepted : decodeReproductionBundle raw = .ok bundle) :
    ∃ json, parseBoundedJsonValue raw = .ok json ∧ (ReproductionBundle.Holds bundle ↔ Uncoerced json) := by
  rcases bind_eq_ok.mp accepted with ⟨json, parsed, valid⟩
  exact ⟨json, parsed, (validateReproductionBundle_typed valid).2⟩

end

def object (fields : List (String × Json)) : Json := .object (fields.map fun field => (js field.1, field.2))

def string (s : String) : Json := .string (js s)

def zeros (n : Nat) : Json := .string (List.replicate n (unit '0'))

/-- A bundle of one artifact with this role. -/
def bundleOf (role : Json) : Json :=
  object [
    ("schema", string "mirrorecma.reproduction-bundle/v1"),
    ("evidenceLinks", object [
      ("runRef", object [("schemaVersion", string "mirrors.evidence-envelope/v1.0"), ("runId", string "r"),
        ("envelopeSha256", zeros 64), ("projectionKind", string "private")]),
      ("componentRefs", .array [object [("componentId", string "c"), ("repository", string ""), ("revision", zeros 40),
        ("dirty", .bool false)]]),
      ("artifactRefs", .array [object [("artifactId", string "a"), ("mediaType", string ""), ("role", role),
        ("bytes", .number (.ofNat 0)), ("sha256", zeros 64), ("visibility", string "public"), ("requirement", string "required"),
        ("location", object [("kind", string "bundle"), ("path", string "p")])]]),
      ("catalogSelectionRef", object [("schemaVersion", string "mirrors.framework-catalog/v1"),
        ("selectionKind", string "sha256"), ("selectionValue", zeros 64)])]),
    ("identities", object [
      ("suite", object [("id", string "s"), ("definitionSha256", zeros 64)]),
      ("model", object [("sourceClosureSha256", zeros 64)]),
      ("corpus", object [("orderedOccurrencesSha256", zeros 64), ("traceCount", .number (.ofNat 1))]),
      ("generatedInterface", object [("semanticDigest", zeros 64), ("moduleSha256", zeros 64), ("targetProfile", string "t"),
        ("stateComputerContractVersion", string "v")]),
      ("implementation", object [("admissionId", string "i"), ("closureSha256", zeros 64)]),
      ("executionProfile", object [("id", string "e"), ("sha256", zeros 64)])]),
    ("signature", object [("primary", .null), ("cleanup", object [("status", string "failed"), ("code", string "c")])]),
    ("captures", .array [object [("role", string "r"), ("kind", string "external"), ("type", string "evidence-blob/v1"),
      ("sha256", zeros 64), ("resolver", string "r")]]),
    ("handling", object [("consentPolicyId", string "c"), ("redactionProfileId", string "r"), ("accessPolicyId", string "a"),
      ("retentionUntil", string "2030"), ("deletionPolicyId", string "d")])]

/-- A platform that knows the one date of the bundle. -/
@[reducible] def plainPlatform : Platform where
  hexDigest _ := []
  decodeUtf8 _ := none
  fromBase64 _ := []
  toBase64 _ := []
  toUtf8 _ := []
  dateParse s := if s = js "2030" then .finite 1893456000000 else .nan

def rawOf (role : Json) : RawText :=
  letI := integerNotation
  .text (jsonStringify (bundleOf role))


theorem array_role_accepted : letI := integerNumbers.toNumberConversion; letI := integerNotation; letI := plainPlatform
    decodeReproductionBundle (rawOf (.array [string "diagnostic"])) = .ok (bundleOf (.array [string "diagnostic"])) := by
  decide +kernel

theorem array_role_typed : letI := integerNumbers.toNumberConversion; letI := integerNotation; letI := plainPlatform
    ∃ json, parseBoundedJsonValue (rawOf (.array [string "diagnostic"])) = .ok json ∧
      (ReproductionBundle.Holds (bundleOf (.array [string "diagnostic"])) ↔ Uncoerced json) := by
  let := integerNumbers.toNumberConversion
  let := integerNotation
  let := plainPlatform
  exact decodeReproductionBundle_typed array_role_accepted

/-- An array with a role in it is accepted as a role. -/
theorem array_as_role : letI := integerNumbers.toNumberConversion; letI := integerNotation; letI := plainPlatform
    ∃ bundle, decodeReproductionBundle (rawOf (.array [string "diagnostic"])) = .ok bundle ∧
      ¬ ReproductionBundle.Holds bundle := by
  let := integerNumbers.toNumberConversion
  let := integerNotation
  let := plainPlatform
  refine ⟨_, array_role_accepted, fun holds => ?_⟩
  rcases bind_eq_ok.mp array_role_accepted with ⟨json, _, valid⟩
  rcases validateReproductionBundle_typed valid with ⟨same, typed⟩
  have uncoerced := typed.mp holds
  rw [← same] at uncoerced
  have none := uncoerced.artifacts _ rfl _ (List.mem_singleton_self _) "role" (by simp)
  exact none [string "diagnostic"] (by rfl)

end Mirror.Reproduction
