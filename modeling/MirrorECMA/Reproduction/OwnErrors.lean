import MirrorECMA.ECMA.ScanCalls
import MirrorECMA.Reproduction.WellTyped

namespace Mirror.Reproduction

open ECMA Mirror.ModelInterface
open ECMA.Reading (equalsText)

/-- A `ReproductionBundleError`. -/
def IsOwn (thrown : BundleFailure) : Prop := ∃ code message, thrown = .bundle code message

abbrev FailsProperly {α : Type} (outcome : Checked α) : Prop := FailsOnly IsOwn outcome

theorem isOwn_bundle (code message : JsString) : IsOwn (.bundle code message) := ⟨code, message, rfl⟩

theorem typeError_foreign : ¬ IsOwn .typeError := by
  rintro ⟨code, message, same⟩
  cases same

theorem syntaxError_foreign : ¬ IsOwn .syntaxError := by
  rintro ⟨code, message, same⟩
  cases same

theorem failsProperly_bind {α β : Type} {first : Checked α} {next : α → Checked β} :
    FailsProperly (first >>= next) ↔ FailsProperly first ∧ ∀ value, first = .ok value → FailsProperly (next value) :=
  failsOnly_bind

section

variable (value : Json) (fields : Fields Json)

@[simp] theorem failsProperly_pure {α : Type} (result : α) : FailsProperly (pure result) := failsOnly_ok result

@[simp] theorem failsProperly_fail {α : Type} (code message : JsString) : FailsProperly (fail code message : Checked α) :=
  failsOnly_error.mpr (isOwn_bundle code message)

@[simp] theorem failsProperly_ensure (condition : Bool) (code message : JsString) : FailsProperly (ensure condition code message) :=
  Reading.check_failsOnly (isOwn_bundle code message) condition

@[simp] theorem failsProperly_own (key : String) : FailsProperly (own fields key) :=
  Reading.own_failsOnly (isOwn_bundle _ _) fields key

@[simp] theorem failsProperly_record (location : String) : FailsProperly (record value location) :=
  Reading.record_failsOnly (isOwn_bundle _ _) value

@[simp] theorem failsProperly_array (low high : Nat) (code message : String) : FailsProperly (array value low high code message) :=
  Reading.array_failsOnly (isOwn_bundle _ _) low high value

@[simp] theorem failsProperly_exact (keys : List String) (location : String) : FailsProperly (exact fields keys location) :=
  Reading.check_failsOnly (isOwn_bundle _ _) _

@[simp] theorem failsProperly_text (location : JsString) (pattern : JsString → Bool) (maxBytes : Nat) :
    FailsProperly (text value location pattern maxBytes) :=
  Reading.text_failsOnly (isOwn_bundle _ _) _ value

@[simp] theorem failsProperly_textOf (key location : String) (pattern : JsString → Bool) :
    FailsProperly (textOf fields key location pattern) :=
  failsOnly_bind.mpr ⟨failsProperly_own fields key, fun found _ => failsProperly_text found _ _ _⟩

@[simp] theorem failsProperly_integerOf (key location : String) (min max : Nat) :
    FailsProperly (integerOf fields key location min max) :=
  failsOnly_bind.mpr ⟨failsProperly_own fields key, fun found _ => Reading.integer_failsOnly (isOwn_bundle _ _) min max found⟩

theorem failsProperly_coerced [NumberText] {key : String} {members : List String} {code message : String} :
    FailsProperly (coerced fields key members code message) ↔ ∀ found, own fields key = .ok found → ¬ Textless found := by
  rw [coerced, failsProperly_bind]
  simp only [failsProperly_own, true_and, Reading.coerced_failsOnly (isOwn_bundle _ _) typeError_foreign, ne_eq, toText_eq_none]

end

/-! ### Validators that coerce nothing -/

theorem validateRunRef_proper (value : Json) : FailsProperly (validateRunRef value) := by
  simp [validateRunRef, failsProperly_bind]

theorem validateComponentRef_proper (value : Json) : FailsProperly (validateComponentRef value) := by
  simp [validateComponentRef, failsProperly_bind]

theorem validateLocation_proper (location : Fields Json) : FailsProperly (validateLocation location) := by
  rw [validateLocation, failsProperly_bind]
  refine ⟨failsProperly_own _ _, fun kind _ => ?_⟩
  split
  · simp [failsProperly_bind]
  · split
    · simp [failsProperly_bind]
    · simp

theorem validateCatalogRef_proper (value : Json) : FailsProperly (validateCatalogRef value) := by
  simp [validateCatalogRef, failsProperly_bind]

theorem validateIdentities_proper (value : Json) : FailsProperly (validateIdentities value) := by
  simp [validateIdentities, validateSuite, validateModel, validateCorpus, validateGeneratedInterface,
    validateImplementation, validateExecutionProfile, failsProperly_bind]

theorem validateCleanup_proper (cleanup : Fields Json) (status : Json) : FailsProperly (validateCleanup cleanup status) := by
  unfold validateCleanup
  split
  · simp
  · split
    · simp [failsProperly_bind]
    · simp

theorem validateMismatch_proper (primary : Fields Json) : FailsProperly (validateMismatch primary) := by
  simp [validateMismatch, failsProperly_bind]

theorem validateCoverage_proper (primary : Fields Json) : FailsProperly (validateCoverage primary) := by
  have texts (entries : List (Json × Nat)) : FailsProperly
      (entries.mapM fun entry => text entry.1 (js "requirement " ++ decimal entry.2) STABLE_ID TEXT_BYTES) :=
    failsOnly_mapM fun entry _ => failsProperly_text _ _ _ _
  simp [validateCoverage, failsProperly_bind, texts]

section

variable [Platform]

theorem validateCapture_proper (value : Json) : FailsProperly (validateCapture value) := by
  have inline (c : Fields Json) : FailsProperly (validateInline c) := by simp [validateInline, failsProperly_bind]
  have external (c : Fields Json) : FailsProperly (validateExternal c) := by simp [validateExternal, failsProperly_bind]
  simp only [validateCapture, failsProperly_bind, failsProperly_record, failsProperly_textOf, failsProperly_own, true_and]
  intro c _ role _ kind _
  split
  · exact inline c
  · split
    · exact external c
    · simp

theorem validateCaptures_proper (value : Json) : FailsProperly (validateCaptures value) := by
  have each (captures : List Json) : FailsProperly (captures.mapM validateCapture) :=
    failsOnly_mapM fun capture _ => validateCapture_proper capture
  simp [validateCaptures, failsProperly_bind, each]

theorem validateHandling_proper (value : Json) : FailsProperly (validateHandling value) := by
  have texts (h : Fields Json) (keys : List String) : FailsProperly (keys.forM fun key => do
      let _ ← textOf h key key STABLE_ID) :=
    failsOnly_forM.mpr fun _ key _ _ _ => by simp [failsProperly_bind]
  simp [validateHandling, failsProperly_bind, texts]

end

theorem visit_proper (levels maxBytes nodes : Nat) (value : Json) : FailsProperly (visit levels maxBytes nodes value) := by
  induction levels generalizing maxBytes nodes value with
  | zero =>
    unfold visit
    exact failsProperly_fail _ _
  | succ levels ih =>
    have items (nodes : Nat) (items : List Json) : FailsProperly (visitItems (visit levels) nodes items) := by
      induction items generalizing nodes with
      | nil => exact failsOnly_ok nodes
      | cons item rest others => exact failsProperly_bind.mpr ⟨ih _ _ item, fun nodes _ => others nodes⟩
    have fields (nodes : Nat) (fields : Fields Json) : FailsProperly (visitFields (visit levels) nodes fields) := by
      induction fields generalizing nodes with
      | nil => exact failsOnly_ok nodes
      | cons field rest others =>
        refine failsProperly_bind.mpr ⟨failsProperly_ensure _ _ _, fun _ _ => ?_⟩
        exact failsProperly_bind.mpr ⟨ih _ _ field.2, fun nodes _ => others nodes⟩
    unfold visit
    split
    · exact failsProperly_fail _ _
    · split <;> simp [failsProperly_bind, items, fields]

theorem boundedGraph_proper (value : Json) : FailsProperly (boundedGraph value) := by
  simp [boundedGraph, failsProperly_bind, visit_proper]

/-! ### Values that are coerced -/

/-- An artifact has passed what is checked before its role. -/
def NamedArtifact (r : Fields Json) : Prop :=
  exact r ["artifactId", "mediaType", "role", "bytes", "sha256", "visibility", "requirement", "location"] "artifactRef" = .ok () ∧
    (∃ id, textOf r "artifactId" "artifactId" OPAQUE_ID = .ok id) ∧ ∃ media, textOf r "mediaType" "mediaType" anyText = .ok media

/-- An artifact has passed what is checked before its visibility. -/
def CountedArtifact [NumberText] (r : Fields Json) : Prop :=
  NamedArtifact r ∧ coerced r "role" ARTIFACT_ROLES "evidence_ref_invalid" "artifact role invalid" = .ok () ∧
    (∃ bytes, integerOf r "bytes" "artifact bytes" 0 67108864 = .ok bytes) ∧
    ∃ sha256, textOf r "sha256" "artifact sha256" SHA256 = .ok sha256

/-- The check of an artifact comes to coerce a value. -/
inductive ArtifactCoerces [NumberText] : Json → Json → Prop
  | role {r : Fields Json} {w : Json} (named : NamedArtifact r) (found : own r "role" = .ok w) : ArtifactCoerces (.object r) w
  | visibility {r : Fields Json} {w : Json} (counted : CountedArtifact r) (found : own r "visibility" = .ok w) :
      ArtifactCoerces (.object r) w
  | requirement {r : Fields Json} {w : Json} (counted : CountedArtifact r)
      (visible : coerced r "visibility" ["public", "private"] "evidence_ref_invalid" "artifact policy invalid" = .ok ())
      (found : own r "requirement" = .ok w) : ArtifactCoerces (.object r) w

/-- The check of a primary signature comes to coerce a value. -/
inductive PrimaryCoerces [NumberText] (primary : Fields Json) : Json → Prop
  | timeout {kind w : Json} (kindFound : own primary "kind" = .ok kind) (named : equalsText kind "timeout" = true)
      (keys : exact primary ["kind", "stage", "budgetMs"] "timeout" = .ok ()) (found : own primary "stage" = .ok w) :
      PrimaryCoerces primary w
  | origin {kind w : Json} (kindFound : own primary "kind" = .ok kind) (named : equalsText kind "execution_error" = true)
      (keys : exact primary ["kind", "origin", "stage", "code"] "execution error" = .ok ())
      (found : own primary "origin" = .ok w) : PrimaryCoerces primary w
  | execution {kind w : Json} (kindFound : own primary "kind" = .ok kind) (named : equalsText kind "execution_error" = true)
      (keys : exact primary ["kind", "origin", "stage", "code"] "execution error" = .ok ())
      (origin : coerced primary "origin" ["observer", "implementation"] "signature_invalid" "execution error invalid" = .ok ())
      (found : own primary "stage" = .ok w) : PrimaryCoerces primary w
  | codec {kind w : Json} (kindFound : own primary "kind" = .ok kind) (named : equalsText kind "codec_error" = true)
      (keys : exact primary ["kind", "stage", "code"] "codec error" = .ok ()) (found : own primary "stage" = .ok w) :
      PrimaryCoerces primary w
  | cancellation {kind w : Json} (kindFound : own primary "kind" = .ok kind) (named : equalsText kind "cancellation" = true)
      (keys : exact primary ["kind", "stage", "code"] "cancellation" = .ok ()) (found : own primary "stage" = .ok w) :
      PrimaryCoerces primary w

inductive SignatureCoerces [NumberText] : Json → Json → Prop
  | primary {s cleanup primary : Fields Json} {status w : Json} (keys : exact s ["primary", "cleanup"] "signature" = .ok ())
      (cleanupFound : own s "cleanup" = .ok (.object cleanup)) (statusFound : own cleanup "status" = .ok status)
      (valid : validateCleanup cleanup status = .ok ()) (primaryFound : own s "primary" = .ok (.object primary))
      (comes : PrimaryCoerces primary w) : SignatureCoerces (.object s) w

inductive LinksCoerces [NumberText] : Json → Json → Prop
  | artifact {links : Fields Json} {runRef componentRefs artifact w : Json} {before after : List Json}
      (keys : exact links ["runRef", "componentRefs", "artifactRefs", "catalogSelectionRef"] "evidenceLinks" = .ok ())
      (runFound : own links "runRef" = .ok runRef) (run : validateRunRef runRef = .ok ())
      (componentsFound : own links "componentRefs" = .ok componentRefs) (components : validateComponentRefs componentRefs = .ok ())
      (artifactsFound : own links "artifactRefs" = .ok (.array (before ++ artifact :: after)))
      (within : (before ++ artifact :: after).length ≤ 128) (passed : ∀ earlier ∈ before, validateArtifactRef earlier = .ok ())
      (comes : ArtifactCoerces artifact w) : LinksCoerces (.object links) w

/-- A bundle has passed what is checked before its links. -/
def OpenedBundle (b : Fields Json) (links : Json) : Prop :=
  boundedGraph (.object b) = .ok () ∧
    exact b ["schema", "evidenceLinks", "identities", "signature", "captures", "handling"] "bundle" = .ok () ∧
    own b "schema" = .ok (.string REPRODUCTION_BUNDLE_SCHEMA) ∧ own b "evidenceLinks" = .ok links

/-- The checks of a bundle come to coerce a value. -/
inductive BundleCoerces [NumberText] : Json → Json → Prop
  | links {b : Fields Json} {links w : Json} (opened : OpenedBundle b links) (comes : LinksCoerces links w) :
      BundleCoerces (.object b) w
  | signature {b : Fields Json} {links identities signature w : Json} (opened : OpenedBundle b links)
      (linked : validateEvidenceLinks links = .ok ()) (identitiesFound : own b "identities" = .ok identities)
      (identified : validateIdentities identities = .ok ()) (found : own b "signature" = .ok signature)
      (comes : SignatureCoerces signature w) : BundleCoerces (.object b) w

section

variable [NumberText]

theorem validateArtifactRef_proper (value : Json) :
    FailsProperly (validateArtifactRef value) ↔ ∀ w, ArtifactCoerces value w → ¬ Textless w := by
  simp only [validateArtifactRef, failsProperly_bind, failsProperly_record, failsProperly_exact, failsProperly_textOf,
    failsProperly_integerOf, failsProperly_coerced, failsProperly_own, validateLocation_proper, Reading.record_ok, true_and,
    and_true, implies_true]
  constructor
  · rintro checks w (⟨⟨keys, ⟨id, identified⟩, media, typed⟩, found⟩ |
      ⟨⟨⟨keys, ⟨id, identified⟩, media, typed⟩, role, ⟨bytes, counted⟩, sha256, digest⟩, found⟩ |
      ⟨⟨⟨keys, ⟨id, identified⟩, media, typed⟩, role, ⟨bytes, counted⟩, sha256, digest⟩, visible, found⟩)
    · exact (checks _ rfl () keys id identified media typed).1 w found
    · exact ((checks _ rfl () keys id identified media typed).2 () role bytes counted sha256 digest).1 w found
    · exact ((checks _ rfl () keys id identified media typed).2 () role bytes counted sha256 digest).2 () visible w found
  · rintro none r rfl _ keys id identified media typed
    have named : NamedArtifact r := ⟨keys, ⟨id, identified⟩, media, typed⟩
    refine ⟨fun w found => none w (.role named found), fun _ role bytes integer sha256 digest => ?_⟩
    have counted : CountedArtifact r := ⟨named, role, ⟨bytes, integer⟩, sha256, digest⟩
    refine ⟨fun w found => none w (.visibility counted found), fun _ visible w found => ?_⟩
    exact none w (.requirement counted visible found)

theorem validateTimeout_proper (primary : Fields Json) : FailsProperly (validateTimeout primary) ↔
    (exact primary ["kind", "stage", "budgetMs"] "timeout" = .ok () →
      ∀ w, own primary "stage" = .ok w → ¬ Textless w) := by
  simp [validateTimeout, failsProperly_bind, failsProperly_coerced, forall_unit]

theorem validateExecutionError_proper (primary : Fields Json) : FailsProperly (validateExecutionError primary) ↔
    (exact primary ["kind", "origin", "stage", "code"] "execution error" = .ok () →
      (∀ w, own primary "origin" = .ok w → ¬ Textless w) ∧
      (coerced primary "origin" ["observer", "implementation"] "signature_invalid" "execution error invalid" = .ok () →
        ∀ w, own primary "stage" = .ok w → ¬ Textless w)) := by
  simp [validateExecutionError, failsProperly_bind, failsProperly_coerced, forall_unit]

theorem validateCodecError_proper (primary : Fields Json) : FailsProperly (validateCodecError primary) ↔
    (exact primary ["kind", "stage", "code"] "codec error" = .ok () →
      ∀ w, own primary "stage" = .ok w → ¬ Textless w) := by
  simp [validateCodecError, failsProperly_bind, failsProperly_coerced, forall_unit]

theorem validateCancellation_proper (primary : Fields Json) : FailsProperly (validateCancellation primary) ↔
    (exact primary ["kind", "stage", "code"] "cancellation" = .ok () →
      ∀ w, own primary "stage" = .ok w → ¬ Textless w) := by
  simp [validateCancellation, failsProperly_bind, failsProperly_coerced, forall_unit]

theorem validatePrimary_proper (primary : Fields Json) :
    FailsProperly (validatePrimary primary) ↔ ∀ w, PrimaryCoerces primary w → ¬ Textless w := by
  rw [validatePrimary, failsProperly_bind]
  simp only [failsProperly_own, true_and]
  constructor
  · intro checks w comes
    cases comes with
    | timeout kindFound named keys found =>
      cases Reading.equalsText_iff.mp named
      have check := checks _ kindFound
      rw [if_neg (by decide), if_pos named, validateTimeout_proper] at check
      exact check keys w found
    | origin kindFound named keys found =>
      cases Reading.equalsText_iff.mp named
      have check := checks _ kindFound
      rw [if_neg (by decide), if_neg (by decide), if_pos named, validateExecutionError_proper] at check
      exact (check keys).1 w found
    | execution kindFound named keys origin found =>
      cases Reading.equalsText_iff.mp named
      have check := checks _ kindFound
      rw [if_neg (by decide), if_neg (by decide), if_pos named, validateExecutionError_proper] at check
      exact (check keys).2 origin w found
    | codec kindFound named keys found =>
      cases Reading.equalsText_iff.mp named
      have check := checks _ kindFound
      rw [if_neg (by decide), if_neg (by decide), if_neg (by decide), if_pos named, validateCodecError_proper] at check
      exact check keys w found
    | cancellation kindFound named keys found =>
      cases Reading.equalsText_iff.mp named
      have check := checks _ kindFound
      rw [if_neg (by decide), if_neg (by decide), if_neg (by decide), if_neg (by decide), if_neg (by decide), if_pos named,
        validateCancellation_proper] at check
      exact check keys w found
  · intro none kind kindFound
    split
    · exact validateMismatch_proper primary
    split
    · rename_i named
      exact (validateTimeout_proper primary).mpr fun keys w found => none w (.timeout kindFound named keys found)
    split
    · rename_i named
      apply (validateExecutionError_proper primary).mpr
      intro keys
      exact ⟨fun w found => none w (.origin kindFound named keys found),
        fun origin w found => none w (.execution kindFound named keys origin found)⟩
    split
    · rename_i named
      exact (validateCodecError_proper primary).mpr fun keys w found => none w (.codec kindFound named keys found)
    split
    · exact validateCoverage_proper primary
    split
    · rename_i named
      exact (validateCancellation_proper primary).mpr fun keys w found => none w (.cancellation kindFound named keys found)
    · exact failsProperly_fail _ _

theorem validateSignature_proper (value : Json) :
    FailsProperly (validateSignature value) ↔ ∀ w, SignatureCoerces value w → ¬ Textless w := by
  simp only [validateSignature, failsProperly_bind, failsProperly_record, failsProperly_exact, failsProperly_own,
    validateCleanup_proper, Reading.record_ok, true_and, forall_unit]
  constructor
  · rintro checks w ⟨keys, cleanupFound, statusFound, valid, primaryFound, comes⟩
    have check := checks _ rfl keys _ cleanupFound _ rfl _ statusFound valid _ primaryFound
    rw [if_neg (by simp), failsProperly_bind] at check
    exact (validatePrimary_proper _).mp (check.2 _ rfl) w comes
  · rintro none s rfl keys _ cleanupFound cleanup rfl status statusFound valid p primaryFound
    split
    · exact failsProperly_ensure _ _ _
    · refine failsProperly_bind.mpr ⟨failsProperly_record _ _, fun primary shape => ?_⟩
      rw [Reading.record_ok] at shape
      subst shape
      exact (validatePrimary_proper primary).mpr fun w comes =>
        none w (.primary keys cleanupFound statusFound valid primaryFound comes)

/-- Where each item has a string under the key, its text is that string. -/
theorem distinctTexts_proper {items : List Json} {key code message : String}
    (strings : ∀ item ∈ items, ∃ r, item = .object r ∧ Shape.Has r key .string) :
    FailsProperly (distinctTexts items key code message) := by
  have texts : FailsProperly (items.mapM (textAt key)) := by
    apply failsOnly_mapM
    intro item member
    obtain ⟨r, rfl, v, found, s, rfl⟩ := strings item member
    simp [textAt, found, toText]
  simp [distinctTexts, failsProperly_bind, texts]

theorem componentId_string {value : Json} (valid : validateComponentRef value = .ok ()) :
    ∃ r, value = .object r ∧ Shape.Has r "componentId" .string := by
  simp only [validateComponentRef, bind_eq_ok, Reading.record_ok, Reading.exact_ok] at valid
  obtain ⟨r, rfl, _, _, _, _, _, componentId, _⟩ := valid
  exact ⟨r, rfl, has_string componentId⟩

theorem artifactId_string {value : Json} (valid : validateArtifactRef value = .ok ()) :
    ∃ r, value = .object r ∧ Shape.Has r "artifactId" .string := by
  simp only [validateArtifactRef, bind_eq_ok, Reading.record_ok, Reading.exact_ok] at valid
  obtain ⟨r, rfl, _, _, _, artifactId, _⟩ := valid
  exact ⟨r, rfl, has_string artifactId⟩

theorem validateComponentRefs_proper (value : Json) : FailsProperly (validateComponentRefs value) := by
  simp only [validateComponentRefs, failsProperly_bind, failsProperly_array, true_and, forall_unit]
  intro items _
  refine ⟨failsOnly_forM.mpr fun _ item _ _ _ => validateComponentRef_proper item, fun valid => distinctTexts_proper ?_⟩
  exact fun item member => componentId_string (forM_eq_ok.mp valid item member)

theorem validateEvidenceArtifactReferences_proper (value : Json) :
    FailsProperly (validateEvidenceArtifactReferences value) ↔
      ∀ before artifact after, value = .array (before ++ artifact :: after) → (before ++ artifact :: after).length ≤ 128 →
        (∀ earlier ∈ before, validateArtifactRef earlier = .ok ()) → ∀ w, ArtifactCoerces artifact w → ¬ Textless w := by
  simp only [validateEvidenceArtifactReferences, failsProperly_bind, failsProperly_array, true_and, forall_unit]
  constructor
  · intro checks before artifact after shape within passed
    have check := (checks _ (Reading.array_ok.mpr ⟨shape, Nat.zero_le _, within⟩)).1
    exact (validateArtifactRef_proper artifact).mp (failsOnly_forM.mp check before artifact after rfl passed)
  · intro none items listed
    obtain ⟨shape, _, within⟩ := Reading.array_ok.mp listed
    constructor
    · refine failsOnly_forM.mpr fun before artifact after same passed => ?_
      subst same
      exact (validateArtifactRef_proper artifact).mpr (none before artifact after shape within passed)
    · intro valid
      exact distinctTexts_proper fun item member => artifactId_string (forM_eq_ok.mp valid item member)

theorem validateEvidenceLinks_proper (value : Json) :
    FailsProperly (validateEvidenceLinks value) ↔ ∀ w, LinksCoerces value w → ¬ Textless w := by
  simp only [validateEvidenceLinks, failsProperly_bind, failsProperly_record, failsProperly_exact, failsProperly_own,
    validateRunRef_proper, validateComponentRefs_proper, validateCatalogRef_proper,
    validateEvidenceArtifactReferences_proper, Reading.record_ok, true_and, and_true, implies_true, forall_unit]
  constructor
  · rintro checks w ⟨keys, runFound, run, componentsFound, components, artifactsFound, within, passed, comes⟩
    exact checks _ rfl keys _ runFound run _ componentsFound components _ artifactsFound _ _ _ rfl within passed w comes
  · rintro none links rfl keys runRef runFound run componentRefs componentsFound components _ artifactsFound before artifact
      after rfl within passed w comes
    exact none w (.artifact keys runFound run componentsFound components artifactsFound within passed comes)

theorem validateReproductionBundle_proper [Platform] (value : Json) :
    FailsProperly (validateReproductionBundle value) ↔ ∀ w, BundleCoerces value w → ¬ Textless w := by
  simp only [validateReproductionBundle, failsProperly_bind, failsProperly_record, failsProperly_exact, failsProperly_own,
    failsProperly_ensure, failsProperly_pure, boundedGraph_proper, validateEvidenceLinks_proper, validateIdentities_proper,
    validateSignature_proper, validateCaptures_proper, validateHandling_proper, Reading.record_ok, Reading.check_ok,
    decide_eq_true_eq, true_and, and_true, implies_true, forall_unit]
  constructor
  · rintro checks w (⟨⟨bounded, keys, schema, found⟩, comes⟩ |
      ⟨⟨bounded, keys, schema, linksFound⟩, linked, identitiesFound, identified, found, comes⟩)
    · exact (checks bounded _ rfl keys _ schema rfl _ found).1 w comes
    · exact (checks bounded _ rfl keys _ schema rfl _ linksFound).2 linked _ identitiesFound identified _ found w comes
  · rintro none bounded b rfl keys _ schema rfl links linksFound
    have opened : OpenedBundle b links := ⟨bounded, keys, schema, linksFound⟩
    refine ⟨fun w comes => none w (.links opened comes), fun linked identities identitiesFound identified => ?_⟩
    exact fun signature found w comes =>
      none w (.signature opened linked identitiesFound identified found comes)

end

/-! ### The text of a bundle -/

theorem textValue_proper [Platform] (raw : RawText) : FailsProperly (textValue raw) := by
  unfold textValue
  split
  · exact failsOnly_ok _
  · split
    · exact failsOnly_ok _
    · exact failsProperly_fail _ _

theorem preflightJson_proper [NumberConversion] (raw : JsString) : FailsProperly (preflightJson raw) ↔
    (utf8Length raw ≤ REPRODUCTION_MAX_BYTES → ∀ token, Scan.ComesTo scanRules raw token → Scan.IsString token) := by
  have faults : ∀ fault, IsOwn (scanRules.fault fault) := by
    intro fault
    cases fault <;> exact isOwn_bundle _ _
  have strings : ∀ value maxBytes, FailsProperly (scanRules.checkString value maxBytes) :=
    fun value maxBytes => failsProperly_ensure _ _ _
  rw [preflightJson, failsProperly_bind, forall_unit]
  simp only [failsProperly_ensure, true_and, Reading.check_ok, decide_eq_true_eq]
  rw [FailsProperly, Scan.scan_failsOnly faults strings syntaxError_foreign]

theorem parseBoundedJsonValue_proper [Platform] [NumberConversion] (raw : RawText) :
    FailsProperly (parseBoundedJsonValue raw) ↔
      ∀ text, textValue raw = .ok text → utf8Length text ≤ REPRODUCTION_MAX_BYTES →
        ∀ token, Scan.ComesTo scanRules text token → Scan.IsString token := by
  rw [parseBoundedJsonValue, failsProperly_bind]
  simp only [failsProperly_bind, textValue_proper, preflightJson_proper, true_and]
  constructor
  · exact fun checks text decoded => (checks text decoded).1
  · intro strings text decoded
    refine ⟨strings text decoded, fun _ _ => ?_⟩
    split
    · exact failsProperly_pure _
    · exact failsProperly_fail _ _

section

variable [Platform] [NumberText] [NumberConversion]

/-- The decoder returns a bundle or throws its own error, for this text. -/
def DecodesProperly (raw : RawText) : Prop :=
  (∃ bundle, decodeReproductionBundle raw = .ok bundle) ∨
    ∃ code message, decodeReproductionBundle raw = .error (.bundle code message)

theorem decodesProperly_iff (raw : RawText) : DecodesProperly raw ↔ FailsProperly (decodeReproductionBundle raw) := by
  rw [DecodesProperly, FailsProperly, failsOnly_iff]
  apply or_congr_right
  constructor
  · rintro ⟨code, message, failed⟩
    exact ⟨_, failed, code, message, rfl⟩
  · rintro ⟨thrown, failed, code, message, rfl⟩
    exact ⟨code, message, failed⟩

/-- The decoder fails only with its own error exactly when each string that the scan comes to is one of JSON, and each
value that the checks come to coerce has a text. -/
theorem decodeReproductionBundle_proper (raw : RawText) : DecodesProperly raw ↔
    (∀ text, textValue raw = .ok text → utf8Length text ≤ REPRODUCTION_MAX_BYTES →
      ∀ token, Scan.ComesTo scanRules text token → Scan.IsString token) ∧
    ∀ json, parseBoundedJsonValue raw = .ok json → ∀ value, BundleCoerces json value → ¬ Textless value := by
  rw [decodesProperly_iff, decodeReproductionBundle, failsProperly_bind, parseBoundedJsonValue_proper]
  simp only [validateReproductionBundle_proper]

end

/-- A string with an escape that JSON does not have. -/
def badEscape : RawText := .text (js "\"\\q\"")

/-- The scan reads a string token with `JSON.parse`, which throws a `SyntaxError` of the language. -/
theorem badEscape_syntaxError : letI := integerNumbers.toNumberConversion; letI := integerNotation; letI := plainPlatform
    decodeReproductionBundle badEscape = .error .syntaxError ∧ ¬ DecodesProperly badEscape := by
  let := integerNumbers.toNumberConversion
  let := integerNotation
  let := plainPlatform
  have thrown : decodeReproductionBundle badEscape = .error .syntaxError := by decide +kernel
  refine ⟨thrown, ?_⟩
  rintro (⟨bundle, decoded⟩ | ⟨code, message, failed⟩)
  · rw [thrown] at decoded
    cases decoded
  · rw [thrown] at failed
    cases failed

/-- The role of an artifact is coerced, which throws a `TypeError` where `toString` is its own. -/
example : letI := integerNumbers.toNumberConversion; letI := integerNotation; letI := plainPlatform
    decodeReproductionBundle (rawOf (object [("toString", .null)])) = .error .typeError := by
  decide +kernel

end Mirror.Reproduction
