import MirrorECMA.DescriptorCache.Cache
import MirrorECMA.Negotiation.Reply
import MirrorECMA.Replay.Core

namespace Mirror.Negotiation

open ECMA ModelInterface Mirror.Protocol
open DescriptorCache (Cache CacheFailure)
open Mirror.Replay (Failure errorOf protoStep)

inductive NegotiatedRunnerErrorCode where
  | negotiation_missing
  | descriptor_schema_unsupported
  | descriptor_digest_invalid
  | descriptor_missing
  | not_modified_without_cache
  | negotiation_status_unexpected
  | adapter_not_registered
  | adapter_ambiguous
  | target_profile_mismatch
  | state_computer_contract_mismatch
  | interface_digest_mismatch
  | binding_digest_mismatch
  | binding_config_mismatch
  | adapter_factory_failed
  | adapter_dispose_failed
  | legacy_fallback_unavailable
  deriving DecidableEq

inductive ReplayControlErrorCode where
  | replay_aborted
  | action_timeout
  | receive_timeout
  deriving DecidableEq

/-- What an operation under `ReplayControl` is rejected with: a `ReplayControlError`, or a value of code outside. -/
inductive Rejection (ω : Type) where
  | control (code : ReplayControlErrorCode)
  | value (value : ω)

/-- What a negotiated run throws. -/
inductive NegotiatedFailure (ω : Type) where
  | runner (code : NegotiatedRunnerErrorCode) (message : JsString)
  | registration (code status message : JsString)
  | protocol (error : ModelInterfaceProtocolError)
  | cache (failure : CacheFailure)
  | other (failure : Failure (Rejection ω))

variable {ω φ ρ : Type}

def runnerError {α : Type} (code : NegotiatedRunnerErrorCode) (message : String) : Except (NegotiatedFailure ω) α :=
  .error (.runner code (js message))

inductive NegotiationPolicy where
  | require
  | prefer
  deriving DecidableEq

structure CompiledAdapterKey where
  semanticDigest : SemanticDigest
  adapterId : JsString
  targetProfile : JsString
  stateComputerContractVersion : JsString
  deriving DecidableEq

/-- A selection that is ready for its run, over factories `φ` and registries `ρ`. Its descriptor cache is passed apart. -/
inductive PreparedSelection (φ ρ : Type) where
  | compiled (key : CompiledAdapterKey) (factory : φ) (policy : NegotiationPolicy) (fallbackFactory : Option φ)
  | dynamic (semanticDigest : SemanticDigest) (registry : ρ) (ifNoneMatch : Option SemanticDigest)
    (policy : NegotiationPolicy) (fallbackFactory : Option φ)

namespace PreparedSelection

def expectedDigest : PreparedSelection φ ρ → SemanticDigest
  | .compiled key _ _ _ => key.semanticDigest
  | .dynamic semanticDigest _ _ _ _ => semanticDigest

def policy : PreparedSelection φ ρ → NegotiationPolicy
  | .compiled _ _ policy _ | .dynamic _ _ _ policy _ => policy

def fallbackFactory : PreparedSelection φ ρ → Option φ
  | .compiled _ _ _ fallbackFactory | .dynamic _ _ _ _ fallbackFactory => fallbackFactory

end PreparedSelection

/-! ### Selections -/

def MIRRORECMA_TARGET_PROFILE : String := "mirrorecma-v1"
def STATE_COMPUTER_CONTRACT_VERSION : String := "mirrors.state-computer/v1"
def ASYNC_STATE_COMPUTER_CONTRACT_VERSION : String := "mirrors.async-state-computer/v1"
def MIRRORECMA_ASYNC_TARGET_PROFILE : String := "mirrorecma-async-v1"
def MIRRORECMA_ASYNC_TYPED_MAPS_TARGET_PROFILE : String := "mirrorecma-async-v2"

/-- A selection of a compiled adapter; `semanticDigest` is that of its metadata. -/
structure CompiledAdapterSelection (φ : Type) where
  request : Option JsString
  semanticDigest : JsString
  adapterId : JsString
  targetProfile : JsString
  stateComputerContractVersion : JsString
  registrations : List (CompiledAdapterKey × φ)
  policy : Option NegotiationPolicy
  fallbackFactory : Option φ

/-- A selection of dynamic handlers; `registry` is one, or creates one. -/
structure DynamicSelection (φ ρ : Type) where
  request : Option JsString
  semanticDigest : JsString
  registry : ρ
  policy : Option NegotiationPolicy
  fallbackFactory : Option φ

inductive NegotiatedAdapterSelection (φ ρ : Type) where
  | compiled (selection : CompiledAdapterSelection φ)
  | dynamic (selection : DynamicSelection φ ρ)

/-- The fields of a request that depend on the run. -/
structure ModelInterfaceRequest where
  request : JsString
  policy : NegotiationPolicy
  expectedSemanticDigest : SemanticDigest
  ifNoneMatch : Option SemanticDigest

/-- `execution` is `some false` for a synchronous one and `none` for a callback. -/
def selectedKey (selection : CompiledAdapterSelection φ) (execution : Option Bool) :
    Except (NegotiatedFailure ω) CompiledAdapterKey := do
  let syncTarget : Bool := selection.targetProfile = js MIRRORECMA_TARGET_PROFILE
  let asyncTarget : Bool := selection.targetProfile = js MIRRORECMA_ASYNC_TARGET_PROFILE ||
    selection.targetProfile = js MIRRORECMA_ASYNC_TYPED_MAPS_TARGET_PROFILE
  if (!syncTarget && !asyncTarget) || (execution = some false && !syncTarget) || (execution = some true && !asyncTarget) then
    .error (.runner .target_profile_mismatch (js "unsupported target profile " ++ selection.targetProfile ++ js " for " ++
      js (match execution with | none => "callback" | some false => "sync" | some true => "async") ++ js " execution"))
  let expectedContract := if syncTarget then STATE_COMPUTER_CONTRACT_VERSION else ASYNC_STATE_COMPUTER_CONTRACT_VERSION
  if selection.stateComputerContractVersion ≠ js expectedContract then
    .error (.runner .state_computer_contract_mismatch (js "target profile " ++ selection.targetProfile ++
      js " requires StateComputer contract " ++ js expectedContract))
  return {
    semanticDigest := ← (semanticDigestFromHex selection.semanticDigest).mapError .protocol
    adapterId := selection.adapterId
    targetProfile := selection.targetProfile
    stateComputerContractVersion := selection.stateComputerContractVersion }

/-- `resolve` of a registry. -/
def resolve (registrations : List (CompiledAdapterKey × φ)) (key : CompiledAdapterKey) : Except (NegotiatedFailure ω) φ :=
  let exactly := registrations.filter fun entry => entry.1 = key
  let sameIdentity := registrations.filter fun entry =>
    entry.1.semanticDigest = key.semanticDigest ∧ entry.1.adapterId = key.adapterId
  let sameTarget := sameIdentity.filter fun entry => entry.1.targetProfile = key.targetProfile
  match exactly with
  | [entry] => .ok entry.2
  | _ :: _ :: _ =>
    .error (.runner .adapter_ambiguous (js "multiple adapters registered for " ++ key.adapterId))
  | [] =>
    if !sameIdentity.isEmpty && sameTarget.isEmpty then
      .error (.runner .target_profile_mismatch (js "adapter " ++ key.adapterId ++
        js " is not registered for target profile " ++ key.targetProfile))
    else if sameTarget.any fun entry => entry.1.stateComputerContractVersion ≠ key.stateComputerContractVersion then
      .error (.runner .state_computer_contract_mismatch (js "adapter " ++ key.adapterId ++
        js " is not registered for StateComputer contract " ++ key.stateComputerContractVersion))
    else .error (.runner .adapter_not_registered (js "adapter " ++ key.adapterId ++ js " is not registered"))

def prepareAdapter (selection : CompiledAdapterSelection φ) (policy : NegotiationPolicy) (execution : Option Bool) :
    Except (NegotiatedFailure ω) (PreparedSelection φ ρ) := do
  if selection.request ≠ none ∧ selection.request ≠ some (js "verify") then
    runnerError .negotiation_status_unexpected "compiled selection requires verify mode"
  let key ← selectedKey selection execution
  return .compiled key (← resolve selection.registrations key) policy selection.fallbackFactory

def prepareDynamic (selection : DynamicSelection φ ρ) : Except (NegotiatedFailure ω) SemanticDigest := do
  if selection.request ≠ none ∧ selection.request ≠ some (js "descriptor") then
    runnerError .negotiation_status_unexpected "dynamic selection requires descriptor mode"
  (semanticDigestFromHex selection.semanticDigest).mapError .protocol

section

variable [Sha256]

/-- Whether the cache has an entry that verifies: a corrupt one is no validator. -/
def validator (cache : Cache) (digest : SemanticDigest) : Except (NegotiatedFailure ω) (Option SemanticDigest) × Cache :=
  match cache.get digest with
  | (.ok (some _), cache) => (.ok (some digest), cache)
  | (.ok none, cache) => (.ok none, cache)
  | (.error (.cache _ _), cache) => (.ok none, cache)
  | (.error failure, cache) => (.error (.cache failure), cache)

/-- The request and the prepared selection of a callback run. The contract of the request is left out. -/
def prepareNegotiation (selection : NegotiatedAdapterSelection φ ρ) (cache : Cache) :
    Except (NegotiatedFailure ω) (ModelInterfaceRequest × PreparedSelection φ ρ) × Cache :=
  match selection with
  | .compiled selection =>
    (do
      let policy := selection.policy.getD .require
      let expectedSemanticDigest ← (semanticDigestFromHex selection.semanticDigest).mapError .protocol
      let prepared ← prepareAdapter selection policy none
      return (⟨js "verify", policy, expectedSemanticDigest, none⟩, prepared), cache)
  | .dynamic selection =>
    match prepareDynamic selection with
    | .error failure => (.error failure, cache)
    | .ok semanticDigest =>
      match validator cache semanticDigest with
      | (.error failure, cache) => (.error failure, cache)
      | (.ok ifNoneMatch, cache) =>
        let policy := selection.policy.getD .require
        (.ok (⟨js "descriptor", policy, semanticDigest, ifNoneMatch⟩,
          .dynamic semanticDigest selection.registry ifNoneMatch policy selection.fallbackFactory), cache)

/-! ### Authorization -/

inductive ReplayAuthorization where
  | compiled
  | dynamic (descriptor : SemanticDescriptor)
  | fallback

/-- A reply that only `prefer` with a fallback factory accepts. -/
def authorizeFallback (prepared : PreparedSelection φ ρ) (code : NegotiatedRunnerErrorCode) (refused unavailable : String) :
    Except (NegotiatedFailure ω) ReplayAuthorization :=
  if prepared.policy ≠ .prefer then runnerError code refused
  else if prepared.fallbackFactory.isNone then runnerError .legacy_fallback_unavailable unavailable
  else .ok .fallback

/-- `case "unsupported"`, `"unavailable"` and `"too_large"`. -/
def authorizeUnresolved (prepared : PreparedSelection φ ρ) (status : String) :
    Except (NegotiatedFailure ω) ReplayAuthorization :=
  authorizeFallback prepared
    (if status = "unsupported" then .descriptor_schema_unsupported else .negotiation_status_unexpected)
    ("model-interface negotiation " ++ status)
    ("model-interface negotiation " ++ status ++ " requires an explicit fallback factory")

def authorizeResolved (semanticDigest : SemanticDigest) (identity : DescriptorIdentity) (descriptor : SemanticDescriptor)
    (cache : Cache) : Except (NegotiatedFailure ω) ReplayAuthorization × Cache :=
  if identity.semanticDigest ≠ semanticDigest then
    (runnerError .interface_digest_mismatch "resolved descriptor digest does not match the dynamic registry", cache)
  else
    match cache.put (some descriptor.toJson) with
    | (.error failure, cache) => (.error (.cache failure), cache)
    | (.ok cached, cache) =>
      if cached.semanticDigest ≠ semanticDigest then
        (runnerError .descriptor_digest_invalid "cached resolved descriptor digest changed", cache)
      else (.ok (.dynamic cached.descriptor), cache)

def authorizeNotModified (semanticDigest : SemanticDigest) (ifNoneMatch : Option SemanticDigest)
    (identity : DescriptorIdentity) (cache : Cache) : Except (NegotiatedFailure ω) ReplayAuthorization × Cache :=
  if identity.semanticDigest ≠ semanticDigest then
    (runnerError .interface_digest_mismatch "cached descriptor digest does not match the dynamic registry", cache)
  else if ifNoneMatch ≠ some identity.semanticDigest then
    (runnerError .negotiation_status_unexpected
      "not_modified does not correlate to the descriptor validator sent in this request", cache)
  else
    match cache.require identity.semanticDigest with
    | (.ok cached, cache) => (.ok (.dynamic cached.descriptor), cache)
    | (.error (.cache _ _), cache) =>
      (runnerError .not_modified_without_cache
        "not_modified requires a present digest-valid descriptor cache entry", cache)
    | (.error failure, cache) => (.error (.cache failure), cache)

def unexpectedStatus (status kind : String) : Except (NegotiatedFailure ω) ReplayAuthorization :=
  runnerError .negotiation_status_unexpected ("model-interface status " ++ status ++ " is invalid for a " ++ kind)

def authorizeReply (prepared : PreparedSelection φ ρ) (reply : Option ModelInterfaceReply) (cache : Cache) :
    Except (NegotiatedFailure ω) ReplayAuthorization × Cache :=
  match reply, prepared with
  | none, _ =>
    (authorizeFallback prepared .negotiation_missing "model-interface negotiation reply is missing"
      "old server requires an explicit fallback factory under prefer", cache)
  | some .unsupported, _ => (authorizeUnresolved prepared "unsupported", cache)
  | some .unavailable, _ => (authorizeUnresolved prepared "unavailable", cache)
  | some (.too_large _ _), .compiled _ _ _ _ => (unexpectedStatus "too_large" "compiled verify request", cache)
  | some (.too_large _ _), .dynamic _ _ _ _ _ => (authorizeUnresolved prepared "too_large", cache)
  | some (.matched _), .dynamic _ _ _ _ _ => (unexpectedStatus "matched" "dynamic descriptor request", cache)
  | some (.matched identity), .compiled key _ _ _ =>
    if identity.semanticDigest ≠ key.semanticDigest then
      (runnerError .interface_digest_mismatch "server semantic digest does not match the compiled interface", cache)
    else (.ok .compiled, cache)
  | some (.resolved _ _ _), .compiled _ _ _ _ => (unexpectedStatus "resolved" "compiled verify request", cache)
  | some (.resolved identity _ descriptor), .dynamic semanticDigest _ _ _ _ =>
    authorizeResolved semanticDigest identity descriptor cache
  | some (.not_modified _), .compiled _ _ _ _ => (unexpectedStatus "not_modified" "compiled verify request", cache)
  | some (.not_modified identity), .dynamic semanticDigest _ ifNoneMatch _ _ =>
    authorizeNotModified semanticDigest ifNoneMatch identity cache
  | some (.mismatch _ _ _), _ =>
    (runnerError .interface_digest_mismatch "model-interface resolution did not match the requested semantic digest",
      cache)

end

/-! ### The first reply -/

def hasInfix (text pattern : JsString) : Bool := text.tails.any fun rest => pattern.isPrefixOf rest

def isLineTerminator (u : CodeUnit) : Bool := [0x0A, 0x0D, 0x2028, 0x2029].contains u.toNat

/-- `/descriptor.*required for resolved/`. -/
def descriptorRequired (text : JsString) : Bool :=
  text.tails.any fun rest => (js "descriptor").isPrefixOf rest &&
    let rest := rest.drop (js "descriptor").length
    rest.tails.any fun tail => (js "required for resolved").isPrefixOf tail &&
      (rest.take (rest.length - tail.length)).all fun u => !isLineTerminator u

def negotiationDecodeError (cause : Option ModelInterfaceProtocolError) : NegotiatedFailure ω :=
  let code := match cause with
    | none => .negotiation_status_unexpected
    | some error =>
      if hasInfix error.message (js "digest") || hasInfix error.message (js "semanticDigest") then
        .descriptor_digest_invalid
      else if descriptorRequired error.message then .descriptor_missing
      else if hasInfix error.message (js "descriptorSchema") then .descriptor_schema_unsupported
      else .negotiation_status_unexpected
  .runner code (js "invalid model-interface negotiation reply")

/-- Errors that keep their own identity. -/
def isControl : Failure (Rejection ω) → Bool
  | .cancelled _ | .deadline _ _ | .thrown (.control _) => true
  | _ => false

section

variable [NumberText]

/-- `requireValidRegistration`, and the text of an invalid specification. -/
def requireValidRegistration (message : AnyMessage) : Except (NegotiatedFailure ω) Unit :=
  match message with
  | .protocolError error => .error (.other (errorOf error))
  | .registerError error =>
    match rawText error with
    | .ok text => .error (.other (.error (js "register failed: " ++ text)))
    | .error _ => .error (.other .typeError)
  | .specValidated .valid => .ok ()
  | .specValidated (.invalid error) =>
    .error (.other (.error (js "spec invalid: " ++ error.getD (js "undefined"))))
  | message => .error (.other (.error (js "expected spec_validated, got " ++ protoStep message)))

/-- A structured failure of the registration. -/
def structuredFailure (expectedDigest : SemanticDigest) (decoded : DecodedModelInterfaceMirrorMessage) :
    Except (NegotiatedFailure ω) Unit :=
  match decoded.message, decoded.modelInterface with
  | .registerError error, some (.failure failure) =>
    if failure.expectedSemanticDigest ≠ none ∧ failure.expectedSemanticDigest ≠ some expectedDigest then
      runnerError .negotiation_status_unexpected "structured register_error expectedSemanticDigest does not match the request"
    else
      let status := match failure.status with
        | .mismatch => "mismatch"
        | .unsupported => "unsupported"
        | .unavailable => "unavailable"
        | .too_large => "too_large"
      match rawText error with
      | .ok text => .error (.registration failure.code (js status) (js "register failed: " ++ text))
      | .error _ => .error (.other .typeError)
  | _, _ => .ok ()

variable [Sha256] [NumberConversion]

/-- The first reply of a callback run, with what its receive gives. -/
def receiveNegotiatedFirstReply (expectedDigest : SemanticDigest) (received : Except (Failure (Rejection ω)) JsString) :
    Except (NegotiatedFailure ω) DecodedModelInterfaceMirrorMessage := do
  let decoded ← match received with
    | .error failure => if isControl failure then .error (.other failure) else .error (negotiationDecodeError none)
    | .ok line =>
      match decodeModelInterfaceMirrorMessage line with
      | .ok decoded => .ok decoded
      | .error (.protocol error) => .error (negotiationDecodeError (some error))
      | .error (.thrown _) => .error (negotiationDecodeError none)
  structuredFailure expectedDigest decoded
  requireValidRegistration decoded.message
  match decoded.modelInterface with
  | some (.failure _) =>
    runnerError .negotiation_status_unexpected "spec_validated carried a registration failure"
  | _ => return decoded

end

end Mirror.Negotiation
