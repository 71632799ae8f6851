import MirrorECMA.Negotiation.Authorize

namespace Mirror.Compiled

open ECMA ModelInterface Mirror.Protocol Mirror.Negotiation
open Mirror.Replay (Failure ReplayDeadlineStage protoStep)

variable {ω : Type}

/-- The failures of an operation that a compiled run waits for. -/
abbrev Failed (ω : Type) := Failure (Rejection ω)

inductive Execution where
  | sync
  | async
  deriving DecidableEq

/-- A compiled selection that is ready for its run. An asynchronous one requires a match and has no fallback. -/
structure PreparedExecution where
  execution : Execution
  key : CompiledAdapterKey
  policy : NegotiationPolicy
  fallbackFactory : Bool

/-- What `authorizeReply` sees of a synchronous selection. -/
def PreparedExecution.selection (prepared : PreparedExecution) : PreparedSelection Unit Unit :=
  .compiled prepared.key () prepared.policy (if prepared.fallbackFactory then some () else none)

section

variable [NumberText]

/-- What a run under deadlines requires of the message. -/
def requireRegistration (message : AnyMessage) : Except (NegotiatedFailure ω) Unit :=
  let registrationError (code status : String) (error : Raw) (before : JsString) : Except (NegotiatedFailure ω) Unit :=
    match rawText error with
    | .ok text => .error (.registration (js code) (js status) (before ++ text))
    | .error _ => .error (.other .typeError)
  match message with
  | .protocolError error =>
    match error with
    | none => .error (.registration (js "protocol_error") (js "protocol_error") [])
    | error => registrationError "protocol_error" "protocol_error" error []
  | .registerError error => registrationError "register_error" "register_error" error (js "register failed: ")
  | .specValidated .valid => .ok ()
  | .specValidated (.invalid error) =>
    .error (.registration (js "spec_invalid") (js "invalid") (js "spec invalid: " ++ error.getD (js "undefined")))
  | message =>
    .error (.registration (js "registration_reply_unexpected") (protoStep message)
      (js "expected spec_validated, got " ++ protoStep message))

variable [Sha256] [NumberConversion]

/-- The first reply of a run under deadlines. -/
def receiveFirstReply (expectedDigest : SemanticDigest) (received : Except (Failed ω) JsString) :
    Except (NegotiatedFailure ω) DecodedModelInterfaceMirrorMessage := do
  let decoded ← match received with
    | .error failure => if isControl failure then .error (.other failure) else .error (negotiationDecodeError none)
    | .ok line =>
      match decodeModelInterfaceMirrorMessage line with
      | .ok decoded => .ok decoded
      | .error (.protocol error) => .error (negotiationDecodeError (some error))
      | .error (.thrown _) => .error (negotiationDecodeError none)
  structuredFailure expectedDigest decoded
  requireRegistration decoded.message
  match decoded.modelInterface with
  | some (.failure _) =>
    runnerError .negotiation_status_unexpected "spec_validated carried a registration failure"
  | _ => return decoded

end

def requireAsyncMatchedReply (reply : Option ModelInterfaceReply) (key : CompiledAdapterKey) :
    Except (NegotiatedFailure ω) Unit :=
  let invalid (status : String) : Except (NegotiatedFailure ω) Unit :=
    runnerError .negotiation_status_unexpected
      ("model-interface status " ++ status ++ " is invalid for an async compiled verify request")
  match reply with
  | none => runnerError .negotiation_missing "model-interface negotiation reply is missing"
  | some (.matched identity) =>
    if identity.semanticDigest ≠ key.semanticDigest then
      runnerError .interface_digest_mismatch "server semantic digest does not match the compiled interface"
    else .ok ()
  | some (.mismatch _ _ _) =>
    runnerError .interface_digest_mismatch "model-interface resolution did not match the requested semantic digest"
  | some .unsupported => runnerError .descriptor_schema_unsupported "model-interface negotiation unsupported"
  | some .unavailable => invalid "unavailable"
  | some (.too_large _ _) => invalid "too_large"
  | some (.resolved _ _ _) => invalid "resolved"
  | some (.not_modified _) => invalid "not_modified"

/-- The factory that the reply authorizes, by its label. -/
def authorizeExecution [Sha256] (prepared : PreparedExecution) (reply : Option ModelInterfaceReply) :
    Except (NegotiatedFailure ω) JsString :=
  match prepared.execution with
  | .async => do
    requireAsyncMatchedReply reply prepared.key
    return prepared.key.adapterId
  | .sync => do
    -- a compiled selection does not look at the cache
    match ← (authorizeReply prepared.selection reply { maxEntries := 1, maxBytes := 1 }).1 with
    | .compiled => return js "adapter key for " ++ prepared.key.adapterId
    | .fallback => return js "legacy fallback for " ++ prepared.key.adapterId
    | .dynamic _ => .error (.other (.error (js "internal synchronous authorization mismatch")))

end Mirror.Compiled
