import MirrorECMA.Registration.Request

namespace Mirror.Registration

open ECMA ModelInterface Mirror.Negotiation

/-! ### Digests -/

/-- A digest as the wire has it. -/
def wireDigest (digest : SemanticDigest) : JsString := js "sha256:" ++ digest.hex

def digestMember (name : String) (digest : Option SemanticDigest) : Fields Json :=
  (digest.map fun digest => (js name, .string (wireDigest digest))).toList

theorem semanticDigestFromHex_hex (digest : SemanticDigest) : semanticDigestFromHex digest.hex = .ok digest := by
  rw [semanticDigestFromHex, dif_pos digest.valid]

theorem renderWireSemanticDigest_hex (digest : SemanticDigest) :
    renderWireSemanticDigest digest.hex = .ok (wireDigest digest) := by
  rw [renderWireSemanticDigest, semanticDigestFromHex_hex]
  rfl

theorem parseWireSemanticDigest_wire (digest : SemanticDigest) :
    parseWireSemanticDigest (wireDigest digest) = .ok digest := by
  have prefixed : (js "sha256:").isPrefixOf (wireDigest digest) = true :=
    List.isPrefixOf_iff_prefix.mpr (List.prefix_append _ _)
  have bare : (wireDigest digest).drop 7 = digest.hex := List.drop_left' rfl
  have checked : failWhen ((js "sha256:").isPrefixOf (wireDigest digest) = false) (js "digest")
      (js "expected the 'sha256:' prefix") = .ok () := failWhen_ok.mpr (by simp [prefixed])
  rw [parseWireSemanticDigest, checked, ok_bind, bare, semanticDigestFromHex_hex]

theorem wireDigest_wellFormed (digest : SemanticDigest) : isWellFormed (wireDigest digest) = true := by
  refine isWellFormed_append (by decide) (isWellFormed_plain fun u member => ?_)
  have digit := List.all_eq_true.mp digest.valid.2 u member
  simp only [isLowerHexDigit, isDigit, isSurrogate, Bool.or_eq_true, Bool.and_eq_true, Bool.and_eq_false_iff,
    decide_eq_true_eq, decide_eq_false_iff_not] at digit ⊢
  omega

theorem digestField_wire {fields : Fields Json} {name : String} (digest : Option SemanticDigest)
    (found : fields.get (js name) = digest.map fun digest => .string (wireDigest digest)) (path : JsString) :
    digestField fields name path = .ok digest := by
  rw [digestField, found]
  cases digest with
  | none => rfl
  | some digest =>
    rw [Option.map_some, ModelInterface.optional]
    · rw [string_plain (wireDigest_wellFormed digest), ok_bind, parseWireSemanticDigest_wire]
      rfl
    · simp

theorem renderedDigest_hex (name : String) (digest : Option SemanticDigest) :
    renderedDigest name (digest.map (·.hex)) = .ok (digestMember name digest) := by
  cases digest with
  | none => rfl
  | some digest =>
    rw [Option.map_some, renderedDigest, renderWireSemanticDigest_hex]
    rfl

/-! ### What the decoder returns -/

structure AcceptedSchemas (schemas : List JsString) : Prop where
  someSchema : schemas.length ≠ 0
  count : schemas.length ≤ 8
  valid : ∀ schema ∈ schemas, isWellFormed schema = true
  filled : [] ∉ schemas
  distinct : schemas.Nodup

structure RequestCommon.Accepted (common : RequestCommon) : Prop where
  schemas : AcceptedSchemas common.acceptDescriptorSchemas
  contract : common.contract.Accepted

theorem decodeAcceptedSchemas_accepted {value : Unknown} {path : JsString} {schemas : List JsString}
    (decoded : decodeAcceptedSchemas value path = .ok schemas) : AcceptedSchemas schemas := by
  simp only [decodeAcceptedSchemas, bind_eq_ok, failWhen_ok, requireUnique_ok, pure_eq_ok, Except.ok.injEq,
    Nat.not_lt] at decoded
  obtain ⟨raw, -, _, someSchema, _, few, _, texts, _, filled, _, distinct, rfl⟩ := decoded
  obtain ⟨size, valid⟩ := mapItems_each (fun _ _ _ found => (string_ok.mp found).2) texts
  exact ⟨size ▸ someSchema, size ▸ few, valid, filled, distinct⟩

theorem decodeAcceptedSchemas_plain {schemas : List JsString} (accepted : AcceptedSchemas schemas) (path : JsString) :
    decodeAcceptedSchemas (some (.array (schemas.map .string))) path = .ok schemas := by
  simp only [decodeAcceptedSchemas, bind_eq_ok]
  exact ⟨_, array_ok.mpr rfl, (), failWhen_ok.mpr (by simpa using accepted.someSchema),
    (), failWhen_ok.mpr (by simpa using accepted.count), schemas, strings_plain accepted.valid path 0,
    (), failWhen_ok.mpr accepted.filled, (), requireUnique_ok.mpr accepted.distinct, rfl⟩

theorem decodeContractReference_accepted {value : Unknown} {path : JsString} {contract : ContractV1}
    (decoded : decodeContractReference value path = .ok contract) : contract.Accepted := by
  simp only [decodeContractReference, bind_eq_ok] at decoded
  obtain ⟨reference, -, decoded⟩ := decoded
  split at decoded
  · rcases switch_eq decoded with ⟨case, member, -, result⟩ | ⟨-, failed⟩
    · simp only [List.mem_cons, List.not_mem_nil, or_false] at member
      rcases member with rfl | rfl
      · cases result
      · exact decodeContractV1_accepted result
    · cases failed
  · cases decoded

theorem decodeContractReference_plain {contract : ContractV1} (accepted : contract.Accepted) (path : JsString) :
    decodeContractReference (some (.object [(js "inline", contract.toJson)])) path = .ok contract := by
  simp [decodeContractReference, object, switch, decodeContractV1_plain accepted]

theorem decodeRequestValue_accepted {value : Unknown} {request : ModelInterfaceRequest}
    (decoded : decodeRequestValue value = .ok request) : request.common.Accepted := by
  simp only [decodeRequestValue, bind_eq_ok] at decoded
  obtain ⟨fields, -, _, -, mode, -, _, -, policy, -, schemas, accepted, expected, -, validator, -, decoded⟩ := decoded
  cases mode with
  | verify =>
    simp only [bind_eq_ok, pure_eq_ok, Except.ok.injEq] at decoded
    obtain ⟨_, -, contract, reference, rfl⟩ := decoded
    exact ⟨decodeAcceptedSchemas_accepted accepted, decodeContractReference_accepted reference⟩
  | descriptor =>
    simp only [bind_eq_ok, pure_eq_ok, Except.ok.injEq] at decoded
    obtain ⟨contract, reference, rfl⟩ := decoded
    exact ⟨decodeAcceptedSchemas_accepted accepted, decodeContractReference_accepted reference⟩

/-! ### Requests that are read back -/

theorem decodeRequestMode_plain (mode : RequestMode) (path : JsString) :
    decodeRequestMode (some (.string (js mode.name))) path = .ok mode := by
  have text : string (some (.string (js mode.name))) path = .ok (js mode.name) := string_plain (by cases mode <;> decide)
  rw [decodeRequestMode, text]
  cases mode <;> simp [switch, RequestMode.name]

theorem negotiationPolicy_name (policy : NegotiationPolicy) (path : JsString) :
    negotiationPolicy (js (policyName policy)) path = .ok policy := by
  cases policy <;> simp [negotiationPolicy, switch, policyName]

/-- The fields list the members of a request, with its digests in the form they have on the wire. -/
structure Lists (fields : Fields Json) (request : ModelInterfaceRequest) : Prop where
  known : (fields.keys.all fun key => decide (key ∈ requestFields.map js)) = true
  present : (requiredRequestFields.all fun key => fields.has (js key)) = true
  schema : fields.get (js "schema") = some (.string (js MODEL_INTERFACE_NEGOTIATION_SCHEMA))
  mode : fields.get (js "request") = some (.string (js request.mode.name))
  policy : fields.get (js "policy") = some (.string (js (policyName request.common.policy)))
  schemas : fields.get (js "acceptDescriptorSchemas") = some (.array (request.common.acceptDescriptorSchemas.map .string))
  expectedSemanticDigest : fields.get (js "expectedSemanticDigest") =
    request.expectedSemanticDigest.map fun digest => .string (wireDigest digest)
  ifNoneMatch : fields.get (js "ifNoneMatch") = request.ifNoneMatch.map fun digest => .string (wireDigest digest)
  contract : fields.get (js "contract") = some (.object [(js "inline", request.common.contract.toJson)])

theorem decodeRequestValue_lists {fields : Fields Json} {request : ModelInterfaceRequest} (lists : Lists fields request)
    (accepted : request.common.Accepted) : decodeRequestValue (some (.object fields)) = .ok request := by
  have policy : string (fields.get (js "policy")) (js "modelInterface" ++ js ".policy") =
      .ok (js (policyName request.common.policy)) :=
    string_ok.mpr ⟨lists.policy, by cases request.common.policy <;> decide⟩
  have schema : expectText (fields.get (js "schema")) MODEL_INTERFACE_NEGOTIATION_SCHEMA (js "modelInterface" ++ js ".schema") =
      .ok () := expectText_ok.mpr lists.schema
  simp only [decodeRequestValue, exactObject_plain lists.known lists.present, schema, lists.mode, decodeRequestMode_plain,
    policy, negotiationPolicy_name, lists.schemas, decodeAcceptedSchemas_plain accepted.schemas,
    digestField_wire _ lists.expectedSemanticDigest, digestField_wire _ lists.ifNoneMatch, lists.contract,
    decodeContractReference_plain accepted.contract, ok_bind]
  cases request <;> rfl

theorem wireDigests_eq (request : ModelInterfaceRequest) : request.wireDigests = .ok
    (digestMember "expectedSemanticDigest" request.expectedSemanticDigest ++ digestMember "ifNoneMatch" request.ifNoneMatch) := by
  simp only [ModelInterfaceRequest.wireDigests, renderedDigest_hex, ok_bind, pure_eq_ok]

/-- The spread of a request, whose bare digests are written over. -/
theorem lists_spread (request : ModelInterfaceRequest) :
    Lists (Fields.ofEntries (request.fields ++ (digestMember "expectedSemanticDigest" request.expectedSemanticDigest ++
      digestMember "ifNoneMatch" request.ifNoneMatch))) request := by
  unfold ModelInterfaceRequest.fields
  cases expected : request.expectedSemanticDigest <;> cases validator : request.ifNoneMatch <;> constructor <;>
    simp [expected, validator, bareDigest, digestMember, requestFields, requiredRequestFields, Fields.ofEntries, Fields.set,
      Fields.get, Fields.has]

/-- What `wireRequest` writes. -/
def ModelInterfaceRequest.wire (request : ModelInterfaceRequest) : Fields Json := [
    (js "schema", .string (js MODEL_INTERFACE_NEGOTIATION_SCHEMA)),
    (js "request", .string (js request.mode.name)),
    (js "policy", .string (js (policyName request.common.policy))),
    (js "acceptDescriptorSchemas", .array (request.common.acceptDescriptorSchemas.map .string))] ++
    (digestMember "expectedSemanticDigest" request.expectedSemanticDigest ++ digestMember "ifNoneMatch" request.ifNoneMatch) ++
    [(js "contract", .object [(js "inline", request.common.contract.toJson)])]

theorem lists_wire (request : ModelInterfaceRequest) : Lists request.wire request := by
  unfold ModelInterfaceRequest.wire
  cases expected : request.expectedSemanticDigest <;> cases validator : request.ifNoneMatch <;> constructor <;>
    simp [expected, validator, digestMember, requestFields, requiredRequestFields, Fields.get, Fields.has]

theorem wireRequest_accepted {request : ModelInterfaceRequest} (accepted : request.common.Accepted) :
    wireRequest request = .ok request.wire := by
  have normalized := decodeRequestValue_lists (lists_spread request) accepted
  simp only [wireRequest, wireDigests_eq, ok_bind, normalized, pure_eq_ok, ModelInterfaceRequest.wire]

/-- A request whose contract and schemas the decoder returns is read back from what it is on the wire. -/
theorem wireRequest_decoded {request : ModelInterfaceRequest} (accepted : request.common.Accepted) :
    ∃ wire, wireRequest request = .ok wire ∧ decodeModelInterfaceRequest (some (.object wire)) = .ok request :=
  ⟨_, wireRequest_accepted accepted, decodeRequestValue_lists (lists_wire request) accepted⟩

/-! ### The builders -/

theorem createVerifyRequest_accepted {metadata : GeneratedModelInterface} {policy : Option JsString}
    {request : ModelInterfaceVerifyRequest} (created : createVerifyRequest metadata policy = .ok request) :
    request.toRequestCommon.Accepted := by
  simp only [createVerifyRequest, bind_eq_ok, pure_eq_ok, Except.ok.injEq] at created
  obtain ⟨policy, -, digest, -, contract, decoded, rfl⟩ := created
  have schemas : AcceptedSchemas [js MODEL_INTERFACE_DESCRIPTOR_SCHEMA] :=
    ⟨by decide, by decide, by decide, by decide, by decide⟩
  exact ⟨schemas, decodeContractV1_accepted decoded⟩

theorem createDescriptorRequest_accepted {contract : Json} {options : DescriptorRequestOptions}
    {request : ModelInterfaceDescriptorRequest} (created : createDescriptorRequest contract options = .ok request) :
    request.toRequestCommon.Accepted := by
  simp only [createDescriptorRequest, bind_eq_ok] at created
  obtain ⟨_, -, _, -, decoded, value, created⟩ := created
  cases decoded with
  | verify other => cases created
  | descriptor other =>
    cases created
    exact decodeRequestValue_accepted value

/-- The options that a request answers to. -/
def ModelInterfaceDescriptorRequest.options (request : ModelInterfaceDescriptorRequest) : DescriptorRequestOptions where
  policy := some (js (policyName request.policy))
  expectedSemanticDigest := request.expectedSemanticDigest.map (·.hex)
  ifNoneMatch := request.ifNoneMatch.map (·.hex)
  acceptDescriptorSchemas := some request.acceptDescriptorSchemas

theorem createVerifyRequest_plain {policy : NegotiationPolicy} {digest : SemanticDigest} {contract : ContractV1}
    (accepted : contract.Accepted) :
    createVerifyRequest ⟨digest.hex, contract.toJson⟩ (some (js (policyName policy))) =
      .ok { policy, acceptDescriptorSchemas := [js MODEL_INTERFACE_DESCRIPTOR_SCHEMA], contract, expectedSemanticDigest := digest } := by
  simp only [createVerifyRequest, Option.getD_some, negotiationPolicy_name, semanticDigestFromHex_hex,
    decodeContractV1_plain accepted, ok_bind, pure_eq_ok]

theorem createDescriptorRequest_plain {request : ModelInterfaceDescriptorRequest}
    (accepted : request.toRequestCommon.Accepted) :
    createDescriptorRequest request.contract.toJson request.options = .ok request := by
  have decoded {fields : Fields Json} (lists : Lists fields (.descriptor request)) := decodeRequestValue_lists lists accepted
  simp only [createDescriptorRequest, ModelInterfaceDescriptorRequest.options, renderedDigest_hex, ok_bind, Option.getD_some]
  rw [decoded]
  · rfl
  · rcases request with ⟨common, expected, validator⟩
    cases expected <;> cases validator <;> constructor <;>
      simp [digestMember, requestFields, requiredRequestFields, Fields.get, Fields.has, ModelInterfaceRequest.mode,
        ModelInterfaceRequest.common, ModelInterfaceRequest.expectedSemanticDigest, ModelInterfaceRequest.ifNoneMatch]

/-- A request as a builder returns it. -/
inductive Built : ModelInterfaceRequest → Prop
  | verify {metadata : GeneratedModelInterface} {policy : Option JsString} {request : ModelInterfaceVerifyRequest} :
    createVerifyRequest metadata policy = .ok request → Built (.verify request)
  | descriptor {contract : Json} {options : DescriptorRequestOptions} {request : ModelInterfaceDescriptorRequest} :
    createDescriptorRequest contract options = .ok request → Built (.descriptor request)

/-- A built request is written on the wire, and read back as it was built. -/
theorem builtRequest_readsBack {request : ModelInterfaceRequest} (built : Built request) :
    ∃ wire, wireRequest request = .ok wire ∧ decodeModelInterfaceRequest (some (.object wire)) = .ok request := by
  cases built with
  | verify created => exact wireRequest_decoded (createVerifyRequest_accepted created)
  | descriptor created => exact wireRequest_decoded (createDescriptorRequest_accepted created)

/-! ### A counter -/

def letterDigest : SemanticDigest := ⟨List.replicate 64 0x61, by decide⟩

def strideInput : ContractInput where
  id := js "Stride"
  «from» := { root := .stepParameters, path := [.field (js "parameters"), .mapKey (.int (js "7"))] }
  expectedType := some (.scalar .int)

def counterContract : ContractV1 where
  interfaceVersion := js "1.0.0"
  model := { module := js "Counter", source := js "specs/Counter.tla" }
  wire := { actionVariable := js "action_taken", parameterVariable := some (js "parameters") }
  initializers := [{ id := js "Initialize", wireAction := js "init", wireAliases := [], inputs := [] }]
  actions := [{ id := js "Tick", wireAction := js "tick", wireAliases := [js "increment"], inputs := [strideInput] }]
  observations := [{ id := js "Count", wireName := js "count", provenance := .oracle, expectedType := none }]

theorem counterContract_accepted : counterContract.Accepted := by
  have stride : strideInput.Accepted := by
    refine ⟨by decide, by decide, ?_, ?_⟩
    · intro segment member
      simp only [strideInput, List.mem_cons, List.not_mem_nil, or_false] at member
      rcases member with rfl | rfl
      · exact (by decide : ShortText (js "parameters"))
      · exact .int (by decide) (by decide)
    · rintro type ⟨⟩
      exact .scalar
  refine ⟨by decide, by decide, by decide, by decide, by decide, by decide, ?_, by decide, ?_, by decide, ?_, by decide⟩
  · exact List.forall_mem_singleton.mpr ⟨by decide, by decide, by decide, by decide, by decide, by simp⟩
  · exact List.forall_mem_singleton.mpr
      ⟨by decide, by decide, by decide, by decide, by decide, List.forall_mem_singleton.mpr stride⟩
  · exact List.forall_mem_singleton.mpr ⟨by decide, by decide, by simp [ExpectedType]⟩

/-- A request with every optional member. -/
def counterRequest : ModelInterfaceDescriptorRequest where
  policy := .prefer
  acceptDescriptorSchemas := [js MODEL_INTERFACE_DESCRIPTOR_SCHEMA, js "mirrors.model-interface-descriptor/v2"]
  contract := counterContract
  expectedSemanticDigest := some letterDigest
  ifNoneMatch := some letterDigest

theorem counterRequest_readsBack :
    createDescriptorRequest counterContract.toJson counterRequest.options = .ok counterRequest ∧
    ∃ wire, wireRequest (.descriptor counterRequest) = .ok wire ∧
      decodeModelInterfaceRequest (some (.object wire)) = .ok (.descriptor counterRequest) := by
  have created := @createDescriptorRequest_plain counterRequest
    ⟨⟨by decide, by decide, by decide, by decide, by decide⟩, counterContract_accepted⟩
  exact ⟨created, builtRequest_readsBack (.descriptor created)⟩

end Mirror.Registration
