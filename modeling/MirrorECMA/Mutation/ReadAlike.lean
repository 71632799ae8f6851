import MirrorECMA.Mutation.Gating

namespace Mirror.Mutation

open ECMA Machine
open ECMA.Reading (check_ok)
open Mirror.Reproduction (Platform RawText parseBoundedJsonValue string plainPlatform)

section

variable [NumberText] {now : Nat → Rat} {trace : Trace} {path : TestedPath} {campaign : MutationCampaign}

/-! ### Both validations of a campaign -/

section

variable {ε α β : Type}

/-- What the one returns, the other returns too. -/
def Weaker (first second : Except ε α) : Prop := ∀ result, first = .ok result → second = .ok result

theorem Weaker.first {first second : Except ε α} {next : α → Except ε β} (weaker : Weaker first second) :
    Weaker (first >>= next) (second >>= next) := by
  intro result returned
  rw [bind_eq_ok] at returned ⊢
  rcases returned with ⟨value, taken, others⟩
  exact ⟨value, weaker value taken, others⟩

theorem Weaker.next {first : Except ε α} {f g : α → Except ε β} (weaker : ∀ value, Weaker (f value) (g value)) :
    Weaker (first >>= f) (first >>= g) := by
  intro result returned
  rw [bind_eq_ok] at returned ⊢
  rcases returned with ⟨value, taken, others⟩
  exact ⟨value, taken, weaker value result others⟩

theorem Weaker.foldlM {f g : β → α → Except ε β} {xs : List α} {start : β}
    (weaker : ∀ state x, Weaker (f state x) (g state x)) : Weaker (xs.foldlM f start) (xs.foldlM g start) := by
  induction xs generalizing start with
  | nil => exact fun _ returned => returned
  | cons x rest ih =>
    intro result returned
    rw [List.foldlM_cons, bind_eq_ok] at returned ⊢
    rcases returned with ⟨next, taken, others⟩
    exact ⟨next, weaker start x next taken, ih result others⟩

end

theorem check_weaken {ε : Type} {failure : ε} {condition : Bool} : Weaker (Reading.check failure condition) (Reading.check failure true) :=
  fun _ _ => rfl

variable {knownActions : Option (List JsString)}

theorem validateExpected_weaken {value : Json} : Weaker (validateExpected knownActions value) (validateExpected none value) := by
  unfold validateExpected
  iterate 12
    apply Weaker.next
    intro _
  exact check_weaken

theorem validateMutant_weaken {probeIds : List JsString} {mutants : List MutationDefinition} {entry : Json × Nat} :
    Weaker (validateMutant knownActions probeIds mutants entry) (validateMutant none probeIds mutants entry) := by
  unfold validateMutant
  iterate 8
    apply Weaker.next
    intro _
  exact Weaker.first validateExpected_weaken

/-- What is accepted with a list of known actions is accepted without one. -/
theorem validateMutationCampaign_weaken {value : Json} :
    Weaker (validateMutationCampaign knownActions value) (validateMutationCampaign none value) := by
  unfold validateMutationCampaign
  iterate 17
    apply Weaker.next
    intro _
  exact Weaker.first (Weaker.foldlM fun _ _ => validateMutant_weaken)

/-! ### What the runner makes of a support -/

instance (support : Support) (value : Json) : Decidable (ValidatedAs support value) :=
  match support with
  | .unsupported => inferInstanceAs (Decidable (_ = _))
  | .required => inferInstanceAs (Decidable (_ ∧ _))
  | .optional => inferInstanceAs (Decidable (_ ∧ _))

/-- An array that is coerced to `required`. -/
def SpeltRequired (value : Json) : Prop := ∃ items, value = .array items ∧ toText value = some (js "required")

variable {mutant : MutationDefinition}

theorem required_validated (counted : mutant ∈ required campaign path) : ValidatedAs .required (mutant.paths path).support := by
  rw [(mem_required.mp counted).2]
  exact ⟨by decide, rfl⟩

theorem optional_not_required (valid : ValidatedAs .optional (mutant.paths path).support) : mutant ∉ required campaign path := by
  intro counted
  have text := valid.2
  rw [(mem_required.mp counted).2] at text
  have same : js "required" = js "optional" := Option.some.inj text
  exact absurd (js_inj.mp same) (by decide)

/-- The mutants that are validated as required. -/
def validatedRequired (campaign : MutationCampaign) (path : TestedPath) : List MutationDefinition :=
  campaign.mutants.filter fun mutant => decide (ValidatedAs .required (mutant.paths path).support)

/-- The validator and the runner read the supports on a path alike. -/
structure ReadAlike (trace : Trace) (campaign : MutationCampaign) (path : TestedPath) (result : MutationCampaignResult) : Prop where
  counted : result.requiredOnPath = (validatedRequired campaign path).length
  required : ∀ mutant ∈ campaign.mutants, ValidatedAs .required (mutant.paths path).support →
    result.acceptance.1 = .met → ∃ evaluation, Evaluated trace (.mutant mutant) evaluation ∧ Kills path mutant evaluation
  run : ∀ mutant ∈ campaign.mutants, ¬ ValidatedAs .unsupported (mutant.paths path).support →
    result.status = .complete → ∃ evaluation, Evaluated trace (.mutant mutant) evaluation
  optional : ∀ mutant ∈ campaign.mutants, ValidatedAs .optional (mutant.paths path).support →
    mutant ∉ Mutation.required campaign path
  unsupported : ∀ mutant ∈ campaign.mutants, ValidatedAs .unsupported (mutant.paths path).support →
    ¬ Called trace (.mutant mutant)

/-- Only mutants that are selected are evaluated. -/
theorem called_selected {campaignInput : Json} {policy : MutationCampaignPolicy} {aborted : Bool} {initial final : Campaigning}
    (begun : runMutationCampaign now campaignInput path policy aborted = .ok initial) (run : Run (step now) initial trace final)
    (called : Called trace (.mutant mutant)) : mutant ∈ selected initial.campaign path := by
  rcases called with ⟨t, member, output⟩
  rcases List.append_of_mem member with ⟨before, after, rfl⟩
  rcases run.split with ⟨run, taken⟩
  rw [output] at taken
  rcases run_accounted begun run with ⟨campaign, samePath, _, accounted⟩
  rcases evaluate_called (run_gated begun run) taken with ⟨race, phase, _⟩
  simp only [Accounted, phase] at accounted
  rcases accounted.1 with ⟨done, _, whole⟩
  rw [campaign, samePath] at whole
  rw [whole]
  exact List.mem_append_right _ List.mem_cons_self

end

section

variable [NumberNotation] {now : Nat → Rat} {trace : Trace} {path : TestedPath} {campaign : MutationCampaign}
  {mutant : MutationDefinition}

/-- A mutant that is validated as required is one of the runner's required mutants unless its support is an array. -/
theorem mem_required_iff (member : mutant ∈ campaign.mutants) (valid : ValidatedAs .required (mutant.paths path).support) :
    mutant ∈ required campaign path ↔ ¬ SpeltRequired (mutant.paths path).support := by
  rw [mem_required]
  constructor
  · intro both spelt
    rcases spelt with ⟨items, array, _⟩
    rw [both.2] at array
    cases array
  · intro other
    refine ⟨member, ?_⟩
    rcases string_or_array (by decide : isWord "required" = true) valid.2 with same | ⟨items, array⟩
    · exact same
    · exact absurd ⟨items, array, valid.2⟩ other

theorem required_filter : required campaign path = (validatedRequired campaign path).filter (supportIs path "required") := by
  rw [required, selected, validatedRequired, List.filter_filter, List.filter_filter]
  apply List.filter_congr
  intro mutant member
  cases literal : supportIs path "required" mutant with
  | false => rfl
  | true =>
    have counted := mem_required.mpr ⟨member, supportIs_iff.mp literal⟩
    have other : supportIs path "unsupported" mutant = false :=
      Bool.eq_false_iff.mpr fun same => (mem_selected.mp (List.mem_filter.mp counted).1).2 (supportIs_iff.mp same)
    rw [other, decide_eq_true (required_validated counted)]
    rfl

/-- The runner counts every mutant that is validated as required where no array stands for it, and only there. -/
theorem requiredOnPath_iff : (required campaign path).length = (validatedRequired campaign path).length ↔
    ∀ mutant ∈ campaign.mutants, ¬ SpeltRequired (mutant.paths path).support := by
  rw [required_filter, List.length_filter_eq_length_iff]
  constructor
  · intro all mutant member spelt
    have valid : ValidatedAs .required (mutant.paths path).support := by
      rcases spelt with ⟨items, array, text⟩
      refine ⟨?_, text⟩
      rw [array]
      intro same
      cases same
    have literal := all mutant (List.mem_filter.mpr ⟨member, decide_eq_true valid⟩)
    exact (mem_required_iff member valid).mp (mem_required.mpr ⟨member, supportIs_iff.mp literal⟩) spelt
  · intro none mutant counted
    rcases List.mem_filter.mp counted with ⟨member, valid⟩
    have required := (mem_required_iff member (of_decide_eq_true valid)).mpr (none mutant member)
    exact supportIs_iff.mpr (mem_required.mp required).2

/-- The runner reads the supports as they were validated where no array stands for `required`, and only there. -/
theorem decodeMutationCampaign_readAlike [Platform] [NumberConversion] {raw : RawText}
    {knownActions : Option (List JsString)} {json : Json} {policy : MutationCampaignPolicy} {aborted : Bool}
    {initial final : Campaigning} {result : MutationCampaignResult}
    (parsed : parseBoundedJsonValue raw = .ok json) (decoded : decodeMutationCampaign raw knownActions = .ok campaign)
    (begun : runMutationCampaign now json path policy aborted = .ok initial) (run : Run (step now) initial trace final)
    (finished : final.phase = .finished (.ok result)) :
    ReadAlike trace campaign path result ↔ ∀ mutant ∈ campaign.mutants, ¬ SpeltRequired (mutant.paths path).support := by
  simp only [decodeMutationCampaign, parsed, Except.mapError, ok_bind] at decoded
  have valid := validateMutationCampaign_weaken campaign decoded
  have declared := validateMutationCampaign_ok valid
  rcases run_accounted begun run with ⟨sameCampaign, samePath, _, accounted⟩
  have same : initial.campaign = campaign := Except.ok.inj ((runMutationCampaign_ok begun).1.symm.trans valid)
  simp only [Accounted, finished] at accounted
  rw [sameCampaign, samePath, same] at accounted
  constructor
  · intro alike
    exact requiredOnPath_iff.mp (accounted.requiredOnPath.symm.trans alike.counted)
  · intro none
    refine ⟨accounted.requiredOnPath.trans (requiredOnPath_iff.mpr none), fun mutant member valid met => ?_,
      fun mutant member supported complete => ?_, fun mutant _ valid => optional_not_required valid,
      fun mutant member valid called => ?_⟩
    · have counted := (mem_required_iff member valid).mpr (none mutant member)
      exact ((accounted.accounting declared).required met mutant member (mem_required.mp counted).2).2
    · exact accounted.complete complete mutant (mem_selected.mpr ⟨member, supported⟩)
    · have among := called_selected begun run called
      rw [same] at among
      exact (mem_selected.mp among).2 valid

end

/-! ### A mutant that survives -/

/-- The text of a campaign whose mutant has this support. -/
def textOfCampaign (support : Json) : RawText :=
  letI := integerNotation
  .text (jsonStringify (campaignOf support))

theorem string_parsed : letI := integerNumbers.toNumberConversion; letI := integerNotation; letI := plainPlatform
    parseBoundedJsonValue (textOfCampaign (string "required")) = .ok (campaignOf (string "required")) := by
  decide +kernel

theorem string_read_alike : letI := integerNumbers.toNumberConversion; letI := integerNotation; letI := plainPlatform
    ∃ trace campaign result, decodeMutationCampaign (textOfCampaign (string "required")) none = .ok campaign ∧
      (ReadAlike trace campaign .onLocal result ↔ ∀ mutant ∈ campaign.mutants, ¬ SpeltRequired (mutant.paths .onLocal).support) := by
  let := integerNumbers.toNumberConversion
  let := integerNotation
  let := plainPlatform
  rcases reaches_run killed_run with ⟨initial, trace, final, begun, run, returned⟩
  rcases returns_result returned with ⟨result, finished, _⟩
  have decoded : decodeMutationCampaign (textOfCampaign (string "required")) none = .ok initial.campaign := by
    rw [decodeMutationCampaign, string_parsed]
    exact (runMutationCampaign_ok begun).1
  exact ⟨trace, initial.campaign, result, decoded, decodeMutationCampaign_readAlike string_parsed decoded begun run finished⟩

theorem array_parsed : letI := integerNumbers.toNumberConversion; letI := integerNotation; letI := plainPlatform
    parseBoundedJsonValue (textOfCampaign (.array [string "required"])) = .ok (campaignOf (.array [string "required"])) := by
  decide +kernel

theorem array_run : letI := integerNotation
    reaches (step fun _ => 0) (runMutationCampaign (fun _ => 0) (campaignOf (.array [string "required"])) .onLocal wide false)
      (turnInputs passing ++ turnInputs passing)
      (returns fun result => decide (result.acceptance.1 = .met ∧ result.requiredOnPath = 0)) = true := by
  decide +kernel

theorem array_required : letI := integerNotation
    (validateMutationCampaign none (campaignOf (.array [string "required"]))).toOption.all
      (fun campaign => decide ((validatedRequired campaign .onLocal).length = 1)) = true := by
  decide +kernel

/-- A mutant that is validated as required survives, and acceptance is met. -/
theorem array_dropped : letI := integerNumbers.toNumberConversion; letI := integerNotation; letI := plainPlatform
    ∃ trace campaign initial final result, decodeMutationCampaign (textOfCampaign (.array [string "required"])) none = .ok campaign ∧
      runMutationCampaign (fun _ => 0) (campaignOf (.array [string "required"])) .onLocal wide false = .ok initial ∧
      Run (step fun _ => 0) initial trace final ∧ final.phase = .finished (.ok result) ∧
      result.acceptance.1 = .met ∧ result.requiredOnPath = 0 ∧ (validatedRequired campaign .onLocal).length = 1 ∧
      ¬ ReadAlike trace campaign .onLocal result := by
  let := integerNumbers.toNumberConversion
  let := integerNotation
  let := plainPlatform
  rcases reaches_run array_run with ⟨initial, trace, final, begun, run, returned⟩
  rcases returns_result returned with ⟨result, finished, shown⟩
  rcases of_decide_eq_true shown with ⟨met, none⟩
  have valid := (runMutationCampaign_ok begun).1
  have counted := array_required
  rw [valid] at counted
  have one := of_decide_eq_true counted
  refine ⟨trace, initial.campaign, initial, final, result, ?_, begun, run, finished, met, none, one, fun alike => ?_⟩
  · rw [decodeMutationCampaign, array_parsed]
    exact valid
  · have same := alike.counted
    rw [none, one] at same
    cases same

end Mirror.Mutation
