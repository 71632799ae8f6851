import MirrorECMA.ECMA.Coerced
import MirrorECMA.Mutation.Runner

namespace Mirror.Mutation

open ECMA
open ECMA.Reading (check_ok equalsText equalsText_iff)

/-! ### What the validator takes a support for -/

inductive Support where
  | required
  | optional
  | unsupported
  deriving DecidableEq

def Support.text : Support → String
  | .required => "required"
  | .optional => "optional"
  | .unsupported => "unsupported"

section

variable [NumberText]

/-- Only `unsupported` has to be a string; the other two are compared after `String`. -/
def ValidatedAs (support : Support) (value : Json) : Prop :=
  match support with
  | .unsupported => value = .string (js "unsupported")
  | support => value ≠ .string (js "unsupported") ∧ toText value = some (js support.text)

theorem path_ok {value : Json} {location : String} {support : MutationPathSupport}
    (valid : path value location = .ok support) : ∃ kind, ValidatedAs kind support.support := by
  simp only [path, bind_eq_ok] at valid
  rcases valid with ⟨item, _, found, _, valid⟩
  by_cases literal : equalsText found "unsupported" = true
  · simp only [if_pos literal, bind_eq_ok, pure_eq_ok, Except.ok.injEq] at valid
    rcases valid with ⟨_, _, _, _, _, _, rfl⟩
    exact ⟨.unsupported, equalsText_iff.mp literal⟩
  · simp only [if_neg literal, bind_eq_ok, pure_eq_ok, Except.ok.injEq] at valid
    rcases valid with ⟨_, _, _, coerced, rfl⟩
    have other : found ≠ .string (js "unsupported") := fun same => literal (equalsText_iff.mpr same)
    rcases Reading.coerced_ok.mp coerced with ⟨m, member, text⟩
    simp only [List.mem_cons, List.not_mem_nil, or_false] at member
    rcases member with rfl | rfl
    · exact ⟨.required, other, text⟩
    · exact ⟨.optional, other, text⟩

/-! ### Declared mutants -/

/-- The ids of the mutants are distinct, and every support has been validated. -/
structure Declared (mutants : List MutationDefinition) : Prop where
  distinct : (mutants.map MutationDefinition.id).Nodup
  validated : ∀ mutant ∈ mutants, ∀ path, ∃ kind, ValidatedAs kind (mutant.paths path).support

theorem validateMutant_ok {knownActions : Option (List JsString)} {protectedProbeIds : List JsString}
    {mutants next : List MutationDefinition} {entry : Json × Nat}
    (valid : validateMutant knownActions protectedProbeIds mutants entry = .ok next) :
    ∃ mutant, next = mutants ++ [mutant] ∧ mutant.id ∉ mutants.map MutationDefinition.id ∧
      ∀ path, ∃ kind, ValidatedAs kind (mutant.paths path).support := by
  simp only [validateMutant, bind_eq_ok, check_ok, pure_eq_ok, Except.ok.injEq] at valid
  rcases valid with ⟨_, _, _, _, _, _, id, _, _, new, _, _, _, _, _, _, _, _, _, _, _, _, _, _, _, _, _, _, _, _,
    _, _, _, _, localPath, localValid, _, _, gatePath, gateValid, rfl⟩
  refine ⟨_, rfl, ?_, ?_⟩
  · simpa using new
  · intro path
    cases path
    · exact path_ok localValid
    · exact path_ok gateValid

theorem Declared.snoc {mutants : List MutationDefinition} {mutant : MutationDefinition} (declared : Declared mutants)
    (new : mutant.id ∉ mutants.map MutationDefinition.id)
    (validated : ∀ path, ∃ kind, ValidatedAs kind (mutant.paths path).support) : Declared (mutants ++ [mutant]) where
  distinct := by
    rw [List.map_append, List.nodup_append]
    refine ⟨declared.distinct, List.nodup_singleton _, ?_⟩
    intro id member other among same
    rw [List.map_singleton, List.mem_singleton] at among
    rw [same, among] at member
    exact new member
  validated other member path := by
    rcases List.mem_append.mp member with member | member
    · exact declared.validated other member path
    · rw [List.mem_singleton.mp member]
      exact validated path

/-- What an accepted campaign declares. -/
theorem validateMutationCampaign_ok {knownActions : Option (List JsString)} {value : Json} {campaign : MutationCampaign}
    (valid : validateMutationCampaign knownActions value = .ok campaign) : Declared campaign.mutants := by
  simp only [validateMutationCampaign, bind_eq_ok, pure_eq_ok, Except.ok.injEq] at valid
  rcases valid with ⟨_, _, _, _, _, _, _, _, _, _, _, _, _, _, _, _, _, _, _, _, _, _, _, _, _, _, _, _, _, _, _, _,
    _, _, mutants, folded, rfl⟩
  have begins : Declared [] := ⟨List.nodup_nil, fun _ member => by cases member⟩
  apply foldlM_ok (P := fun mutants _ => Declared mutants) _ begins folded
  intro state done entry next declared taken
  rcases validateMutant_ok taken with ⟨mutant, rfl, new, validated⟩
  exact declared.snoc new validated

end

/-! ### The lists of the runner -/

theorem supportIs_iff {path : TestedPath} {literal : String} {mutant : MutationDefinition} :
    supportIs path literal mutant = true ↔ (mutant.paths path).support = .string (js literal) := equalsText_iff

variable {campaign : MutationCampaign} {path : TestedPath} {mutant : MutationDefinition}

theorem mem_selected : mutant ∈ selected campaign path ↔
    mutant ∈ campaign.mutants ∧ (mutant.paths path).support ≠ .string (js "unsupported") := by
  rw [selected, List.mem_filter, Bool.not_eq_true', ← Bool.not_eq_true, supportIs_iff]

theorem mem_unsupported : mutant ∈ unsupported campaign path ↔
    mutant ∈ campaign.mutants ∧ (mutant.paths path).support = .string (js "unsupported") := by
  rw [unsupported, List.mem_filter, supportIs_iff]

theorem mem_required : mutant ∈ required campaign path ↔
    mutant ∈ campaign.mutants ∧ (mutant.paths path).support = .string (js "required") := by
  rw [required, List.mem_filter, mem_selected, supportIs_iff]
  constructor
  · intro both
    exact ⟨both.1.1, both.2⟩
  · intro both
    refine ⟨⟨both.1, ?_⟩, both.2⟩
    rw [both.2]
    decide

/-- Every mutant is in one of the two lists, once. -/
theorem unsupported_selected_perm : (unsupported campaign path ++ selected campaign path).Perm campaign.mutants :=
  List.filter_append_perm (supportIs path "unsupported") campaign.mutants

end Mirror.Mutation
