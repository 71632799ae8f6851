import MirrorECMA.Spec.Segments

namespace Mirror.Spec

open ECMA
open Grammar (quote comma)

/-! ### The names that tokens refer to -/

def IsKeyword (token : JsString) : Prop := token = EXTENDS ∨ token = INSTANCE

/-- An identifier that can name a module. -/
def IsName (token : JsString) : Prop := token ≠ [comma] ∧ ¬ IsKeyword token

instance (token : JsString) : Decidable (IsKeyword token) := inferInstanceAs (Decidable (_ ∨ _))

instance (token : JsString) : Decidable (IsName token) := inferInstanceAs (Decidable (_ ∧ _))

/-- After these tokens, the last of them first, a name belongs to an EXTENDS clause. -/
def inExtends : List JsString → Bool
  | [] => false
  | [token] => token = EXTENDS
  | token :: name :: before => token = EXTENDS || (token = [comma] && decide (IsName name) && inExtends before)

/-- A token refers to a module: a name after INSTANCE, or one of an EXTENDS clause. -/
def Refers (before : List JsString) (token : JsString) : Prop :=
  IsName token ∧ (before.head? = some INSTANCE ∨ inExtends before = true)

instance (before : List JsString) (token : JsString) : Decidable (Refers before token) :=
  inferInstanceAs (Decidable (_ ∧ (_ ∨ _)))

def referencesFrom (before : List JsString) : List JsString → List JsString
  | [] => []
  | token :: rest => (if Refers before token then [token] else []) ++ referencesFrom (token :: before) rest

/-- The names that follow INSTANCE, and those that follow EXTENDS between commas. -/
def references (tokens : List JsString) : List JsString := referencesFrom [] tokens

/-- INSTANCE is followed by a name, and no keyword stands where an EXTENDS clause has a name. -/
def Follows (before : List JsString) (token : JsString) : Prop :=
  (before.head? = some INSTANCE → IsName token) ∧ (inExtends before = true → ¬ IsKeyword token)

def NamedFrom (before : List JsString) : List JsString → Prop
  | [] => True
  | token :: rest => Follows before token ∧ NamedFrom (token :: before) rest

def Named (tokens : List JsString) : Prop := NamedFrom [] tokens

/-! ### The loop -/

/-- The loop finds these references, or it takes something for a name that is none. -/
def Agrees (before tokens found : List JsString) : Prop :=
  (NamedFrom before tokens ∧ found = referencesFrom before tokens) ∨
    (¬ NamedFrom before tokens ∧ ∃ name ∈ found, ¬ IsName name)

section

variable {before rest found : List JsString} {token name : JsString}

theorem Agrees.skip (follows : Follows before token) (silent : ¬ Refers before token)
    (agrees : Agrees (token :: before) rest found) : Agrees before (token :: rest) found := by
  rcases agrees with ⟨named, same⟩ | ⟨unnamed, other⟩
  · left
    refine ⟨⟨follows, named⟩, ?_⟩
    rw [referencesFrom, if_neg silent]
    exact same
  · exact .inr ⟨fun named => unnamed named.2, other⟩

theorem Agrees.take (follows : Follows before token) (refers : Refers before token)
    (agrees : Agrees (token :: before) rest found) : Agrees before (token :: rest) (token :: found) := by
  rcases agrees with ⟨named, same⟩ | ⟨unnamed, name, member, other⟩
  · left
    refine ⟨⟨follows, named⟩, ?_⟩
    rw [referencesFrom, if_pos refers, ← same]
    rfl
  · exact .inr ⟨fun named => unnamed named.2, name, List.mem_cons_of_mem _ member, other⟩

/-- Something else stands in the place of a name, and the loop takes it. -/
theorem Agrees.deviate (unfollowed : ¬ Follows before token) (other : ¬ IsName token) (member : token ∈ found) :
    Agrees before (token :: rest) found :=
  .inr ⟨fun named => unfollowed named.1, token, member, other⟩

/-- No clause is open at the first of these tokens. -/
structure Idle (before tokens : List JsString) : Prop where
  instance_ : tokens ≠ [] → before.head? ≠ some INSTANCE
  extends_ : ∀ token rest, tokens = token :: rest → token ≠ [comma] → inExtends before = false
  separated : ∀ rest, tokens = [comma] :: rest → inExtends ([comma] :: before) = true →
    ∀ token, rest.head? = some token → token = [comma]

theorem keyword_ne_comma : EXTENDS ≠ [comma] ∧ INSTANCE ≠ [comma] ∧ EXTENDS ≠ INSTANCE := by decide

theorem extends_not_name : ¬ IsName EXTENDS := fun named => named.2 (.inl rfl)

theorem instance_not_name : ¬ IsName INSTANCE := fun named => named.2 (.inr rfl)

theorem comma_not_name : ¬ IsName [comma] := fun named => named.1 rfl

theorem inExtends_other (other : token ≠ EXTENDS) (apart : token ≠ [comma]) (before : List JsString) :
    inExtends (token :: before) = false := by
  cases before with
  | nil => exact decide_eq_false other
  | cons last before =>
    rw [inExtends, decide_eq_false other, decide_eq_false apart]
    rfl

theorem inExtends_name (named : IsName name) (before : List JsString) : inExtends (name :: before) = false :=
  inExtends_other (fun same => named.2 (.inl same)) named.1 before

theorem inExtends_comma (before : List JsString) (token : JsString) :
    inExtends ([comma] :: token :: before) = (decide (IsName token) && inExtends before) := by
  rw [inExtends, decide_eq_false keyword_ne_comma.1.symm, decide_eq_true rfl]
  rfl

theorem inExtends_extends (before : List JsString) : inExtends (EXTENDS :: before) = true := by
  cases before with
  | nil => exact decide_eq_true rfl
  | cons last before =>
    rw [inExtends, decide_eq_true rfl]
    rfl

theorem inExtends_instance (before : List JsString) : inExtends (INSTANCE :: before) = false :=
  inExtends_other keyword_ne_comma.2.2.symm keyword_ne_comma.2.1 before

theorem inExtends_comma_other (other : ¬ IsName token) (before : List JsString) :
    inExtends ([comma] :: token :: before) = false := by
  rw [inExtends_comma, decide_eq_false other]
  rfl

theorem head_ne (other : token ≠ INSTANCE) (before : List JsString) : (token :: before).head? ≠ some INSTANCE :=
  fun same => other (Option.some.inj same)

/-! ### Idle places -/

/-- A place whose last token is neither INSTANCE nor one that a clause goes on from. -/
theorem Idle.closed {tokens : List JsString} (other : before.head? ≠ some INSTANCE) (outside : inExtends before = false)
    (shut : inExtends ([comma] :: before) = false) : Idle before tokens where
  instance_ _ := other
  extends_ _ _ _ _ := outside
  separated _ _ inside := by
    rw [shut] at inside
    cases inside

theorem Idle.start (tokens : List JsString) : Idle [] tokens :=
  .closed (fun same => nomatch same) rfl (decide_eq_false keyword_ne_comma.1.symm)

theorem Idle.after_name (named : IsName name) (outside : inExtends before = false) : Idle (name :: before) rest := by
  apply Idle.closed (head_ne (fun same => named.2 (.inr same)) before) (inExtends_name named before)
  rw [inExtends_comma, outside, Bool.and_false]

theorem Idle.after_comma (idle : Idle before ([comma] :: rest)) : Idle ([comma] :: before) rest where
  instance_ _ := head_ne keyword_ne_comma.2.1.symm before
  extends_ token more same other := by
    cases inside : inExtends ([comma] :: before) with
    | false => rfl
    | true =>
      subst same
      exact absurd (idle.separated (token :: more) rfl inside token rfl) other
  separated _ _ inside := by
    rw [inExtends_comma_other comma_not_name] at inside
    cases inside

/-- An EXTENDS clause opens before a comma: no name can follow. -/
theorem Idle.empty_clause (before rest : List JsString) : Idle (EXTENDS :: before) ([comma] :: rest) where
  instance_ _ := head_ne keyword_ne_comma.2.2 before
  extends_ token more same other := by
    cases same
    exact absurd rfl other
  separated _ _ inside := by
    rw [inExtends_comma_other extends_not_name] at inside
    cases inside

theorem follows_idle {tokens : List JsString} (idle : Idle before (token :: tokens)) : Follows before token := by
  constructor
  · exact fun same => absurd same (idle.instance_ (List.cons_ne_nil _ _))
  · intro inside keyword
    have other : token ≠ [comma] := by
      rcases keyword with same | same
      · rw [same]
        exact keyword_ne_comma.1
      · rw [same]
        exact keyword_ne_comma.2.1
    rw [idle.extends_ token tokens rfl other] at inside
    cases inside

theorem silent_idle {tokens : List JsString} (idle : Idle before (token :: tokens)) : ¬ Refers before token := by
  rintro ⟨named, same | inside⟩
  · exact idle.instance_ (List.cons_ne_nil _ _) same
  · rw [idle.extends_ token tokens rfl named.1] at inside
    cases inside

end

/-- The rest of an EXTENDS clause, `found` being what the loop goes on to find. -/
theorem agrees_clause {found : List JsString} (more : List JsString) {name : JsString} {before : List JsString}
    (named : IsName name) (inside : inExtends before = true)
    (later : ∀ before, Idle before (extendsRefs more).2 → Agrees before (extendsRefs more).2 found) :
    Agrees (name :: before) more ((extendsRefs more).1 ++ found) := by
  have outside : inExtends (name :: before) = false := inExtends_name named before
  have other : (name :: before).head? ≠ some INSTANCE := head_ne (fun same => named.2 (.inr same)) before
  induction more using extendsRefs.induct generalizing name before with
  | case1 separator next rest going ih =>
    obtain ⟨rfl, apart⟩ := going
    rw [extendsRefs, if_pos ⟨rfl, apart⟩] at later ⊢
    have opened : inExtends ([comma] :: name :: before) = true := by
      rw [inExtends_comma, decide_eq_true named, inside]
      rfl
    have follows : Follows (name :: before) [comma] :=
      ⟨fun same => absurd same other, fun _ keyword => keyword.elim keyword_ne_comma.1.symm keyword_ne_comma.2.1.symm⟩
    apply Agrees.skip follows (fun refers => comma_not_name refers.1)
    by_cases known : IsName next
    · have follows : Follows ([comma] :: name :: before) next := ⟨fun _ => known, fun _ => known.2⟩
      apply Agrees.take follows ⟨known, .inr opened⟩
      exact ih known opened later (inExtends_name known _) (head_ne (fun same => known.2 (.inr same)) _)
    · have keyword : IsKeyword next := Classical.byContradiction fun free => known ⟨apart, free⟩
      exact Agrees.deviate (fun follows => follows.2 opened keyword) known List.mem_cons_self
  | case2 separator next rest past =>
    rw [extendsRefs, if_neg past] at later ⊢
    apply later
    refine ⟨fun _ => other, fun _ _ _ _ => outside, fun rest same _ token first => ?_⟩
    cases same
    cases first
    exact Classical.byContradiction fun apart => past ⟨rfl, apart⟩
  | case3 tokens short =>
    rw [extendsRefs.eq_2 tokens short] at later ⊢
    apply later
    refine ⟨fun _ => other, fun _ _ _ _ => outside, fun rest same _ token first => ?_⟩
    cases rest with
    | nil => cases first
    | cons next rest => exact absurd same (short _ next rest)

theorem agrees_refs (tokens : List JsString) {before : List JsString} (idle : Idle before tokens) :
    Agrees before tokens (refs tokens) := by
  induction tokens using refs.induct generalizing before with
  | case1 =>
    rw [refs]
    exact .inl ⟨trivial, rfl⟩
  | case2 =>
    rw [refs, if_pos rfl]
    exact Agrees.skip (follows_idle idle) (silent_idle idle) (.inl ⟨trivial, rfl⟩)
  | case3 more ih =>
    rw [refs, if_pos rfl]
    exact Agrees.skip (follows_idle idle) (silent_idle idle) (ih (.empty_clause before more))
  | case4 name more apart ih =>
    have opened : inExtends (EXTENDS :: before) = true := inExtends_extends before
    have other : (EXTENDS :: before).head? ≠ some INSTANCE := head_ne keyword_ne_comma.2.2 before
    rw [refs, if_pos rfl]
    rw [if_neg apart]
    apply Agrees.skip (follows_idle idle) (silent_idle idle)
    by_cases known : IsName name
    · apply Agrees.take ⟨fun same => absurd same other, fun _ => known.2⟩ ⟨known, .inr opened⟩
      exact agrees_clause more known opened fun _ => ih
    · have keyword : IsKeyword name := Classical.byContradiction fun free => known ⟨apart, free⟩
      exact Agrees.deviate (fun follows => follows.2 opened keyword) known List.mem_cons_self
  | case5 different =>
    rw [refs, if_neg different, if_pos rfl]
    exact Agrees.skip (follows_idle idle) (silent_idle idle) (.inl ⟨trivial, rfl⟩)
  | case6 name more different ih =>
    have outside : inExtends (INSTANCE :: before) = false := inExtends_instance before
    rw [refs, if_neg different, if_pos rfl]
    apply Agrees.skip (follows_idle idle) (silent_idle idle)
    by_cases known : IsName name
    · apply Agrees.take ⟨fun _ => known, fun _ => known.2⟩ ⟨known, .inl rfl⟩
      exact ih (.after_name known outside)
    · exact Agrees.deviate (fun follows => known (follows.1 rfl)) known List.mem_cons_self
  | case7 token more first second ih =>
    rw [refs.eq_def]
    dsimp only
    rw [if_neg first, if_neg second]
    apply Agrees.skip (follows_idle idle) (silent_idle idle)
    by_cases separator : token = [comma]
    · subst separator
      exact ih idle.after_comma
    · have known : IsName token := ⟨separator, fun keyword => keyword.elim first second⟩
      exact ih (.after_name known (idle.extends_ token more rfl separator))

/-! ### `moduleRefs` -/

theorem isName_of_referencesFrom {name : JsString} {tokens before : List JsString}
    (member : name ∈ referencesFrom before tokens) : IsName name := by
  induction tokens generalizing before with
  | nil => cases member
  | cons token rest ih =>
    rw [referencesFrom, List.mem_append] at member
    rcases member with member | member
    · split at member
      · rename_i refers
        rw [List.mem_singleton.mp member]
        exact refers.1
      · cases member
    · exact ih member

theorem isName_of_builtin {name : JsString} (builtin : name ∈ BUILTINS) : IsName name := by
  have names : ∀ name ∈ BUILTINS, IsName name := by decide
  exact names name builtin

/-- The modules that the tokens of a source name, the builtin ones left out. -/
def moduleNames (tokens : List JsString) : List JsString :=
  (references tokens).filter fun name => !BUILTINS.contains name

theorem mem_nonBuiltin {name : JsString} {found : List JsString} :
    name ∈ found.filter (fun name => !BUILTINS.contains name) ↔ name ∈ found ∧ name ∉ BUILTINS := by
  simp

/-- The tokens are those of the code, and the references are found exactly where a name stands wherever the loop takes
one. -/
theorem moduleRefs_iff_named (source : Source) (proper : source.Proper) :
    (dependencyTokens source.render = source.tokens ∧ moduleRefs source.render = moduleNames source.tokens) ↔
      Named source.tokens := by
  have tokens : dependencyTokens source.render = source.tokens := dependencyTokens_eq source proper
  rw [moduleRefs, tokens]
  constructor
  · rintro ⟨-, same⟩
    rcases agrees_refs source.tokens (.start source.tokens) with ⟨named, _⟩ | ⟨_, name, found, other⟩
    · exact named
    · have kept : name ∈ moduleNames source.tokens := by
        rw [← same]
        exact mem_nonBuiltin.mpr ⟨found, fun builtin => other (isName_of_builtin builtin)⟩
      exact absurd (isName_of_referencesFrom (mem_nonBuiltin.mp kept).1) other
  · intro named
    rcases agrees_refs source.tokens (.start source.tokens) with ⟨_, same⟩ | ⟨unnamed, _⟩
    · refine ⟨rfl, ?_⟩
      rw [same]
      rfl
    · exact absurd named unnamed

/-- An EXTENDS clause of two names with comments and a string around it, and an instance. -/
def commentedSource : Source where
  segments := [.code (js "EXTENDS Naturals,"), .block (.unit 0x2C (.nested (.unit 0x41 .close) .close)), .code (js " A"),
    .line (js " INSTANCE (*"), .string [.plain 0x42, .escaped quote], .code (js "== INSTANCE C_1")]
  last := some (js " end")

theorem commentedSource_refs :
    (dependencyTokens commentedSource.render = commentedSource.tokens ∧
        moduleRefs commentedSource.render = moduleNames commentedSource.tokens) ↔ Named commentedSource.tokens :=
  moduleRefs_iff_named commentedSource (by decide +kernel)

example : moduleNames commentedSource.tokens = [js "A", js "C_1"] := by decide +kernel

/-- An instance of no name. -/
def namelessSource : Source where
  segments := [.code (js "INSTANCE ,")]
  last := none

/-- The comma after INSTANCE is taken for the name of a module. -/
theorem comma_as_module :
    namelessSource.Proper ∧ moduleRefs namelessSource.render = [[comma]] ∧ moduleNames namelessSource.tokens = [] := by
  have proper : namelessSource.Proper := by decide
  have tokens : namelessSource.tokens = [INSTANCE, [comma]] := by decide
  have found : refs [] = [] := by rw [refs]
  refine ⟨proper, ?_, by decide⟩
  rw [moduleRefs, dependencyTokens_eq namelessSource proper, tokens, refs, if_neg keyword_ne_comma.2.2.symm, if_pos rfl]
  rw [found]
  decide

end Mirror.Spec
