import MirrorECMA.ECMA.Grammar

namespace Mirror.Spec

open ECMA
open Grammar (quote backslash comma)

abbrev newline : CodeUnit := 0x0A

def BUILTINS : List JsString :=
  [js "Naturals", js "Integers", js "Reals", js "Sequences", js "FiniteSets", js "TLC", js "Bags", js "Apalache"]

/-- `/[A-Za-z_]/` -/
def isIdentifierStart (u : CodeUnit) : Bool :=
  (0x41 ≤ u.toNat && u.toNat ≤ 0x5A) || (0x61 ≤ u.toNat && u.toNat ≤ 0x7A) || u = 0x5F

/-- `/[A-Za-z0-9_]/` -/
def isIdentifierPart (u : CodeUnit) : Bool := isIdentifierStart u || isDigit u

/-! ### `dependencyTokens` -/

/-- The rest of the source after a string whose opening quote has been passed. -/
def skipString : JsString → JsString
  | [] | [_] => []
  | u :: v :: rest =>
    if u = backslash then skipString rest
    else if u = quote then v :: rest
    else skipString (v :: rest)

theorem skipString_length (source : JsString) : (skipString source).length ≤ source.length := by
  induction source using skipString.induct with
  | case1 => exact Nat.le_refl _
  | case2 u => exact Nat.zero_le _
  | case3 v rest ih =>
    rw [skipString, if_pos rfl, List.length_cons, List.length_cons]
    omega
  | case4 v rest escaped =>
    rw [skipString, if_neg escaped, if_pos rfl]
    exact Nat.le_succ _
  | case5 u v rest escaped closed ih =>
    rw [skipString, if_neg escaped, if_neg closed]
    exact Nat.le_succ_of_le ih

def openBlock : JsString := js "(*"
def closeBlock : JsString := js "*)"
def lineComment : JsString := js "\\*"

/-- The loop, `source` being what is left of it. -/
def scan (blockDepth : Nat) : JsString → List JsString
  | [] => []
  | u :: rest =>
    if blockDepth > 0 then
      if openBlock.isPrefixOf (u :: rest) then scan (blockDepth + 1) (rest.drop 1)
      else if closeBlock.isPrefixOf (u :: rest) then scan (blockDepth - 1) (rest.drop 1)
      else scan blockDepth rest
    else if lineComment.isPrefixOf (u :: rest) then
      -- `indexOf` of the newline, and the end of the loop where there is none
      scan 0 ((rest.drop 1).dropWhile fun v => v ≠ newline)
    else if openBlock.isPrefixOf (u :: rest) then scan 1 (rest.drop 1)
    else if u = quote then scan 0 (skipString rest)
    else if u = comma then [comma] :: scan 0 rest
    else if isIdentifierStart u then
      (u :: rest.takeWhile isIdentifierPart) :: scan 0 (rest.dropWhile isIdentifierPart)
    else scan 0 rest
termination_by source => source.length
decreasing_by
  all_goals simp only [List.length_cons]
  · have shorter : (rest.drop 1).length ≤ rest.length := (List.drop_suffix 1 rest).length_le
    omega
  · have shorter : (rest.drop 1).length ≤ rest.length := (List.drop_suffix 1 rest).length_le
    omega
  · omega
  · have shorter := (List.dropWhile_suffix (fun v : CodeUnit => decide (v ≠ newline)) (l := rest.drop 1)).length_le
    have first : (rest.drop 1).length ≤ rest.length := (List.drop_suffix 1 rest).length_le
    omega
  · have shorter : (rest.drop 1).length ≤ rest.length := (List.drop_suffix 1 rest).length_le
    omega
  · have shorter := skipString_length rest
    omega
  · omega
  · have shorter := (List.dropWhile_suffix isIdentifierPart (l := rest)).length_le
    omega
  · omega

def dependencyTokens (source : JsString) : List JsString := scan 0 source

/-! ### `moduleRefs` -/

def EXTENDS : JsString := js "EXTENDS"
def INSTANCE : JsString := js "INSTANCE"

/-- The names that go on with an EXTENDS clause, and the tokens after it. -/
def extendsRefs : List JsString → List JsString × List JsString
  | separator :: name :: rest =>
    if separator = [comma] ∧ name ≠ [comma] then (name :: (extendsRefs rest).1, (extendsRefs rest).2)
    else ([], separator :: name :: rest)
  | tokens => ([], tokens)

theorem extendsRefs_length (tokens : List JsString) : (extendsRefs tokens).2.length ≤ tokens.length := by
  induction tokens using extendsRefs.induct with
  | case1 separator name rest next ih =>
    rw [extendsRefs, if_pos next]
    exact Nat.le_succ_of_le (Nat.le_succ_of_le ih)
  | case2 separator name rest past =>
    have stays : extendsRefs (separator :: name :: rest) = ([], separator :: name :: rest) := by
      rw [extendsRefs, if_neg past]
    exact Nat.le_of_eq (congrArg (fun parted => parted.2.length) stays)
  | case3 tokens short =>
    exact Nat.le_of_eq (congrArg (fun parted => parted.2.length) (extendsRefs.eq_2 tokens short))

/-- The loop over the tokens that are left. -/
def refs : List JsString → List JsString
  | [] => []
  | token :: rest =>
    if token = EXTENDS then
      match rest with
      | [] => []
      | name :: more =>
        if name = [comma] then refs (name :: more)
        else name :: ((extendsRefs more).1 ++ refs (extendsRefs more).2)
    else if token = INSTANCE then
      match rest with
      | [] => []
      | name :: more => name :: refs more
    else refs rest
termination_by tokens => tokens.length
decreasing_by
  all_goals simp only [List.length_cons]
  · omega
  · have shorter := extendsRefs_length more
    omega
  · omega
  · omega

def moduleRefs (source : JsString) : List JsString :=
  (refs (dependencyTokens source)).filter fun name => !BUILTINS.contains name

end Mirror.Spec
