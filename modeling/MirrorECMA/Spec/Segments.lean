import MirrorECMA.Spec.Dependencies

namespace Mirror.Spec

open ECMA
open Grammar (quote backslash comma)

/-! ### Sources by their segments -/

/-- What follows the opener of a block comment, up to its closer. -/
inductive Comment where
  | close
  | unit (u : CodeUnit) (rest : Comment)
  | nested (inner rest : Comment)

def Comment.render : Comment → JsString
  | .close => closeBlock
  | .unit u rest => u :: rest.render
  | .nested inner rest => openBlock ++ (inner.render ++ rest.render)

/-- No unit of the comment begins an opener or a closer by itself. -/
def Comment.Proper : Comment → Prop
  | .close => True
  | .unit u rest => ¬ openBlock <+: u :: rest.render ∧ ¬ closeBlock <+: u :: rest.render ∧ rest.Proper
  | .nested inner rest => inner.Proper ∧ rest.Proper

inductive StringItem where
  | plain (u : CodeUnit)
  | escaped (u : CodeUnit)

def StringItem.render : StringItem → JsString
  | .plain u => [u]
  | .escaped u => [backslash, u]

def StringItem.Proper : StringItem → Prop
  | .plain u => u ≠ quote ∧ u ≠ backslash
  | .escaped _ => True

inductive Segment where
  | code (text : JsString)
  /-- A comment that a newline ends. -/
  | line (body : JsString)
  | block (comment : Comment)
  | string (items : List StringItem)

def Segment.render : Segment → JsString
  | .code text => text
  | .line body => lineComment ++ (body ++ [newline])
  | .block comment => openBlock ++ comment.render
  | .string items => quote :: (items.flatMap StringItem.render ++ [quote])

/-- No opener begins in this code, which so goes on. -/
def Clear (after : JsString) : JsString → Prop
  | [] => True
  | u :: rest => u ≠ quote ∧ ¬ lineComment <+: u :: (rest ++ after) ∧ ¬ openBlock <+: u :: (rest ++ after) ∧ Clear after rest

def Segment.Proper (after : JsString) : Segment → Prop
  | .code text => Clear after text
  | .line body => newline ∉ body
  | .block comment => comment.Proper
  | .string items => ∀ item ∈ items, item.Proper

/-- A source may end in a line comment without a newline. -/
structure Source where
  segments : List Segment
  last : Option JsString

def renderLast (last : Option JsString) : JsString :=
  match last with
  | some body => lineComment ++ body
  | none => []

def renderFrom (last : Option JsString) : List Segment → JsString
  | [] => renderLast last
  | segment :: rest => segment.render ++ renderFrom last rest

def Source.render (source : Source) : JsString := renderFrom source.last source.segments

def ProperFrom (last : Option JsString) : List Segment → Prop
  | [] => True
  | segment :: rest => segment.Proper (renderFrom last rest) ∧ ProperFrom last rest

def Source.Proper (source : Source) : Prop :=
  ProperFrom source.last source.segments ∧ ∀ body, source.last = some body → newline ∉ body

instance decidableComment : (comment : Comment) → Decidable comment.Proper
  | .close => inferInstanceAs (Decidable True)
  | .unit _ rest =>
    have := decidableComment rest
    inferInstanceAs (Decidable (_ ∧ _ ∧ rest.Proper))
  | .nested inner rest =>
    have := decidableComment inner
    have := decidableComment rest
    inferInstanceAs (Decidable (inner.Proper ∧ rest.Proper))

instance : (item : StringItem) → Decidable item.Proper
  | .plain _ => inferInstanceAs (Decidable (_ ∧ _))
  | .escaped _ => inferInstanceAs (Decidable True)

instance decidableClear (after : JsString) : (text : JsString) → Decidable (Clear after text)
  | [] => inferInstanceAs (Decidable True)
  | _ :: rest =>
    have := decidableClear after rest
    inferInstanceAs (Decidable (_ ∧ _ ∧ _ ∧ Clear after rest))

instance (after : JsString) : (segment : Segment) → Decidable (segment.Proper after)
  | .code text => inferInstanceAs (Decidable (Clear after text))
  | .line body => inferInstanceAs (Decidable (newline ∉ body))
  | .block comment => inferInstanceAs (Decidable comment.Proper)
  | .string items => inferInstanceAs (Decidable (∀ item ∈ items, item.Proper))

instance decidableProperFrom (last : Option JsString) : (segments : List Segment) → Decidable (ProperFrom last segments)
  | [] => inferInstanceAs (Decidable True)
  | segment :: rest =>
    have := decidableProperFrom last rest
    inferInstanceAs (Decidable (segment.Proper (renderFrom last rest) ∧ ProperFrom last rest))

instance : (source : Source) → Decidable source.Proper
  | ⟨_, none⟩ => decidable_of_iff (ProperFrom _ _) ⟨fun proper => ⟨proper, fun _ same => nomatch same⟩, fun proper => proper.1⟩
  | ⟨segments, some body⟩ =>
    decidable_of_iff (ProperFrom (some body) segments ∧ newline ∉ body)
      ⟨fun proper => ⟨proper.1, fun _ same => by cases same; exact proper.2⟩, fun proper => ⟨proper.1, proper.2 body rfl⟩⟩

/-- The pieces of code between comments and strings. -/
def codeRuns : List Segment → List JsString
  | [] => [[]]
  | .code text :: rest =>
    match codeRuns rest with
    | run :: runs => (text ++ run) :: runs
    | [] => [text]
  | _ :: rest => [] :: codeRuns rest

/-- The token that begins here, after a reversed piece of code: a comma, or an identifier that is no part of a longer
one. -/
def tokenAt (before : JsString) : JsString → Option JsString
  | [] => none
  | u :: rest =>
    if u = comma then some [comma]
    else if isIdentifierStart u ∧ (before.takeWhile isIdentifierPart).all fun v => !isIdentifierStart v then
      some ((u :: rest).takeWhile isIdentifierPart)
    else none

def codeTokensFrom (before : JsString) : JsString → List JsString
  | [] => []
  | u :: rest => (tokenAt before (u :: rest)).toList ++ codeTokensFrom (u :: before) rest

/-- The commas and the maximal identifiers of a piece of code. -/
def codeTokens (text : JsString) : List JsString := codeTokensFrom [] text

def Source.tokens (source : Source) : List JsString := (codeRuns source.segments).flatMap codeTokens

/-! ### The loop in a comment and in a string -/

theorem isPrefixOf_false {opener text : JsString} (away : ¬ opener <+: text) : opener.isPrefixOf text = false := by
  rw [Bool.eq_false_iff]
  intro found
  exact away (List.isPrefixOf_iff_prefix.mp found)

theorem scan_unit {depth : Nat} {u : CodeUnit} {rest : JsString} (opens : ¬ openBlock <+: u :: rest)
    (closes : ¬ closeBlock <+: u :: rest) : scan (depth + 1) (u :: rest) = scan (depth + 1) rest := by
  rw [scan, if_pos (Nat.succ_pos depth), isPrefixOf_false opens, isPrefixOf_false closes]
  rfl

theorem scan_open (depth : Nat) (rest : JsString) : scan depth (openBlock ++ rest) = scan (depth + 1) rest := by
  have shape : openBlock ++ rest = 0x28 :: 0x2A :: rest := rfl
  have opens : openBlock.isPrefixOf (0x28 :: 0x2A :: rest) = true := rfl
  have other : lineComment.isPrefixOf (0x28 :: 0x2A :: rest) = false := rfl
  rw [shape, scan, opens, other]
  by_cases inside : depth > 0
  · rw [if_pos inside]
    rfl
  · have outside : depth = 0 := by omega
    subst outside
    rfl

theorem scan_close (depth : Nat) (rest : JsString) : scan (depth + 1) (closeBlock ++ rest) = scan depth rest := by
  have shape : closeBlock ++ rest = 0x2A :: 0x29 :: rest := rfl
  have other : openBlock.isPrefixOf (0x2A :: 0x29 :: rest) = false := rfl
  have closes : closeBlock.isPrefixOf (0x2A :: 0x29 :: rest) = true := rfl
  rw [shape, scan, other, closes, if_pos (Nat.succ_pos depth)]
  rfl

/-- What two units begin is begun by them, whatever follows. -/
theorem prefix_append {opener : JsString} (short : opener.length = 2) {u : CodeUnit} {text : JsString}
    (long : text ≠ []) (rest : JsString) : opener <+: u :: (text ++ rest) ↔ opener <+: u :: text := by
  cases text with
  | nil => exact absurd rfl long
  | cons v text =>
    match opener, short with
    | [a, b], _ => simp [List.cons_prefix_cons]

theorem Comment.render_ne_nil (comment : Comment) : comment.render ≠ [] := by
  cases comment with
  | close => exact List.cons_ne_nil 0x2A [0x29]
  | unit u rest => exact List.cons_ne_nil u _
  | nested inner rest => exact List.cons_ne_nil 0x28 _

theorem scan_comment (comment : Comment) (proper : comment.Proper) (depth : Nat) (rest : JsString) :
    scan (depth + 1) (comment.render ++ rest) = scan depth rest := by
  induction comment generalizing depth rest with
  | close => exact scan_close depth rest
  | unit u more ih =>
    obtain ⟨opens, closes, others⟩ := proper
    have opens : ¬ openBlock <+: u :: (more.render ++ rest) := by
      rw [prefix_append rfl more.render_ne_nil]
      exact opens
    have closes : ¬ closeBlock <+: u :: (more.render ++ rest) := by
      rw [prefix_append rfl more.render_ne_nil]
      exact closes
    rw [Comment.render, List.cons_append, scan_unit opens closes]
    exact ih others depth rest
  | nested inner more first second =>
    rw [Comment.render, List.append_assoc, scan_open, List.append_assoc, first proper.1, second proper.2]

theorem skipString_items (items : List StringItem) (proper : ∀ item ∈ items, item.Proper) (rest : JsString) :
    skipString (items.flatMap StringItem.render ++ (quote :: rest)) = rest := by
  induction items with
  | nil =>
    cases rest with
    | nil => rfl
    | cons v rest =>
      rw [List.flatMap_nil, List.nil_append, skipString, if_neg (by decide), if_pos rfl]
  | cons item items ih =>
    have others := ih fun other member => proper other (List.mem_cons_of_mem _ member)
    rw [List.flatMap_cons, List.append_assoc]
    generalize items.flatMap StringItem.render ++ (quote :: rest) = tail at others ⊢
    cases item with
    | plain u =>
      obtain ⟨unquoted, unescaped⟩ := proper _ List.mem_cons_self
      cases tail with
      | nil =>
        rw [skipString] at others
        rw [← others]
        rfl
      | cons v tail =>
        rw [StringItem.render, List.singleton_append, skipString, if_neg unescaped, if_neg unquoted]
        exact others
    | escaped u =>
      rw [StringItem.render, List.cons_append, List.singleton_append, skipString, if_pos rfl]
      exact others

/-! ### The loop in code -/

theorem comma_part : isIdentifierPart comma = false := by decide

/-- Nothing that an identifier could have begun with goes on up to here. -/
def Fresh (before : JsString) : Prop := (before.takeWhile isIdentifierPart).all (fun v => !isIdentifierStart v) = true

theorem fresh_cons {before : JsString} {u : CodeUnit} (fresh : isIdentifierPart u = true → Fresh before)
    (start : isIdentifierStart u = false) : Fresh (u :: before) := by
  unfold Fresh
  by_cases part : isIdentifierPart u
  · rw [List.takeWhile_cons_of_pos part, List.all_cons, start]
    exact fresh part
  · rw [List.takeWhile_cons_of_neg part]
    rfl

theorem start_part {u : CodeUnit} (start : isIdentifierStart u = true) : isIdentifierPart u = true := by
  rw [isIdentifierPart, start]
  rfl

theorem start_comma {u : CodeUnit} (start : isIdentifierStart u = true) : u ≠ comma := by
  intro same
  rw [same] at start
  revert start
  decide

/-- No token begins inside of an identifier. -/
theorem codeTokens_inside {before run : JsString} (begun : ¬ Fresh before) (parts : ∀ u ∈ run, isIdentifierPart u = true)
    (rest : JsString) : codeTokensFrom before (run ++ rest) = codeTokensFrom (run.reverse ++ before) rest := by
  induction run generalizing before with
  | nil => rfl
  | cons u run ih =>
    have part := parts u List.mem_cons_self
    have none : tokenAt before (u :: (run ++ rest)) = none := by
      have other : u ≠ comma := by
        intro same
        rw [same, comma_part] at part
        cases part
      rw [tokenAt, if_neg other, if_neg fun both => begun both.2]
    have later : ¬ Fresh (u :: before) := by
      unfold Fresh
      rw [List.takeWhile_cons_of_pos part, List.all_cons, Bool.and_eq_true]
      exact fun both => begun both.2
    rw [List.cons_append, codeTokensFrom, none, ih later fun v member => parts v (List.mem_cons_of_mem u member)]
    simp

theorem Clear.suffix {after text : JsString} (clear : Clear after text) {before : JsString} {rest : JsString}
    (same : text = before ++ rest) : Clear after rest := by
  induction before generalizing text with
  | nil =>
    rw [List.nil_append] at same
    exact same ▸ clear
  | cons u before ih =>
    subst same
    exact ih clear.2.2.2 rfl

theorem takeWhile_append_stop {p : CodeUnit → Bool} (run : JsString) {after : JsString} (stop : ∀ u, after.head? = some u → p u = false) :
    (run ++ after).takeWhile p = run.takeWhile p ∧ (run ++ after).dropWhile p = run.dropWhile p ++ after := by
  induction run with
  | nil =>
    cases after with
    | nil => exact ⟨rfl, rfl⟩
    | cons u rest =>
      have stops := stop u rfl
      rw [List.nil_append, List.takeWhile_cons, List.dropWhile_cons, stops]
      exact ⟨rfl, rfl⟩
  | cons u run ih =>
    rw [List.cons_append, List.takeWhile_cons, List.dropWhile_cons, List.takeWhile_cons, List.dropWhile_cons]
    by_cases part : p u
    · rw [if_pos part, if_pos part, if_pos part, if_pos part, ih.1, ih.2]
      exact ⟨rfl, rfl⟩
    · rw [if_neg part, if_neg part, if_neg part, if_neg part]
      exact ⟨rfl, rfl⟩

/-- A piece of code that no identifier goes on after gives its tokens. -/
theorem scan_code {text after before : JsString} (clear : Clear after text)
    (fresh : ∀ u, text.head? = some u → isIdentifierPart u = true → Fresh before)
    (stop : ∀ u, after.head? = some u → isIdentifierPart u = false) :
    scan 0 (text ++ after) = codeTokensFrom before text ++ scan 0 after := by
  induction size : text.length using Nat.strongRecOn generalizing text before with
  | ind length ih =>
    cases text with
    | nil => rfl
    | cons u rest =>
      obtain ⟨unquoted, uncommented, unblocked, others⟩ := clear
      have shorter : rest.length < length := by
        rw [← size]
        exact Nat.lt_succ_self _
      have here := fresh u rfl
      rw [List.cons_append, scan, if_neg (Nat.lt_irrefl 0), isPrefixOf_false uncommented, isPrefixOf_false unblocked,
        if_neg Bool.false_ne_true, if_neg Bool.false_ne_true, if_neg unquoted, codeTokensFrom]
      by_cases separator : u = comma
      · have plain : isIdentifierStart u = false := by
          rw [separator]
          decide
        have next : scan 0 (rest ++ after) = codeTokensFrom (u :: before) rest ++ scan 0 after :=
          ih rest.length shorter others (fun v _ _ => fresh_cons here plain) rfl
        rw [if_pos separator, next, tokenAt, if_pos separator]
        rfl
      · rw [if_neg separator]
        by_cases start : isIdentifierStart u
        · have part := start_part start
          have free := here part
          have run := takeWhile_append_stop rest stop
          have token : tokenAt before (u :: rest) = some (u :: rest.takeWhile isIdentifierPart) := by
            rw [tokenAt, if_neg separator, if_pos ⟨start, free⟩, List.takeWhile_cons_of_pos part]
          have begun : ¬ Fresh (u :: before) := by
            unfold Fresh
            rw [List.takeWhile_cons_of_pos part, List.all_cons, start]
            exact Bool.false_ne_true
          have parts : ∀ v ∈ rest.takeWhile isIdentifierPart, isIdentifierPart v = true :=
            List.all_eq_true.mp List.all_takeWhile
          have inside := codeTokens_inside begun parts (rest.dropWhile isIdentifierPart)
          rw [List.takeWhile_append_dropWhile] at inside
          have less : (rest.dropWhile isIdentifierPart).length < length :=
            Nat.lt_of_le_of_lt (List.dropWhile_suffix isIdentifierPart).length_le shorter
          have past (v : CodeUnit) (first : (rest.dropWhile isIdentifierPart).head? = some v) :
              isIdentifierPart v = false := by
            have stops := List.head?_dropWhile_not isIdentifierPart rest
            rw [first] at stops
            simpa using stops
          have next : scan 0 (rest.dropWhile isIdentifierPart ++ after) =
              codeTokensFrom ((rest.takeWhile isIdentifierPart).reverse ++ u :: before)
                (rest.dropWhile isIdentifierPart) ++ scan 0 after := by
            apply ih _ less (others.suffix List.takeWhile_append_dropWhile.symm) _ rfl
            intro v first part
            rw [past v first] at part
            cases part
          rw [if_pos start, run.1, run.2, next, token, inside]
          rfl
        · have plain : isIdentifierStart u = false := by simpa using start
          have next : scan 0 (rest ++ after) = codeTokensFrom (u :: before) rest ++ scan 0 after :=
            ih rest.length shorter others (fun v _ _ => fresh_cons here plain) rfl
          have none : tokenAt before (u :: rest) = none := by
            rw [tokenAt, if_neg separator, if_neg fun both => start both.1]
          rw [if_neg start, next, none]
          rfl

/-! ### The loop over a source -/

def Segment.IsCode : Segment → Prop
  | .code _ => True
  | _ => False

theorem codeRuns_ne_nil (segments : List Segment) : codeRuns segments ≠ [] := by
  cases segments with
  | nil => exact List.cons_ne_nil _ _
  | cons segment rest =>
    cases segment with
    | code text =>
      rw [codeRuns]
      split <;> exact List.cons_ne_nil _ _
    | _ => exact List.cons_ne_nil _ _

theorem scan_newline (rest : JsString) : scan 0 (newline :: rest) = scan 0 rest := by
  have comment : lineComment.isPrefixOf (newline :: rest) = false := rfl
  have block : openBlock.isPrefixOf (newline :: rest) = false := rfl
  rw [scan, comment, block]
  rfl

theorem scan_lineComment (rest : JsString) :
    scan 0 (lineComment ++ rest) = scan 0 (rest.dropWhile fun v => v ≠ newline) := by
  have shape : lineComment ++ rest = backslash :: 0x2A :: rest := rfl
  have opens : lineComment.isPrefixOf (backslash :: 0x2A :: rest) = true := rfl
  rw [shape, scan, opens]
  rfl

theorem dropWhile_body {body : JsString} (single : newline ∉ body) (rest : JsString) :
    (body ++ rest).dropWhile (fun v => v ≠ newline) = rest.dropWhile fun v => v ≠ newline := by
  apply List.dropWhile_append_of_pos
  intro u member
  rw [decide_eq_true_iff]
  intro same
  exact single (same ▸ member)

/-- What is no code is passed without a token. -/
theorem scan_segment {segment : Segment} {after : JsString} (proper : segment.Proper after) (other : ¬ segment.IsCode) :
    scan 0 (segment.render ++ after) = scan 0 after := by
  cases segment with
  | code text => exact absurd True.intro other
  | line body =>
    rw [Segment.render, List.append_assoc, scan_lineComment, List.append_assoc, dropWhile_body proper,
      List.singleton_append, List.dropWhile_cons_of_neg (by simp), scan_newline]
  | block comment => rw [Segment.render, List.append_assoc, scan_open, scan_comment comment proper]
  | string items =>
    have comment : lineComment.isPrefixOf (quote :: (items.flatMap StringItem.render ++ quote :: after)) = false := rfl
    have block : openBlock.isPrefixOf (quote :: (items.flatMap StringItem.render ++ quote :: after)) = false := rfl
    rw [Segment.render, List.cons_append, List.append_assoc, List.singleton_append, scan, comment, block,
      if_neg (Nat.lt_irrefl 0), if_neg Bool.false_ne_true, if_neg Bool.false_ne_true, if_pos rfl,
      skipString_items items proper]

theorem segment_head {segment : Segment} (other : ¬ segment.IsCode) {after : JsString} {u : CodeUnit}
    (first : (segment.render ++ after).head? = some u) : isIdentifierPart u = false := by
  cases segment with
  | code text => exact absurd True.intro other
  | line body =>
    cases first
    decide
  | block comment =>
    cases first
    decide
  | string items =>
    cases first
    decide

theorem scan_last {last : Option JsString} (single : ∀ body, last = some body → newline ∉ body) :
    scan 0 (renderLast last) = [] := by
  have empty : scan 0 [] = [] := by rw [scan]
  cases last with
  | none => exact empty
  | some body =>
    have ended := dropWhile_body (single body rfl) []
    rw [List.append_nil] at ended
    rw [renderLast, scan_lineComment, ended]
    exact empty

theorem last_head {last : Option JsString} {u : CodeUnit} (first : (renderLast last).head? = some u) :
    isIdentifierPart u = false := by
  cases last with
  | none => cases first
  | some body =>
    cases first
    decide

theorem Clear.append {first second after : JsString} (one : Clear (second ++ after) first) (two : Clear after second) :
    Clear after (first ++ second) := by
  induction first with
  | nil => exact two
  | cons u first ih =>
    obtain ⟨unquoted, uncommented, unblocked, others⟩ := one
    rw [← List.append_assoc] at uncommented unblocked
    exact ⟨unquoted, uncommented, unblocked, ih others⟩

/-- A source after some code gives the tokens of its pieces of code, the first of which goes on with that code. -/
theorem scan_segments {last : Option JsString} (single : ∀ body, last = some body → newline ∉ body)
    (segments : List Segment) (proper : ProperFrom last segments) :
    ∀ code : JsString, Clear (renderFrom last segments) code →
      scan 0 (code ++ renderFrom last segments) = (codeRuns (.code code :: segments)).flatMap codeTokens := by
  induction segments with
  | nil =>
    intro code clear
    rw [renderFrom] at clear ⊢
    have piece : scan 0 (code ++ renderLast last) = codeTokensFrom [] code ++ scan 0 (renderLast last) :=
      scan_code clear (fun _ _ _ => rfl) fun _ => last_head
    rw [piece, scan_last single]
    simp [codeRuns, codeTokens]
  | cons segment rest ih =>
    intro code clear
    obtain ⟨here, others⟩ := proper
    have later := ih others
    by_cases coded : segment.IsCode
    · cases segment with
      | code text =>
        have whole := later (code ++ text) (Clear.append clear here)
        rw [List.append_assoc] at whole
        rw [renderFrom, Segment.render, whole]
        cases runs : codeRuns rest with
        | nil => exact absurd runs (codeRuns_ne_nil rest)
        | cons run runs_ => simp only [codeRuns, runs, List.append_assoc]
      | _ => exact coded.elim
    · have next := later [] trivial
      rw [renderFrom] at clear ⊢
      have piece : scan 0 (code ++ (segment.render ++ renderFrom last rest)) =
          codeTokensFrom [] code ++ scan 0 (segment.render ++ renderFrom last rest) :=
        scan_code clear (fun _ _ _ => rfl) fun _ first => segment_head coded first
      rw [List.nil_append] at next
      rw [piece, scan_segment here coded, next]
      cases runs : codeRuns rest with
      | nil => exact absurd runs (codeRuns_ne_nil rest)
      | cons run runs_ =>
        cases segment with
        | code text => exact absurd True.intro coded
        | _ => simp [codeRuns, runs, codeTokens]

/-- The tokens of a source are those of its code. -/
theorem dependencyTokens_eq (source : Source) (proper : source.Proper) :
    dependencyTokens source.render = source.tokens := by
  have whole := scan_segments proper.2 source.segments proper.1 [] trivial
  rw [List.nil_append] at whole
  rw [dependencyTokens, Source.render, whole, Source.tokens]
  cases runs : codeRuns source.segments with
  | nil => exact absurd runs (codeRuns_ne_nil source.segments)
  | cons run rest => simp [codeRuns, runs]

end Mirror.Spec
