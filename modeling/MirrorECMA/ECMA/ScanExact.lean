import MirrorECMA.ECMA.Measures
import MirrorECMA.ECMA.Scan
import MirrorECMA.ECMA.Throws

namespace ECMA

namespace Grammar

mutual

/-- No object has more members than the one bound, and no array more elements than the other. -/
def Value.Sized (maxMembers maxItems : Nat) : Value → Prop
  | .array items => items.count ≤ maxItems ∧ items.Sized maxMembers maxItems
  | .object members => members.count ≤ maxMembers ∧ members.Sized maxMembers maxItems
  | _ => True

def Items.Sized (maxMembers maxItems : Nat) : Items → Prop
  | .last _ value _ => value.Sized maxMembers maxItems
  | .cons _ value _ rest => value.Sized maxMembers maxItems ∧ rest.Sized maxMembers maxItems

def Members.Sized (maxMembers maxItems : Nat) : Members → Prop
  | .last _ _ _ _ value _ => value.Sized maxMembers maxItems
  | .cons _ _ _ _ value _ rest => value.Sized maxMembers maxItems ∧ rest.Sized maxMembers maxItems

end

section

variable (fits : JsString → Nat → Prop) (bytesOf : JsString → Nat) (maxBytes : Nat)

mutual

/-- Every decoded string fits its bound: `own` for the value itself, that of the key for the value of a member, and
`maxBytes` for every key and element. -/
def Value.StringsFit (own : Nat) : Value → Prop
  | .string token => fits token.decoded own
  | .array items => items.StringsFit
  | .object members => members.StringsFit
  | _ => True

def Items.StringsFit : Items → Prop
  | .last _ value _ => value.StringsFit maxBytes
  | .cons _ value _ rest => value.StringsFit maxBytes ∧ rest.StringsFit

def Members.StringsFit : Members → Prop
  | .last _ key _ _ value _ => fits key.decoded maxBytes ∧ value.StringsFit (bytesOf key.decoded)
  | .cons _ key _ _ value _ rest =>
    fits key.decoded maxBytes ∧ value.StringsFit (bytesOf key.decoded) ∧ rest.StringsFit

end

end

theorem Value.nodes_pos (value : Value) : 1 ≤ value.nodes := by
  cases value <;> simp only [Value.nodes] <;> omega

end Grammar

namespace Scan

open Grammar

section

variable {ε : Type} (rules : Rules ε)

/-! ### Tokens -/

theorem closing_unescaped {u : CodeUnit} (plain : isUnescaped u = true) {text token after : JsString}
    (closed : closing rules false text = .ok (token, after)) : closing rules false (u :: text) = .ok (u :: token, after) := by
  simp only [isUnescaped, Bool.and_eq_true, decide_eq_true_eq] at plain
  have printable : ¬ (u ≠ backslash ∧ u.toNat < 0x20) := fun control => Nat.not_lt.mpr plain.1.1 control.2
  rw [closing, if_neg plain.1.2, if_neg printable, decide_eq_false plain.2, closed]
  rfl

theorem closing_escaped (v : CodeUnit) {text token after : JsString} (closed : closing rules false text = .ok (token, after)) :
    closing rules false (backslash :: v :: text) = .ok (backslash :: v :: token, after) := by
  rw [closing, if_neg (by decide), if_neg (by simp), decide_eq_true rfl, closing, closed]
  rfl

theorem closing_item (item : Item) {text token after : JsString} (closed : closing rules false text = .ok (token, after)) :
    closing rules false (item.render ++ text) = .ok (item.render ++ token, after) := by
  cases item with
  | raw u plain => exact closing_unescaped rules plain closed
  | escape e => exact closing_escaped rules e.letter closed
  | unicode a b c d =>
    have fourth := closing_unescaped rules (hexDigit_unescaped d) closed
    have third := closing_unescaped rules (hexDigit_unescaped c) fourth
    have second := closing_unescaped rules (hexDigit_unescaped b) third
    exact closing_escaped rules 0x75 (closing_unescaped rules (hexDigit_unescaped a) second)

theorem closing_render (t : StringToken) (rest : JsString) :
    closing rules false (t.renderTail ++ rest) = .ok (t.renderTail, rest) := by
  unfold StringToken.renderTail
  induction t with
  | nil => rw [List.flatMap_nil, List.nil_append, List.singleton_append, closing, if_pos rfl]; rfl
  | cons item others ih =>
    have closed := closing_item rules item ih
    simp only [List.flatMap_cons, List.append_assoc] at closed ⊢
    exact closed

theorem scalar_number {text rest : JsString} (valid : IsNumber text) (stop : Stops endsNumber rest) :
    scalar (text ++ rest) = some rest := by
  have found := numberPrefix_complete valid stop
  rcases number_head valid with ⟨u, tail, rfl, first⟩
  have plain (v : CodeUnit) (apart : v ≠ minus) (digit : isDigit v = false) (n : Nat) (word : JsString) :
      (u :: tail ++ rest).take (n + 1) ≠ v :: word := by
    rw [List.cons_append, List.take_succ_cons]
    intro same
    cases same
    rcases first with negative | positive
    · exact apart negative
    · rw [digit] at positive
      cases positive
  have t : (u :: tail ++ rest).take 4 ≠ js "true" := plain 0x74 (by decide) (by decide) 3 (js "rue")
  have f : (u :: tail ++ rest).take 5 ≠ js "false" := plain 0x66 (by decide) (by decide) 4 (js "alse")
  have n : (u :: tail ++ rest).take 4 ≠ js "null" := plain 0x6E (by decide) (by decide) 3 (js "ull")
  rw [scalar, if_neg t, if_neg f, if_neg n, found]
  rfl

variable [NumberConversion]

theorem stringToken_render (maxBytes : Nat) (t : StringToken) (rest : JsString) :
    stringToken rules maxBytes (t.render ++ rest) = (do
      rules.checkString t.decoded maxBytes
      return (t.decoded, rest)) := by
  have head : (t.render ++ rest).head? = some quote := rfl
  have tail : (t.render ++ rest).tail = t.renderTail ++ rest := rfl
  have read : jsonParse (quote :: t.renderTail) = some (.string t.decoded) := jsonParse_token t
  rw [stringToken, if_neg (not_not.mpr head), tail, closing_render, ok_bind]
  simp only [read]

/-! ### Values -/

/-- What a scan asks of a value, with so many levels left, a bound on its own bytes and so many values before it. -/
structure ValueFits (levels own nodes : Nat) (value : Value) : Prop where
  shallow : value.reach < levels
  few : nodes + value.nodes ≤ rules.maxNodes
  distinct : value.KeysDistinct
  sized : value.Sized rules.maxMembers rules.maxItems
  strings : value.StringsFit (fun s bytes => rules.checkString s bytes = .ok ()) rules.bytesOf rules.maxBytes own

structure ItemsFit (levels left nodes : Nat) (items : Items) : Prop where
  shallow : items.reach < levels
  few : nodes + items.nodes ≤ rules.maxNodes
  count : items.count ≤ left
  distinct : items.KeysDistinct
  sized : items.Sized rules.maxMembers rules.maxItems
  strings : items.StringsFit (fun s bytes => rules.checkString s bytes = .ok ()) rules.bytesOf rules.maxBytes

structure MembersFit (levels left : Nat) (keys : List JsString) (nodes : Nat) (members : Members) : Prop where
  shallow : members.reach < levels
  few : nodes + members.nodes ≤ rules.maxNodes
  count : members.count ≤ left
  fresh : ∀ key ∈ members.keys, key ∉ keys
  own : members.keys.Nodup
  distinct : members.KeysDistinct
  sized : members.Sized rules.maxMembers rules.maxItems
  strings : members.StringsFit (fun s bytes => rules.checkString s bytes = .ok ()) rules.bytesOf rules.maxBytes

theorem value_blank (before : Whitespace) (value : Value) (levels own nodes : Nat) (rest : JsString) :
    Scan.value rules levels own ⟨before.text ++ (value.render ++ rest), nodes⟩ =
      Scan.value rules levels own ⟨value.render ++ rest, nodes⟩ := by
  cases levels with
  | zero => rfl
  | succ levels => rw [Scan.value, Scan.value, (skip_to_value before value rest).1, skipWhitespace_of_stops (value.stops rest)]

omit [NumberConversion] in
/-- A value of one token asks for room for itself, and for its string. -/
theorem valueFits_token {levels own nodes : Nat} {value : Value} (reach : value.reach = 0) (one : value.nodes = 1)
    (distinct : value.KeysDistinct) (sized : value.Sized rules.maxMembers rules.maxItems) (room : nodes + 1 ≤ rules.maxNodes) :
    ValueFits rules (levels + 1) own nodes value ↔
      value.StringsFit (fun s bytes => rules.checkString s bytes = .ok ()) rules.bytesOf rules.maxBytes own :=
  ⟨ValueFits.strings, fun strings => ⟨by omega, by omega, distinct, sized, strings⟩⟩

theorem members_eq_ok {f : Nat → Cursor → Except ε Cursor} {key : StringToken} {afterKey : Whitespace} {left nodes : Nat}
    {keys : List JsString} {rest : JsString} {cursor : Cursor} :
    Scan.members rules f left keys ⟨key.render ++ (afterKey.text ++ colon :: rest), nodes⟩ = .ok cursor ↔
      rules.checkString key.decoded rules.maxBytes = .ok () ∧ key.decoded ∉ keys ∧ ∃ less, left = less + 1 ∧
        ∃ passed, f (rules.bytesOf key.decoded) ⟨rest, nodes⟩ = .ok passed ∧
          (if (skipWhitespace passed.rest).head? = some closeBrace then
            Except.ok (ε := ε) ⟨(skipWhitespace passed.rest).tail, passed.nodes⟩
          else if (skipWhitespace passed.rest).head? ≠ some comma then stop rules .comma
          else Scan.members rules f less (keys ++ [key.decoded]) ⟨skipWhitespace (skipWhitespace passed.rest).tail, passed.nodes⟩) =
            .ok cursor := by
  have named := (skip_to_unit afterKey (u := colon) (by decide) rest).1
  rw [Scan.members, stringToken_render, bind_eq_ok]
  constructor
  · rintro ⟨⟨decoded, after⟩, read, went⟩
    obtain ⟨checked, valid, same⟩ := bind_eq_ok.mp read
    cases same
    dsimp only at went
    split at went
    · cases went
    · rename_i fresh
      cases left with
      | zero => cases went
      | succ less =>
        dsimp only at went
        rw [named, if_neg (by simp)] at went
        obtain ⟨passed, first, went⟩ := bind_eq_ok.mp went
        exact ⟨valid, fresh, less, rfl, passed, first, went⟩
  · rintro ⟨valid, fresh, less, rfl, passed, first, went⟩
    refine ⟨(key.decoded, afterKey.text ++ colon :: rest), bind_eq_ok.mpr ⟨(), valid, rfl⟩, ?_⟩
    dsimp only
    rw [if_neg fresh, named, if_neg (by simp)]
    exact bind_eq_ok.mpr ⟨passed, first, went⟩

omit [NumberConversion] in
theorem items_eq_ok {f : Nat → Cursor → Except ε Cursor} {left : Nat} {before cursor : Cursor} :
    Scan.items rules f left before = .ok cursor ↔ ∃ less, left = less + 1 ∧
      ∃ passed, f rules.maxBytes before = .ok passed ∧
        (if (skipWhitespace passed.rest).head? = some closeBracket then
          Except.ok (ε := ε) ⟨(skipWhitespace passed.rest).tail, passed.nodes⟩
        else if (skipWhitespace passed.rest).head? ≠ some comma then stop rules .comma
        else Scan.items rules f less ⟨skipWhitespace (skipWhitespace passed.rest).tail, passed.nodes⟩) = .ok cursor := by
  cases left with
  | zero =>
    constructor
    · intro went
      cases went
    · rintro ⟨less, same, _⟩
      cases same
  | succ less =>
    rw [Scan.items, bind_eq_ok]
    constructor
    · rintro ⟨passed, first, went⟩
      exact ⟨less, rfl, passed, first, went⟩
    · rintro ⟨_, same, passed, first, went⟩
      cases same
      exact ⟨passed, first, went⟩

/-! ### What a scan passes -/

mutual

theorem value_eq_ok (value : Value) {levels own nodes : Nat} {rest : JsString} {cursor : Cursor} (stop : Stops endsNumber rest) :
    Scan.value rules levels own ⟨value.render ++ rest, nodes⟩ = .ok cursor ↔
      ValueFits rules levels own nodes value ∧ cursor = ⟨rest, nodes + value.nodes⟩ := by
  cases levels with
  | zero =>
    constructor
    · intro went
      cases went
    · rintro ⟨fits, _⟩
      exact absurd fits.shallow (Nat.not_lt_zero _)
  | succ levels =>
  rw [Scan.value]
  by_cases room : nodes + 1 ≤ rules.maxNodes
  · rw [if_neg (Nat.not_lt.mpr room)]
    dsimp only
    rw [skipWhitespace_of_stops (value.stops rest)]
    have token (nodesAre : value.nodes = 1) (reach : value.reach = 0) (distinct : value.KeysDistinct)
        (sized : value.Sized rules.maxMembers rules.maxItems)
        (strings : value.StringsFit (fun s bytes => rules.checkString s bytes = .ok ()) rules.bytesOf rules.maxBytes own) :
        Except.ok (ε := ε) (⟨rest, nodes + 1⟩ : Cursor) = .ok cursor ↔
          ValueFits rules (levels + 1) own nodes value ∧ cursor = ⟨rest, nodes + value.nodes⟩ := by
      rw [valueFits_token rules reach nodesAre distinct sized room, nodesAre, Except.ok.injEq, eq_comm]
      exact (and_iff_right strings).symm
    cases value with
    | null => exact token rfl rfl trivial trivial trivial
    | true => exact token rfl rfl trivial trivial trivial
    | false => exact token rfl rfl trivial trivial trivial
    | number text valid =>
      rcases number_head valid with ⟨u, tail, shape, first⟩
      have plain (v : CodeUnit) (apart : v ≠ minus) (digit : isDigit v = false) : (text ++ rest).head? ≠ some v := by
        rw [shape, List.cons_append, List.head?_cons, ne_eq, Option.some.injEq]
        rintro rfl
        rcases first with negative | positive
        · exact apart negative
        · rw [digit] at positive
          cases positive
      rw [Value.render, if_neg (plain openBrace (by decide) (by decide)), if_neg (plain openBracket (by decide) (by decide)),
        if_neg (plain quote (by decide) (by decide)), scalar_number valid stop]
      exact token rfl rfl trivial trivial trivial
    | string t =>
      have head : (t.render ++ rest).head? = some quote := rfl
      have fits : ValueFits rules (levels + 1) own nodes (.string t) ↔ _ := valueFits_token rules rfl rfl trivial trivial room
      rw [fits, Value.render, head, if_neg (by decide), if_neg (by decide), if_pos rfl, stringToken_render, bind_eq_ok,
        Value.StringsFit]
      constructor
      · rintro ⟨⟨decoded, after⟩, read, went⟩
        obtain ⟨_, valid, same⟩ := bind_eq_ok.mp read
        cases same
        cases went
        exact ⟨valid, rfl⟩
      · rintro ⟨valid, rfl⟩
        exact ⟨(t.decoded, rest), bind_eq_ok.mpr ⟨(), valid, rfl⟩, rfl⟩
    | emptyArray inner =>
      have closing := (skip_to_unit inner (u := closeBracket) (by decide) rest).1
      simp only [Value.render, List.cons_append, List.append_assoc, List.nil_append, List.head?_cons, List.tail_cons, closing]
      exact token rfl rfl trivial trivial trivial
    | emptyObject inner =>
      have closing := (skip_to_unit inner (u := closeBrace) (by decide) rest).1
      simp only [Value.render, List.cons_append, List.append_assoc, List.nil_append, List.head?_cons, List.tail_cons, closing]
      exact token rfl rfl trivial trivial trivial
    | array items =>
      have opened := items_open items rest
      rw [Value.render, List.cons_append, List.head?_cons, List.tail_cons, if_neg (by decide), if_pos rfl, if_neg opened,
        items_render items, Value.nodes, Nat.add_right_comm, Nat.add_assoc]
      refine and_congr_left fun _ => ⟨fun fits => ?_, fun fits => ?_⟩
      · exact ⟨Nat.succ_lt_succ fits.shallow, by have := fits.few; simp only [Value.nodes]; omega, fits.distinct,
          ⟨fits.count, fits.sized⟩, fits.strings⟩
      · exact ⟨Nat.lt_of_succ_lt_succ fits.shallow, by have := fits.few; simp only [Value.nodes] at this; omega, fits.sized.1,
          fits.distinct, fits.sized.2, fits.strings⟩
    | object members =>
      have opened := members_open members rest
      rw [Value.render, List.cons_append, List.head?_cons, List.tail_cons, if_pos rfl, if_neg opened, members_render members, Value.nodes, Nat.add_right_comm, Nat.add_assoc]
      refine and_congr_left fun _ => ⟨fun fits => ?_, fun fits => ?_⟩
      · exact ⟨Nat.succ_lt_succ fits.shallow, by have := fits.few; simp only [Value.nodes]; omega, ⟨fits.own, fits.distinct⟩,
          ⟨fits.count, fits.sized⟩, fits.strings⟩
      · exact ⟨Nat.lt_of_succ_lt_succ fits.shallow, by have := fits.few; simp only [Value.nodes] at this; omega, fits.sized.1,
          fun _ _ => List.not_mem_nil, fits.distinct.1, fits.distinct.2, fits.sized.2, fits.strings⟩
  · rw [if_pos (Nat.lt_of_not_le room)]
    constructor
    · intro went
      cases went
    · rintro ⟨fits, _⟩
      have one := value.nodes_pos
      have few := fits.few
      omega

theorem items_render (items : Items) {levels left nodes : Nat} {rest : JsString} {cursor : Cursor} :
    Scan.items rules (Scan.value rules levels) left ⟨skipWhitespace (items.render ++ rest), nodes⟩ = .ok cursor ↔
      ItemsFit rules levels left nodes items ∧ cursor = ⟨rest, nodes + items.nodes⟩ := by
  cases items with
  | last before value after =>
    have stop := stops_at_unit after (u := closeBracket) (by decide) rest
    have closes := (skip_to_unit after (u := closeBracket) (by decide) rest).1
    simp only [Items.render, List.append_assoc, List.cons_append, List.nil_append, (skip_to_value before value _).1]
    rw [items_eq_ok]
    simp only [value_eq_ok value stop]
    constructor
    · rintro ⟨less, rfl, _, ⟨fits, rfl⟩, went⟩
      dsimp only at went
      rw [closes, List.head?_cons, if_pos rfl] at went
      cases went
      exact ⟨⟨fits.shallow, fits.few, Nat.succ_le_succ (Nat.zero_le _), fits.distinct, fits.sized, fits.strings⟩, rfl⟩
    · rintro ⟨fits, rfl⟩
      obtain ⟨less, rfl⟩ := Nat.exists_eq_succ_of_ne_zero (Nat.ne_of_gt fits.count)
      refine ⟨less, rfl, _, ⟨⟨fits.shallow, fits.few, fits.distinct, fits.sized, fits.strings⟩, rfl⟩, ?_⟩
      dsimp only
      rw [closes, List.head?_cons, if_pos rfl]
      rfl
  | cons before value after more =>
    have stop := stops_at_unit after (u := comma) (by decide) (more.render ++ rest)
    have separates := (skip_to_unit after (u := comma) (by decide) (more.render ++ rest)).1
    simp only [Items.render, List.append_assoc, List.cons_append, (skip_to_value before value _).1]
    rw [items_eq_ok]
    simp only [value_eq_ok value stop]
    constructor
    · rintro ⟨less, rfl, _, ⟨fits, rfl⟩, went⟩
      dsimp only at went
      rw [separates, List.head?_cons, if_neg (by decide), if_neg (by simp), List.tail_cons, items_render more] at went
      obtain ⟨others, rfl⟩ := went
      refine ⟨⟨Nat.max_lt.mpr ⟨fits.shallow, others.shallow⟩, ?_, Nat.succ_le_succ others.count, ⟨fits.distinct, others.distinct⟩,
        ⟨fits.sized, others.sized⟩, ⟨fits.strings, others.strings⟩⟩, by rw [Items.nodes, Nat.add_assoc]⟩
      rw [Items.nodes, ← Nat.add_assoc]
      exact others.few
    · rintro ⟨fits, rfl⟩
      have few := fits.few
      have shallow := Nat.max_lt.mp fits.shallow
      obtain ⟨less, rfl⟩ := Nat.exists_eq_succ_of_ne_zero (Nat.ne_of_gt (Nat.lt_of_lt_of_le (Nat.zero_lt_succ _) fits.count))
      rw [Items.nodes] at few
      refine ⟨less, rfl, _, ⟨⟨shallow.1, by omega, fits.distinct.1, fits.sized.1, fits.strings.1⟩, rfl⟩, ?_⟩
      dsimp only
      rw [separates, List.head?_cons, if_neg (by decide), if_neg (by simp), List.tail_cons, items_render more]
      exact ⟨⟨shallow.2, by omega, Nat.le_of_succ_le_succ fits.count, fits.distinct.2, fits.sized.2, fits.strings.2⟩,
        by rw [Items.nodes, Nat.add_assoc]⟩

theorem members_render (members : Members) {levels left nodes : Nat} {keys : List JsString} {rest : JsString} {cursor : Cursor} :
    Scan.members rules (Scan.value rules levels) left keys ⟨skipWhitespace (members.render ++ rest), nodes⟩ = .ok cursor ↔
      MembersFit rules levels left keys nodes members ∧ cursor = ⟨rest, nodes + members.nodes⟩ := by
  cases members with
  | last before key afterKey beforeValue value after =>
    have stop := stops_at_unit after (u := closeBrace) (by decide) rest
    have closes := (skip_to_unit after (u := closeBrace) (by decide) rest).1
    simp only [Members.render, List.append_assoc, List.cons_append, List.nil_append, skip_to_key]
    rw [members_eq_ok]
    simp only [value_blank, value_eq_ok value stop]
    constructor
    · rintro ⟨valid, fresh, less, rfl, _, ⟨fits, rfl⟩, went⟩
      dsimp only at went
      rw [closes, List.head?_cons, if_pos rfl] at went
      cases went
      exact ⟨⟨fits.shallow, fits.few, Nat.succ_le_succ (Nat.zero_le _), by simpa [Members.keys] using fresh,
        List.nodup_singleton _, fits.distinct, fits.sized, ⟨valid, fits.strings⟩⟩, rfl⟩
    · rintro ⟨fits, rfl⟩
      obtain ⟨less, rfl⟩ := Nat.exists_eq_succ_of_ne_zero (Nat.ne_of_gt fits.count)
      refine ⟨fits.strings.1, fits.fresh _ (List.mem_singleton_self _), less, rfl, _,
        ⟨⟨fits.shallow, fits.few, fits.distinct, fits.sized, fits.strings.2⟩, rfl⟩, ?_⟩
      dsimp only
      rw [closes, List.head?_cons, if_pos rfl]
      rfl
  | cons before key afterKey beforeValue value after more =>
    have stop := stops_at_unit after (u := comma) (by decide) (more.render ++ rest)
    have separates := (skip_to_unit after (u := comma) (by decide) (more.render ++ rest)).1
    simp only [Members.render, List.append_assoc, List.cons_append, skip_to_key]
    rw [members_eq_ok]
    simp only [value_blank, value_eq_ok value stop]
    constructor
    · rintro ⟨valid, fresh, less, rfl, _, ⟨fits, rfl⟩, went⟩
      dsimp only at went
      rw [separates, List.head?_cons, if_neg (by decide), if_neg (by simp), List.tail_cons, members_render more] at went
      obtain ⟨others, rfl⟩ := went
      refine ⟨⟨Nat.max_lt.mpr ⟨fits.shallow, others.shallow⟩, ?_, Nat.succ_le_succ others.count, ?_, ?_,
        ⟨fits.distinct, others.distinct⟩, ⟨fits.sized, others.sized⟩, ⟨valid, fits.strings, others.strings⟩⟩,
        by rw [Members.nodes, Nat.add_assoc]⟩
      · rw [Members.nodes, ← Nat.add_assoc]
        exact others.few
      · intro other member
        rcases List.mem_cons.mp member with rfl | member
        · exact fresh
        · exact fun seen => others.fresh other member (List.mem_append_left _ seen)
      · exact List.nodup_cons.mpr ⟨fun again => others.fresh _ again (List.mem_append_right _ (List.mem_singleton_self _)), others.own⟩
    · rintro ⟨fits, rfl⟩
      have few := fits.few
      have shallow := Nat.max_lt.mp fits.shallow
      have own := List.nodup_cons.mp fits.own
      obtain ⟨less, rfl⟩ := Nat.exists_eq_succ_of_ne_zero (Nat.ne_of_gt (Nat.lt_of_lt_of_le (Nat.zero_lt_succ _) fits.count))
      rw [Members.nodes] at few
      refine ⟨fits.strings.1, fits.fresh _ List.mem_cons_self, less, rfl, _,
        ⟨⟨shallow.1, by omega, fits.distinct.1, fits.sized.1, fits.strings.2.1⟩, rfl⟩, ?_⟩
      dsimp only
      rw [separates, List.head?_cons, if_neg (by decide), if_neg (by simp), List.tail_cons, members_render more]
      refine ⟨⟨shallow.2, by omega, Nat.le_of_succ_le_succ fits.count, fun other member seen => ?_, own.2, fits.distinct.2,
        fits.sized.2, fits.strings.2.2⟩, by rw [Members.nodes, Nat.add_assoc]⟩
      rcases List.mem_append.mp seen with seen | seen
      · exact fits.fresh other (List.mem_cons_of_mem _ member) seen
      · exact own.1 (List.mem_singleton.mp seen ▸ member)

end

/-- The bounds and the distinct keys that a scan asks of a text. -/
structure Admits (written : Text) : Prop where
  shallow : written.value.reach ≤ rules.maxDepth
  few : written.value.nodes ≤ rules.maxNodes
  distinct : written.value.KeysDistinct
  sized : written.value.Sized rules.maxMembers rules.maxItems
  strings : written.value.StringsFit (fun s bytes => rules.checkString s bytes = .ok ()) rules.bytesOf rules.maxBytes rules.maxBytes

/-- The scan of a text of JSON passes exactly the texts that it admits. -/
theorem scan_render (written : Text) : scan rules written.render = .ok () ↔ Admits rules written := by
  have stop : Stops endsNumber written.after.text := by
    have ended := stops_after_blank written.after (Stops.nil endsNumber)
    rw [List.append_nil] at ended
    exact ended
  have blank : skipWhitespace written.after.text = [] := by
    have skipped := skipWhitespace_append written.after (Stops.nil isWhitespace)
    rw [List.append_nil] at skipped
    exact skipped
  rw [scan, Text.render, value_blank, bind_eq_ok]
  simp only [value_eq_ok rules written.value stop, Nat.zero_add]
  constructor
  · rintro ⟨_, ⟨fits, rfl⟩, _⟩
    have few := fits.few
    rw [Nat.zero_add] at few
    exact ⟨Nat.le_of_lt_succ fits.shallow, few, fits.distinct, fits.sized, fits.strings⟩
  · intro admits
    refine ⟨_, ⟨⟨Nat.lt_succ_of_le admits.shallow, ?_, admits.distinct, admits.sized, admits.strings⟩, rfl⟩, ?_⟩
    · rw [Nat.zero_add]
      exact admits.few
    · rw [if_pos blank]
      rfl

end

end Scan

end ECMA
