import Mathlib.Algebra.Order.BigOperators.Group.List
import Mathlib.Algebra.Order.Group.Nat
import Mathlib.Data.List.Induction
import MirrorECMA.DynamicBinding.Binding
import MirrorECMA.DynamicBinding.RoundTrip
import MirrorECMA.ModelInterface.DescriptorIdentity
import MirrorECMA.ModelInterface.OrderInvariance

namespace Mirror.DynamicBinding

open ECMA Mirror.Protocol Mirror.OpaqueItf
open ECMA.Grammar (minus)
open Mirror.ModelInterface (CanonicalItfLiteral ResolvedAction ResolvedInput SemanticDescriptor Unknown
  decodeSemanticDescriptor decodeSemanticDescriptor_accepted isCanonicalInteger)

/-! ### Integer literals -/

theorem decimal_decimalValue {u : CodeUnit} {rest : JsString} (digits : ∀ v ∈ u :: rest, isDigit v = true)
    (nonzero : u ≠ 0x30) : decimal (decimalValue (u :: rest)) = u :: rest := by
  have single {v : CodeUnit} (digit : isDigit v = true) : unit (v.toNat - 0x30).digitChar = v ∧ v.toNat - 0x30 < 10 := by
    simp only [isDigit, Bool.and_eq_true, decide_eq_true_eq] at digit
    have small : v.toNat - 0x30 < 10 := by omega
    have value := digitChar_unit small
    refine ⟨BitVec.eq_of_toNat_eq ?_, small⟩
    omega
  induction rest using List.reverseRecOn with
  | nil =>
    obtain ⟨char, small⟩ := single (digits u List.mem_cons_self)
    have value : decimalValue [u] = u.toNat - 0x30 := by simp [decimalValue]
    rw [value, decimal_small small, char]
  | append_singleton rest v ih =>
    have prior := ih fun w member => digits w (by
      rcases List.mem_cons.mp member with rfl | inside
      · exact List.mem_cons_self
      · exact List.mem_cons_of_mem _ (List.mem_append_left _ inside))
    obtain ⟨char, small⟩ := single (digits v (by simp))
    have value : decimalValue (u :: (rest ++ [v])) = 10 * decimalValue (u :: rest) + (v.toNat - 0x30) := by
      simp [decimalValue]
    have positive : 0 < decimalValue (u :: rest) := by
      apply Nat.pos_of_ne_zero
      intro zero
      rw [zero] at prior
      exact nonzero (List.cons.inj prior).1.symm
    have large : 10 ≤ 10 * decimalValue (u :: rest) + (v.toNat - 0x30) := by omega
    have quotient : (10 * decimalValue (u :: rest) + (v.toNat - 0x30)) / 10 = decimalValue (u :: rest) := by omega
    have remainder : (10 * decimalValue (u :: rest) + (v.toNat - 0x30)) % 10 = v.toNat - 0x30 := by omega
    rw [value, decimal_step large, quotient, remainder, prior, char, List.cons_append]

/-- The literal decoder admits the texts of the integers, and `-0`. -/
theorem canonicalInteger_cases {text : JsString} (canonical : isCanonicalInteger text = true) :
    text = js "-0" ∨ ∃ i, text = integerText i := by
  have shape (digits : JsString) (valid : (decide (digits = js "0") ||
      (digits.head?.any (fun u => isDigit u && u ≠ 0x30) && digits.all isDigit)) = true) :
      digits = js "0" ∨ ∃ n, 0 < n ∧ digits = decimal n := by
    rw [Bool.or_eq_true, decide_eq_true_eq, Bool.and_eq_true] at valid
    rcases valid with zero | ⟨first, all⟩
    · exact .inl zero
    · cases digits with
      | nil => cases first
      | cons u rest =>
        have nonzero : u ≠ 0x30 := by
          simp only [List.head?_cons, Option.any_some, Bool.and_eq_true, decide_eq_true_eq] at first
          exact first.2
        have text := decimal_decimalValue (List.all_eq_true.mp all) nonzero
        refine .inr ⟨decimalValue (u :: rest), Nat.pos_of_ne_zero fun zero => ?_, text.symm⟩
        rw [zero] at text
        exact nonzero (List.cons.inj text).1.symm
  unfold isCanonicalInteger at canonical
  by_cases signed : text.head? = some minus
  · rw [if_pos signed] at canonical
    obtain ⟨rest, rfl⟩ : ∃ rest, text = minus :: rest := by
      cases text with
      | nil => cases signed
      | cons u rest => exact ⟨rest, by rw [Option.some.inj signed]⟩
    rcases shape _ canonical with zero | ⟨n, positive, digits⟩
    · left
      rw [List.tail_cons] at zero
      rw [zero]
      rfl
    · right
      refine ⟨-(n : Int), ?_⟩
      rw [List.tail_cons] at digits
      rw [integerText, if_pos (by omega), Int.natAbs_neg, Int.natAbs_natCast, digits]
  · rw [if_neg signed] at canonical
    right
    rcases shape _ canonical with zero | ⟨n, _, digits⟩
    · exact ⟨0, zero⟩
    · exact ⟨n, by rw [integerText, if_neg (by omega), Int.natAbs_natCast, digits]⟩

/-- The integer that a literal spells. -/
def integerOf (text : JsString) : Int := (bigIntOfString text).getD 0

theorem bigIntOfString_canonical {text : JsString} (canonical : isCanonicalInteger text = true) :
    bigIntOfString text = some (integerOf text) := by
  rcases canonicalInteger_cases canonical with rfl | ⟨i, rfl⟩
  · decide
  · rw [integerOf, bigIntOfString_integerText]
    rfl

/-- The text with the sign of `-0` left out. -/
def unsignedText (text : JsString) : JsString := if text = js "-0" then js "0" else text

theorem integerText_integerOf {text : JsString} (canonical : isCanonicalInteger text = true) :
    integerText (integerOf text) = unsignedText text := by
  rcases canonicalInteger_cases canonical with rfl | ⟨i, rfl⟩
  · decide
  · have plain : integerText i ≠ js "-0" := fun same => by
      have read := bigIntOfString_integerText i
      have zero : bigIntOfString (js "-0") = some 0 := by decide
      rw [same, zero] at read
      rw [← Option.some.inj read] at same
      cases same
    rw [unsignedText, if_neg plain, integerOf, bigIntOfString_integerText, Option.getD_some]

/-! ### The value of a literal -/

mutual

/-- What an accepted literal stands for. -/
def denoted : CanonicalItfLiteral → Value
  | .int value => .int (integerOf value)
  | .bool value => .bool value
  | .str value => .str value
  | .null => .null
  | .collection .set values => .set (denotedItems values)
  | .collection .seq values => .seq (denotedItems values)
  | .collection .tuple values => .tuple (denotedItems values)
  | .record fields => .record (denotedFields fields)
  | .map entries => .map (denotedEntries entries)
  | .variant tag payload => .variant tag (denoted payload)

def denotedItems : List CanonicalItfLiteral → List Value
  | [] => []
  | literal :: rest => denoted literal :: denotedItems rest

def denotedFields : List (JsString × CanonicalItfLiteral) → List (JsString × Value)
  | [] => []
  | (name, literal) :: rest => (name, denoted literal) :: denotedFields rest

def denotedEntries : List (CanonicalItfLiteral × CanonicalItfLiteral) → List (Value × Value)
  | [] => []
  | (key, value) :: rest => (denoted key, denoted value) :: denotedEntries rest

end

theorem denotedItems_eq (values : List CanonicalItfLiteral) : denotedItems values = values.map denoted :=
  eq_map rfl (fun _ _ => rfl) values

theorem denotedFields_eq (fields : List (JsString × CanonicalItfLiteral)) :
    denotedFields fields = fields.map fun field => (field.1, denoted field.2) := eq_map rfl (fun _ _ => rfl) fields

theorem denotedEntries_eq (entries : List (CanonicalItfLiteral × CanonicalItfLiteral)) :
    denotedEntries entries = entries.map fun entry => (denoted entry.1, denoted entry.2) :=
  eq_map rfl (fun _ _ => rfl) entries

/-- A literal that gives a value gives the one it stands for, in which no record repeats a name. -/
def Gives (literal : CanonicalItfLiteral) : Prop :=
  ∀ value, literalValue literal = .ok value → value = denoted literal ∧ value.EveryRecord Fields.Distinct

theorem literalValues_gives {values : List CanonicalItfLiteral} (each : ∀ literal ∈ values, Gives literal)
    {result : List Value} (found : literalValues values = .ok result) :
    result = values.map denoted ∧ ∀ value ∈ result, value.EveryRecord Fields.Distinct := by
  induction values generalizing result with
  | nil =>
    cases found
    exact ⟨rfl, by simp⟩
  | cons literal rest ih =>
    simp only [literalValues, bind_eq_ok, pure_eq_ok, Except.ok.injEq] at found
    obtain ⟨value, first, others, tail, rfl⟩ := found
    obtain ⟨rfl, distinct⟩ := each literal List.mem_cons_self _ first
    obtain ⟨rfl, more⟩ := ih (fun other member => each other (List.mem_cons_of_mem _ member)) tail
    exact ⟨rfl, List.forall_mem_cons.mpr ⟨distinct, more⟩⟩

theorem literalFields_gives {fields : List (JsString × CanonicalItfLiteral)} (each : ∀ field ∈ fields, Gives field.2)
    {before result : Fields Value} (distinct : Fields.Distinct before)
    (all : ∀ field ∈ before, field.2.EveryRecord Fields.Distinct) (found : literalFields before fields = .ok result) :
    result = before ++ fields.map (fun field => (field.1, denoted field.2)) ∧ Fields.Distinct result ∧
      ∀ field ∈ result, field.2.EveryRecord Fields.Distinct := by
  induction fields generalizing before with
  | nil =>
    cases found
    exact ⟨(List.append_nil _).symm, distinct, all⟩
  | cons field rest ih =>
    obtain ⟨name, literal⟩ := field
    rw [literalFields] at found
    split at found
    · cases found
    · rename_i absent
      obtain ⟨value, first, tail⟩ := bind_eq_ok.mp found
      obtain ⟨rfl, own⟩ := each _ List.mem_cons_self _ first
      have fresh : name ∉ Fields.keys before := fun inside => absent (Fields.has_iff.mpr inside)
      have appended : before.set name (denoted literal) = before ++ [(name, denoted literal)] := Fields.set_fresh fresh _
      have kept := Fields.set_distinct distinct name (denoted literal)
      rw [appended] at tail kept
      obtain ⟨shape, apart, values⟩ := ih (fun other member => each other (List.mem_cons_of_mem _ member)) kept
        (fun other member => (List.mem_append.mp member).elim (all other) fun last =>
          List.mem_singleton.mp last ▸ own) tail
      refine ⟨?_, apart, values⟩
      rw [shape, List.append_assoc]
      rfl

theorem literalEntries_gives {entries : List (CanonicalItfLiteral × CanonicalItfLiteral)}
    (each : ∀ entry ∈ entries, Gives entry.1 ∧ Gives entry.2) {result : List (Value × Value)}
    (found : literalEntries entries = .ok result) :
    result = entries.map (fun entry => (denoted entry.1, denoted entry.2)) ∧
      ∀ entry ∈ result, entry.1.EveryRecord Fields.Distinct ∧ entry.2.EveryRecord Fields.Distinct := by
  induction entries generalizing result with
  | nil =>
    cases found
    exact ⟨rfl, by simp⟩
  | cons entry rest ih =>
    simp only [literalEntries, bind_eq_ok, pure_eq_ok, Except.ok.injEq] at found
    obtain ⟨key, first, value, second, others, tail, rfl⟩ := found
    obtain ⟨rfl, keyDistinct⟩ := (each entry List.mem_cons_self).1 _ first
    obtain ⟨rfl, distinct⟩ := (each entry List.mem_cons_self).2 _ second
    obtain ⟨rfl, more⟩ := ih (fun other member => each other (List.mem_cons_of_mem _ member)) tail
    exact ⟨rfl, List.forall_mem_cons.mpr ⟨⟨keyDistinct, distinct⟩, more⟩⟩

theorem gives (literal : CanonicalItfLiteral) : Gives literal := by
  have leaf {value : Value} (plain : ∀ record, ¬ value.RecordIn record) : value.EveryRecord Fields.Distinct :=
    fun record inside => (plain record inside).elim
  induction literal using CanonicalItfLiteral.children_induct with
  | int text =>
    intro value found
    rw [literalValue] at found
    split at found
    · rename_i val read
      cases found
      have same : integerOf text = val := by rw [integerOf, read, Option.getD_some]
      rw [denoted, same]
      exact ⟨rfl, leaf (by rintro _ ⟨⟩)⟩
    · cases found
  | bool b =>
    intro value found
    cases found
    exact ⟨rfl, leaf (by rintro _ ⟨⟩)⟩
  | str s =>
    intro value found
    cases found
    exact ⟨rfl, leaf (by rintro _ ⟨⟩)⟩
  | null =>
    intro value found
    cases found
    exact ⟨rfl, leaf (by rintro _ ⟨⟩)⟩
  | collection kind values ih =>
    intro value found
    cases kind with
    | set =>
      simp only [literalValue, bind_eq_ok, pure_eq_ok, Except.ok.injEq] at found
      obtain ⟨items, each, _, _, rfl⟩ := found
      obtain ⟨rfl, distinct⟩ := literalValues_gives ih each
      rw [denoted, denotedItems_eq]
      exact ⟨rfl, Value.everyRecord_set.mpr distinct⟩
    | seq =>
      simp only [literalValue, bind_eq_ok, pure_eq_ok, Except.ok.injEq] at found
      obtain ⟨items, each, rfl⟩ := found
      obtain ⟨rfl, distinct⟩ := literalValues_gives ih each
      rw [denoted, denotedItems_eq]
      exact ⟨rfl, Value.everyRecord_seq.mpr distinct⟩
    | tuple =>
      simp only [literalValue, bind_eq_ok, pure_eq_ok, Except.ok.injEq] at found
      obtain ⟨items, each, rfl⟩ := found
      obtain ⟨rfl, distinct⟩ := literalValues_gives ih each
      rw [denoted, denotedItems_eq]
      exact ⟨rfl, Value.everyRecord_tuple.mpr distinct⟩
  | record fields ih =>
    intro value found
    simp only [literalValue, bind_eq_ok, pure_eq_ok, Except.ok.injEq] at found
    obtain ⟨own, each, rfl⟩ := found
    have empty : Fields.Distinct ([] : Fields Value) := List.nodup_nil
    obtain ⟨rfl, apart, distinct⟩ := literalFields_gives ih empty (by simp) each
    rw [denoted, denotedFields_eq]
    exact ⟨rfl, Value.everyRecord_record.mpr ⟨apart, distinct⟩⟩
  | map entries ih =>
    intro value found
    simp only [literalValue, bind_eq_ok, pure_eq_ok, Except.ok.injEq] at found
    obtain ⟨own, each, _, _, rfl⟩ := found
    obtain ⟨rfl, distinct⟩ := literalEntries_gives ih each
    rw [denoted, denotedEntries_eq]
    exact ⟨rfl, Value.everyRecord_map.mpr distinct⟩
  | variant tag payload ih =>
    intro value found
    simp only [literalValue, bind_eq_ok, pure_eq_ok, Except.ok.injEq] at found
    obtain ⟨inner, each, rfl⟩ := found
    obtain ⟨rfl, distinct⟩ := ih _ each
    exact ⟨rfl, Value.everyRecord_variant.mpr distinct⟩

/-! ### Literals that can be used -/

theorem fits_succ {levels : Nat} {value : Value} (fits : Fits levels value) : Fits (levels + 1) value := by
  induction fits with
  | null => exact .null
  | int val => exact .int val
  | bool val => exact .bool val
  | str val => exact .str val
  | unserializable val => exact .unserializable val
  | set _ apart ih => exact .set ih apart
  | seq _ ih => exact .seq ih
  | tuple _ ih => exact .tuple ih
  | record _ ih => exact .record ih
  | map _ _ apart ihKeys ih => exact .map ihKeys ih apart
  | variant _ ih => exact .variant ih

theorem fits_mono {levels more : Nat} (le : levels ≤ more) {value : Value} (fits : Fits levels value) : Fits more value :=
  Nat.le_induction fits (fun _ _ => fits_succ) more le

/-- What `itfValueIdentity` accepts, with records as finite maps. -/
structure Usable (value : Value) : Prop where
  distinct : value.EveryRecord Fields.Distinct
  fits : Fits (OPAQUE_ITF_MAX_DEPTH + 1) value
  small : nodes value ≤ OPAQUE_ITF_MAX_NODES

theorem Usable.identity {value : Value} (usable : Usable value) : valueIdentity value = .ok (identity value) := by
  rw [valueIdentity, itfValueIdentity, (snapshot_foreign usable.distinct).mpr ⟨rfl, usable.fits, usable.small⟩]
  rfl

theorem assertUniqueValues_usable {values : List Value} (each : ∀ value ∈ values, Usable value)
    (apart : (values.map OpaqueItf.identity).Nodup) (path : JsString) : assertUniqueValues values path = .ok () := by
  apply assertUniqueValues_ok.mpr ⟨values.map OpaqueItf.identity, _, apart⟩
  rw [List.map_map]
  exact List.map_congr_left fun value member => (each value member).identity

theorem literalValues_ok {values : List CanonicalItfLiteral}
    (each : ∀ literal ∈ values, literalValue literal = .ok (denoted literal)) :
    literalValues values = .ok (values.map denoted) := by
  induction values with
  | nil => rfl
  | cons literal rest ih =>
    have tail := ih fun other member => each other (List.mem_cons_of_mem _ member)
    rw [literalValues, each literal List.mem_cons_self, tail]
    rfl

theorem literalFields_ok {fields : List (JsString × CanonicalItfLiteral)}
    (each : ∀ field ∈ fields, literalValue field.2 = .ok (denoted field.2)) {before : Fields Value}
    (distinct : Fields.Distinct (before ++ fields.map fun field => (field.1, denoted field.2))) :
    literalFields before fields = .ok (before ++ fields.map fun field => (field.1, denoted field.2)) := by
  induction fields generalizing before with
  | nil => rw [literalFields, List.map_nil, List.append_nil]
  | cons field rest ih =>
    obtain ⟨name, literal⟩ := field
    have fresh : name ∉ Fields.keys before := by
      intro inside
      rw [Fields.Distinct, Fields.keys, List.map_append, List.nodup_append] at distinct
      exact distinct.2.2 name inside name List.mem_cons_self rfl
    have first : literalValue literal = .ok (denoted literal) := each _ List.mem_cons_self
    have extended : Fields.Distinct ((before ++ [(name, denoted literal)]) ++
        rest.map fun field => (field.1, denoted field.2)) := by simpa using distinct
    have tail := ih (fun other member => each other (List.mem_cons_of_mem _ member)) extended
    rw [literalFields, if_neg (fun known => fresh (Fields.has_iff.mp known)), first, ok_bind, Fields.set_fresh fresh, tail,
      List.append_assoc]
    rfl

theorem literalEntries_ok {entries : List (CanonicalItfLiteral × CanonicalItfLiteral)}
    (each : ∀ entry ∈ entries, literalValue entry.1 = .ok (denoted entry.1) ∧
      literalValue entry.2 = .ok (denoted entry.2)) :
    literalEntries entries = .ok (entries.map fun entry => (denoted entry.1, denoted entry.2)) := by
  induction entries with
  | nil => rfl
  | cons entry rest ih =>
    have tail := ih fun other member => each other (List.mem_cons_of_mem _ member)
    obtain ⟨first, second⟩ := each entry List.mem_cons_self
    rw [literalEntries, first, ok_bind, second, ok_bind, tail]
    rfl

theorem usable_child {levels : Nat} {value : Value} (le : levels + 1 ≤ OPAQUE_ITF_MAX_DEPTH + 1)
    (distinct : value.EveryRecord Fields.Distinct) (fits : Fits levels value)
    (small : nodes value ≤ OPAQUE_ITF_MAX_NODES) : Usable value := ⟨distinct, fits_mono (by omega) fits, small⟩

/-- A part of a value holds no more nodes than the parts together. -/
theorem nodes_le {α : Type} (size : α → Nat) {parts : List α} {part : α} (member : part ∈ parts)
    (small : (parts.map size).sum + 1 ≤ OPAQUE_ITF_MAX_NODES) : size part ≤ OPAQUE_ITF_MAX_NODES := by
  have within := List.le_sum_of_mem (List.mem_map_of_mem (f := size) member)
  omega

/-- A literal whose value is accepted gives it. -/
theorem literalValue_denoted {literal : CanonicalItfLiteral} {depth levels : Nat} (accepted : literal.Accepted depth)
    (le : levels ≤ OPAQUE_ITF_MAX_DEPTH + 1) (distinct : (denoted literal).EveryRecord Fields.Distinct)
    (fits : Fits levels (denoted literal)) (small : nodes (denoted literal) ≤ OPAQUE_ITF_MAX_NODES) :
    literalValue literal = .ok (denoted literal) := by
  induction accepted generalizing levels with
  | @int _ text _ canonical => rw [literalValue, bigIntOfString_canonical canonical, denoted]
  | bool => rfl
  | str _ => rfl
  | null => rfl
  | @collection _ kind values _ ih =>
    cases kind with
    | set =>
      rw [denoted, denotedItems_eq] at distinct fits small
      rw [Value.everyRecord_set, List.forall_mem_map] at distinct
      rw [nodes, nodesOf_eq, List.map_map] at small
      cases fits with
      | set fits apart =>
        rw [List.forall_mem_map] at fits
        have each := literalValues_ok fun literal member =>
          ih literal member (by omega) (distinct literal member) (fits literal member)
            (nodes_le (nodes ∘ denoted) member small)
        have unique := assertUniqueValues_usable (List.forall_mem_map.mpr fun literal member =>
          usable_child le (distinct literal member) (fits literal member)
            (nodes_le (nodes ∘ denoted) member small)) apart (js "mapKey")
        rw [literalValue, each, ok_bind, unique, denoted, denotedItems_eq]
        rfl
    | seq =>
      rw [denoted, denotedItems_eq] at distinct fits small
      rw [Value.everyRecord_seq, List.forall_mem_map] at distinct
      rw [nodes, nodesOf_eq, List.map_map] at small
      cases fits with
      | seq fits =>
        rw [List.forall_mem_map] at fits
        have each := literalValues_ok fun literal member =>
          ih literal member (by omega) (distinct literal member) (fits literal member)
            (nodes_le (nodes ∘ denoted) member small)
        rw [literalValue, each, denoted, denotedItems_eq]
        rfl
    | tuple =>
      rw [denoted, denotedItems_eq] at distinct fits small
      rw [Value.everyRecord_tuple, List.forall_mem_map] at distinct
      rw [nodes, nodesOf_eq, List.map_map] at small
      cases fits with
      | tuple fits =>
        rw [List.forall_mem_map] at fits
        have each := literalValues_ok fun literal member =>
          ih literal member (by omega) (distinct literal member) (fits literal member)
            (nodes_le (nodes ∘ denoted) member small)
        rw [literalValue, each, denoted, denotedItems_eq]
        rfl
  | @record _ fields _ _ ih =>
    rw [denoted, denotedFields_eq] at distinct fits small
    rw [Value.everyRecord_record, List.forall_mem_map] at distinct
    rw [nodes, nodesOfFields_eq, List.map_map] at small
    cases fits with
    | record fits =>
      rw [List.forall_mem_map] at fits
      have room (field : JsString × CanonicalItfLiteral) (member : field ∈ fields) :
          nodes (denoted field.2) ≤ OPAQUE_ITF_MAX_NODES :=
        nodes_le (fun field : JsString × CanonicalItfLiteral => nodes (denoted field.2)) member small
      have each := literalFields_ok (fun field member =>
        ih field member (by omega) (distinct.2 field member) (fits field member) (room field member))
        (show Fields.Distinct ([] ++ fields.map fun field => (field.1, denoted field.2)) from distinct.1)
      rw [literalValue, each, denoted, denotedFields_eq]
      rfl
  | @map _ entries _ _ ihKeys ih =>
    rw [denoted, denotedEntries_eq] at distinct fits small
    rw [Value.everyRecord_map, List.forall_mem_map] at distinct
    rw [nodes, nodesOfEntries_eq, List.map_map] at small
    cases fits with
    | map keys fits apart =>
      rw [List.forall_mem_map] at keys fits
      have room (entry : CanonicalItfLiteral × CanonicalItfLiteral) (member : entry ∈ entries) :
          nodes (denoted entry.1) ≤ OPAQUE_ITF_MAX_NODES ∧ nodes (denoted entry.2) ≤ OPAQUE_ITF_MAX_NODES := by
        have both : nodes (denoted entry.1) + nodes (denoted entry.2) ≤ OPAQUE_ITF_MAX_NODES :=
          nodes_le (fun entry : CanonicalItfLiteral × CanonicalItfLiteral =>
            nodes (denoted entry.1) + nodes (denoted entry.2)) member small
        omega
      have each := literalEntries_ok fun entry member =>
        ⟨ihKeys entry member (by omega) (distinct entry member).1 (keys entry member) (room entry member).1,
          ih entry member (by omega) (distinct entry member).2 (fits entry member) (room entry member).2⟩
      have usable : ∀ value ∈ (entries.map fun entry => (denoted entry.1, denoted entry.2)).map Prod.fst,
          Usable value := by
        rw [List.map_map, List.forall_mem_map]
        exact fun entry member => usable_child le (distinct entry member).1 (keys entry member) (room entry member).1
      have unique := assertUniqueValues_usable usable (by rwa [List.map_map]) (js "mapKey")
      rw [literalValue, each, ok_bind, unique, denoted, denotedEntries_eq]
      rfl
  | @variant _ tag payload _ _ ih =>
    rw [denoted] at distinct fits small
    rw [Value.everyRecord_variant] at distinct
    rw [nodes] at small
    cases fits with
    | variant fits =>
      have inner := ih (by omega) distinct fits (by omega)
      rw [literalValue, inner, denoted]
      rfl

/-- A literal gives an accepted value exactly where the value it stands for is one. -/
theorem literalValue_usable {literal : CanonicalItfLiteral} {depth : Nat} (accepted : literal.Accepted depth) :
    (∃ value key, literalValue literal = .ok value ∧ itfValueIdentity value = .ok key) ↔ Usable (denoted literal) := by
  constructor
  · rintro ⟨value, key, found, identified⟩
    obtain ⟨rfl, distinct⟩ := gives literal value found
    obtain ⟨snapshot, taken, _⟩ := fmap_eq_ok.mp identified
    obtain ⟨_, fits, small⟩ := (snapshot_foreign distinct).mp taken
    exact ⟨distinct, fits, small⟩
  · intro usable
    exact ⟨denoted literal, identity (denoted literal),
      literalValue_denoted accepted le_rfl usable.distinct usable.fits usable.small, usable.identity⟩

/-! ### Dispatch by a map key -/

theorem findEntry_ok (expected : JsString) {entries : List (Value × Value)} {keys : List JsString}
    (texts : (entries.map Prod.fst).map valueIdentity = keys.map .ok) : ∃ found, findEntry expected entries = .ok found ∧
      (found = none ↔ expected ∉ keys) := by
  induction entries generalizing keys with
  | nil =>
    cases keys with
    | nil => exact ⟨none, rfl, by simp⟩
    | cons key keys => cases texts
  | cons entry rest ih =>
    cases keys with
    | nil => cases texts
    | cons key keys =>
      rw [List.map_cons, List.map_cons, List.map_cons, List.cons.injEq] at texts
      rw [findEntry, texts.1, ok_bind]
      by_cases same : key = expected
      · rw [if_pos same]
        exact ⟨some entry, rfl, by simp [same]⟩
      · rw [if_neg same]
        obtain ⟨found, searched, absent⟩ := ih texts.2
        refine ⟨found, searched, absent.trans ?_⟩
        rw [List.mem_cons, not_or]
        exact ⟨fun away => ⟨fun equal => same equal.symm, away⟩, fun both => both.2⟩

/-- On a map whose keys are accepted, a literal that can be used fails for want of the key alone. -/
theorem readSegment_mapKey {literal : CanonicalItfLiteral} {depth : Nat} (accepted : literal.Accepted depth)
    (usable : Usable (denoted literal)) {entries : List (Value × Value)} {label : JsString}
    (unique : assertUniqueValues (entries.map Prod.fst) label = .ok ()) :
    (∃ found, readSegment (.map entries) (.mapKey literal) label = .ok found) ∨
      readSegment (.map entries) (.mapKey literal) label = .error (label ++ js ": map key is absent") ∧
        ∀ entry ∈ entries, itfValueIdentity entry.1 ≠ itfValueIdentity (denoted literal) := by
  obtain ⟨keys, texts, _⟩ := assertUniqueValues_ok.mp unique
  have value := literalValue_denoted accepted le_rfl usable.distinct usable.fits usable.small
  obtain ⟨found, searched, absent⟩ := findEntry_ok (identity (denoted literal)) texts
  cases found with
  | some entry =>
    left
    refine ⟨entry.2, ?_⟩
    rw [readSegment, unique, ok_bind, value, ok_bind, usable.identity, ok_bind, searched]
    rfl
  | none =>
    right
    constructor
    · rw [readSegment, unique, ok_bind, value, ok_bind, usable.identity, ok_bind, searched]
      rfl
    intro entry member same
    apply absent.mp rfl
    have listed : valueIdentity entry.1 ∈ keys.map .ok := texts ▸ List.mem_map_of_mem (List.mem_map_of_mem member)
    obtain ⟨key, among, equal⟩ := List.mem_map.mp listed
    have own : valueIdentity entry.1 = .ok (identity (denoted literal)) := same.trans usable.identity
    rw [own] at equal
    exact Except.ok.inj equal ▸ among

theorem mapKey_accepted {value : Unknown} {descriptor : SemanticDescriptor}
    (decoded : decodeSemanticDescriptor value = .ok descriptor) {action : ResolvedAction}
    (member : action ∈ descriptor.allActions) {input : ResolvedInput} (listed : input ∈ action.inputs)
    {literal : CanonicalItfLiteral} (segment : .mapKey literal ∈ input.from.path) : literal.Accepted 128 := by
  obtain ⟨wellFormed, _⟩ := decodeSemanticDescriptor_accepted decoded
  rcases List.mem_append.mp member with initial | transition
  · exact ((wellFormed.initializers action initial).inputs input listed).path _ segment
  · exact ((wellFormed.actions action transition).inputs input listed).path _ segment

/-- A map key of an accepted descriptor gives an accepted value where no record, set or map in it repeats itself and it is
within the limits, and then a dispatch on it fails for want of the key alone. -/
theorem mapKey_dispatched {value : Unknown} {descriptor : SemanticDescriptor}
    (decoded : decodeSemanticDescriptor value = .ok descriptor) {action : ResolvedAction}
    (member : action ∈ descriptor.allActions) {input : ResolvedInput} (listed : input ∈ action.inputs)
    {literal : CanonicalItfLiteral} (segment : .mapKey literal ∈ input.from.path) :
    ((∃ result key, literalValue literal = .ok result ∧ itfValueIdentity result = .ok key) ↔
        Usable (denoted literal)) ∧
      (Usable (denoted literal) → ∀ (entries : List (Value × Value)) (label : JsString),
        assertUniqueValues (entries.map Prod.fst) label = .ok () →
        (∃ found, readSegment (.map entries) (.mapKey literal) label = .ok found) ∨
          readSegment (.map entries) (.mapKey literal) label = .error (label ++ js ": map key is absent") ∧
            ∀ entry ∈ entries, itfValueIdentity entry.1 ≠ itfValueIdentity (denoted literal)) := by
  have accepted := mapKey_accepted decoded member listed segment
  exact ⟨literalValue_usable accepted, fun usable _ _ => readSegment_mapKey accepted usable⟩

section

open Mirror.ModelInterface (counter flags flags_decoded)

theorem flags_usable : Usable (denoted (flags true false)) := by
  have each : ∀ value ∈ [Value.bool true, .bool false], Fits OPAQUE_ITF_MAX_DEPTH value := by
    intro value member
    rcases List.mem_cons.mp member with rfl | last
    · exact .bool true
    · rw [List.mem_singleton.mp last]
      exact .bool false
  have distinct : (Value.set [.bool true, .bool false]).EveryRecord Fields.Distinct :=
    Value.everyRecord_set.mpr fun value member record inside => by
      rcases List.mem_cons.mp member with rfl | last
      · cases inside
      · rw [List.mem_singleton.mp last] at inside
        cases inside
  exact ⟨distinct, .set each (by decide), by decide⟩

def flagged : List (Value × Value) := [(.set [.bool false, .bool true], .int 7), (.bool true, .null)]

theorem flags_dispatched :
    (∃ result key, literalValue (flags true false) = .ok result ∧ itfValueIdentity result = .ok key) ∧
    ((∃ found, readSegment (.map flagged) (.mapKey (flags true false)) (js "INIT.START") = .ok found) ∨
      readSegment (.map flagged) (.mapKey (flags true false)) (js "INIT.START") =
        .error (js "INIT.START" ++ js ": map key is absent") ∧
      ∀ entry ∈ flagged, itfValueIdentity entry.1 ≠ itfValueIdentity (denoted (flags true false))) := by
  have dispatched := mapKey_dispatched (flags_decoded true false) List.mem_cons_self List.mem_cons_self List.mem_cons_self
  exact ⟨dispatched.1.mpr flags_usable, dispatched.2 flags_usable flagged (js "INIT.START") (by decide +kernel)⟩

/-- An accepted descriptor may list an element of a set twice. -/
theorem repeated_flag :
    decodeSemanticDescriptor (some (counter (flags true true)).toJson) = .ok (counter (flags true true)) ∧
    (∃ action ∈ (counter (flags true true)).allActions, ∃ input ∈ action.inputs,
      .mapKey (flags true true) ∈ input.from.path) ∧
    literalValue (flags true true) = .error (js "mapKey: duplicate set element or map key") :=
  ⟨flags_decoded true true, ⟨_, List.mem_cons_self, _, List.mem_cons_self, List.mem_cons_self⟩, rfl⟩

end

end Mirror.DynamicBinding
