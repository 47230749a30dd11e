import QueryDoc.Proofs.Condition.Tokens
import QueryDoc.Proofs.Grammar.Reader

/-!
# Reading conditions back

With quotes doubled, the text of a condition stands for one expression.  Groups
among the parts of a join are terms of their own, other joins give their terms to
the join around them, and parts without comparisons leave nothing.

Main statement: `read_text_doubled`.
-/

namespace QueryDoc

open Grammar

/-! ## Comparisons -/

namespace Literal

/-- The value as far as text can show it. -/
def shown : Literal → Value
  | .null => .null
  | .bool value => .bool value
  | .number value => .number value.queryText
  | .text content => .text content

def isFinite : Literal → Bool
  | .number value => value.isFinite
  | _ => true

theorem wellFormed_shown {operator : Operator} {value : Literal}
    (applicable : applies operator value.kind = true) (finite : value.isFinite = true) :
    value.shown.WellFormed operator := by
  cases value with
  | null | bool truth => simpa [shown, Value.WellFormed, applies, kind] using applicable
  | number number => exact Number.isNumeral_queryText finite
  | text content => trivial

theorem write_shown (operator : Operator) (value : Literal) :
    value.shown.write operator = (value.phrase .doubled operator).toList := by
  cases value with
  | null => cases operator <;> rfl
  | bool truth => cases operator <;> cases truth <;> rfl
  | number number => simp [shown, Value.write, phrase]
  | text content => simp [shown, Value.write, phrase, Escaping.apply]

end Literal

namespace Comparison

def predicate (comparison : Comparison) : Predicate :=
  ⟨comparison.field, comparison.operator, comparison.value.shown⟩

theorem applies_of_fragment {escaping : Escaping} {comparison : Comparison}
    (accepted : ∃ fragment,
      comparison.value.fragment escaping comparison.operator = .ok fragment) :
    comparison.applies = true := by
  obtain ⟨fragment, found⟩ := accepted
  unfold Literal.fragment at found
  split at found
  · assumption
  · contradiction

theorem write_predicate (comparison : Comparison) :
    comparison.predicate.write = (comparison.phrase .doubled).toList := by
  simp [predicate, Predicate.write, phrase, Literal.write_shown]

end Comparison

/-! ## Conditions -/

namespace Condition

def nest (part : Condition) (expression : Option Expression) : Option Expression :=
  if part.isGroup then expression.map fun inner => .single (.group inner) else expression

mutual

def flattening : Condition → Option Expression
  | .compare comparison => some (.single (.predicate comparison.predicate))
  | .join logic _ parts => Expression.join logic (partFlattenings parts)

def partFlattenings : List Condition → List (Option Expression)
  | [] => []
  | part :: parts => part.nest part.flattening :: partFlattenings parts

end

@[simp] theorem flattening_compare (comparison : Comparison) :
    (compare comparison).flattening = some (.single (.predicate comparison.predicate)) := by
  rw [flattening]

@[simp] theorem flattening_join (logic : Logic) (grouped : Bool) (parts : List Condition) :
    (join logic grouped parts).flattening =
      Expression.join logic (parts.map fun part => part.nest part.flattening) := by
  rw [flattening]
  congr 1
  induction parts with
  | nil => rw [partFlattenings, List.map_nil]
  | cons part parts ih => rw [partFlattenings, List.map_cons, ih]

/-! ## What is written -/

theorem write_connective (logic : Logic) :
    (Token.connective logic).spelling .doubled = Grammar.connective logic := by
  cases logic <;> rfl

theorem eq_nil_iff_of_write? {expression : Option Expression} {tokens : List Token}
    (same : Expression.write? expression = Token.spell .doubled tokens) :
    tokens = [] ↔ expression = none := by
  rw [← Expression.write?_eq_nil_iff, same, Token.spell_eq_nil_iff]

theorem write?_nest {part : Condition}
    (same : Expression.write? part.flattening = Token.spell .doubled part.tokens) :
    Expression.write? (part.nest part.flattening) = Token.spell .doubled part.operand := by
  have written := eq_nil_iff_of_write? same
  unfold nest operand bracket
  cases part.isGroup with
  | false => simpa using same
  | true =>
      cases inner : part.flattening with
      | none => simp [written.mpr inner]
      | some expression =>
          rw [inner] at same
          simp [written, inner, ← same, Token.spelling, Expression.write, Term.write]

theorem write?_join {logic : Logic} {parts : List Condition}
    (same : ∀ part ∈ parts,
      Expression.write? (part.nest part.flattening) = Token.spell .doubled part.operand) :
    Expression.write? (Expression.join logic (parts.map fun part => part.nest part.flattening)) =
      Token.spell .doubled (Token.join logic (parts.map operand)) := by
  induction parts with
  | nil => rfl
  | cons part parts ih =>
      rw [List.forall_mem_cons] at same
      have others := ih same.2
      have written := eq_nil_iff_of_write? same.1
      have behind := eq_nil_iff_of_write? others
      rw [List.map_cons, List.map_cons, Token.join]
      cases first : part.nest part.flattening with
      | none =>
          rw [if_pos (written.mpr first)]
          exact others
      | some expression =>
          rw [if_neg (by simp [written, first]), Token.spell_append, ← same.1, first,
            Token.follow_eq, Expression.join]
          cases last : Expression.join logic (parts.map fun part => part.nest part.flattening) with
          | none =>
              rw [if_pos (behind.mpr last)]
              simp
          | some rest =>
              rw [if_neg (by simp [behind, last]), Token.spell_cons, ← others, last]
              simp [Expression.write_append, write_connective]

theorem write?_flattening (condition : Condition) :
    Expression.write? condition.flattening = Token.spell .doubled condition.tokens := by
  induction condition with
  | compare comparison =>
      simp [Expression.write, Term.write, comparison.write_predicate, Token.spelling]
  | join logic grouped parts ih =>
      rw [flattening_join, tokens_join]
      exact write?_join fun part member => write?_nest (ih part member)

theorem wellFormed_flattening {condition : Condition}
    (each : ∀ comparison ∈ condition.comparisons, comparison.predicate.WellFormed) :
    ∀ expression ∈ condition.flattening, expression.WellFormed := by
  induction condition with
  | compare comparison => simpa [Expression.WellFormed, Term.WellFormed] using each
  | join logic grouped parts ih =>
      rw [flattening_join]
      refine Expression.wellFormed_join (List.forall_mem_map.mpr fun part member => ?_)
      have inside := ih part member fun comparison found => each comparison (by
        rw [comparisons_join]
        exact List.mem_flatMap_of_mem member found)
      unfold nest
      split
      · intro expression nested
        obtain ⟨inner, some, rfl⟩ := Option.map_eq_some_iff.mp nested
        exact inside inner some
      · exact inside

/-! ## What is read -/

/--
The text of a condition is read in full, and no other expression is written so:
whatever the text literals hold, they cannot be taken for a part of the text
around them.
-/
theorem read_text_doubled {condition : Condition} (nonempty : condition.comparisons ≠ [])
    (fields : ∀ comparison ∈ condition.comparisons, IsField comparison.field.toList)
    (accepted : ∀ comparison ∈ condition.comparisons, ∃ fragment,
      comparison.value.fragment .doubled comparison.operator = .ok fragment)
    (finite : ∀ comparison ∈ condition.comparisons, comparison.value.isFinite = true) :
    ∃ text expression, condition.text .doubled = .ok text ∧
      condition.flattening = some expression ∧ read text.toList = some expression ∧
      ∀ other : Expression, other.WellFormed → other.write = text.toList →
        other = expression := by
  have apply : ∀ comparison ∈ condition.comparisons, comparison.applies = true :=
    fun comparison member => Comparison.applies_of_fragment (accepted comparison member)
  have predicates : ∀ comparison ∈ condition.comparisons, comparison.predicate.WellFormed :=
    fun comparison member => ⟨fields comparison member,
      Literal.wellFormed_shown (apply comparison member) (finite comparison member)⟩
  have written := write?_flattening condition
  cases flattening : condition.flattening with
  | none =>
      have empty := (eq_nil_iff_of_write? written).mpr flattening
      exact absurd (tokens_eq_nil_iff.mp empty) nonempty
  | some expression =>
      rw [flattening] at written
      have wellFormed := wellFormed_flattening predicates expression flattening
      refine ⟨String.ofList (Token.spell .doubled condition.tokens), expression,
        text_eq_ok_iff.mpr ⟨apply, String.toList_ofList⟩, rfl, ?_, ?_⟩
      · rw [String.toList_ofList]
        exact read_eq_some_iff.mpr ⟨wellFormed, written⟩
      · intro other otherWellFormed same
        rw [String.toList_ofList, ← written] at same
        exact write_inj otherWellFormed wellFormed same

private def mixed : Condition :=
  all [.compare ⟨"a", .like, .text "') or ("⟩, all [any []],
    join .or false [.compare ⟨"b", .ge, .number (.integer (-2))⟩,
      any [.compare ⟨"c", .ne, .bool true⟩]]]

theorem read_text_doubled_of_mixed :
    let expression : Expression :=
      .chain (.predicate ⟨"a", .like, .text "') or ("⟩) .and
        (.chain (.predicate ⟨"b", .ge, .number "-2"⟩) .or
          (.single (.group (.single (.predicate ⟨"c", .ne, .bool true⟩)))))
    mixed.comparisons ≠ [] ∧
      (∀ comparison ∈ mixed.comparisons, IsField comparison.field.toList ∧
        (∃ fragment,
          comparison.value.fragment .doubled comparison.operator = .ok fragment) ∧
        comparison.value.isFinite = true) ∧
      mixed.text .doubled = .ok "a like ''') or (' and b >= -2 or (c is not true)" ∧
      mixed.flattening = some expression ∧
      read "a like ''') or (' and b >= -2 or (c is not true)".toList = some expression := by
  intro expression
  have leaves : mixed.comparisons =
      [⟨"a", .like, .text "') or ("⟩, ⟨"b", .ge, .number (.integer (-2))⟩,
        ⟨"c", .ne, .bool true⟩] := by
    simp [mixed, all, any]
  have nonempty : mixed.comparisons ≠ [] := by simp [leaves]
  have each : ∀ comparison ∈ mixed.comparisons, IsField comparison.field.toList ∧
      (∃ fragment, comparison.value.fragment .doubled comparison.operator = .ok fragment) ∧
      comparison.value.isFinite = true := by
    simp only [leaves, List.forall_mem_cons]
    refine ⟨?_, ?_, ?_, by simp⟩
    all_goals exact ⟨by decide, ⟨_, rfl⟩, rfl⟩
  obtain ⟨text, found, written, flattened, reads, -⟩ := read_text_doubled nonempty
    (fun comparison member => (each comparison member).1)
    (fun comparison member => (each comparison member).2.1)
    (fun comparison member => (each comparison member).2.2)
  obtain rfl : "a like ''') or (' and b >= -2 or (c is not true)" = text :=
    Except.ok.inj written
  obtain rfl : expression = found := Option.some.inj flattened
  exact ⟨nonempty, each, written, flattened, reads⟩

end Condition

end QueryDoc
