import QueryDoc.Proofs.Condition.Assembly
import QueryDoc.Proofs.Condition.Tokens

/-!
# Mappings written without a tree

A condition mapping can be written down in one pass.  The comparisons and
conjunctions among its members come first, with `and` between them, and each
disjunction among them is one more alternative.  A nested mapping stands in
parentheses, unless it comes to nothing.

Main statement: `direct_text_of_ofMapping`, this is the text of the tree.
-/

namespace QueryDoc.Condition

namespace Direct

def combine (conjuncts alternatives : List String) : String :=
  " or ".intercalate
    ((if conjuncts = [] then [] else [" and ".intercalate conjuncts]) ++ alternatives)

def parenthesize (text : String) : List String :=
  if text = "" then [] else ["(" ++ text ++ ")"]

def comparisonText (escaping : Escaping) (key field : String) (operator : Operator)
    (value : Json) : Option String := do
  let literal ← (Literal.ofJson key value).toOption
  let fragment ← (literal.fragment escaping operator).toOption
  return field ++ " " ++ fragment

mutual

def groupTexts (escaping : Escaping) : Json → Option (List String)
  | .object members => do
      let conjuncts ← conjunctTexts escaping members
      let alternatives ← alternativeTexts escaping members
      return parenthesize (combine conjuncts alternatives)
  | _ => none

def conjunctTexts (escaping : Escaping) : List (String × Json) → Option (List String)
  | [] => return []
  | (key, value) :: members => do
      let texts ←
        match Key.parse key with
        | .ok (.comparison field operator) =>
            (comparisonText escaping key field operator value).map ([·])
        | .ok (.combinator .and) => groupTexts escaping value
        | .ok (.combinator .or) => some []
        | .error _ => none
      return texts ++ (← conjunctTexts escaping members)

def alternativeTexts (escaping : Escaping) : List (String × Json) → Option (List String)
  | [] => return []
  | (key, value) :: members => do
      let texts ←
        match Key.parse key with
        | .ok (.combinator .or) => groupTexts escaping value
        | .ok _ => some []
        | .error _ => none
      return texts ++ (← alternativeTexts escaping members)

end

def text (escaping : Escaping) (members : Json.Members) : Option String := do
  let conjuncts ← conjunctTexts escaping members
  let alternatives ← alternativeTexts escaping members
  return combine conjuncts alternatives

end Direct

/-! ## The tree has the same text -/

theorem Clauses.isGroup_condition (clauses : Clauses) : clauses.condition.isGroup = true := by
  have grouped {first : Condition} (alternatives : List Condition)
      (group : first.isGroup = true) : (alternatives.foldl .or first).isGroup = true := by
    induction alternatives generalizing first with
    | nil => exact group
    | cons alternative alternatives ih => exact ih (isGroup_or group alternative)
  exact grouped clauses.alternatives rfl

theorem Clauses.tokens_condition (clauses : Clauses) :
    clauses.condition.tokens =
      (join .or true (join .and false clauses.conjuncts :: clauses.alternatives)).tokens := by
  rw [Clauses.condition, tokens_foldl_or, all, tokens_join .or, List.map_cons,
    operand_ungrouped, tokens_join, tokens_join]

theorem Clauses.combine_operandTexts (escaping : Escaping) (clauses : Clauses) :
    Direct.combine (operandTexts escaping clauses.conjuncts)
        (operandTexts escaping clauses.alternatives) =
      String.ofList (Token.spell escaping clauses.condition.tokens) := by
  have conjoined := intercalate_operandTexts escaping .and false clauses.conjuncts
  have words : separator .and = " and " ∧ separator .or = " or " := by decide
  rw [words.1] at conjoined
  rw [clauses.tokens_condition, ← intercalate_operandTexts, operandTexts_cons, words.2,
    Direct.combine]
  by_cases empty : (join .and false clauses.conjuncts).tokens = []
  · have none : operandTexts escaping clauses.conjuncts = [] := by
      simpa [operandTexts_eq_nil_iff] using empty
    rw [if_pos none, if_pos empty, List.nil_append]
  · have nonempty : operandTexts escaping clauses.conjuncts ≠ [] := by
      simpa [operandTexts_eq_nil_iff] using empty
    rw [if_neg nonempty, if_neg empty, operand_ungrouped, conjoined, List.singleton_append]

theorem Clauses.parenthesize_combine (escaping : Escaping) (clauses : Clauses) :
    Direct.parenthesize (Direct.combine (operandTexts escaping clauses.conjuncts)
        (operandTexts escaping clauses.alternatives)) =
      operandTexts escaping [clauses.condition] := by
  rw [clauses.combine_operandTexts, operandTexts_cons, Direct.parenthesize]
  by_cases empty : clauses.condition.tokens = []
  · simp [empty, operandTexts]
  · have written : String.ofList (Token.spell escaping clauses.condition.tokens) ≠ "" := by
      simpa [← String.toList_inj] using empty
    have enclosed := enclose_spell escaping clauses.condition empty
    rw [enclose, if_pos clauses.isGroup_condition] at enclosed
    rw [if_neg written, if_neg empty, enclosed]
    rfl

theorem Clauses.comparisons_condition (clauses : Clauses) :
    clauses.condition.comparisons =
      clauses.conjuncts.flatMap comparisons ++ clauses.alternatives.flatMap comparisons := by
  rw [condition, comparisons_foldl_or, all, comparisons_join]

theorem Clauses.mem_comparisons_push {clauses : Clauses} {logic : Logic}
    {part : Condition} {comparison : Comparison} :
    comparison ∈ (clauses.push logic part).condition.comparisons ↔
      comparison ∈ part.comparisons ∨ comparison ∈ clauses.condition.comparisons := by
  cases logic with
  | and => simp [comparisons_condition, push]
  | or => simp [comparisons_condition, push, or_left_comm]

theorem Reads.direct {limit depth : Nat} {members : Json.Members} {clauses : Clauses}
    (read : Reads limit depth members clauses) {escaping : Escaping}
    (apply : ∀ comparison ∈ clauses.condition.comparisons, comparison.applies = true) :
    Direct.conjunctTexts escaping members =
        some (operandTexts escaping clauses.conjuncts) ∧
      Direct.alternativeTexts escaping members =
        some (operandTexts escaping clauses.alternatives) := by
  induction read with
  | nil depth =>
      exact ⟨by rw [Direct.conjunctTexts]; rfl, by rw [Direct.alternativeTexts]; rfl⟩
  | @nested depth key logic members rest inner clauses parsed _ _ _ innerIh ih =>
      simp only [Clauses.mem_comparisons_push, or_imp, forall_and] at apply
      obtain ⟨conjuncts, alternatives⟩ := ih apply.2
      have group : Direct.groupTexts escaping (.object members) =
          some (operandTexts escaping [inner.condition]) := by
        obtain ⟨innerConjuncts, innerAlternatives⟩ := innerIh apply.1
        rw [Direct.groupTexts, innerConjuncts, innerAlternatives,
          ← inner.parenthesize_combine]
        rfl
      have push (parts : List Condition) :
          operandTexts escaping [inner.condition] ++ operandTexts escaping parts =
            operandTexts escaping (inner.condition :: parts) := by
        simp [operandTexts_cons]
        split <;> simp [operandTexts]
      rw [Direct.conjunctTexts, Direct.alternativeTexts, parsed, conjuncts, alternatives]
      cases logic with
      | and => exact ⟨by simp [group, push, Clauses.push], by simp [Clauses.push]⟩
      | or => exact ⟨by simp [Clauses.push], by simp [group, push, Clauses.push]⟩
  | @compared depth key field operator value literal rest clauses parsed plain _ ih =>
      simp only [Clauses.mem_comparisons_push, or_imp, forall_and] at apply
      obtain ⟨conjuncts, alternatives⟩ := ih apply.2
      let comparison : Comparison := ⟨field, operator, literal⟩
      have text : Direct.comparisonText escaping key field operator value =
          some (comparison.phrase escaping) := by
        have applicable : Literal.applies operator literal.kind = true :=
          apply.1 comparison (by simp [comparison])
        have fragment : literal.fragment escaping operator =
            .ok (literal.phrase escaping operator) := if_pos applicable
        simp [Direct.comparisonText, plain, Except.toOption, fragment, Comparison.phrase,
          comparison]
      rw [Direct.conjunctTexts, Direct.alternativeTexts, parsed, conjuncts, alternatives]
      refine ⟨?_, by simp [Clauses.push]⟩
      simp [text, Clauses.push, operandTexts_cons, Token.spell, Token.spelling, comparison]

/-- A mapping that stands for a condition is written without a tree as with it. -/
theorem direct_text_of_ofMapping {limit : Nat} {members : Json.Members}
    {condition : Condition} (read : ofMapping limit members = .ok condition)
    {escaping : Escaping} {text : String} (written : condition.text escaping = .ok text) :
    Direct.text escaping members = some text := by
  obtain ⟨clauses, reads, rfl⟩ := reads_of_ofMapping read
  obtain ⟨apply, spelled⟩ := text_eq_ok_iff.mp written
  obtain ⟨conjuncts, alternatives⟩ := reads.direct apply
  have same : Direct.combine (operandTexts escaping clauses.conjuncts)
      (operandTexts escaping clauses.alternatives) = text := by
    rw [clauses.combine_operandTexts, ← spelled, String.ofList_toList]
  rw [Direct.text, conjuncts, alternatives, ← same]
  rfl

theorem direct_text_of_nested :
    let members : Json.Members :=
      [("a", .bool true), ("or_x", .object [("b", .null)]), ("and", .object []),
        ("and_y", .object [(">c", .string "d'e"), ("or", .object [("!f", .null)])])]
    ∃ condition, ofMapping 2 members = .ok condition ∧
      condition.text .doubled =
        .ok "a is true and (c > 'd''e' or (f is not null)) or (b is null)" ∧
      Direct.text .doubled members =
        some "a is true and (c > 'd''e' or (f is not null)) or (b is null)" := by
  intro members
  let condition : Condition :=
    any [
      join .and false [
        .compare ⟨"a", .eq, .bool true⟩,
        all [],
        any [.compare ⟨"c", .gt, .text "d'e"⟩, all [.compare ⟨"f", .ne, .null⟩]]],
      all [.compare ⟨"b", .eq, .null⟩]]
  have read : ofMapping 2 members = .ok condition := by rfl
  have written : condition.text .doubled =
      .ok "a is true and (c > 'd''e' or (f is not null)) or (b is null)" := by
    rfl
  exact ⟨condition, read, written, direct_text_of_ofMapping read written⟩

end QueryDoc.Condition
