import QueryDoc.Proofs.Condition.Tokens
import QueryDoc.Query

/-!
# The contents of text literals

A condition has a shape of its own, into which the contents of its text literals
are put.  Putting other contents in changes neither the tokens around them nor
which operators apply.
-/

namespace QueryDoc

namespace Literal

def mapText (f : String → String) : Literal → Literal
  | .text content => .text (f content)
  | value => value

def content? : Literal → Option String
  | .text content => some content
  | _ => none

@[simp] theorem kind_mapText (f : String → String) (value : Literal) :
    (value.mapText f).kind = value.kind := by
  cases value <;> rfl

end Literal

namespace Comparison

def mapText (f : String → String) (comparison : Comparison) : Comparison :=
  { comparison with value := comparison.value.mapText f }

@[simp] theorem applies_mapText (f : String → String) (comparison : Comparison) :
    (comparison.mapText f).applies = comparison.applies := by
  simp [applies, mapText]

@[simp] theorem fault_mapText (f : String → String) (comparison : Comparison) :
    (comparison.mapText f).fault = comparison.fault := by
  simp [fault, mapText]

theorem verify_map_mapText (f : String → String) (comparisons : List Comparison) :
    verify (comparisons.map (mapText f)) = verify comparisons := by
  induction comparisons with
  | nil => rfl
  | cons comparison comparisons ih =>
      cases applicable : comparison.applies <;> simp [verify, applicable, ih]

end Comparison

namespace Token

def mapText (f : String → String) : Token → Token
  | .compare comparison => .compare (comparison.mapText f)
  | token => token

theorem map_follow {f : Token → Token} {logic : Logic}
    (connective : f (.connective logic) = .connective logic)
    (operands : List (List Token)) :
    (follow logic operands).map f = follow logic (operands.map (List.map f)) := by
  induction operands with
  | nil => rfl
  | cons operand operands ih =>
      by_cases empty : operand = [] <;> simp [follow, empty, connective, ih]

theorem map_join {f : Token → Token} {logic : Logic}
    (connective : f (.connective logic) = .connective logic)
    (operands : List (List Token)) :
    (join logic operands).map f = join logic (operands.map (List.map f)) := by
  induction operands with
  | nil => rfl
  | cons operand operands ih =>
      by_cases empty : operand = [] <;> simp [join, empty, map_follow connective, ih]

end Token

namespace Condition

mutual

def mapTexts (f : String → String) : Condition → Condition
  | .compare comparison => .compare (comparison.mapText f)
  | .join logic grouped parts => .join logic grouped (mapPartTexts f parts)

def mapPartTexts (f : String → String) : List Condition → List Condition
  | [] => []
  | part :: parts => part.mapTexts f :: mapPartTexts f parts

end

@[simp] theorem mapTexts_compare (f : String → String) (comparison : Comparison) :
    (compare comparison).mapTexts f = .compare (comparison.mapText f) := by
  rw [mapTexts]

@[simp] theorem mapTexts_join (f : String → String) (logic : Logic) (grouped : Bool)
    (parts : List Condition) :
    (join logic grouped parts).mapTexts f =
      .join logic grouped (parts.map (mapTexts f)) := by
  rw [mapTexts]
  congr 1
  induction parts with
  | nil => rw [mapPartTexts, List.map_nil]
  | cons part parts ih => rw [mapPartTexts, List.map_cons, ih]

theorem comparisons_mapTexts (f : String → String) (condition : Condition) :
    (condition.mapTexts f).comparisons = condition.comparisons.map (Comparison.mapText f) := by
  induction condition with
  | compare comparison => simp
  | join logic grouped parts ih =>
      rw [mapTexts_join, comparisons_join, comparisons_join, List.map_flatMap,
        List.flatMap_map, List.flatMap_def, List.flatMap_def, List.map_congr_left ih]

theorem tokens_mapTexts (f : String → String) (condition : Condition) :
    (condition.mapTexts f).tokens = condition.tokens.map (Token.mapText f) := by
  induction condition with
  | compare comparison => simp [Token.mapText]
  | join logic grouped parts ih =>
      have operands : ∀ part ∈ parts,
          (part.mapTexts f).operand = part.operand.map (Token.mapText f) := by
        intro part member
        have sameGroup : (part.mapTexts f).isGroup = part.isGroup := by
          cases part <;> simp [isGroup]
        rw [operand, operand, bracket, bracket, sameGroup, ih part member,
          apply_ite (List.map (Token.mapText f))]
        simp [Token.mapText]
      rw [mapTexts_join, tokens_join, tokens_join, Token.map_join rfl, List.map_map,
        List.map_map]
      congr 1
      exact List.map_congr_left operands

end Condition

namespace Query

def mapTexts (f : String → String) (query : Query) : Query :=
  { query with filter := query.filter.map (·.mapTexts f) }

end Query

end QueryDoc
