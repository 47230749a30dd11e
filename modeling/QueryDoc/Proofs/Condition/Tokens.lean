import QueryDoc.Condition

/-!
# The tokens of a condition

The text of a condition is a sequence of comparisons, parentheses and
connectives.  Which sequence it is depends on the tree alone: an escaping only
spells the comparisons, and the one thing that can go wrong is a comparison
whose operator does not apply.

Main statement: `text_eq_spelling`.
-/

namespace QueryDoc

/-! ## Comparisons -/

namespace Comparison

def applies (comparison : Comparison) : Bool :=
  Literal.applies comparison.operator comparison.value.kind

def fault (comparison : Comparison) : CompileError :=
  .operatorNotApplicable comparison.operator comparison.value.kind

def phrase (escaping : Escaping) (comparison : Comparison) : String :=
  comparison.field ++ " " ++ comparison.value.phrase escaping comparison.operator

def verify : List Comparison → Except CompileError Unit
  | [] => .ok ()
  | comparison :: comparisons =>
      if comparison.applies then verify comparisons else .error comparison.fault

theorem text_eq (escaping : Escaping) (comparison : Comparison) :
    comparison.text escaping =
      (verify [comparison]).map fun _ => comparison.phrase escaping := by
  unfold text Literal.fragment verify applies
  split <;> rfl

theorem verify_append (first second : List Comparison) :
    verify (first ++ second) = (verify first).bind fun _ => verify second := by
  induction first with
  | nil => rfl
  | cons comparison first ih =>
      simp only [List.cons_append, verify, ih]
      split <;> rfl

theorem verify_eq_ok_iff {comparisons : List Comparison} :
    verify comparisons = .ok () ↔
      ∀ comparison ∈ comparisons, comparison.applies = true := by
  induction comparisons with
  | nil => simp [verify]
  | cons comparison comparisons ih =>
      cases applicable : comparison.applies <;> simp [verify, applicable, ih]

theorem phrase_ne_nil (escaping : Escaping) (comparison : Comparison) :
    (comparison.phrase escaping).toList ≠ [] := by
  simp [phrase]

end Comparison

/-! ## Tokens -/

inductive Token where
  | compare (comparison : Comparison)
  | opening
  | closing
  | connective (logic : Logic)

namespace Token

def spelling (escaping : Escaping) : Token → List Char
  | .compare comparison => (comparison.phrase escaping).toList
  | .opening => ['(']
  | .closing => [')']
  | .connective logic => (Condition.separator logic).toList

theorem spelling_ne_nil (escaping : Escaping) (token : Token) :
    token.spelling escaping ≠ [] := by
  cases token with
  | compare comparison => exact comparison.phrase_ne_nil escaping
  | opening | closing => simp [spelling]
  | connective logic => simp [spelling, Condition.separator]

def spell (escaping : Escaping) (tokens : List Token) : List Char :=
  tokens.flatMap (spelling escaping)

@[simp] theorem spell_cons (escaping : Escaping) (token : Token) (tokens : List Token) :
    spell escaping (token :: tokens) = token.spelling escaping ++ spell escaping tokens :=
  rfl

@[simp] theorem spell_append (escaping : Escaping) (first second : List Token) :
    spell escaping (first ++ second) = spell escaping first ++ spell escaping second :=
  List.flatMap_append

@[simp] theorem spell_eq_nil_iff {escaping : Escaping} {tokens : List Token} :
    spell escaping tokens = [] ↔ tokens = [] := by
  cases tokens with
  | nil => simp [spell]
  | cons token tokens => simp [spelling_ne_nil]

def comparison? : Token → Option Comparison
  | .compare comparison => some comparison
  | _ => none

def follow (logic : Logic) : List (List Token) → List Token
  | [] => []
  | operand :: operands =>
      if operand = [] then
        follow logic operands
      else
        .connective logic :: operand ++ follow logic operands

def join (logic : Logic) : List (List Token) → List Token
  | [] => []
  | operand :: operands =>
      if operand = [] then join logic operands else operand ++ follow logic operands

theorem follow_eq (logic : Logic) (operands : List (List Token)) :
    follow logic operands =
      if join logic operands = [] then [] else .connective logic :: join logic operands := by
  induction operands with
  | nil => rfl
  | cons operand operands ih =>
      by_cases empty : operand = []
      · simp [follow, join, empty, ih]
      · simp [follow, join, empty]

@[simp] theorem join_eq_nil_iff {logic : Logic} {operands : List (List Token)} :
    join logic operands = [] ↔ ∀ operand ∈ operands, operand = [] := by
  induction operands with
  | nil => simp [join]
  | cons operand operands ih =>
      by_cases empty : operand = []
      · simp [join, empty, ih]
      · simp [join, empty]

theorem follow_append (logic : Logic) (first second : List (List Token)) :
    follow logic (first ++ second) = follow logic first ++ follow logic second := by
  induction first with
  | nil => rfl
  | cons operand first ih =>
      by_cases empty : operand = [] <;> simp [follow, empty, ih]

theorem join_append (logic : Logic) (first second : List (List Token)) :
    join logic (first ++ second) =
      if join logic first = [] then
        join logic second
      else
        join logic first ++ follow logic second := by
  induction first with
  | nil => rfl
  | cons operand first ih =>
      by_cases empty : operand = []
      · simpa [join, empty] using ih
      · simp [join, empty, follow_append]

theorem join_join (logic : Logic) (first second : List (List Token)) :
    join logic (join logic first :: second) = join logic (first ++ second) := by
  rw [join_append, join]

@[simp] theorem join_singleton (logic : Logic) (operand : List Token) :
    join logic [operand] = operand := by
  by_cases empty : operand = [] <;> simp [join, follow, empty]

theorem filterMap_follow {α : Type} {f : Token → Option α} {logic : Logic}
    (connective : f (.connective logic) = none) (operands : List (List Token)) :
    (follow logic operands).filterMap f = operands.flatMap (List.filterMap f) := by
  induction operands with
  | nil => rfl
  | cons operand operands ih =>
      by_cases empty : operand = []
      · simpa [follow, empty] using ih
      · simp [follow, empty, connective, ih]

theorem filterMap_join {α : Type} {f : Token → Option α} {logic : Logic}
    (connective : f (.connective logic) = none) (operands : List (List Token)) :
    (join logic operands).filterMap f = operands.flatMap (List.filterMap f) := by
  induction operands with
  | nil => rfl
  | cons operand operands ih =>
      by_cases empty : operand = []
      · simpa [join, empty] using ih
      · simp [join, empty, filterMap_follow connective]

theorem spell_join (escaping : Escaping) (logic : Logic) (operands : List (List Token)) :
    spell escaping (join logic operands) =
      (Condition.separator logic).toList.intercalate
        ((operands.filter (!·.isEmpty)).map (spell escaping)) := by
  induction operands with
  | nil => rfl
  | cons operand operands ih =>
      by_cases empty : operand = []
      · simpa [join, empty] using ih
      · rw [join, if_neg empty, follow_eq, List.filter_cons_of_pos (by simpa using empty),
          List.map_cons]
        by_cases last : join logic operands = []
        · have none : operands.filter (!·.isEmpty) = [] := by
            simpa using last
          simp [last, none]
        · have nonempty : (operands.filter (!·.isEmpty)).map (spell escaping) ≠ [] := by
            simpa using last
          rw [if_neg last, List.intercalate_cons_of_ne_nil nonempty, ← ih]
          simp [spelling]

end Token

/-! ## Conditions -/

namespace Condition

@[elab_as_elim, induction_eliminator]
theorem induction {motive : Condition → Prop}
    (compare : ∀ comparison, motive (.compare comparison))
    (join : ∀ logic grouped parts, (∀ part ∈ parts, motive part) →
      motive (.join logic grouped parts))
    (condition : Condition) : motive condition :=
  match condition with
  | .compare comparison => compare comparison
  | .join logic grouped parts =>
      join logic grouped parts fun part _ => induction compare join part

mutual

def comparisons : Condition → List Comparison
  | .compare comparison => [comparison]
  | .join _ _ parts => partComparisons parts

def partComparisons : List Condition → List Comparison
  | [] => []
  | part :: parts => part.comparisons ++ partComparisons parts

end

@[simp] theorem comparisons_compare (comparison : Comparison) :
    (compare comparison).comparisons = [comparison] := by
  rw [comparisons]

@[simp] theorem comparisons_join (logic : Logic) (grouped : Bool)
    (parts : List Condition) :
    (join logic grouped parts).comparisons = parts.flatMap comparisons := by
  rw [comparisons]
  induction parts with
  | nil => rw [partComparisons, List.flatMap_nil]
  | cons part parts ih => rw [partComparisons, List.flatMap_cons, ih]

def bracket (part : Condition) (tokens : List Token) : List Token :=
  if part.isGroup ∧ tokens ≠ [] then
    .opening :: tokens ++ [.closing]
  else
    tokens

mutual

def tokens : Condition → List Token
  | .compare comparison => [.compare comparison]
  | .join logic _ parts => Token.join logic (partTokens parts)

def partTokens : List Condition → List (List Token)
  | [] => []
  | part :: parts => part.bracket part.tokens :: partTokens parts

end

def operand (part : Condition) : List Token :=
  part.bracket part.tokens

@[simp] theorem tokens_compare (comparison : Comparison) :
    (compare comparison).tokens = [.compare comparison] := by
  rw [tokens]

@[simp] theorem tokens_join (logic : Logic) (grouped : Bool) (parts : List Condition) :
    (join logic grouped parts).tokens = Token.join logic (parts.map operand) := by
  rw [tokens]
  congr 1
  induction parts with
  | nil => rw [partTokens, List.map_nil]
  | cons part parts ih => rw [partTokens, List.map_cons, ih, operand]

@[simp] theorem operand_eq_nil_iff {part : Condition} :
    part.operand = [] ↔ part.tokens = [] := by
  unfold operand bracket
  split
  · rename_i bracketed
    simp [bracketed.2]
  · rfl

theorem tokens_eq_nil_iff {condition : Condition} :
    condition.tokens = [] ↔ condition.comparisons = [] := by
  induction condition with
  | compare comparison => simp
  | join logic grouped parts ih => simpa using forall₂_congr ih

/-! ## Alternatives -/

@[simp] theorem operand_compare (comparison : Comparison) :
    (compare comparison).operand = [.compare comparison] := by
  simp [operand, bracket, isGroup]

theorem operand_ungrouped (logic : Logic) (parts : List Condition) :
    (join logic false parts).operand = (join logic false parts).tokens := by
  simp [operand, bracket, isGroup]

theorem operand_grouped {part : Condition} (grouped : part.isGroup = true)
    (written : part.tokens ≠ []) :
    part.operand = .opening :: part.tokens ++ [.closing] := by
  rw [operand, bracket, if_pos ⟨grouped, written⟩]

theorem tokens_or (left right : Condition) :
    (left.or right).tokens = Token.join .or [left.tokens, right.operand] := by
  cases left with
  | compare comparison => simp [or, any]
  | join logic grouped parts =>
      cases logic with
      | or => rw [or, tokens_join, tokens_join, Token.join_join, List.map_append]; rfl
      | and =>
          match parts with
          | [] => rw [or, any, tokens_join, tokens_join]; rfl
          | [part] => simp [or, any]
          | first :: second :: parts =>
              rw [or, any, tokens_join, List.map_cons, operand_ungrouped]
              · rfl
              · simp
              · simp

theorem tokens_foldl_or (first : Condition) (alternatives : List Condition) :
    (alternatives.foldl .or first).tokens =
      Token.join .or (first.tokens :: alternatives.map operand) := by
  induction alternatives generalizing first with
  | nil => simp
  | cons alternative alternatives ih =>
      rw [List.foldl_cons, ih, tokens_or, Token.join_join]
      rfl

theorem comparisons_or (left right : Condition) :
    (left.or right).comparisons = left.comparisons ++ right.comparisons := by
  unfold or
  split <;> simp [any]

theorem comparisons_foldl_or (first : Condition) (alternatives : List Condition) :
    (alternatives.foldl .or first).comparisons =
      first.comparisons ++ alternatives.flatMap comparisons := by
  induction alternatives generalizing first with
  | nil => simp
  | cons alternative alternatives ih => simp [ih, comparisons_or]

theorem isGroup_or {left : Condition} (grouped : left.isGroup = true)
    (right : Condition) : (left.or right).isGroup = true := by
  unfold or
  split
  · exact grouped
  all_goals rfl

theorem filterMap_tokens {α : Type} {f : Token → Option α}
    (opening : f .opening = none) (closing : f .closing = none)
    (connective : ∀ logic, f (.connective logic) = none) (condition : Condition) :
    condition.tokens.filterMap f =
      condition.comparisons.filterMap fun comparison => f (.compare comparison) := by
  induction condition with
  | compare comparison => simp [List.filterMap_cons]
  | join logic grouped parts ih =>
      have operands : ∀ part ∈ parts, part.operand.filterMap f =
          part.comparisons.filterMap fun comparison => f (.compare comparison) := by
        intro part member
        rw [← ih part member, operand, bracket]
        split
        · simp [opening, closing]
        · rfl
      rw [tokens_join, Token.filterMap_join (connective logic), comparisons_join,
        List.filterMap_flatMap, List.flatMap_map, List.flatMap_def, List.flatMap_def,
        List.map_congr_left operands]

theorem comparisons_eq_filterMap (condition : Condition) :
    condition.tokens.filterMap Token.comparison? = condition.comparisons := by
  rw [filterMap_tokens rfl rfl fun _ => rfl]
  simp [Token.comparison?]

/-! ## Texts -/

theorem enclose_spell (escaping : Escaping) (part : Condition)
    (written : part.tokens ≠ []) :
    part.enclose (String.ofList (Token.spell escaping part.tokens)) =
      String.ofList (Token.spell escaping part.operand) := by
  unfold enclose operand bracket
  cases part.isGroup with
  | false => simp
  | true =>
      rw [← String.toList_inj]
      simp [written, Token.spelling]

def operandTexts (escaping : Escaping) (parts : List Condition) : List String :=
  ((parts.map operand).filter (!·.isEmpty)).map fun tokens =>
    String.ofList (Token.spell escaping tokens)

theorem operandTexts_cons (escaping : Escaping) (part : Condition)
    (parts : List Condition) :
    operandTexts escaping (part :: parts) =
      if part.tokens = [] then
        operandTexts escaping parts
      else
        String.ofList (Token.spell escaping part.operand) ::
          operandTexts escaping parts := by
  by_cases empty : part.tokens = [] <;> simp [operandTexts, empty]

theorem operandTexts_eq_nil_iff {escaping : Escaping} {parts : List Condition} :
    operandTexts escaping parts = [] ↔ ∀ part ∈ parts, part.tokens = [] := by
  simp [operandTexts]

theorem intercalate_operandTexts (escaping : Escaping) (logic : Logic) (grouped : Bool)
    (parts : List Condition) :
    (separator logic).intercalate (operandTexts escaping parts) =
      String.ofList (Token.spell escaping (join logic grouped parts).tokens) := by
  rw [← String.toList_inj]
  simp [operandTexts, Token.spell_join, Function.comp_def]

private theorem partTexts_eq (escaping : Escaping) {parts : List Condition}
    (ih : ∀ part ∈ parts, part.text escaping =
      (Comparison.verify part.comparisons).map fun _ =>
        String.ofList (Token.spell escaping part.tokens)) :
    partTexts escaping parts =
      (Comparison.verify (parts.flatMap comparisons)).map fun _ =>
        operandTexts escaping parts := by
  induction parts with
  | nil => rw [partTexts]; rfl
  | cons part parts restIh =>
      have first := ih part List.mem_cons_self
      have others := restIh fun part member => ih part (List.mem_cons_of_mem _ member)
      rw [partTexts, first, others, List.flatMap_cons, Comparison.verify_append,
        operandTexts_cons]
      cases Comparison.verify part.comparisons with
      | error fault => rfl
      | ok _ =>
          cases Comparison.verify (parts.flatMap comparisons) with
          | error fault => rfl
          | ok _ =>
              by_cases empty : part.tokens = []
              · simp [Except.map, Except.bind, bind, pure, Except.pure, empty]
              · simp [Except.map, Except.bind, bind, pure, Except.pure, empty,
                  enclose_spell]

/-- The tokens are what is written, unless the operator of a comparison does not apply. -/
theorem text_eq_spelling (escaping : Escaping) (condition : Condition) :
    condition.text escaping =
      (Comparison.verify condition.comparisons).map fun _ =>
        String.ofList (Token.spell escaping condition.tokens) := by
  induction condition with
  | compare comparison =>
      rw [text, comparison.text_eq]
      simp [Token.spell, Token.spelling]
  | join logic grouped parts ih =>
      rw [text, partTexts_eq escaping ih, comparisons_join, tokens_join]
      cases Comparison.verify (parts.flatMap comparisons) with
      | error fault => rfl
      | ok _ =>
          rw [← tokens_join logic grouped, ← intercalate_operandTexts]
          rfl

theorem text_eq_ok_iff {escaping : Escaping} {condition : Condition} {text : String} :
    condition.text escaping = .ok text ↔
      (∀ comparison ∈ condition.comparisons, comparison.applies = true) ∧
        text.toList = Token.spell escaping condition.tokens := by
  rw [text_eq_spelling, ← Comparison.verify_eq_ok_iff, ← String.ofList_inj]
  cases Comparison.verify condition.comparisons with
  | error fault => simp [Except.map]
  | ok _ => simp [Except.map, eq_comm]

end Condition

end QueryDoc
