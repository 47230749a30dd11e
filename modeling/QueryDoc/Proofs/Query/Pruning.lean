import QueryDoc.Proofs.Condition.Shape
import QueryDoc.Proofs.Query.Layout

/-!
# Parts without comparisons

Whether a part of a condition leaves any text is seen from its text, but it depends on the
tree alone: what leaves none are the joins in which there is no comparison, at any depth.
They might as well not be there, and a filter of nothing else is no filter.

Main statement: `text_prune_eq`.
-/

namespace QueryDoc

theorem Token.join_filter (logic : Logic) (operands : List (List Token)) :
    join logic (operands.filter (!·.isEmpty)) = join logic operands := by
  induction operands with
  | nil => rfl
  | cons operand operands ih =>
      by_cases empty : operand = []
      · simp [join, empty, ih]
      · rw [List.filter_cons_of_pos (by simpa using empty), join, join, follow_eq, follow_eq, ih]

namespace Condition

mutual

def prune : Condition → Condition
  | .compare comparison => .compare comparison
  | .join logic grouped parts => .join logic grouped (prunedParts parts)

def prunedParts : List Condition → List Condition
  | [] => []
  | part :: parts =>
      if part.comparisons.isEmpty then prunedParts parts else part.prune :: prunedParts parts

end

@[simp] theorem prune_compare (comparison : Comparison) :
    (compare comparison).prune = .compare comparison := by
  rw [prune]

@[simp] theorem prune_join (logic : Logic) (grouped : Bool) (parts : List Condition) :
    (join logic grouped parts).prune =
      .join logic grouped ((parts.filter (!·.comparisons.isEmpty)).map prune) := by
  rw [prune]
  congr 1
  induction parts with
  | nil => rw [prunedParts, List.filter_nil, List.map_nil]
  | cons part parts ih => cases empty : part.comparisons.isEmpty <;> simp [prunedParts, ih, empty]

@[simp] theorem isGroup_prune (condition : Condition) :
    condition.prune.isGroup = condition.isGroup := by
  cases condition <;> simp [isGroup]

theorem isEmpty_operand (part : Condition) :
    part.operand.isEmpty = part.comparisons.isEmpty := by
  rw [Bool.eq_iff_iff, List.isEmpty_iff, List.isEmpty_iff, operand_eq_nil_iff,
    tokens_eq_nil_iff]

theorem tokens_prune (condition : Condition) : condition.prune.tokens = condition.tokens := by
  induction condition with
  | compare comparison => simp
  | join logic grouped parts ih =>
      have operands : ∀ part ∈ parts.filter (!·.comparisons.isEmpty),
          part.prune.operand = part.operand := by
        intro part member
        rw [operand, operand, ih part (List.mem_filter.mp member).1, bracket, bracket,
          isGroup_prune]
      rw [prune_join, tokens_join, tokens_join, ← Token.join_filter logic (parts.map operand),
        List.filter_map, List.map_map, Function.comp_def, Function.comp_def]
      simp only [isEmpty_operand]
      rw [List.map_congr_left operands]

theorem comparisons_prune (condition : Condition) :
    condition.prune.comparisons = condition.comparisons := by
  rw [← comparisons_eq_filterMap, tokens_prune, comparisons_eq_filterMap]

theorem text_prune (escaping : Escaping) (condition : Condition) :
    condition.prune.text escaping = condition.text escaping := by
  rw [text_eq_spelling, text_eq_spelling, comparisons_prune, tokens_prune]

theorem comparisons_ne_nil_of_mem_prune {condition : Condition} {logic : Logic} {grouped : Bool}
    {parts : List Condition} (inside : .join logic grouped parts ∈ condition.prune.nodes) :
    ∀ part ∈ parts, part.comparisons ≠ [] := by
  induction condition with
  | compare comparison => simp at inside
  | join outer outerGrouped outerParts ih =>
      rw [prune_join, nodes_join, List.mem_cons, List.mem_flatMap] at inside
      rcases inside with same | ⟨pruned, member, inside⟩
      · cases same
        intro part member
        obtain ⟨original, kept, rfl⟩ := List.mem_map.mp member
        rw [comparisons_prune]
        simpa using (List.mem_filter.mp kept).2
      · obtain ⟨part, kept, rfl⟩ := List.mem_map.mp member
        exact ih part (List.mem_filter.mp kept).1 inside

theorem text_eq_ok_empty_iff {escaping : Escaping} {condition : Condition} :
    condition.text escaping = .ok "" ↔ condition.comparisons = [] := by
  rw [text_eq_ok_iff, String.toList_empty, eq_comm, Token.spell_eq_nil_iff, tokens_eq_nil_iff]
  constructor
  · exact And.right
  · intro none
    simp [none]

end Condition

namespace Query

theorem tokens_eq_nil_iff {query : Query} : query.tokens = [] ↔ query.comparisons = [] := by
  unfold tokens comparisons
  cases query.filter with
  | none => simp
  | some condition => exact condition.tokens_eq_nil_iff

theorem text_eq_withoutFilter_iff {escaping : Escaping} {query : Query} :
    query.text escaping = ({ query with filter := none } : Query).text escaping ↔
      query.table = "" ∨ query.comparisons = [] := by
  have without : ({ query with filter := none } : Query).text escaping =
      if query.table.isEmpty then
        .error .missingTable
      else
        .ok (String.ofList (query.layout [])) := text_eq_layout escaping _
  rw [without, text_eq_layout]
  by_cases missing : query.table = ""
  · simp [missing]
  · cases verified : Comparison.verify query.comparisons with
    | error fault =>
        have some : query.comparisons ≠ [] := by
          intro none
          simp [none, Comparison.verify] at verified
        simp [missing, some, Except.map]
    | ok _ =>
        simp only [String.isEmpty_iff, missing, Except.map, if_false, Except.ok.injEq,
          String.ofList_inj, layout_inj, Token.spell_eq_nil_iff,
          tokens_eq_nil_iff, false_or]

end Query

/--
Pruning removes every part without a comparison and changes neither the text of a condition
nor its fault.  The text is empty exactly if there is no comparison at all, and then, or
without a table, a query has the same text, or the same fault, as without its filter.
-/
theorem text_prune_eq (escaping : Escaping) (condition : Condition) (query : Query) :
    condition.prune.text escaping = condition.text escaping ∧
    (∀ logic grouped parts, .join logic grouped parts ∈ condition.prune.nodes →
      ∀ part ∈ parts, part.comparisons ≠ []) ∧
    (condition.text escaping = .ok "" ↔ condition.comparisons = []) ∧
    (query.text escaping = ({ query with filter := none } : Query).text escaping ↔
      query.table = "" ∨ query.filter = none ∨
        ∃ filter, query.filter = some filter ∧ filter.comparisons = []) := by
  refine ⟨condition.text_prune escaping, fun logic grouped parts inside =>
    Condition.comparisons_ne_nil_of_mem_prune inside, Condition.text_eq_ok_empty_iff, ?_⟩
  rw [Query.text_eq_withoutFilter_iff, Query.comparisons]
  cases query.filter <;> simp

end QueryDoc
