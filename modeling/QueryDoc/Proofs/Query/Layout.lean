import QueryDoc.Proofs.Condition.Tokens
import QueryDoc.Query

/-!
# The layout of query text

Everything in the text of a query but its condition is the same whatever the
escaping, and stands in front of the condition or behind it.

Main statement: `text_eq_layout`.
-/

namespace QueryDoc.Query

def comparisons (query : Query) : List Comparison :=
  query.filter.elim [] Condition.comparisons

def tokens (query : Query) : List Token :=
  query.filter.elim [] Condition.tokens

theorem comparisons_eq_filterMap (query : Query) :
    query.tokens.filterMap Token.comparison? = query.comparisons := by
  unfold tokens comparisons
  cases query.filter with
  | none => rfl
  | some condition => exact condition.comparisons_eq_filterMap

def front (query : Query) : List Char :=
  (selectClause query.select ++ "\nfrom " ++ query.table).toList

def back (query : Query) : List Char :=
  (orderClause query.order ++ limitClause query.limit).flatMap
    (fun clause => '\n' :: clause.toList) ++ [';']

def layout (query : Query) (condition : List Char) : List Char :=
  query.front ++ (if condition = [] then [] else "\nwhere ".toList ++ condition) ++
    query.back

theorem layout_inj {query : Query} {first second : List Char} :
    query.layout first = query.layout second ↔ first = second := by
  rw [layout, layout, List.append_cancel_right_eq, List.append_cancel_left_eq]
  by_cases firstEmpty : first = [] <;> by_cases secondEmpty : second = []
  · simp [firstEmpty, secondEmpty]
  · simp [firstEmpty, secondEmpty, Ne.symm secondEmpty]
  · simp [firstEmpty, secondEmpty]
  · simp [firstEmpty, secondEmpty]

theorem conditionText_eq (escaping : Escaping) (query : Query) :
    query.conditionText escaping =
      (Comparison.verify query.comparisons).map fun _ =>
        String.ofList (Token.spell escaping query.tokens) := by
  unfold conditionText comparisons tokens
  cases query.filter with
  | none => rfl
  | some condition => exact condition.text_eq_spelling escaping

theorem intercalate_cons_eq_flatMap {α : Type} (separator first : List α)
    (others : List (List α)) :
    separator.intercalate (first :: others) =
      first ++ others.flatMap fun text => separator ++ text := by
  induction others generalizing first with
  | nil => simp
  | cons second others ih => simp [ih]

theorem not_mem_intercalate {α : Type} {a : α} {separator : List α}
    (apart : a ∉ separator) {texts : List (List α)} (outside : ∀ text ∈ texts, a ∉ text) :
    a ∉ separator.intercalate texts := by
  cases texts with
  | nil => simp
  | cons first others =>
      rw [List.forall_mem_cons] at outside
      rw [intercalate_cons_eq_flatMap, List.mem_append, List.mem_flatMap]
      rintro (member | ⟨text, other, member⟩)
      · exact outside.1 member
      · rcases List.mem_append.mp member with between | inside
        · exact apart between
        · exact outside.2 text other inside

theorem clauses_eq_layout (query : Query) (condition : List Char) :
    ("\n".intercalate (query.clauses (String.ofList condition)) ++ ";").toList =
      query.layout condition := by
  have separator : "\n".toList = ['\n'] := by decide
  by_cases empty : condition = []
  · simp [clauses, layout, front, back, whereClause, empty, separator,
      intercalate_cons_eq_flatMap, List.flatMap_map]
  · simp [clauses, layout, front, back, whereClause, empty, separator,
      intercalate_cons_eq_flatMap, List.flatMap_map]

theorem text_eq_layout (escaping : Escaping) (query : Query) :
    query.text escaping =
      if query.table.isEmpty then
        .error .missingTable
      else
        (Comparison.verify query.comparisons).map fun _ =>
          String.ofList (query.layout (Token.spell escaping query.tokens)) := by
  unfold text
  rw [conditionText_eq]
  split
  · rfl
  · cases Comparison.verify query.comparisons with
    | error fault => rfl
    | ok _ =>
        rw [← clauses_eq_layout, String.ofList_toList]
        rfl

end QueryDoc.Query
