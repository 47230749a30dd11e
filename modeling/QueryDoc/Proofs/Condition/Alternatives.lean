import QueryDoc.Proofs.Condition.Shape

/-!
# The text of alternatives

Whatever the two sides of an alternative are, the text of the left one is kept as it is, and
the right one follows it as a part: in parentheses if it is a group.  A side without text
leaves nothing but the other.

Main statement: `text_or_eq_disjoin`.
-/

namespace QueryDoc.Condition

def disjoin (first second : String) : String :=
  if first = "" then
    second
  else if second = "" then
    first
  else
    first ++ " or " ++ second

def parenthesized (part : Condition) (text : String) : String :=
  if part.isGroup = true ∧ text ≠ "" then "(" ++ text ++ ")" else text

def addAlternative (escaping : Escaping) (text : String) (right : Condition) :
    Except CompileError String := do
  let alternative ← right.text escaping
  return disjoin text (right.parenthesized alternative)

theorem parenthesized_spell (escaping : Escaping) (part : Condition) :
    part.parenthesized (String.ofList (Token.spell escaping part.tokens)) =
      String.ofList (Token.spell escaping part.operand) := by
  by_cases empty : part.tokens = []
  · have none : part.operand = [] := operand_eq_nil_iff.mpr empty
    simp [parenthesized, empty, none]
  · rw [← enclose_spell escaping part empty]
    simp [parenthesized, enclose, empty]

theorem disjoin_spell (escaping : Escaping) (first second : List Token) :
    disjoin (String.ofList (Token.spell escaping first))
        (String.ofList (Token.spell escaping second)) =
      String.ofList (Token.spell escaping (Token.join .or [first, second])) := by
  by_cases empty : first = []
  · rw [Token.join, if_pos empty, Token.join_singleton]
    simp [disjoin, empty]
  · by_cases none : second = []
    · simp [disjoin, empty, none, Token.join, Token.follow]
    · have separator : (Token.connective .or).spelling escaping = " or ".toList := rfl
      rw [← String.toList_inj]
      simp [disjoin, empty, none, Token.join, Token.follow, separator]

theorem text_or (escaping : Escaping) (left right : Condition) :
    (left.or right).text escaping =
      left.text escaping >>= fun text => addAlternative escaping text right := by
  simp only [addAlternative, text_eq_spelling, comparisons_or, tokens_or,
    Comparison.verify_append]
  cases Comparison.verify left.comparisons with
  | error fault => rfl
  | ok _ =>
      cases Comparison.verify right.comparisons with
      | error fault => rfl
      | ok _ =>
          simp [Except.map, Except.bind, bind, pure, Except.pure, parenthesized_spell,
            disjoin_spell]

theorem text_foldl_or (escaping : Escaping) (left : Condition) (rights : List Condition) :
    (rights.foldl .or left).text escaping =
      left.text escaping >>= fun text => rights.foldlM (addAlternative escaping) text := by
  induction rights generalizing left with
  | nil => simp
  | cons right rights ih => simp [ih, text_or]

/-- Parentheses around the whole are not decided by what is added on the right. -/
theorem exists_or_eq_join (left right : Condition) :
    ∃ grouped parts, left.or right = .join .or grouped parts ∧
      (grouped = false ↔ ∃ alternatives, left = .join .or false alternatives) := by
  cases left with
  | compare comparison => exact ⟨true, _, rfl, by simp⟩
  | join logic grouped parts =>
      cases logic with
      | or => exact ⟨grouped, _, rfl, by simp⟩
      | and =>
          match parts with
          | [] | [_] | _ :: _ :: _ => exact ⟨true, _, rfl, by simp⟩

/--
An alternative is one text behind another, whichever way the tree takes it in, and so are any
number of them.  The fault reported is the first from the left.
-/
theorem text_or_eq_disjoin (escaping : Escaping) (left right : Condition)
    (rights : List Condition) :
    (left.or right).text escaping = (do
      let first ← left.text escaping
      let second ← right.text escaping
      return disjoin first (right.parenthesized second)) ∧
    (rights.foldl .or left).text escaping = (do
      let first ← left.text escaping
      rights.foldlM (addAlternative escaping) first) ∧
    ∃ grouped parts, (right :: rights).foldl .or left = .join .or grouped parts ∧
      (grouped = false ↔ ∃ alternatives, left = .join .or false alternatives) := by
  refine ⟨text_or escaping left right, text_foldl_or escaping left rights, ?_⟩
  obtain ⟨grouped, parts, same, ungrouped⟩ := exists_or_eq_join left right
  refine ⟨grouped, parts ++ rights, ?_, ungrouped⟩
  rw [List.foldl_cons, same, foldl_or_join]

end QueryDoc.Condition
