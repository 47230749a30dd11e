import Mathlib.Data.List.Basic
import QueryDoc.Proofs.Condition.Assembly
import QueryDoc.Proofs.Query.Layout

/-!
# Reading a query back from its text

The clauses of a query are the lines of its text, and no two kinds of optional clause begin
with the same letter.  If the names of a query leave the line ends, the commas between the
selected fields and the blank behind the order field to the text, then the text determines
every part of the query but the condition, and of that the text.

Main statement: `parts_eq_of_text_eq`.
-/

namespace QueryDoc.Query

/-- No name in the query, and nothing in its condition, can be taken for what separates them. -/
structure Legible (escaping : Escaping) (query : Query) : Prop where
  select : ∀ field ∈ query.select, '\n' ∉ field.toList ∧ ',' ∉ field.toList
  notStar : query.select ≠ ["*"]
  table : '\n' ∉ query.table.toList
  condition : ∀ condition, query.conditionText escaping = .ok condition →
    '\n' ∉ condition.toList
  order : ∀ order, query.order = some order →
    '\n' ∉ order.field.toList ∧ ' ' ∉ order.field.toList ∧ '\n' ∉ order.direction.toList

/-! ## Selected fields -/

def columns : List String → List (List Char)
  | [] => [['*']]
  | field :: fields => field.toList :: fields.map fun field => ' ' :: field.toList

theorem intercalate_columns (select : List String) :
    (selectClause select).toList = "select ".toList ++ [','].intercalate (columns select) := by
  cases select with
  | nil => decide
  | cons field fields =>
      have comma : ", ".toList = [',', ' '] := by decide
      simp [selectClause, columns, comma, intercalate_cons_eq_flatMap, List.flatMap_map]

theorem splitOn_columns {select : List String}
    (noComma : ∀ field ∈ select, ',' ∉ field.toList) :
    ([','].intercalate (columns select)).splitOn ',' = columns select := by
  refine List.splitOn_intercalate ',' ?_ ?_
  · cases select with
    | nil => simp [columns]
    | cons field fields => simpa [columns] using noComma
  · cases select <;> simp [columns]

theorem eq_star_of_columns {select : List String} (same : columns select = columns [])
    (notStar : select ≠ ["*"]) : select = [] := by
  cases select with
  | nil => rfl
  | cons field fields =>
      rw [columns, columns, List.cons.injEq, List.map_eq_nil_iff] at same
      obtain ⟨star, rfl⟩ := same
      have star : field = "*" := String.toList_inj.mp star
      exact absurd (by rw [star]) notStar

theorem columns_inj {first second : List String} (firstNotStar : first ≠ ["*"])
    (secondNotStar : second ≠ ["*"]) (same : columns first = columns second) :
    first = second := by
  cases first with
  | nil => exact (eq_star_of_columns same.symm secondNotStar).symm
  | cons field fields =>
      cases second with
      | nil => exact eq_star_of_columns same firstNotStar
      | cons other others =>
          have spaced : Function.Injective fun field : String => ' ' :: field.toList := by
            intro first second same
            exact String.toList_inj.mp (List.cons.inj same).2
          rw [columns, columns, List.cons.injEq, String.toList_inj] at same
          rw [same.1, List.map_injective_iff.mpr spaced same.2]

theorem selectClause_inj {first second : List String}
    (firstNoComma : ∀ field ∈ first, ',' ∉ field.toList) (firstNotStar : first ≠ ["*"])
    (secondNoComma : ∀ field ∈ second, ',' ∉ field.toList) (secondNotStar : second ≠ ["*"])
    (same : selectClause first = selectClause second) : first = second := by
  rw [← String.toList_inj, intercalate_columns, intercalate_columns,
    List.append_cancel_left_eq] at same
  refine columns_inj firstNotStar secondNotStar ?_
  rw [← splitOn_columns firstNoComma, same, splitOn_columns secondNoComma]

/-! ## Optional clauses -/

theorem whereClause_inj {first second : String}
    (same : whereClause first = whereClause second) : first = second := by
  unfold whereClause at same
  split at same <;> split at same <;> simp_all

theorem takeWhile_field {field : String} (noBlank : ' ' ∉ field.toList)
    (direction : List Char) :
    (field.toList ++ ' ' :: direction).takeWhile (· != ' ') = field.toList := by
  have all : ∀ c ∈ field.toList, (c != ' ') = true := by
    intro c member
    rw [bne_iff_ne]
    rintro rfl
    exact noBlank member
  rw [List.takeWhile_append_of_pos all, List.takeWhile_cons_of_neg (by decide),
    List.append_nil]

theorem orderClause_inj {first second : Option Order}
    (firstField : ∀ order, first = some order → ' ' ∉ order.field.toList)
    (secondField : ∀ order, second = some order → ' ' ∉ order.field.toList)
    (same : orderClause first = orderClause second) : first = second := by
  cases first with
  | none =>
      cases second with
      | none => rfl
      | some other => simp [orderClause] at same
  | some order =>
      cases second with
      | none => simp [orderClause] at same
      | some other =>
          have blank : " ".toList = [' '] := by decide
          simp only [orderClause, List.cons.injEq, and_true, ← String.toList_inj,
            String.toList_append, blank, List.append_assoc, List.append_cancel_left_eq,
            List.singleton_append] at same
          have field : order.field = other.field := by
            rw [← String.toList_inj, ← takeWhile_field (firstField order rfl), same,
              takeWhile_field (secondField other rfl)]
          rw [field, List.append_cancel_left_eq, List.cons.injEq, String.toList_inj] at same
          obtain ⟨_, direction⟩ := order
          cases field
          cases same.2
          rfl

theorem limitClause_inj {first second : Option Nat}
    (same : limitClause first = limitClause second) : first = second := by
  have read (limit : Nat) : Nat.ofDigitChars 10 (toString limit).toList 0 = limit := by
    simp
  cases first with
  | none =>
      cases second with
      | none => rfl
      | some other => simp [limitClause] at same
  | some limit =>
      cases second with
      | none => simp [limitClause] at same
      | some other =>
          simp only [limitClause, List.cons.injEq, and_true, String.append_right_inj] at same
          rw [← read limit, same, read]

def startsWith (initial : Char) (clause : String) : Bool :=
  clause.toList.head? == some initial

theorem filter_clauses (condition : String) (order : Option Order) (limit : Option Nat) :
    (whereClause condition ++ orderClause order ++ limitClause limit).filter
        (startsWith 'w') = whereClause condition ∧
      (whereClause condition ++ orderClause order ++ limitClause limit).filter
        (startsWith 'o') = orderClause order ∧
      (whereClause condition ++ orderClause order ++ limitClause limit).filter
        (startsWith 'l') = limitClause limit := by
  unfold whereClause
  cases condition.isEmpty <;> cases order <;> cases limit <;>
    simp [orderClause, limitClause, startsWith]

/-! ## Lines -/

theorem newline_not_mem_selectClause {select : List String}
    (outside : ∀ field ∈ select, '\n' ∉ field.toList) :
    '\n' ∉ (selectClause select).toList := by
  rw [intercalate_columns, List.mem_append, not_or]
  refine ⟨by decide, not_mem_intercalate (by decide) ?_⟩
  cases select with
  | nil => simp [columns]
  | cons field fields => simpa [columns] using outside

theorem newline_not_mem_limitClause (limit : Option Nat) :
    ∀ clause ∈ limitClause limit, '\n' ∉ clause.toList := by
  cases limit with
  | none => simp [limitClause]
  | some limit =>
      intro clause member newline
      rw [limitClause, List.mem_singleton] at member
      subst member
      have digit : '\n' ∈ Nat.toDigits 10 limit := by simpa using newline
      exact absurd (Nat.isDigit_of_mem_toDigits (by decide) (by decide) digit) (by decide)

theorem Legible.newline_not_mem_clauses {escaping : Escaping} {query : Query}
    (legible : query.Legible escaping) {condition : String}
    (made : query.conditionText escaping = .ok condition) :
    ∀ clause ∈ query.clauses condition, '\n' ∉ clause.toList := by
  have select := newline_not_mem_selectClause fun field member =>
    (legible.select field member).1
  have table : '\n' ∉ ("from " ++ query.table).toList := by simp [legible.table]
  have filter : ∀ clause ∈ whereClause condition, '\n' ∉ clause.toList := by
    have inside := legible.condition condition made
    unfold whereClause
    split <;> simp [inside]
  have order : ∀ clause ∈ orderClause query.order, '\n' ∉ clause.toList := by
    cases given : query.order with
    | none => simp [orderClause]
    | some order =>
        obtain ⟨field, -, direction⟩ := legible.order order given
        simp [orderClause, field, direction]
  simp only [clauses, List.forall_mem_cons, List.forall_mem_append]
  exact ⟨select, table, ⟨filter, order⟩, newline_not_mem_limitClause query.limit⟩

theorem exists_condition_of_text {escaping : Escaping} {query : Query} {text : String}
    (written : query.text escaping = .ok text) :
    ∃ condition, query.conditionText escaping = .ok condition ∧
      text = "\n".intercalate (query.clauses condition) ++ ";" := by
  unfold Query.text at written
  split at written
  · contradiction
  · obtain ⟨condition, made, same⟩ := Condition.bind_eq_ok_iff.mp written
    cases same
    exact ⟨condition, made, rfl⟩

theorem clauses_eq_lines (query : Query) (condition : String) :
    query.clauses condition =
      [if query.select = [] then "select *" else "select " ++ ", ".intercalate query.select,
        "from " ++ query.table] ++
      (if condition = "" then [] else ["where " ++ condition]) ++
      (query.order.map fun order =>
        "order by " ++ order.field ++ " " ++ order.direction).toList ++
      (query.limit.map fun limit => "limit " ++ toString limit).toList := by
  have filter : whereClause condition = if condition = "" then [] else ["where " ++ condition] := by
    simp [whereClause]
  have select : selectClause query.select =
      if query.select = [] then "select *" else "select " ++ ", ".intercalate query.select := by
    simp [selectClause]
  rw [clauses, filter, select]
  cases query.order <;> cases query.limit <;> simp [orderClause, limitClause]

theorem Legible.lines {escaping : Escaping} {query : Query}
    (legible : query.Legible escaping) {text : String}
    (written : query.text escaping = .ok text) :
    ∃ condition, query.conditionText escaping = .ok condition ∧
      text.toList.getLast? = some ';' ∧
      text.toList.dropLast.splitOn '\n' = (query.clauses condition).map String.toList := by
  obtain ⟨condition, made, rfl⟩ := exists_condition_of_text written
  have newline : "\n".toList = ['\n'] := by decide
  have semicolon : ";".toList = [';'] := by decide
  refine ⟨condition, made, ?_, ?_⟩
  · simp
  · rw [String.toList_append, semicolon, List.dropLast_concat, String.toList_intercalate,
      newline]
    refine List.splitOn_intercalate '\n' ?_ (by simp [clauses])
    rw [List.forall_mem_map]
    exact legible.newline_not_mem_clauses made

theorem clauses_inj {first second : Query} {firstCondition secondCondition : String}
    (same : first.clauses firstCondition = second.clauses secondCondition) :
    selectClause first.select = selectClause second.select ∧ first.table = second.table ∧
      firstCondition = secondCondition ∧ orderClause first.order = orderClause second.order ∧
      first.limit = second.limit := by
  rw [clauses, clauses, List.cons.injEq, List.cons.injEq, String.append_right_inj] at same
  obtain ⟨select, table, optional⟩ := same
  obtain ⟨firstWhere, firstOrder, firstLimit⟩ :=
    filter_clauses firstCondition first.order first.limit
  obtain ⟨secondWhere, secondOrder, secondLimit⟩ :=
    filter_clauses secondCondition second.order second.limit
  rw [optional] at firstWhere firstOrder firstLimit
  exact ⟨select, table, whereClause_inj (firstWhere.symm.trans secondWhere),
    firstOrder.symm.trans secondOrder, limitClause_inj (firstLimit.symm.trans secondLimit)⟩

/--
Two queries with one text, be it under two escapings, select the same fields of the same
table in the same order and up to the same limit, and their conditions have one text.  In
front of a semicolon the text has two lines for the fields and the table, and one each for
a condition that is not empty, for a sort order and for a limit.
-/
theorem parts_eq_of_text_eq {first second : Query} {escaping other : Escaping}
    (firstLegible : first.Legible escaping) (secondLegible : second.Legible other)
    {text : String} (written : first.text escaping = .ok text)
    (same : second.text other = .ok text) :
    (first.select = second.select ∧ first.table = second.table ∧
      first.conditionText escaping = second.conditionText other ∧
      first.order = second.order ∧ first.limit = second.limit) ∧
    ∃ condition, first.conditionText escaping = .ok condition ∧
      text.toList.getLast? = some ';' ∧
      text.toList.dropLast.splitOn '\n' =
        ([if first.select = [] then "select *" else "select " ++ ", ".intercalate first.select,
            "from " ++ first.table] ++
          (if condition = "" then [] else ["where " ++ condition]) ++
          (first.order.map fun order =>
            "order by " ++ order.field ++ " " ++ order.direction).toList ++
          (first.limit.map fun limit => "limit " ++ toString limit).toList).map
            String.toList := by
  obtain ⟨condition, made, last, lines⟩ := firstLegible.lines written
  obtain ⟨otherCondition, otherMade, -, otherLines⟩ := secondLegible.lines same
  refine ⟨?_, condition, made, last, by rw [lines, clauses_eq_lines]⟩
  have strings : Function.Injective String.toList := fun _ _ => String.toList_inj.mp
  have clauses := List.map_injective_iff.mpr strings (lines.symm.trans otherLines)
  obtain ⟨select, table, conditions, order, limit⟩ := clauses_inj clauses
  refine ⟨?_, table, ?_, ?_, limit⟩
  · exact selectClause_inj (fun field member => (firstLegible.select field member).2)
      firstLegible.notStar (fun field member => (secondLegible.select field member).2)
      secondLegible.notStar select
  · rw [made, otherMade, conditions]
  · exact orderClause_inj (fun order given => (firstLegible.order order given).2.1)
      (fun order given => (secondLegible.order order given).2.1) order

private def hostile (filter : Condition) : Query where
  select := ["where ", "limit 1"]
  table := "order by a b;"
  filter := some filter
  order := some ⟨"", "where limit 2;"⟩
  limit := some 0

theorem parts_eq_of_hostile_names :
    let comparison : Comparison := ⟨"limit", .like, .text "order by;"⟩
    let first := hostile (.all [.compare comparison])
    let second := hostile (.any [.all [], .compare comparison])
    let text := "select where , limit 1\nfrom order by a b;\nwhere limit like 'order by;'" ++
      "\norder by  where limit 2;\nlimit 0;"
    first.Legible .verbatim ∧ second.Legible .doubled ∧
      first.text .verbatim = .ok text ∧ second.text .doubled = .ok text ∧
      first.conditionText .verbatim = second.conditionText .doubled ∧
      text.toList.dropLast.splitOn '\n' =
        ["select where , limit 1", "from order by a b;", "where limit like 'order by;'",
          "order by  where limit 2;", "limit 0"].map String.toList := by
  intro comparison first second text
  have legible (escaping : Escaping) (filter : Condition)
      (made : filter.text escaping = .ok "limit like 'order by;'") :
      (hostile filter).Legible escaping := by
    refine ⟨by simp [hostile], by simp [hostile], ?_, ?_, by simp [hostile]⟩
    · change '\n' ∉ "order by a b;".toList
      decide
    · intro condition same
      cases made.symm.trans same
      decide
  have firstLegible : first.Legible .verbatim := legible .verbatim _ (by rfl)
  have secondLegible : second.Legible .doubled := legible .doubled _ (by rfl)
  have written : first.text .verbatim = .ok text := by rfl
  have same : second.text .doubled = .ok text := by rfl
  have shown : first.conditionText .verbatim = .ok "limit like 'order by;'" := by rfl
  obtain ⟨⟨-, -, conditions, -, -⟩, condition, made, -, lines⟩ :=
    parts_eq_of_text_eq firstLegible secondLegible written same
  cases made.symm.trans shown
  exact ⟨firstLegible, secondLegible, written, same, conditions, lines⟩

end QueryDoc.Query
