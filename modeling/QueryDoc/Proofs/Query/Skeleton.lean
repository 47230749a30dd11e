import QueryDoc.Proofs.Condition.Contents
import QueryDoc.Proofs.Decimal.Numeral
import QueryDoc.Proofs.Query.Layout
import QueryDoc.Proofs.Text.Quotation

/-!
# The skeleton of a query

With quotes doubled, every text literal of a filter is one literal of the query
text, and it holds what it is meant to hold.  What is put into the literals can
then neither change the text around them nor decide whether there is a text.

Main statement: `text_doubled_of_same_shape`.
-/

namespace QueryDoc

/-! ## Tokens -/

namespace Comparison

def scanned (comparison : Comparison) : Scanned :=
  match comparison.value with
  | .text content =>
      .plain (comparison.field ++ " " ++ comparison.operator.text ++ " ").toList ++
        .literal content.toList
  | _ => .plain (comparison.phrase .doubled).toList

theorem scans_phrase {comparison : Comparison} (noQuote : '\'' ∉ comparison.field.toList) :
    Scans (comparison.phrase .doubled).toList comparison.scanned := by
  obtain ⟨field, operator, value⟩ := comparison
  have operatorText : '\'' ∉ operator.text.toList := by
    cases operator <;> decide
  have identityText : '\'' ∉ (Literal.identity operator).toList := by
    cases operator <;> decide
  cases value with
  | null =>
      exact scans_plain (by simp [phrase, Literal.phrase, noQuote, identityText])
  | bool value =>
      have truth : '\'' ∉ (toString value).toList := by cases value <;> decide
      exact scans_plain (by simp [phrase, Literal.phrase, noQuote, identityText, truth])
  | number value =>
      have numeral := value.quote_not_mem_queryText
      exact scans_plain (by
        simp [phrase, Literal.phrase, noQuote, operatorText, numeral])
  | text content =>
      have before : '\'' ∉ (field ++ " " ++ operator.text ++ " ").toList := by
        simp [noQuote, operatorText]
      have whole := scans_literal before (by simp) content.toList
      simpa [phrase, Literal.phrase, Escaping.apply, scanned] using whole

theorem skeleton_mapText (f : String → String) (comparison : Comparison) :
    (comparison.mapText f).scanned.skeleton = comparison.scanned.skeleton := by
  obtain ⟨field, operator, value⟩ := comparison
  cases value <;> rfl

theorem literals_scanned (comparison : Comparison) :
    comparison.scanned.literals =
      (comparison.value.content?.map String.toList).toList := by
  obtain ⟨field, operator, value⟩ := comparison
  cases value <;> rfl

end Comparison

namespace Token

def scanned : Token → Scanned
  | .compare comparison => comparison.scanned
  | token => .plain (token.spelling .doubled)

def scannedAll (tokens : List Token) : Scanned :=
  ⟨tokens.flatMap (·.scanned.skeleton), tokens.flatMap (·.scanned.literals)⟩

theorem scans_spelling {token : Token}
    (noQuote : ∀ comparison, token.comparison? = some comparison →
      '\'' ∉ comparison.field.toList) :
    Scans (token.spelling .doubled) token.scanned := by
  cases token with
  | compare comparison => exact Comparison.scans_phrase (noQuote comparison rfl)
  | opening | closing => exact scans_plain (by decide)
  | connective logic => cases logic <;> exact scans_plain (by decide)

theorem scans_spell {tokens : List Token}
    (noQuote : ∀ comparison ∈ tokens.filterMap comparison?,
      '\'' ∉ comparison.field.toList) :
    Scans (spell .doubled tokens) (scannedAll tokens) := by
  induction tokens with
  | nil => exact scans_plain List.not_mem_nil
  | cons token tokens ih =>
      have first : ∀ comparison, token.comparison? = some comparison →
          '\'' ∉ comparison.field.toList := fun comparison found =>
        noQuote comparison (List.mem_filterMap.mpr ⟨token, List.mem_cons_self, found⟩)
      have others := ih fun comparison member => by
        obtain ⟨token, later, found⟩ := List.mem_filterMap.mp member
        exact noQuote comparison
          (List.mem_filterMap.mpr ⟨token, List.mem_cons_of_mem _ later, found⟩)
      exact (scans_spelling first).append others

theorem skeleton_map_mapText (f : String → String) (tokens : List Token) :
    (scannedAll (tokens.map (mapText f))).skeleton = (scannedAll tokens).skeleton := by
  have each (token : Token) : (token.mapText f).scanned.skeleton = token.scanned.skeleton := by
    cases token with
    | compare comparison => exact comparison.skeleton_mapText f
    | opening | closing | connective logic => rfl
  simp [scannedAll, List.flatMap_map, each]

theorem literals_scannedAll (tokens : List Token) :
    (scannedAll tokens).literals =
      (tokens.filterMap comparison?).filterMap fun comparison =>
        comparison.value.content?.map String.toList := by
  induction tokens with
  | nil => rfl
  | cons token tokens ih =>
      change token.scanned.literals ++ (scannedAll tokens).literals = _
      rw [ih]
      cases token with
      | compare comparison =>
          rw [scanned, comparison.literals_scanned]
          cases content : comparison.value.content? <;> simp [comparison?, content]
      | opening | closing | connective logic => rfl

end Token

/-! ## Queries -/

namespace Query

structure Quoteless (query : Query) : Prop where
  select : ∀ field ∈ query.select, '\'' ∉ field.toList
  table : '\'' ∉ query.table.toList
  fields : ∀ comparison ∈ query.comparisons, '\'' ∉ comparison.field.toList
  order : ∀ order, query.order = some order →
    '\'' ∉ order.field.toList ∧ '\'' ∉ order.direction.toList

def contents (query : Query) : List String :=
  query.comparisons.filterMap (·.value.content?)

def scanned (query : Query) : Scanned :=
  .plain query.front ++
    (if query.tokens = [] then .plain []
      else .plain "\nwhere ".toList ++ Token.scannedAll query.tokens) ++
    .plain query.back

theorem Quoteless.front {query : Query} (quoteless : query.Quoteless) :
    '\'' ∉ query.front := by
  have select : '\'' ∉ (selectClause query.select).toList := by
    unfold selectClause
    split
    · decide
    · rw [String.toList_append, String.toList_intercalate, List.mem_append, not_or]
      refine ⟨by decide, not_mem_intercalate (by decide) fun text member => ?_⟩
      obtain ⟨field, selected, rfl⟩ := List.mem_map.mp member
      exact quoteless.select field selected
  simp [Query.front, select, quoteless.table]

theorem Quoteless.back {query : Query} (quoteless : query.Quoteless) :
    '\'' ∉ query.back := by
  have order : ∀ clause ∈ orderClause query.order, '\'' ∉ clause.toList := by
    cases given : query.order with
    | none => simp [orderClause]
    | some order =>
        obtain ⟨field, direction⟩ := quoteless.order order given
        simp [orderClause, field, direction]
  have limit : ∀ clause ∈ limitClause query.limit, '\'' ∉ clause.toList := by
    cases query.limit with
    | none => simp [limitClause]
    | some limit =>
        have digits := (Decimal.isDigits_toDigits limit).not_mem (c := '\'') (by decide)
        simp [limitClause, digits]
  have clauses : ∀ clause ∈ orderClause query.order ++ limitClause query.limit,
      '\'' ∉ '\n' :: clause.toList := by
    intro clause member
    rcases List.mem_append.mp member with ordered | limited
    · simp [order clause ordered]
    · simp [limit clause limited]
  rw [Query.back, List.mem_append, List.mem_flatMap]
  rintro (⟨clause, member, quote⟩ | last)
  · exact clauses clause member quote
  · exact absurd last (by decide)

theorem scans_layout {query : Query} (quoteless : query.Quoteless) :
    Scans (query.layout (Token.spell .doubled query.tokens)) query.scanned := by
  have condition : Scans (Token.spell .doubled query.tokens)
      (Token.scannedAll query.tokens) :=
    Token.scans_spell (by rw [comparisons_eq_filterMap]; exact quoteless.fields)
  refine ((scans_plain quoteless.front).append ?_).append (scans_plain quoteless.back)
  by_cases empty : query.tokens = []
  · rw [if_pos (Token.spell_eq_nil_iff.mpr empty), if_pos empty]
    exact scans_plain (by simp)
  · rw [if_neg (Token.spell_eq_nil_iff.not.mpr empty), if_neg empty]
    exact (scans_plain (by decide)).append condition

theorem literals_scanned (query : Query) :
    query.scanned.literals = query.contents.map String.toList := by
  have condition : (Token.scannedAll query.tokens).literals =
      query.contents.map String.toList := by
    rw [Token.literals_scannedAll, comparisons_eq_filterMap, contents, List.map_filterMap]
  by_cases empty : query.tokens = []
  · rw [← condition, scanned, if_pos empty, empty]
    rfl
  · rw [← condition, scanned, if_neg empty]
    exact List.append_nil _

/-! ## Queries of one shape -/

theorem comparisons_mapTexts (f : String → String) (query : Query) :
    (query.mapTexts f).comparisons = query.comparisons.map (Comparison.mapText f) := by
  unfold comparisons mapTexts
  cases query.filter with
  | none => rfl
  | some condition => exact condition.comparisons_mapTexts f

theorem tokens_mapTexts (f : String → String) (query : Query) :
    (query.mapTexts f).tokens = query.tokens.map (Token.mapText f) := by
  unfold tokens mapTexts
  cases query.filter with
  | none => rfl
  | some condition => exact condition.tokens_mapTexts f

theorem verify_mapTexts (f : String → String) (query : Query) :
    Comparison.verify (query.mapTexts f).comparisons =
      Comparison.verify query.comparisons := by
  rw [comparisons_mapTexts, Comparison.verify_map_mapText]

theorem skeleton_mapTexts (f : String → String) (query : Query) :
    (query.mapTexts f).scanned.skeleton = query.scanned.skeleton := by
  have condition := Token.skeleton_map_mapText f query.tokens
  rw [← tokens_mapTexts] at condition
  have written : (query.mapTexts f).tokens = [] ↔ query.tokens = [] := by
    rw [tokens_mapTexts, List.map_eq_nil_iff]
  by_cases empty : query.tokens = []
  · rw [scanned, scanned, if_pos empty, if_pos (written.mpr empty)]
    rfl
  · rw [scanned, scanned, if_neg empty, if_neg (written.not.mpr empty)]
    change (_ ++ (_ ++ _)) ++ _ = (_ ++ (_ ++ _)) ++ _
    rw [condition]
    rfl

theorem quoteless_mapTexts {f : String → String} {query : Query} :
    (query.mapTexts f).Quoteless ↔ query.Quoteless := by
  have fields : (∀ comparison ∈ (query.mapTexts f).comparisons,
        '\'' ∉ comparison.field.toList) ↔
      ∀ comparison ∈ query.comparisons, '\'' ∉ comparison.field.toList := by
    rw [comparisons_mapTexts, List.forall_mem_map]
    rfl
  exact ⟨fun quoteless => ⟨quoteless.select, quoteless.table,
      fields.mp quoteless.fields, quoteless.order⟩,
    fun quoteless => ⟨quoteless.select, quoteless.table,
      fields.mpr quoteless.fields, quoteless.order⟩⟩

theorem scan_text {query : Query} (quoteless : query.Quoteless) {text : String}
    (written : query.text .doubled = .ok text) :
    scan text.toList = some ⟨query.scanned.skeleton, query.contents.map String.toList⟩ := by
  rw [text_eq_layout] at written
  split at written
  · contradiction
  · cases verified : Comparison.verify query.comparisons with
    | error fault => simp [verified, Except.map] at written
    | ok _ =>
        rw [verified] at written
        cases written
        rw [String.toList_ofList, (scans_layout quoteless).scan_eq, ← literals_scanned]

/--
The contents of the text literals change nothing but the literals: they decide
neither whether there is a text nor what its skeleton is.
-/
theorem text_doubled_of_same_shape {first second : Query}
    (same : first.mapTexts (fun _ => "") = second.mapTexts (fun _ => ""))
    (quoteless : first.Quoteless) :
    (∃ error, first.text .doubled = .error error ∧ second.text .doubled = .error error) ∨
      ∃ firstText secondText skeleton,
        first.text .doubled = .ok firstText ∧ second.text .doubled = .ok secondText ∧
        scan firstText.toList = some ⟨skeleton, first.contents.map String.toList⟩ ∧
        scan secondText.toList = some ⟨skeleton, second.contents.map String.toList⟩ := by
  have table : first.table = second.table := (congrArg Query.table same :)
  have verdict : Comparison.verify first.comparisons =
      Comparison.verify second.comparisons := by
    rw [← verify_mapTexts (fun _ => "") first, same, verify_mapTexts]
  have skeleton : first.scanned.skeleton = second.scanned.skeleton := by
    rw [← skeleton_mapTexts (fun _ => "") first, same, skeleton_mapTexts]
  have alsoQuoteless : second.Quoteless := by
    rw [← quoteless_mapTexts (f := fun _ => ""), ← same, quoteless_mapTexts]
    exact quoteless
  have firstText := text_eq_layout .doubled first
  have secondText := text_eq_layout .doubled second
  rw [verdict, table] at firstText
  split at firstText
  · rename_i missing
    rw [if_pos missing] at secondText
    exact .inl ⟨_, firstText, secondText⟩
  · rename_i present
    rw [if_neg present] at secondText
    cases verified : Comparison.verify second.comparisons with
    | error fault =>
        rw [verified] at firstText secondText
        exact .inl ⟨fault, firstText, secondText⟩
    | ok _ =>
        rw [verified] at firstText secondText
        refine .inr ⟨_, _, second.scanned.skeleton, firstText, secondText, ?_,
          scan_text alsoQuoteless secondText⟩
        rw [← skeleton]
        exact scan_text quoteless firstText

private def memo (title note : String) : Query where
  table := "memos"
  filter := some (.all [.compare ⟨"title", .like, .text title⟩,
    .any [.compare ⟨"note", .ne, .text note⟩, .compare ⟨"read", .eq, .null⟩]])
  limit := some 1

theorem text_doubled_of_hostile_contents :
    (memo "'" "') or 1 = 1; --").mapTexts (fun _ => "") =
        (memo "" "''").mapTexts (fun _ => "") ∧
      (memo "'" "') or 1 = 1; --").Quoteless ∧
      ∃ firstText secondText skeleton,
        (memo "'" "') or 1 = 1; --").text .doubled = .ok firstText ∧
        (memo "" "''").text .doubled = .ok secondText ∧
        scan firstText.toList =
          some ⟨skeleton, ["'".toList, "') or 1 = 1; --".toList]⟩ ∧
        scan secondText.toList = some ⟨skeleton, ["".toList, "''".toList]⟩ := by
  have same : (memo "'" "') or 1 = 1; --").mapTexts (fun _ => "") =
      (memo "" "''").mapTexts (fun _ => "") := by
    rfl
  have quoteless : (memo "'" "') or 1 = 1; --").Quoteless := by
    constructor
    · simp [memo]
    · decide
    · simp [memo, comparisons, Condition.all, Condition.any]
    · simp [memo]
  refine ⟨same, quoteless, ?_⟩
  rcases text_doubled_of_same_shape same quoteless with ⟨error, failed, -⟩ | written
  · have written : ∃ text, (memo "'" "') or 1 = 1; --").text .doubled = .ok text := ⟨_, rfl⟩
    obtain ⟨text, written⟩ := written
    rw [failed] at written
    contradiction
  · exact written

end Query

end QueryDoc
