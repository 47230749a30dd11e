import Mathlib.Data.List.Basic
import QueryDoc.Proofs.Query.Skeleton
import QueryDoc.Query

/-!
# What an escaping changes

An escaping acts on the contents of text literals before they are written, and on nothing
else: doubling the quotes in them and writing them verbatim comes to the same.  Every quote
then makes the text longer by one character, so that two escapings agree on a text exactly
if there is no quote to be doubled.

Main statement: `text_doubled_eq_verbatim`.
-/

namespace QueryDoc

/-! ## Contents -/

def quotesDoubled (content : String) : String :=
  String.ofList (['\'', '\''].intercalate (content.toList.splitOn '\''))

theorem intercalate_modifyHead {α : Type} (separator : List α) (a : α) {pieces : List (List α)}
    (some : pieces ≠ []) :
    separator.intercalate (pieces.modifyHead (a :: ·)) = a :: separator.intercalate pieces := by
  match pieces, some with
  | [_], _ => rfl
  | first :: second :: pieces, _ => simp

theorem Escaping.doubleQuotes_eq_intercalate (text : List Char) :
    doubleQuotes text = ['\'', '\''].intercalate (text.splitOn '\'') := by
  induction text with
  | nil => rfl
  | cons c text ih =>
      have some : text.splitOn '\'' ≠ [] := List.splitOnP_ne_nil _ _
      have pieces : (c :: text).splitOn '\'' = if c == '\'' then [] :: text.splitOn '\''
          else (text.splitOn '\'').modifyHead (c :: ·) :=
        List.splitOnP_cons_eq_if_modifyHead c text
      rw [doubleQuotes, List.flatMap_cons, ← doubleQuotes, ih, pieces]
      by_cases quote : c = '\''
      · simp [quote, List.intercalate_cons_of_ne_nil some]
      · simp [quote, intercalate_modifyHead _ _ some]

theorem Escaping.doubleQuotes_of_not_mem {text : List Char} (noQuote : '\'' ∉ text) :
    doubleQuotes text = text := by
  rw [doubleQuotes_eq_intercalate, List.splitOn_eq_singleton noQuote]
  simp

theorem Escaping.doubled_apply (content : String) :
    Escaping.doubled.apply content = quotesDoubled content := by
  rw [apply, doubleQuotes_eq_intercalate, quotesDoubled]

theorem Escaping.length_doubleQuotes (text : List Char) :
    (doubleQuotes text).length = text.length + text.count '\'' := by
  induction text with
  | nil => rfl
  | cons c text ih =>
      rw [doubleQuotes, List.flatMap_cons, ← doubleQuotes, List.length_append, ih]
      by_cases quote : c = '\''
      · simp [quote]
        omega
      · simp [quote]
        omega

/-! ## Tokens -/

theorem Literal.phrase_mapText (escaping : Escaping) (operator : Operator) (value : Literal) :
    (value.mapText escaping.apply).phrase .verbatim operator =
      value.phrase escaping operator := by
  cases value <;> rfl

theorem Comparison.phrase_mapText (escaping : Escaping) (comparison : Comparison) :
    (comparison.mapText escaping.apply).phrase .verbatim = comparison.phrase escaping := by
  rw [phrase, phrase, mapText, Literal.phrase_mapText]

def quotes (contents : List String) : Nat :=
  (contents.flatMap String.toList).count '\''

theorem quotes_eq_zero_iff {contents : List String} :
    quotes contents = 0 ↔ ∀ content ∈ contents, '\'' ∉ content.toList := by
  simp [quotes, List.count_eq_zero]

theorem quotes_append (first second : List String) :
    quotes (first ++ second) = quotes first + quotes second := by
  simp [quotes]

theorem Comparison.length_phrase_doubled (comparison : Comparison) :
    (comparison.phrase .doubled).toList.length =
      (comparison.phrase .verbatim).toList.length + quotes comparison.value.content?.toList := by
  obtain ⟨field, operator, value⟩ := comparison
  cases value with
  | text content =>
      have content := Escaping.length_doubleQuotes content.toList
      simp [phrase, Literal.phrase, Literal.content?, Escaping.apply, quotes, content]
      omega
  | null | bool value | number value => rfl

namespace Token

theorem spelling_mapText (escaping : Escaping) (token : Token) :
    (token.mapText escaping.apply).spelling .verbatim = token.spelling escaping := by
  cases token with
  | compare comparison => rw [mapText, spelling, spelling, comparison.phrase_mapText]
  | opening | closing | connective logic => rfl

theorem spell_map_mapText (escaping : Escaping) (tokens : List Token) :
    spell .verbatim (tokens.map (mapText escaping.apply)) = spell escaping tokens := by
  rw [spell, List.flatMap_map]
  exact List.flatMap_congr fun token _ => token.spelling_mapText escaping

theorem length_spell_doubled (tokens : List Token) :
    (spell .doubled tokens).length = (spell .verbatim tokens).length +
      quotes ((tokens.filterMap comparison?).filterMap (·.value.content?)) := by
  induction tokens with
  | nil => rfl
  | cons token tokens ih =>
      rw [spell_cons, spell_cons, List.length_append, List.length_append, ih]
      cases token with
      | compare comparison =>
          have phrase := comparison.length_phrase_doubled
          have contents :
              quotes (((compare comparison :: tokens).filterMap comparison?).filterMap
                  (·.value.content?)) =
                quotes comparison.value.content?.toList +
                  quotes ((tokens.filterMap comparison?).filterMap (·.value.content?)) := by
            rw [← quotes_append]
            cases content : comparison.value.content? <;> simp [comparison?, content]
          rw [contents]
          simp only [spelling]
          omega
      | opening | closing | connective logic =>
          simp only [spelling, List.filterMap_cons, comparison?]
          omega

end Token

/-! ## Queries -/

namespace Query

theorem text_mapTexts (escaping : Escaping) (query : Query) :
    (query.mapTexts escaping.apply).text .verbatim = query.text escaping := by
  rw [text_eq_layout, text_eq_layout, verify_mapTexts, tokens_mapTexts,
    Token.spell_map_mapText]
  rfl

theorem fails_or_text_eq_layout (query : Query) :
    (∃ error, ∀ escaping, query.text escaping = .error error) ∨
      ∀ escaping, query.text escaping =
        .ok (String.ofList (query.layout (Token.spell escaping query.tokens))) := by
  by_cases missing : query.table.isEmpty
  · exact .inl ⟨.missingTable, fun escaping => by rw [text_eq_layout, if_pos missing]⟩
  · cases verified : Comparison.verify query.comparisons with
    | error fault =>
        refine .inl ⟨fault, fun escaping => ?_⟩
        rw [text_eq_layout, if_neg missing, verified]
        rfl
    | ok _ =>
        refine .inr fun escaping => ?_
        rw [text_eq_layout, if_neg missing, verified]
        rfl

theorem spell_doubled_eq_verbatim_iff {query : Query} :
    Token.spell .doubled query.tokens = Token.spell .verbatim query.tokens ↔
      ∀ content ∈ query.contents, '\'' ∉ content.toList := by
  constructor
  · intro same
    have length := Token.length_spell_doubled query.tokens
    rw [comparisons_eq_filterMap, ← contents, same] at length
    exact quotes_eq_zero_iff.mp (by omega)
  · intro noQuote
    refine List.flatMap_congr fun token member => ?_
    cases token with
    | compare comparison =>
        have compared : comparison ∈ query.comparisons := by
          rw [← comparisons_eq_filterMap]
          exact List.mem_filterMap.mpr ⟨_, member, rfl⟩
        obtain ⟨field, operator, value⟩ := comparison
        cases value with
        | text content =>
            have apart := noQuote content (List.mem_filterMap.mpr ⟨_, compared, rfl⟩)
            simp [Token.spelling, Comparison.phrase, Literal.phrase, Escaping.apply,
              Escaping.doubleQuotes_of_not_mem apart]
        | null | bool value | number value => rfl
    | opening | closing | connective logic => rfl

end Query

/--
Doubling quotes is writing verbatim what has its quotes doubled already.  Under both
escapings a query has a text, or it has none for the same reason, and the texts are equal
exactly if there are no quotes to be doubled; so it is with the text of a document, under
every limit on its depth.
-/
theorem text_doubled_eq_verbatim (maxDepth : Nat) (query : Query) (document : String) :
    let doubled : Settings := { maxDepth, escaping := .doubled }
    let verbatim : Settings := { maxDepth, escaping := .verbatim }
    query.text doubled.escaping = (query.mapTexts quotesDoubled).text verbatim.escaping ∧
    ((∃ error, query.text doubled.escaping = .error error ∧
        query.text verbatim.escaping = .error error) ∨
      ∃ doubledText verbatimText, query.text doubled.escaping = .ok doubledText ∧
        query.text verbatim.escaping = .ok verbatimText ∧
        (doubledText = verbatimText ↔ ∀ content ∈ query.contents, '\'' ∉ content.toList)) ∧
    ((∃ error, compile doubled document = .error error ∧
        compile verbatim document = .error error) ∨
      ∃ doubledText verbatimText, compile doubled document = .ok doubledText ∧
        compile verbatim document = .ok verbatimText) := by
  intro doubled verbatim
  refine ⟨?_, ?_, ?_⟩
  · rw [← funext Escaping.doubled_apply]
    exact (query.text_mapTexts .doubled).symm
  · rcases query.fails_or_text_eq_layout with ⟨error, failed⟩ | written
    · exact .inl ⟨error, failed _, failed _⟩
    · refine .inr ⟨_, _, written _, written _, ?_⟩
      rw [String.ofList_inj, Query.layout_inj, Query.spell_doubled_eq_verbatim_iff]
  · rw [compile, compile]
    cases Query.ofText maxDepth document with
    | error fault => exact .inl ⟨fault, rfl, rfl⟩
    | ok query =>
        rcases query.fails_or_text_eq_layout with ⟨error, failed⟩ | written
        · exact .inl ⟨error, failed _, failed _⟩
        · exact .inr ⟨_, _, written _, written _⟩

end QueryDoc
