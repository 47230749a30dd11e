import QueryDoc.Proofs.Condition.Leaves
import QueryDoc.Proofs.Json.Source
import QueryDoc.Proofs.Query.Layout

/-!
# Integers in query text

The filter of a document has a comparison for each entry of its mapping that is one.
An integer of 64 bits in such an entry stands in the text of the query as it stands
in the document, behind the same field and operator; a greater one need not.

Main statement: `compile_integer`.
-/

namespace QueryDoc

open Json

structure Entry where
  key : String
  field : String
  operator : Operator
  value : Source

namespace Entry

def comparisons (entry : Entry) : List Comparison :=
  Comparison.ofMember entry.key entry.field entry.operator entry.value.json

def numeral? (entry : Entry) : Option Numeral.Occurrence :=
  match entry.value with
  | .number numeral => some numeral
  | _ => none

end Entry

namespace Json.Source

mutual

def groupEntries : Source → List Entry
  | .object members => conjunctEntries members ++ alternativeEntries members
  | _ => []

def conjunctEntries : List (String × Source) → List Entry
  | [] => []
  | (key, value) :: members =>
      (match Key.parse key with
        | .ok (.comparison field operator) => [⟨key, field, operator, value⟩]
        | .ok (.combinator .and) => groupEntries value
        | _ => []) ++ conjunctEntries members

def alternativeEntries : List (String × Source) → List Entry
  | [] => []
  | (key, value) :: members =>
      (match Key.parse key with
        | .ok (.combinator .or) => groupEntries value
        | _ => []) ++ alternativeEntries members

end

/-- The comparisons of the filter of a document, in the order in which the query has them. -/
def filterEntries : Source → List Entry
  | .object members => (get? members "where").elim [] groupEntries
  | _ => []

mutual

theorem groupLeaves_json : ∀ source : Source,
    Condition.groupLeaves source.json = (groupEntries source).flatMap Entry.comparisons
  | .object members => by
      rw [json, Condition.groupLeaves, groupEntries, List.flatMap_append,
        conjunctLeaves_json members, alternativeLeaves_json members]
  | .number numeral => by
      rcases ofNumber_eq_null_or numeral.number with null | ⟨stored, kept⟩
      · simp [json, null, Condition.groupLeaves, groupEntries]
      · simp [json, kept, Condition.groupLeaves, groupEntries]
  | .null | .bool _ | .string _ | .array _ => by
      simp [json, Condition.groupLeaves, groupEntries]

theorem conjunctLeaves_json : ∀ members : List (String × Source),
    Condition.conjunctLeaves (jsonMembers members) =
      (conjunctEntries members).flatMap Entry.comparisons
  | [] => by rw [jsonMembers, Condition.conjunctLeaves, conjunctEntries, List.flatMap_nil]
  | (key, value) :: members => by
      rw [jsonMembers, Condition.conjunctLeaves, conjunctEntries, List.flatMap_append,
        conjunctLeaves_json members]
      congr 1
      cases Key.parse key with
      | error fault => rfl
      | ok parsed =>
          match parsed with
          | .comparison field operator => simp [Entry.comparisons]
          | .combinator .and => exact groupLeaves_json value
          | .combinator .or => rfl

theorem alternativeLeaves_json : ∀ members : List (String × Source),
    Condition.alternativeLeaves (jsonMembers members) =
      (alternativeEntries members).flatMap Entry.comparisons
  | [] => by
      rw [jsonMembers, Condition.alternativeLeaves, alternativeEntries, List.flatMap_nil]
  | (key, value) :: members => by
      rw [jsonMembers, Condition.alternativeLeaves, alternativeEntries, List.flatMap_append,
        alternativeLeaves_json members]
      congr 1
      cases Key.parse key with
      | error fault => rfl
      | ok parsed =>
          match parsed with
          | .comparison field operator => rfl
          | .combinator .and => rfl
          | .combinator .or => exact groupLeaves_json value

end

end Json.Source

/-! ## From a document to its query -/

theorem comparisons_of_ofMembers {limit : Nat} {members : Source.Members} {query : Query}
    (made : Query.ofMembers limit (Source.jsonMembers members) = .ok query) :
    query.comparisons = (Source.object members).filterEntries.flatMap Entry.comparisons := by
  obtain ⟨select, -, made⟩ := Condition.bind_eq_ok_iff.mp made
  obtain ⟨table, -, made⟩ := Condition.bind_eq_ok_iff.mp made
  obtain ⟨filter, filtered, made⟩ := Condition.bind_eq_ok_iff.mp made
  obtain ⟨order, -, made⟩ := Condition.bind_eq_ok_iff.mp made
  cases made
  change filter.elim [] Condition.comparisons = _
  rw [Query.comparisons_of_filterOf filtered, Source.get?_json, Source.filterEntries]
  cases Source.get? members "where" with
  | none => rfl
  | some conditions => exact Source.groupLeaves_json conditions

theorem comparisons_of_ofText {limit : Nat} {document : String} {query : Query}
    (read : Query.ofText limit document = .ok query) :
    ∃ source, Source.read document.toList = .ok source ∧
      query.comparisons = source.filterEntries.flatMap Entry.comparisons := by
  obtain ⟨members, found, made⟩ := Condition.bind_eq_ok_iff.mp read
  rw [Query.membersOfText, Source.read_eq_json] at found
  cases sourced : Source.read document.toList with
  | error fault =>
      rw [sourced] at found
      cases found
  | ok source =>
      rw [sourced] at found
      refine ⟨source, rfl, ?_⟩
      cases source with
      | object sources =>
          simp only [Except.map, Source.json, Except.ok.injEq] at found
          subst found
          exact comparisons_of_ofMembers made
      | number numeral =>
          rcases ofNumber_eq_null_or numeral.number with null | ⟨stored, kept⟩
          · simp [Except.map, Source.json, null] at found
          · simp [Except.map, Source.json, kept] at found
      | null | bool _ | string _ | array _ => simp [Except.map, Source.json] at found

/-! ## From a query to its text -/

theorem text_of_comparisons {escaping : Escaping} {query : Query} {text : String}
    (written : query.text escaping = .ok text) {before after : List Comparison}
    {comparison : Comparison}
    (compared : query.comparisons = before ++ comparison :: after) :
    ∃ front back : List Token,
      front.filterMap Token.comparison? = before ∧
        back.filterMap Token.comparison? = after ∧
        text.toList = query.front ++ "\nwhere ".toList ++ Token.spell escaping front ++
          (comparison.phrase escaping).toList ++ Token.spell escaping back ++ query.back := by
  rw [← query.comparisons_eq_filterMap, List.filterMap_eq_append_iff] at compared
  obtain ⟨first, others, tokens, rfl, rest⟩ := compared
  obtain ⟨between, token, back, rfl, bare, found, rfl⟩ := List.filterMap_eq_cons_iff.mp rest
  obtain rfl : token = .compare comparison := by
    cases token <;> simp_all [Token.comparison?]
  refine ⟨first ++ between, back, ?_, rfl, ?_⟩
  · rw [List.filterMap_append, List.filterMap_eq_nil_iff.mpr bare, List.append_nil]
  · rw [Query.text_eq_layout] at written
    split at written
    · cases written
    · cases verified : Comparison.verify query.comparisons with
      | error fault =>
          rw [verified] at written
          cases written
      | ok _ =>
          rw [verified] at written
          cases written
          rw [String.toList_ofList, Query.layout, tokens,
            if_neg (Token.spell_eq_nil_iff.not.mpr (by simp))]
          simp [Token.spelling]

/--
Of every entry with an integer that a word of 64 bits can hold, signed or unsigned, the
query has the field, the operator and the numeral as it is written in the document.
-/
theorem compile_integer {settings : Settings} {document text : String}
    (compiled : compile settings document = .ok text) :
    ∃ source query, Source.read document.toList = .ok source ∧
      Json.read document.toList = .ok source.json ∧
      Query.ofText settings.maxDepth document = .ok query ∧
      ∀ before entry after numeral integer,
        source.filterEntries = before ++ entry :: after →
        entry.numeral? = some numeral →
        Numeral.integer? numeral.literal = some integer →
        -(Word.negativeBound : Int) ≤ integer → integer < Word.bound →
        ∃ front back : List Token,
          front.filterMap Token.comparison? = before.flatMap Entry.comparisons ∧
            back.filterMap Token.comparison? = after.flatMap Entry.comparisons ∧
            text.toList = query.front ++ "\nwhere ".toList ++
              Token.spell settings.escaping front ++
              (entry.field ++ " " ++ entry.operator.text ++ " ").toList ++ numeral.literal ++
              Token.spell settings.escaping back ++ query.back := by
  obtain ⟨query, made, written⟩ := Condition.bind_eq_ok_iff.mp compiled
  obtain ⟨source, read, comparisons⟩ := comparisons_of_ofText made
  have forgotten : Json.read document.toList = .ok source.json := by
    rw [Source.read_eq_json, read]
    rfl
  refine ⟨source, query, read, forgotten, made, ?_⟩
  intro before entry after numeral integer entries found denotes least greatest
  have value : entry.value = .number numeral := by
    unfold Entry.numeral? at found
    split at found
    · cases found
      assumption
    · cases found
  obtain ⟨stored, kept⟩ :=
    StoredNumber.exists_number_eq (numeral.stored_of_integer denotes least greatest)
  have literal : Literal.ofJson entry.key entry.value.json = .ok (.number numeral.number) := by
    rw [value, Source.json, ← kept, ofNumber_number, Literal.ofJson_number]
  have compared : query.comparisons = before.flatMap Entry.comparisons ++
      ⟨entry.field, entry.operator, .number numeral.number⟩ ::
        after.flatMap Entry.comparisons := by
    rw [comparisons, entries, List.flatMap_append, List.flatMap_cons]
    simp [Entry.comparisons, Comparison.ofMember, literal]
  obtain ⟨front, back, sameFront, sameBack, shown⟩ := text_of_comparisons written compared
  refine ⟨front, back, sameFront, sameBack, ?_⟩
  rw [shown, ← numeral.queryText_of_integer denotes least greatest]
  simp [Comparison.phrase, Literal.phrase]

private def extremes : String :=
  "\x7b\"from\":\"t\",\"where\":\x7b\"id\":18446744073709551615," ++
    "\"or\":\x7b\"and\":\x7b\">=n\":-9223372036854775808\x7d\x7d\x7d\x7d"

private def extremesText : String :=
  "select *\nfrom t\nwhere id = 18446744073709551615 or ((n >= -9223372036854775808));"

theorem compile_integer_of_extremes :
    compile {} extremes = .ok extremesText ∧
      ∃ (query : Query) (front back : List Token),
        back.filterMap Token.comparison? = [] ∧
          extremesText.toList = query.front ++ "\nwhere ".toList ++
            Token.spell .verbatim front ++ "n >= ".toList ++ "-9223372036854775808".toList ++
            Token.spell .verbatim back ++ query.back := by
  have compiled : compile {} extremes = .ok extremesText :=
    Condition.eq_ok_of_toOption (by decide +kernel)
  have shown : (Source.read extremes.toList).toOption.map (fun source =>
      source.filterEntries.map fun entry =>
        ((entry.field, entry.operator), entry.numeral?.map Numeral.Occurrence.literal)) =
      some [(("id", .eq), some "18446744073709551615".toList),
        (("n", .ge), some "-9223372036854775808".toList)] := by
    decide +kernel
  obtain ⟨source, query, read, -, -, written⟩ := compile_integer compiled
  rw [read] at shown
  obtain ⟨first, others, entries, firstShown, rest⟩ :=
    List.map_eq_cons_iff.mp (Option.some.inj shown)
  obtain ⟨second, others, rfl, secondShown, rest⟩ := List.map_eq_cons_iff.mp rest
  obtain rfl := List.map_eq_nil_iff.mp rest
  obtain ⟨compared, literal⟩ := Prod.mk.inj secondShown
  obtain ⟨field, operator⟩ := Prod.mk.inj compared
  obtain ⟨numeral, found, literal⟩ := Option.map_eq_some_iff.mp literal
  obtain ⟨front, back, -, bare, shown⟩ :=
    written [first] second [] numeral (-9223372036854775808) entries found
      (by rw [literal]; decide) (by decide) (by decide)
  refine ⟨compiled, query, front, back, bare, ?_⟩
  rw [shown, field, operator, literal]
  rfl

private def beyond : String :=
  "\x7b\"from\": \"t\", \"where\": \x7b\"id\": 18446744073709551617\x7d\x7d"

theorem compile_not_integer_of_beyond :
    (Source.read beyond.toList).toOption.map (fun source =>
        source.filterEntries.map fun entry => entry.numeral?.map Numeral.Occurrence.literal) =
        some [some "18446744073709551617".toList] ∧
      Numeral.integer? "18446744073709551617".toList = some 18446744073709551617 ∧
      (compile {} beyond).toOption =
        some "select *\nfrom t\nwhere id = 18446744073709552000;" ∧
      Numeral.integer? "18446744073709552000".toList ≠ some 18446744073709551617 := by
  refine ⟨?_, ?_, ?_, ?_⟩ <;> decide +kernel

end QueryDoc
