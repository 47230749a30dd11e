import QueryDoc.Proofs.Key.Split

/-!
# The grammar of keys

A key names a connective, or else a field behind an operator token.  Which field and which
operator follows from the split of the key alone, and so does the fault of a key that has
neither.

Main statements: `parse_eq_grammar` and `parse_spelling_iff`.
-/

namespace QueryDoc.Key

/-! ## Connectives -/

/-- The key is a connective, bare or with something behind an underscore. -/
def Names (key : String) (logic : Logic) : Prop :=
  key = logic.keyword ∨ ∃ suffix, suffix ≠ "" ∧ key = logic.keyword ++ "_" ++ suffix

theorem isMark_iff {mark : List Char} :
    isMark mark = true ↔ mark = [] ∨ ∃ suffix, suffix ≠ [] ∧ mark = '_' :: suffix := by
  unfold isMark
  split
  · simp
  · simp
  · rename_i some other
    refine ⟨fun marked => by simp at marked, ?_⟩
    rintro (rfl | ⟨suffix, -, rfl⟩)
    · exact (some rfl).elim
    · exact (other suffix rfl).elim

theorem combinator?_eq_some_iff {key : List Char} {logic : Logic} :
    combinator? key = some logic ↔
      ∃ mark, key = logic.keyword.toList ++ mark ∧ isMark mark = true := by
  have words : Logic.and.keyword.toList = ['a', 'n', 'd'] ∧
      Logic.or.keyword.toList = ['o', 'r'] := by decide
  constructor
  · unfold combinator?
    split
    · rename_i mark
      intro found
      obtain ⟨marked, rfl⟩ : isMark mark = true ∧ Logic.and = logic := by simpa using found
      exact ⟨mark, by simp [words], marked⟩
    · rename_i mark
      intro found
      obtain ⟨marked, rfl⟩ : isMark mark = true ∧ Logic.or = logic := by simpa using found
      exact ⟨mark, by simp [words], marked⟩
    · simp
  · rintro ⟨mark, rfl, marked⟩
    cases logic with
    | and => simp [words, combinator?, marked]
    | or => simp [words, combinator?, marked]

theorem combinator?_toList_eq_some_iff {key : String} {logic : Logic} :
    combinator? key.toList = some logic ↔ Names key logic := by
  rw [combinator?_eq_some_iff]
  constructor
  · rintro ⟨mark, form, marked⟩
    rcases isMark_iff.mp marked with rfl | ⟨suffix, some, rfl⟩
    · exact .inl (by simpa [String.toList_inj] using form)
    · refine .inr ⟨String.ofList suffix, by simpa using some, ?_⟩
      simp [← String.toList_inj, form]
  · rintro (rfl | ⟨suffix, some, rfl⟩)
    · exact ⟨[], by simp, rfl⟩
    · refine ⟨'_' :: suffix.toList, by simp, isMark_iff.mpr (.inr ⟨suffix.toList, ?_, rfl⟩)⟩
      simpa using some

theorem combinator?_toList_eq_none_iff {key : String} :
    combinator? key.toList = none ↔ ∀ logic, ¬ Names key logic := by
  simp [Option.eq_none_iff_forall_ne_some, combinator?_toList_eq_some_iff]

instance (key : String) : Decidable (∃ logic, Names key logic) :=
  decidable_of_iff ((combinator? key.toList).isSome = true) (by
    simp [Option.isSome_iff_exists, combinator?_toList_eq_some_iff])

/-! ## Operators -/

def spellings : List (String × Operator) :=
  [("=", .eq), ("!", .ne), (">", .gt), ("<", .lt), (">=", .ge), ("<=", .le)]

/-- Without a token, a field is compared for equality. -/
def Denotes (token : String) (operator : Operator) : Prop :=
  (token, operator) ∈ ("", Operator.eq) :: spellings

instance (token : String) (operator : Operator) : Decidable (Denotes token operator) :=
  inferInstanceAs (Decidable (_ ∈ _))

instance (token : String) : Decidable (∃ operator, Denotes token operator) :=
  decidable_of_iff (token ∈ (("", Operator.eq) :: spellings).map Prod.fst) (by
    simp only [Denotes, List.mem_map, Prod.exists, exists_and_right, exists_eq_right])

theorem operator?_eq_some_iff {token : String} {operator : Operator} :
    operator? token.toList = some operator ↔ Denotes token operator := by
  constructor
  · obtain ⟨letters, rfl⟩ : ∃ letters, token = String.ofList letters :=
      ⟨token.toList, String.ofList_toList.symm⟩
    rw [String.toList_ofList]
    unfold operator?
    split <;> rintro ⟨⟩ <;> decide
  · have each : ∀ spelling ∈ ("", Operator.eq) :: spellings,
        operator? spelling.1.toList = some spelling.2 := by decide
    exact each (token, operator)

theorem Denotes.operators {token : String} {operator : Operator}
    (denotes : Denotes token operator) : ∀ c ∈ token.toList, isOperatorChar c = true := by
  have each : ∀ spelling ∈ ("", Operator.eq) :: spellings,
      spelling.1.toList.all isOperatorChar = true := by decide
  exact List.all_eq_true.mp (each (token, operator) denotes)

theorem Denotes.ne_like {token : String} {operator : Operator}
    (denotes : Denotes token operator) : operator ≠ .like := by
  have each : ∀ spelling ∈ ("", Operator.eq) :: spellings, spelling.2 ≠ .like := by decide
  exact each (token, operator) denotes

/-! ## Keys -/

theorem Splits.parse_eq {key token field : String} (splits : Splits key token field) :
    parse key = (combinator? key.toList).elim
      ((operator? token.toList).elim (.error (.unknownOperator key token))
        fun operator => .ok (.comparison field operator))
      fun logic => .ok (.combinator logic) := by
  obtain ⟨whole, length⟩ := splits_iff.mp splits
  have letters : key.toList = token.toList ++ field.toList := by
    rw [whole, String.toList_append]
  have front : key.toList.take (operatorLength key.toList) = token.toList := by
    rw [← length, letters, ← String.length_toList, List.take_left]
  have back : key.toList.drop (operatorLength key.toList) = field.toList := by
    rw [← length, letters, ← String.length_toList, List.drop_left]
  unfold parse
  cases combinator? key.toList with
  | some logic => rfl
  | none => cases found : operator? token.toList <;> simp [front, back, found]

theorem parse_eq_combinator_iff {key : String} {logic : Logic} :
    parse key = .ok (.combinator logic) ↔ Names key logic := by
  obtain ⟨token, field, splits⟩ := exists_splits key
  rw [splits.parse_eq, ← combinator?_toList_eq_some_iff]
  cases combinator? key.toList with
  | some other => simp
  | none => cases operator? token.toList <;> simp

theorem Splits.parse_eq_comparison_iff {key token field : String}
    (splits : Splits key token field) {rest : String} {operator : Operator} :
    parse key = .ok (.comparison rest operator) ↔
      (∀ logic, ¬ Names key logic) ∧ rest = field ∧ Denotes token operator := by
  rw [splits.parse_eq, ← combinator?_toList_eq_none_iff, ← operator?_eq_some_iff]
  cases combinator? key.toList with
  | some other => simp
  | none => cases operator? token.toList <;> simp [eq_comm]

theorem Splits.parse_eq_error_iff {key token field : String}
    (splits : Splits key token field) {fault : CompileError} :
    parse key = .error fault ↔
      (∀ logic, ¬ Names key logic) ∧ fault = .unknownOperator key token ∧
        ∀ operator, ¬ Denotes token operator := by
  simp only [← operator?_eq_some_iff, ← combinator?_toList_eq_none_iff]
  rw [splits.parse_eq]
  cases combinator? key.toList with
  | some other => simp
  | none => cases operator? token.toList <;> simp [eq_comm]

/--
The token is the longest that a key can be split behind, and both it and the field follow
from the key.  What separates them is the end of a character, counted in bytes.
-/
theorem parse_eq_grammar (key : String) :
    (∀ logic, parse key = .ok (.combinator logic) ↔ Names key logic) ∧
    (∀ field, parse key ≠ .ok (.comparison field .like)) ∧
    ∃ token field, Splits key token field ∧
      (∀ other rest, Splits key other rest → other = token ∧ rest = field) ∧
      (∀ rest operator, parse key = .ok (.comparison rest operator) ↔
        (∀ logic, ¬ Names key logic) ∧ rest = field ∧ Denotes token operator) ∧
      (∀ fault, parse key = .error fault ↔
        (∀ logic, ¬ Names key logic) ∧ fault = .unknownOperator key token ∧
          ∀ operator, ¬ Denotes token operator) ∧
      operatorBytes key = token.utf8ByteSize ∧
      String.Pos.Raw.IsValid key ⟨operatorBytes key⟩ ∧
      (field = "" ↔ key = "") ∧
      (isPlain field = false →
        (∀ c ∈ key.toList, isOperatorChar c = true) ∧ field.length = 1) := by
  obtain ⟨token, field, splits⟩ := exists_splits key
  refine ⟨fun logic => parse_eq_combinator_iff, fun field same => ?_, token, field, splits,
    fun other rest again => splits.eq again, fun rest operator => splits.parse_eq_comparison_iff,
    fun fault => splits.parse_eq_error_iff, splits.operatorBytes_eq, splits.isValid,
    splits.field_eq_empty_iff, splits.of_isPlain_eq_false⟩
  exact (splits.parse_eq_comparison_iff.mp same).2.2.ne_like rfl

example : parse "!=age" = .error (.unknownOperator "!=age" "!=") := by rfl
example : parse "and_" = .ok (.comparison "and_" .eq) := by rfl

/-! ## Keys for a field -/

theorem Names.ne_empty {key : String} {logic : Logic} (names : Names key logic) :
    key ≠ "" := by
  rcases names with rfl | ⟨suffix, -, rfl⟩
  · cases logic <;> decide
  · simp

theorem Names.isPlain {key : String} {logic : Logic} (names : Names key logic) :
    isPlain key = true := by
  rcases names with rfl | ⟨suffix, -, rfl⟩
  · cases logic <;> decide
  · cases logic <;> simp [Key.isPlain, Logic.keyword, isOperatorChar]

theorem isPlain_append {token : String} (some : token ≠ "")
    (operators : ∀ c ∈ token.toList, isOperatorChar c = true) (field : String) :
    isPlain (token ++ field) = false := by
  unfold isPlain
  rw [String.toList_append]
  cases form : token.toList with
  | nil => exact absurd (String.toList_eq_nil_iff.mp form) some
  | cons c rest => simp [operators c (by simp [form])]

theorem parse_append_eq_comparison_iff {token : String}
    (operators : ∀ c ∈ token.toList, isOperatorChar c = true) (field : String)
    (operator : Operator) :
    parse (token ++ field) = .ok (.comparison field operator) ↔
      (∀ logic, ¬ Names (token ++ field) logic) ∧ Denotes token operator ∧
        (field = "" → token = "") ∧ (isPlain field = true ∨ field.length = 1) := by
  obtain ⟨first, rest, splits⟩ := exists_splits (token ++ field)
  rw [splits.parse_eq_comparison_iff, ← splits_append_iff operators]
  constructor
  · rintro ⟨bare, rfl, denotes⟩
    obtain rfl := (String.append_left_inj _).mp splits.whole
    exact ⟨bare, denotes, splits⟩
  · rintro ⟨bare, denotes, again⟩
    obtain ⟨rfl, rfl⟩ := splits.eq again
    exact ⟨bare, rfl, denotes⟩

theorem parse_spelling_append_iff {token : String} {operator : Operator}
    (spelling : (token, operator) ∈ spellings) (field : String) :
    parse (token ++ field) = .ok (.comparison field operator) ↔
      field ≠ "" ∧ (isPlain field = true ∨ field.length = 1) := by
  have denotes : Denotes token operator := List.mem_cons_of_mem _ spelling
  have some : token ≠ "" := by
    have each : ∀ spelling ∈ spellings, spelling.1 ≠ "" := by decide
    exact each (token, operator) spelling
  have bare (logic : Logic) : ¬ Names (token ++ field) logic := by
    intro names
    have plain := names.isPlain
    rw [isPlain_append some denotes.operators] at plain
    cases plain
  rw [parse_append_eq_comparison_iff denotes.operators]
  simp [bare, denotes, some]

theorem parse_self_iff (field : String) :
    parse field = .ok (.comparison field .eq) ↔
      (∀ logic, ¬ Names field logic) ∧ (isPlain field = true ∨ field.length = 1) := by
  have denotes : Denotes "" .eq := by decide
  simpa [denotes] using parse_append_eq_comparison_iff denotes.operators field .eq

/--
A field is read back from behind a token unless it begins with an operator character that
it can spare.  Without a token, a field that names a connective is not read back either.
-/
theorem parse_spelling_iff (field : String) :
    (∀ token operator, (token, operator) ∈ spellings →
      (parse (token ++ field) = .ok (.comparison field operator) ↔
        field ≠ "" ∧ (isPlain field = true ∨ field.length = 1)) ∧
      ∀ logic, Names field logic →
        parse (token ++ field) = .ok (.comparison field operator)) ∧
    (parse field = .ok (.comparison field .eq) ↔
      (∀ logic, ¬ Names field logic) ∧
        (field = "" ∨ field.length = 1 ∨ isPlain field = true)) := by
  constructor
  · intro token operator spelling
    have back := parse_spelling_append_iff spelling field
    exact ⟨back, fun logic names => back.mpr ⟨names.ne_empty, .inl names.isPlain⟩⟩
  · rw [parse_self_iff]
    refine and_congr_right fun _ => ⟨?_, ?_⟩
    · rintro (plain | single)
      · exact .inr (.inr plain)
      · exact .inr (.inl single)
    · rintro (rfl | single | plain)
      · exact .inl rfl
      · exact .inr single
      · exact .inl plain

theorem parse_spelling_of_awkward_fields :
    parse (">=" ++ "or_x") = .ok (.comparison "or_x" .ge) ∧
      parse ("!" ++ "=") = .ok (.comparison "=" .ne) ∧
      parse (">" ++ "=x") ≠ .ok (.comparison "=x" .gt) ∧
      parse "=x" ≠ .ok (.comparison "=x" .eq) := by
  obtain ⟨connective, -⟩ := parse_spelling_iff "or_x"
  obtain ⟨sign, -⟩ := parse_spelling_iff "="
  obtain ⟨spared, alone⟩ := parse_spelling_iff "=x"
  refine ⟨?_, ?_, ?_, ?_⟩
  · exact (connective ">=" .ge (by decide)).2 .or (.inr ⟨"x", by decide, by decide⟩)
  · exact (sign "!" .ne (by decide)).1.mpr (by decide)
  · rw [ne_eq, (spared ">" .gt (by decide)).1]
    decide
  · rw [ne_eq, alone]
    exact fun back => absurd back.2 (by decide)

end QueryDoc.Key
