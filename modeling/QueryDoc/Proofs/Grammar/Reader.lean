import Mathlib.Data.List.Basic
import QueryDoc.Proofs.Grammar.Expression
import QueryDoc.Proofs.Text.Quotation

/-!
# Reading expressions

A reader takes what it reads from the front of a text and leaves the rest.  Each
has two laws: what is written is read back whatever follows (`_suffix`), and only
what is written is read (`_sound`).

Main statements: `read_eq_some_iff`, `write_inj`.
-/

namespace QueryDoc.Grammar

/-! ## Words -/

section Words

variable {α : Type} {spelling : α → List Char} {words : List α}

def readWord (spelling : α → List Char) (words : List α) (text : List Char) :
    Option (α × List Char) :=
  words.findSome? fun word => ((spelling word).isPrefixOf? text).map fun rest => (word, rest)

def PrefixFree (spelling : α → List Char) (words : List α) : Prop :=
  ∀ first ∈ words, ∀ second ∈ words, spelling first <+: spelling second → first = second

theorem readWord_sound {word : α} {text rest : List Char}
    (read : readWord spelling words text = some (word, rest)) :
    word ∈ words ∧ text = spelling word ++ rest := by
  obtain ⟨found, member, begins⟩ := List.exists_of_findSome?_eq_some read
  obtain ⟨tail, same, pair⟩ := Option.map_eq_some_iff.mp begins
  obtain ⟨rfl, rfl⟩ := Prod.mk.inj pair
  exact ⟨member, (List.isPrefixOf?_eq_some_iff_append_eq.mp same).symm⟩

theorem readWord_suffix (prefixFree : PrefixFree spelling words) {word : α}
    (member : word ∈ words) (rest : List Char) :
    readWord spelling words (spelling word ++ rest) = some (word, rest) := by
  cases read : readWord spelling words (spelling word ++ rest) with
  | none =>
      have missed := List.findSome?_eq_none_iff.mp read word member
      have begins : (spelling word).isPrefixOf? (spelling word ++ rest) = some rest :=
        List.isPrefixOf?_eq_some_iff_append_eq.mpr rfl
      simp [begins] at missed
  | some result =>
      obtain ⟨found, tail⟩ := result
      obtain ⟨foundMember, same⟩ := readWord_sound read
      have foundPrefix : spelling found <+: spelling word ++ rest := ⟨tail, same.symm⟩
      have found_eq : found = word := by
        rcases List.prefix_or_prefix_of_prefix foundPrefix (List.prefix_append _ rest) with
          shorter | longer
        · exact prefixFree found foundMember word member shorter
        · exact (prefixFree word member found foundMember longer).symm
      subst found_eq
      rw [List.append_cancel_left same]

end Words

/-! ## Runs -/

def readRun (kind : Char → Bool) (text : List Char) : List Char × List Char :=
  (text.takeWhile kind, text.dropWhile kind)

theorem readRun_suffix {kind : Char → Bool} {run : List Char}
    (inside : ∀ c ∈ run, kind c = true) {rest : List Char}
    (ends : ∀ c ∈ rest.head?, kind c = false) :
    readRun kind (run ++ rest) = (run, rest) := by
  rw [readRun, List.takeWhile_append_of_pos inside, List.dropWhile_append_of_pos inside]
  cases rest with
  | nil => simp
  | cons c rest => simp [ends c rfl]

theorem readRun_sound {kind : Char → Bool} {text run rest : List Char}
    (read : readRun kind text = (run, rest)) :
    (∀ c ∈ run, kind c = true) ∧ text = run ++ rest := by
  obtain ⟨rfl, rfl⟩ := Prod.mk.inj read
  exact ⟨fun c member => List.mem_takeWhile_imp member, List.takeWhile_append_dropWhile.symm⟩

/-! ## Predicates -/

def isNumeralChar (c : Char) : Bool :=
  c.isDigit || c == '.' || c == '-'

def readOperand : List Char → Option (Value × List Char)
  | '\'' :: text =>
      (readLiteral [] text).map fun (content, rest) => (.text (String.ofList content), rest)
  | text =>
      let (run, rest) := readRun isNumeralChar text
      if Decimal.IsNumeral run then some (.number (String.ofList run), rest) else none

def constants : List (Operator × Value) :=
  [(.eq, .null), (.ne, .null), (.eq, .bool true), (.ne, .bool true), (.eq, .bool false),
    (.ne, .bool false)]

def writeConstant (constant : Operator × Value) : List Char :=
  constant.2.write constant.1

def operators : List Operator :=
  [.eq, .ne, .lt, .le, .gt, .ge, .like]

def writeOperator (operator : Operator) : List Char :=
  (operator.text ++ " ").toList

def readFragment (text : List Char) : Option ((Operator × Value) × List Char) :=
  (readWord writeConstant constants text).or
    ((readWord writeOperator operators text).bind fun (operator, rest) =>
      (readOperand rest).map fun (value, rest) => ((operator, value), rest))

def readPredicate (text : List Char) : Option (Predicate × List Char) :=
  match readRun isFieldChar text with
  | (field, ' ' :: rest) =>
      if field = [] then
        none
      else
        (readFragment rest).map fun ((operator, value), rest) =>
          (⟨String.ofList field, operator, value⟩, rest)
  | _ => none

def EndsTerm (rest : List Char) : Prop :=
  ∀ c ∈ rest.head?, c = ' ' ∨ c = ')'

theorem EndsTerm.not_quote {rest : List Char} (ends : EndsTerm rest) :
    rest.head? ≠ some '\'' :=
  fun quote => by simpa using ends '\'' quote

theorem prefixFree_constants : PrefixFree writeConstant constants := by
  unfold PrefixFree
  decide

theorem prefixFree_operators : PrefixFree writeOperator operators := by
  unfold PrefixFree
  decide

theorem mem_operators (operator : Operator) : operator ∈ operators := by
  cases operator <;> decide

theorem mem_constants {operator : Operator} {value : Value} :
    (operator, value) ∈ constants ↔
      (operator = .eq ∨ operator = .ne) ∧ (value = .null ∨ ∃ truth, value = .bool truth) := by
  simp only [constants, List.mem_cons, Prod.mk.injEq]
  cases value with
  | bool truth => cases truth <;> simp
  | null => simp
  | number digits => simp
  | text content => simp

theorem readWord_constants_of_operator (operator : Operator) (rest : List Char) :
    readWord writeConstant constants (writeOperator operator ++ rest) = none := by
  cases operator <;> rfl

theorem readOperand_number {digits : String} (numeral : Decimal.IsNumeral digits.toList)
    {rest : List Char} (ends : EndsTerm rest) :
    readOperand (digits.toList ++ rest) = some (.number digits, rest) := by
  have inside : ∀ c ∈ digits.toList, isNumeralChar c = true := by
    intro c member
    by_contra other
    simp only [isNumeralChar, Bool.or_eq_true, beq_iff_eq, not_or,
      Bool.not_eq_true] at other
    exact numeral.not_mem other.1.1 other.1.2 other.2 member
  have stops : ∀ c ∈ rest.head?, isNumeralChar c = false := by
    intro c first
    rcases ends c first with rfl | rfl <;> decide
  rw [readOperand, readRun_suffix inside stops]
  · simp [numeral]
  · intro text quote
    cases written : digits.toList with
    | nil =>
        rw [written, List.nil_append] at quote
        exact ends.not_quote (by rw [quote]; rfl)
    | cons c others =>
        rw [written] at quote inside
        obtain ⟨rfl, -⟩ := List.cons.inj quote
        have first := inside '\'' List.mem_cons_self
        contradiction

theorem readOperand_text (content : String) {rest : List Char} (ends : EndsTerm rest) :
    readOperand ('\'' :: Escaping.doubleQuotes content.toList ++ ['\''] ++ rest) =
      some (.text content, rest) := by
  have inside := readLiteral_suffix [] content.toList ends.not_quote
  simp [readOperand, inside]

theorem readFragment_suffix {operator : Operator} {value : Value}
    (wellFormed : value.WellFormed operator) {rest : List Char} (ends : EndsTerm rest) :
    readFragment (value.write operator ++ rest) = some ((operator, value), rest) := by
  have constant (isConstant : (operator, value) ∈ constants) :
      readFragment (value.write operator ++ rest) = some ((operator, value), rest) := by
    have read := readWord_suffix prefixFree_constants isConstant rest
    rw [writeConstant] at read
    rw [readFragment, read]
    rfl
  have operand {text : List Char} (read : readOperand (text ++ rest) = some (value, rest)) :
      readFragment (writeOperator operator ++ text ++ rest) =
        some ((operator, value), rest) := by
    rw [List.append_assoc, readFragment, readWord_constants_of_operator,
      readWord_suffix prefixFree_operators (mem_operators operator), Option.none_or,
      Option.bind_some]
    simp only [read, Option.map_some]
  cases value with
  | null => exact constant (mem_constants.mpr ⟨wellFormed, .inl rfl⟩)
  | bool truth => exact constant (mem_constants.mpr ⟨wellFormed, .inr ⟨truth, rfl⟩⟩)
  | number digits => exact operand (readOperand_number wellFormed ends)
  | text content => exact operand (readOperand_text content ends)

theorem readPredicate_suffix {predicate : Predicate} (wellFormed : predicate.WellFormed)
    {rest : List Char} (ends : EndsTerm rest) :
    readPredicate (predicate.write ++ rest) = some (predicate, rest) := by
  obtain ⟨field, operator, value⟩ := predicate
  obtain ⟨⟨nonempty, inside⟩, fits⟩ := wellFormed
  have blank : isFieldChar ' ' = false := by decide
  have run : readRun isFieldChar (field.toList ++ ' ' :: (value.write operator ++ rest)) =
      (field.toList, ' ' :: (value.write operator ++ rest)) :=
    readRun_suffix inside (by simpa using blank)
  rw [Predicate.write, List.append_assoc, List.cons_append, readPredicate, run]
  simp [nonempty, readFragment_suffix fits ends]

theorem readOperand_sound {text rest : List Char} {value : Value}
    (read : readOperand text = some (value, rest)) (operator : Operator) :
    value.WellFormed operator ∧
      writeOperator operator ++ text = value.write operator ++ rest := by
  unfold readOperand at read
  split at read
  · rename_i text
    obtain ⟨⟨content, tail⟩, closed, pair⟩ := Option.map_eq_some_iff.mp read
    obtain ⟨rfl, rfl⟩ := Prod.mk.inj pair
    obtain ⟨more, rfl, rfl⟩ := readLiteral_sound closed
    exact ⟨trivial, by simp [Value.write, writeOperator]⟩
  · generalize run : readRun isNumeralChar text = result at read
    obtain ⟨digits, behind⟩ := result
    obtain ⟨-, rfl⟩ := readRun_sound run
    simp only at read
    split at read
    · rename_i numeral
      obtain ⟨rfl, rfl⟩ := Prod.mk.inj (Option.some.inj read)
      exact ⟨by simpa [Value.WellFormed] using numeral,
        by simp [Value.write, writeOperator]⟩
    · contradiction

theorem readFragment_sound {text rest : List Char} {operator : Operator} {value : Value}
    (read : readFragment text = some ((operator, value), rest)) :
    value.WellFormed operator ∧ text = value.write operator ++ rest := by
  rcases Option.or_eq_some_iff.mp read with constant | ⟨-, related⟩
  · obtain ⟨member, rfl⟩ := readWord_sound constant
    obtain ⟨applies, rfl | ⟨truth, rfl⟩⟩ := mem_constants.mp member
    · exact ⟨applies, rfl⟩
    · exact ⟨applies, rfl⟩
  · obtain ⟨⟨operator, behind⟩, word, operand⟩ := Option.bind_eq_some_iff.mp related
    obtain ⟨⟨value, rest⟩, readOperand, pair⟩ := Option.map_eq_some_iff.mp operand
    obtain ⟨⟨rfl, rfl⟩, rfl⟩ : (_ ∧ _) ∧ _ := by simpa using pair
    obtain ⟨-, rfl⟩ := readWord_sound word
    exact readOperand_sound readOperand operator

theorem readPredicate_sound {text rest : List Char} {predicate : Predicate}
    (read : readPredicate text = some (predicate, rest)) :
    predicate.WellFormed ∧ text = predicate.write ++ rest := by
  unfold readPredicate at read
  split at read
  · rename_i field behind run
    obtain ⟨inside, rfl⟩ := readRun_sound run
    split at read
    · contradiction
    · rename_i nonempty
      obtain ⟨⟨⟨operator, value⟩, rest⟩, fragment, pair⟩ := Option.map_eq_some_iff.mp read
      obtain ⟨rfl, rfl⟩ := Prod.mk.inj pair
      obtain ⟨fits, rfl⟩ := readFragment_sound fragment
      exact ⟨⟨by simpa using ⟨nonempty, inside⟩, fits⟩, by simp [Predicate.write]⟩
  · contradiction

/-! ## Expressions -/

def readTerm (readInner : List Char → Option (Expression × List Char)) :
    List Char → Option (Term × List Char)
  | '(' :: text =>
      match readInner text with
      | some (inner, ')' :: rest) => some (.group inner, rest)
      | _ => none
  | text => (readPredicate text).map fun (predicate, rest) => (.predicate predicate, rest)

/-- No expression nests deeper than it is long. -/
def readExpression : Nat → List Char → Option (Expression × List Char)
  | 0, _ => none
  | fuel + 1, text => do
      let (term, rest) ← readTerm (readExpression fuel) text
      match readWord connective [.and, .or] rest with
      | none => some (.single term, rest)
      | some (logic, behind) =>
          let (others, rest) ← readExpression fuel behind
          some (.chain term logic others, rest)

def read (text : List Char) : Option Expression :=
  match readExpression text.length text with
  | some (expression, []) => some expression
  | _ => none

theorem prefixFree_connectives : PrefixFree connective [.and, .or] := by
  unfold PrefixFree
  decide

def EndsExpression (rest : List Char) : Prop :=
  ∀ c ∈ rest.head?, c = ')'

theorem readWord_connective_of_ends {rest : List Char} (ends : EndsExpression rest) :
    readWord connective [.and, .or] rest = none := by
  cases rest with
  | nil => rfl
  | cons c rest =>
      obtain rfl := ends c rfl
      rfl

theorem EndsExpression.endsTerm {rest : List Char} (ends : EndsExpression rest) :
    EndsTerm rest :=
  fun c first => .inr (ends c first)

theorem endsTerm_connective (logic : Logic) (rest : List Char) :
    EndsTerm (connective logic ++ rest) := by
  cases logic <;> simp [EndsTerm, connective]

theorem Predicate.WellFormed.not_opening {predicate : Predicate}
    (wellFormed : predicate.WellFormed) (rest text : List Char) :
    predicate.write ++ rest ≠ '(' :: text := by
  intro same
  obtain ⟨nonempty, inside⟩ := wellFormed.field
  obtain ⟨c, more, written⟩ := List.exists_cons_of_ne_nil nonempty
  rw [Predicate.write, written] at same
  obtain ⟨rfl, -⟩ := List.cons.inj same
  have opening := inside '(' (by simp [written])
  contradiction

theorem readTerm_suffix {readInner : List Char → Option (Expression × List Char)}
    {term : Term} (wellFormed : term.WellFormed)
    (inner : ∀ expression, term = .group expression → ∀ rest, EndsExpression rest →
      readInner (expression.write ++ rest) = some (expression, rest))
    {rest : List Char} (ends : EndsTerm rest) :
    readTerm readInner (term.write ++ rest) = some (term, rest) := by
  cases term with
  | predicate predicate =>
      rw [Term.write, readTerm, readPredicate_suffix wellFormed ends]
      · rfl
      · exact wellFormed.not_opening rest
  | group expression =>
      have closed := inner expression rfl (')' :: rest) (by simp [EndsExpression])
      simp [Term.write, readTerm, closed]

theorem readExpression_suffix {fuel : Nat} {expression : Expression}
    (wellFormed : expression.WellFormed) (enough : expression.write.length ≤ fuel)
    {rest : List Char} (ends : EndsExpression rest) :
    readExpression fuel (expression.write ++ rest) = some (expression, rest) := by
  induction fuel generalizing expression rest with
  | zero =>
      have empty := List.length_eq_zero_iff.mp (Nat.le_zero.mp enough)
      exact absurd empty expression.write_ne_nil
  | succ fuel ih =>
      have read_term {term : Term} (wellFormed : term.WellFormed)
          (enough : term.write.length ≤ fuel + 1) {rest : List Char} (ends : EndsTerm rest) :
          readTerm (readExpression fuel) (term.write ++ rest) = some (term, rest) := by
        refine readTerm_suffix wellFormed ?_ ends
        rintro inner rfl rest closes
        simp only [Term.write, List.length_append, List.length_cons] at enough
        exact ih wellFormed (by omega) closes
      cases expression with
      | single term =>
          rw [Expression.write] at enough ⊢
          rw [readExpression, read_term wellFormed enough ends.endsTerm]
          simp [readWord_connective_of_ends ends]
      | chain term logic others =>
          have nonempty := List.length_pos_iff.mpr term.write_ne_nil
          simp only [Expression.write, List.length_append] at enough
          have first := read_term wellFormed.1 (by omega)
            (endsTerm_connective logic (others.write ++ rest))
          have word := readWord_suffix prefixFree_connectives
            (show logic ∈ [.and, .or] by cases logic <;> simp) (others.write ++ rest)
          have behind := ih wellFormed.2 (by omega) ends
          rw [Expression.write, List.append_assoc, List.append_assoc, readExpression, first]
          simp [word, behind]

theorem readTerm_sound {readInner : List Char → Option (Expression × List Char)}
    (inner : ∀ {text rest expression}, readInner text = some (expression, rest) →
      expression.WellFormed ∧ text = expression.write ++ rest)
    {text rest : List Char} {term : Term} (read : readTerm readInner text = some (term, rest)) :
    term.WellFormed ∧ text = term.write ++ rest := by
  unfold readTerm at read
  split at read
  · rename_i text
    split at read
    · rename_i expression rest closed
      obtain ⟨rfl, rfl⟩ := Prod.mk.inj (Option.some.inj read)
      obtain ⟨wellFormed, rfl⟩ := inner closed
      exact ⟨wellFormed, by simp [Term.write]⟩
    · contradiction
  · obtain ⟨⟨predicate, rest⟩, single, pair⟩ := Option.map_eq_some_iff.mp read
    obtain ⟨rfl, rfl⟩ := Prod.mk.inj pair
    exact readPredicate_sound single

theorem readExpression_sound {fuel : Nat} {text rest : List Char} {expression : Expression}
    (read : readExpression fuel text = some (expression, rest)) :
    expression.WellFormed ∧ text = expression.write ++ rest := by
  induction fuel generalizing text rest expression with
  | zero => contradiction
  | succ fuel ih =>
      obtain ⟨⟨term, behind⟩, first, others⟩ := Option.bind_eq_some_iff.mp read
      obtain ⟨wellFormed, rfl⟩ := readTerm_sound ih first
      simp only at others
      split at others
      · obtain ⟨rfl, rfl⟩ := Prod.mk.inj (Option.some.inj others)
        exact ⟨wellFormed, rfl⟩
      · rename_i logic text word
        obtain ⟨-, rfl⟩ := readWord_sound word
        obtain ⟨⟨expression, rest⟩, last, pair⟩ := Option.bind_eq_some_iff.mp others
        obtain ⟨rfl, rfl⟩ := Prod.mk.inj (Option.some.inj pair)
        obtain ⟨othersWellFormed, rfl⟩ := ih last
        exact ⟨⟨wellFormed, othersWellFormed⟩, by simp [Expression.write]⟩

/-- What is read from a whole text is the one expression that is written so. -/
theorem read_eq_some_iff {text : List Char} {expression : Expression} :
    read text = some expression ↔ expression.WellFormed ∧ expression.write = text := by
  constructor
  · intro whole
    unfold read at whole
    split at whole
    · rename_i found first
      obtain rfl := Option.some.inj whole
      obtain ⟨wellFormed, same⟩ := readExpression_sound first
      exact ⟨wellFormed, by rw [same, List.append_nil]⟩
    · contradiction
  · rintro ⟨wellFormed, rfl⟩
    have ends : EndsExpression [] := by simp [EndsExpression]
    have whole := readExpression_suffix wellFormed (Nat.le_refl _) ends
    rw [List.append_nil] at whole
    rw [read, whole]

theorem write_inj {first second : Expression} (one : first.WellFormed)
    (two : second.WellFormed) (same : first.write = second.write) : first = second := by
  have readFirst := read_eq_some_iff.mpr ⟨one, rfl⟩
  have readSecond := read_eq_some_iff.mpr ⟨two, same.symm⟩
  exact Option.some.inj (readFirst.symm.trans readSecond)

end QueryDoc.Grammar
