import QueryDoc.Literal
import QueryDoc.Proofs.Decimal.Numeral
import QueryDoc.Settings

/-!
# Expressions

The grammar of the text of conditions:

* an expression is a term, or a term, a connective and an expression;
* a term is a predicate, or an expression in parentheses;
* a predicate is a field, an operator and a value.

Numbers are kept as they are written, since one text may stand for several.
-/

namespace QueryDoc.Grammar

/-! ## Predicates -/

inductive Value where
  | null
  | bool (value : Bool)
  | number (digits : String)
  | text (content : String)
  deriving DecidableEq

structure Predicate where
  field : String
  operator : Operator
  value : Value
  deriving DecidableEq

def isFieldChar (c : Char) : Bool :=
  c ∉ [' ', '(', ')', '\'']

def IsField (text : List Char) : Prop :=
  text ≠ [] ∧ ∀ c ∈ text, isFieldChar c = true

instance (text : List Char) : Decidable (IsField text) :=
  decidable_of_iff (text ≠ [] ∧ text.all isFieldChar = true) (by simp [IsField])

namespace Value

def write (operator : Operator) : Value → List Char
  | .null => (if operator = .ne then "is not null" else "is null").toList
  | .bool true => (if operator = .ne then "is not true" else "is true").toList
  | .bool false => (if operator = .ne then "is not false" else "is false").toList
  | .number digits => (operator.text ++ " ").toList ++ digits.toList
  | .text content =>
      (operator.text ++ " ").toList ++
        ('\'' :: Escaping.doubleQuotes content.toList ++ ['\''])

def WellFormed (operator : Operator) : Value → Prop
  | .null | .bool _ => operator = .eq ∨ operator = .ne
  | .number digits => Decimal.IsNumeral digits.toList
  | .text _ => True

end Value

namespace Predicate

def write (predicate : Predicate) : List Char :=
  predicate.field.toList ++ ' ' :: predicate.value.write predicate.operator

structure WellFormed (predicate : Predicate) : Prop where
  field : IsField predicate.field.toList
  value : predicate.value.WellFormed predicate.operator

end Predicate

/-! ## Expressions -/

mutual

inductive Term where
  | predicate (predicate : Predicate)
  | group (expression : Expression)

inductive Expression where
  | single (term : Term)
  | chain (term : Term) (logic : Logic) (rest : Expression)

end

def connective : Logic → List Char
  | .and => " and ".toList
  | .or => " or ".toList

mutual

def Term.write : Term → List Char
  | .predicate predicate => predicate.write
  | .group expression => '(' :: expression.write ++ [')']

def Expression.write : Expression → List Char
  | .single term => term.write
  | .chain term logic rest => term.write ++ connective logic ++ rest.write

end

mutual

def Term.WellFormed : Term → Prop
  | .predicate predicate => predicate.WellFormed
  | .group expression => expression.WellFormed

def Expression.WellFormed : Expression → Prop
  | .single term => term.WellFormed
  | .chain term _ rest => term.WellFormed ∧ rest.WellFormed

end

theorem Term.write_ne_nil (term : Term) : term.write ≠ [] := by
  cases term with
  | predicate predicate => simp [write, Predicate.write]
  | group expression => simp [write]

theorem Expression.write_ne_nil (expression : Expression) : expression.write ≠ [] := by
  cases expression with
  | single term => simpa [write] using term.write_ne_nil
  | chain term logic rest => simp [write, term.write_ne_nil]

/-! ## Chains -/

namespace Expression

@[simp] def write? : Option Expression → List Char
  | none => []
  | some expression => expression.write

theorem write?_eq_nil_iff {expression : Option Expression} :
    write? expression = [] ↔ expression = none := by
  cases expression with
  | none => simp
  | some expression => simp [expression.write_ne_nil]

def append (logic : Logic) : Expression → Expression → Expression
  | .single term, second => .chain term logic second
  | .chain term inner rest, second => .chain term inner (rest.append logic second)

def join (logic : Logic) : List (Option Expression) → Option Expression
  | [] => none
  | none :: operands => join logic operands
  | some operand :: operands =>
      some ((join logic operands).elim operand (operand.append logic))

theorem write_append (logic : Logic) :
    ∀ first second : Expression, (first.append logic second).write =
      first.write ++ connective logic ++ second.write
  | .single term, second => by simp [append, write]
  | .chain term inner rest, second => by
      simp [append, write, write_append logic rest second]

theorem wellFormed_append {logic : Logic} :
    ∀ {first second : Expression}, first.WellFormed → second.WellFormed →
      (first.append logic second).WellFormed
  | .single _, _, one, two => ⟨one, two⟩
  | .chain _ _ _, _, one, two => ⟨one.1, wellFormed_append one.2 two⟩

theorem wellFormed_join {logic : Logic} {operands : List (Option Expression)}
    (each : ∀ operand ∈ operands, ∀ expression ∈ operand, expression.WellFormed) :
    ∀ expression ∈ join logic operands, expression.WellFormed := by
  induction operands with
  | nil => simp [join]
  | cons operand operands ih =>
      rw [List.forall_mem_cons] at each
      cases operand with
      | none => exact ih each.2
      | some operand =>
          have first := each.1 operand rfl
          rintro expression ⟨rfl⟩
          cases others : join logic operands with
          | none => exact first
          | some rest => exact wellFormed_append first (ih each.2 rest others)

end Expression

end QueryDoc.Grammar
