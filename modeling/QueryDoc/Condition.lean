import QueryDoc.CompileError
import QueryDoc.Settings

/-!
# Conditions

A condition compares one field with a literal, or joins conditions.  A join is
grouped when it stands in parentheses among the parts of another join.
-/

namespace QueryDoc

structure Comparison where
  field : String
  operator : Operator
  value : Literal
  deriving DecidableEq

def Comparison.beq (first second : Comparison) : Bool :=
  first.field == second.field && first.operator == second.operator &&
    first.value == second.value

instance : BEq Comparison := ⟨Comparison.beq⟩

inductive Condition where
  | compare (comparison : Comparison)
  | join (logic : Logic) (grouped : Bool) (parts : List Condition)

namespace Condition

def all (parts : List Condition) : Condition :=
  .join .and true parts

def any (parts : List Condition) : Condition :=
  .join .or true parts

def isGroup : Condition → Bool
  | .join _ grouped _ => grouped
  | .compare _ => false

/--
Adds an alternative.  What stood before it keeps its text: a disjunction takes
one more part, and a conjunction of several parts becomes the first part of a
disjunction without parentheses of its own.
-/
def or (left right : Condition) : Condition :=
  match left with
  | .join .or grouped parts => .join .or grouped (parts ++ [right])
  | .join .and _ [] => any [right]
  | .join .and _ [part] => any [part, right]
  | .join .and _ parts => any [.join .and false parts, right]
  | .compare comparison => any [.compare comparison, right]

mutual

def beq : Condition → Condition → Bool
  | .compare first, .compare second => first == second
  | .join firstLogic firstGrouped first, .join secondLogic secondGrouped second =>
      firstLogic == secondLogic && firstGrouped == secondGrouped &&
        beqParts first second
  | _, _ => false

def beqParts : List Condition → List Condition → Bool
  | [], [] => true
  | first :: firsts, second :: seconds => beq first second && beqParts firsts seconds
  | _, _ => false

end

instance : BEq Condition := ⟨beq⟩

end Condition

end QueryDoc

/-!
## Text of conditions

Every operator applies to text, all but `like` to numbers, and only equality and its
negation to truth values and to null.  A join writes its parts with its connective
between them; parts without text are left out, and groups among the parts stand in
parentheses.
-/

namespace QueryDoc.Literal

def applies (operator : Operator) : Kind → Bool
  | .text => true
  | .number => operator == .eq || operator == .ne || operator.isOrdering
  | .null | .boolean => operator == .eq || operator == .ne

/-- Equality as it is written for truth values and null. -/
def identity (operator : Operator) : String :=
  if operator = .ne then "is not " else "is "

def phrase (escaping : Escaping) (operator : Operator) : Literal → String
  | .null => identity operator ++ "null"
  | .bool value => identity operator ++ toString value
  | .number value => operator.text ++ " " ++ value.queryText
  | .text value => operator.text ++ " '" ++ escaping.apply value ++ "'"

def fragment (escaping : Escaping) (operator : Operator) (value : Literal) :
    Except CompileError String :=
  if applies operator value.kind then
    .ok (value.phrase escaping operator)
  else
    .error (.operatorNotApplicable operator value.kind)

example : phrase .doubled .like (.text "O'Brien") = "like 'O''Brien'" := by
  decide +kernel
example : phrase .verbatim .ne (.bool false) = "is not false" := by decide

end QueryDoc.Literal

namespace QueryDoc

def Comparison.text (escaping : Escaping) (comparison : Comparison) :
    Except CompileError String := do
  let fragment ← comparison.value.fragment escaping comparison.operator
  return comparison.field ++ " " ++ fragment

namespace Condition

def enclose (part : Condition) (text : String) : String :=
  if part.isGroup then "(" ++ text ++ ")" else text

def separator (logic : Logic) : String :=
  " " ++ logic.keyword ++ " "

mutual

def text (escaping : Escaping) : Condition → Except CompileError String
  | .compare comparison => comparison.text escaping
  | .join logic _ parts => do
      let texts ← partTexts escaping parts
      return (separator logic).intercalate texts

def partTexts (escaping : Escaping) :
    List Condition → Except CompileError (List String)
  | [] => return []
  | part :: parts => do
      let first ← part.text escaping
      let others ← partTexts escaping parts
      return if first.isEmpty then others else part.enclose first :: others

end

end Condition

end QueryDoc
