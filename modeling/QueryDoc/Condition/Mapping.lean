import QueryDoc.Condition
import QueryDoc.Key

/-!
# Conditions written as a mapping

Each member of a condition mapping is a comparison or a nested mapping under a
connective.  Comparisons and nested conjunctions are joined by `and` in the
order of the mapping; nested disjunctions are alternatives to all of them.
-/

namespace QueryDoc

/-- Integers keep their exact value; only what is no integer goes by way of a double. -/
def Number.ofStored? (stored : StoredNumber) : Option Number :=
  match stored.toInt64? with
  | some value => some (.integer value.toInt)
  | none =>
      match stored.toUInt64? with
      | some value => some (.integer value.toNat)
      | none => stored.toFloat?.map .float

@[simp] theorem Number.ofStored?_eq (stored : StoredNumber) :
    ofStored? stored = some stored.number := by
  cases stored with
  | natural value =>
      rw [ofStored?, StoredNumber.toInt64?]
      by_cases small : value.toNat < Word.negativeBound
      · rw [if_pos small, StoredNumber.number]
        exact congrArg (some <| integer ·) (Int64.toInt_ofNat_of_lt small)
      · rw [if_neg small]
        rfl
  | negative value below => rfl
  | double value finite => rfl

def Literal.ofJson (key : String) : Json → Except CompileError Literal
  | .null => .ok .null
  | .bool value => .ok (.bool value)
  | .number stored =>
      match Number.ofStored? stored with
      | some value => .ok (.number value)
      | none => .error (.typeMismatch key .finiteNumber)
  | .string value => .ok (.text value)
  | .array _ | .object _ => .error (.typeMismatch key .literal)

@[simp] theorem Literal.ofJson_number (key : String) (stored : StoredNumber) :
    ofJson key (.number stored) = .ok (.number stored.number) := by
  rw [ofJson, Number.ofStored?_eq]

namespace Condition

structure Clauses where
  conjuncts : List Condition
  alternatives : List Condition

namespace Clauses

def empty : Clauses := ⟨[], []⟩

def push (clauses : Clauses) : Logic → Condition → Clauses
  | .and, condition => { clauses with conjuncts := condition :: clauses.conjuncts }
  | .or, condition => { clauses with alternatives := condition :: clauses.alternatives }

def condition (clauses : Clauses) : Condition :=
  clauses.alternatives.foldl .or (.all clauses.conjuncts)

end Clauses

mutual

/--
The condition under a connective, `depth` levels below the outermost mapping.
Nothing deeper than the limit is looked at.
-/
def ofNested (limit depth : Nat) (key : String) : Json → Except CompileError Condition
  | .object members => do
      if limit < depth then
        throw (.tooDeep limit)
      let clauses ← clausesOf limit depth members
      return clauses.condition
  | _ => throw (.typeMismatch key .mapping)

def clausesOf (limit depth : Nat) :
    List (String × Json) → Except CompileError Clauses
  | [] => return .empty
  | (key, value) :: members => do
      match ← Key.parse key with
      | .combinator logic =>
          let nested ← ofNested limit (depth + 1) key value
          let clauses ← clausesOf limit depth members
          return clauses.push logic nested
      | .comparison field operator =>
          let literal ← Literal.ofJson key value
          let clauses ← clausesOf limit depth members
          return clauses.push .and (.compare ⟨field, operator, literal⟩)

end

def ofMapping (limit : Nat) (members : Json.Members) : Except CompileError Condition := do
  let clauses ← clausesOf limit 0 members
  return clauses.condition

end Condition

end QueryDoc
