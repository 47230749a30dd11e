import QueryDoc.Number

/-!
# Operators and literals

Connectives and comparison operators are known by the text that stands for them in
a query.  Literals are the values that a field can be compared with.
-/

namespace QueryDoc

inductive Logic where
  | and
  | or
  deriving DecidableEq, Repr

def Logic.keyword : Logic → String
  | .and => "and"
  | .or => "or"

inductive Operator where
  | eq
  | ne
  | lt
  | le
  | gt
  | ge
  | like
  deriving DecidableEq, Repr

namespace Operator

def text : Operator → String
  | .eq => "="
  | .ne => "!="
  | .lt => "<"
  | .le => "<="
  | .gt => ">"
  | .ge => ">="
  | .like => "like"

def isOrdering : Operator → Bool
  | .lt | .le | .gt | .ge => true
  | _ => false

end Operator

inductive Literal where
  | null
  | bool (value : Bool)
  | number (value : Number)
  | text (value : String)
  deriving DecidableEq

namespace Literal

inductive Kind where
  | null
  | boolean
  | number
  | text
  deriving DecidableEq, Repr

def Kind.name : Kind → String
  | .null => "null"
  | .boolean => "boolean"
  | .number => "number"
  | .text => "text"

def kind : Literal → Kind
  | .null => .null
  | .bool _ => .boolean
  | .number _ => .number
  | .text _ => .text

def beq : Literal → Literal → Bool
  | .null, .null => true
  | .bool first, .bool second => first == second
  | .number first, .number second => first == second
  | .text first, .text second => first == second
  | _, _ => false

instance : BEq Literal := ⟨beq⟩

end Literal

end QueryDoc
