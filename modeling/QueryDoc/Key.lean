import QueryDoc.CompileError

/-!
# Keys of a condition mapping

A key is a connective, bare or marked by `_` and something more, or it is a
field, with an operator in front unless the field is compared for equality.
-/

namespace QueryDoc

inductive Key where
  | combinator (logic : Logic)
  | comparison (field : String) (operator : Operator)
  deriving DecidableEq, Repr

namespace Key

def isMark : List Char → Bool
  | [] => true
  | '_' :: suffix => !suffix.isEmpty
  | _ => false

def combinator? : List Char → Option Logic
  | 'a' :: 'n' :: 'd' :: mark => if isMark mark then some .and else none
  | 'o' :: 'r' :: mark => if isMark mark then some .or else none
  | _ => none

def isOperatorChar (c : Char) : Bool :=
  c = '<' || c = '>' || c = '=' || c = '!'

/--
The number of operator characters at the front, of which the last is left to
the field if there is nothing else for it.
-/
def operatorLength (key : List Char) : Nat :=
  min (key.takeWhile isOperatorChar).length (key.length - 1)

def operator? : List Char → Option Operator
  | [] => some .eq
  | ['='] => some .eq
  | ['!'] => some .ne
  | ['>'] => some .gt
  | ['<'] => some .lt
  | ['>', '='] => some .ge
  | ['<', '='] => some .le
  | _ => none

def parse (key : String) : Except CompileError Key :=
  match combinator? key.toList with
  | some logic => .ok (.combinator logic)
  | none =>
      let length := operatorLength key.toList
      let token := key.toList.take length
      let field := key.toList.drop length
      match operator? token with
      | some operator => .ok (.comparison (String.ofList field) operator)
      | none => .error (.unknownOperator key (String.ofList token))

end Key

end QueryDoc
