import QueryDoc.Json
import QueryDoc.Json.Fault
import QueryDoc.Literal

/-!
# Why a query document does not compile

Each constructor is a cause, and `CompileError.message` is its only wording.
-/

namespace QueryDoc

inductive DocumentFault where
  | invalidJson (cause : Json.Cause) (position : Json.Position)
  | notAnObject
  | selectNotList (found : Json)
  | selectEntryNotText (found : Json)
  | tableNotText (found : Json)

def DocumentFault.message : DocumentFault → String
  | .invalidJson cause position => cause.message ++ " at " ++ position.text
  | .notAnObject => "expected a JSON object at the top level"
  | .selectNotList found =>
      "'select' must be a list of strings, found " ++ found.compact
  | .selectEntryNotText found =>
      "'select' entries must be strings, found " ++ found.compact
  | .tableNotText found => "'from' must be a string, found " ++ found.compact

inductive Shape where
  | mapping
  | finiteNumber
  | literal
  | direction
  deriving DecidableEq, Repr

def Shape.phrase : Shape → String
  | .mapping => "a mapping"
  | .finiteNumber => "a finite number"
  | .literal => "a null, boolean, number or string"
  | .direction => "a string direction"

inductive CompileError where
  | document (fault : DocumentFault)
  | missingTable
  | typeMismatch (key : String) (expected : Shape)
  | unknownOperator (key token : String)
  | operatorNotApplicable (operator : Operator) (kind : Literal.Kind)
  | tooDeep (limit : Nat)

def CompileError.message : CompileError → String
  | .document fault => "Document parse error: " ++ fault.message
  | .missingTable => "Missing required field 'from'"
  | .typeMismatch key expected =>
      "Type mismatch: value of '" ++ key ++ "' must be " ++ expected.phrase
  | .unknownOperator key token =>
      "Unknown operator '" ++ token ++ "' in key '" ++ key ++ "'"
  | .operatorNotApplicable operator kind =>
      "Operator '" ++ operator.text ++ "' cannot be applied to a " ++
        kind.name ++ " value"
  | .tooDeep limit =>
      "Filter nesting exceeds the maximum depth of " ++ toString limit

end QueryDoc
