import QueryDoc.Condition.Mapping
import QueryDoc.Json.Reader
import QueryDoc.Text.Properties

/-!
# Queries

A query selects fields of the rows of one table: those that pass the filter, in
an order, and not more than the limit.  Every clause but the table may be left
out.  In the text there is one clause a line, with a semicolon behind the last, and
a filter that comes to nothing leaves no clause.

A document that gives a query is a JSON object with a member for each clause.  The
members are looked at in a fixed order, whatever their order in the text: selected
fields, table, filter, sort order, limit.  It is compiled by reading it as a query
under the settings' depth limit and writing the query under their escaping.
-/

namespace QueryDoc

structure Order where
  field : String
  direction : String
  deriving DecidableEq, Repr

structure Query where
  /-- The fields to select, or none for all of them. -/
  select : List String := []
  table : String
  filter : Option Condition := none
  order : Option Order := none
  limit : Option Nat := none

namespace Query

def selectClause (select : List String) : String :=
  if select.isEmpty then "select *" else "select " ++ ", ".intercalate select

def whereClause (condition : String) : List String :=
  if condition.isEmpty then [] else ["where " ++ condition]

def orderClause : Option Order → List String
  | none => []
  | some order => ["order by " ++ order.field ++ " " ++ order.direction]

def limitClause : Option Nat → List String
  | none => []
  | some limit => ["limit " ++ toString limit]

def conditionText (escaping : Escaping) (query : Query) : Except CompileError String :=
  match query.filter with
  | none => .ok ""
  | some condition => condition.text escaping

def clauses (query : Query) (condition : String) : List String :=
  selectClause query.select :: ("from " ++ query.table) ::
    (whereClause condition ++ orderClause query.order ++ limitClause query.limit)

def text (escaping : Escaping) (query : Query) : Except CompileError String := do
  if query.table.isEmpty then
    throw .missingTable
  let condition ← query.conditionText escaping
  return "\n".intercalate (query.clauses condition) ++ ";"

/-!
## Row limits

A limit is a natural number below `2 ^ 64`, written as a number or as text
around which there may be white space.  A double counts if it is whole; the
double `2 ^ 64`, the least that is too large, is taken for the greatest limit.
-/

def maxLimit : Nat := Word.bound - 1

def limitOfFloat (value : Float) : Option Nat := do
  let whole ← (Binary64.ofFloat value).toNat?
  if whole ≤ maxLimit + 1 then some (min whole maxLimit) else none

/-- The double of a negative number is no limit either. -/
def limitOfNumber : StoredNumber → Option Nat
  | .natural value => some value.toNat
  | .negative _ _ => none
  | .double value _ => limitOfFloat value

def limitOfJson : Json → Option Nat
  | .number value => limitOfNumber value
  | .string text => Text.unsigned? (Text.trim text.toList)
  | _ => none

example : limitOfFloat (-0.0) = some 0 := by decide +kernel
example : limitOfFloat 18446744073709551616.0 = some maxLimit := by decide +kernel
example : limitOfFloat 36893488147419103232.0 = none := by decide +kernel

/-! ## Members of a document -/

def membersOfText (text : String) : Except CompileError Json.Members :=
  match Json.read text.toList with
  | .ok (.object members) => .ok members
  | .ok _ => .error (.document .notAnObject)
  | .error fault =>
      .error (.document (.invalidJson fault.cause (fault.position text.toList)))

def selectEntry : Json → Except CompileError String
  | .string field => .ok field
  | found => .error (.document (.selectEntryNotText found))

def selectOf : Option Json → Except CompileError (List String)
  | none | some .null => .ok []
  | some (.array items) => items.mapM selectEntry
  | some found => .error (.document (.selectNotList found))

def tableOf : Option Json → Except CompileError String
  | none | some .null => .error .missingTable
  | some (.string table) => if table.isEmpty then .error .missingTable else .ok table
  | some found => .error (.document (.tableNotText found))

def filterOf (maxDepth : Nat) : Option Json → Except CompileError (Option Condition)
  | none | some .null | some (.array []) => .ok none
  | some (.object members) => some <$> Condition.ofMapping maxDepth members
  | some _ => .error (.typeMismatch "where" .mapping)

def orderOf : Option Json → Except CompileError (Option Order)
  | none | some .null | some (.object []) => .ok none
  | some (.object ((field, .string direction) :: _)) => .ok (some ⟨field, direction⟩)
  | some (.object ((field, _) :: _)) => .error (.typeMismatch field .direction)
  | some _ => .error (.typeMismatch "order" .mapping)

def ofMembers (maxDepth : Nat) (members : Json.Members) : Except CompileError Query := do
  let select ← selectOf (Json.get? members "select")
  let table ← tableOf (Json.get? members "from")
  let filter ← filterOf maxDepth (Json.get? members "where")
  let order ← orderOf (Json.get? members "order")
  let limit := (Json.get? members "limit").bind limitOfJson
  return { select, table, filter, order, limit }

def ofText (maxDepth : Nat) (text : String) : Except CompileError Query := do
  let members ← membersOfText text
  ofMembers maxDepth members

end Query

def compile (settings : Settings) (document : String) : Except CompileError String := do
  let query ← Query.ofText settings.maxDepth document
  query.text settings.escaping

end QueryDoc
