import QueryDoc.Proofs.Condition.Leaves
import QueryDoc.Proofs.Key.Grammar
import QueryDoc.Proofs.Query.Layout

/-!
# The faults of a document

A document can be wrong in several places.  Its faults are listed here in one
order: that of the clauses, inside the conditions that of the text, and at last
that of the comparisons as they are written.  Compiling reports the first.

Main statement: `compile_eq_error_iff`.
-/

namespace QueryDoc

/-! ## Lists of faults -/

/-- A result that fails exactly if there is a fault, and then with the first one. -/
def Reports {α : Type} (result : Except CompileError α) (faults : List CompileError) : Prop :=
  ∀ error, result = .error error ↔ faults.head? = some error

namespace Reports

variable {α β : Type}

theorem ok (value : α) : Reports (.ok value) [] := by
  simp [Reports]

theorem error (fault : CompileError) (faults : List CompileError) :
    Reports (.error fault : Except CompileError α) (fault :: faults) := by
  simp [Reports]

theorem eq_nil_of_ok {result : Except CompileError α} {faults : List CompileError}
    (reports : Reports result faults) {value : α} (success : result = .ok value) :
    faults = [] := by
  cases faults with
  | nil => rfl
  | cons fault faults =>
      have failure := (reports fault).mpr rfl
      rw [success] at failure
      contradiction

theorem exists_of_error {result : Except CompileError α} {faults : List CompileError}
    (reports : Reports result faults) {fault : CompileError} (failure : result = .error fault) :
    ∃ others, faults = fault :: others := by
  exact List.head?_eq_some_iff.mp ((reports fault).mp failure)

theorem bind {first : Except CompileError α} {next : α → Except CompileError β}
    {faults others : List CompileError} (reports : Reports first faults)
    (rest : ∀ value, first = .ok value → Reports (next value) others) :
    Reports (first >>= next) (faults ++ others) := by
  cases result : first with
  | error fault =>
      obtain ⟨more, rfl⟩ := reports.exists_of_error result
      exact error fault (more ++ others)
  | ok value =>
      rw [reports.eq_nil_of_ok result]
      exact rest value result

theorem map {result : Except CompileError α} {faults : List CompileError}
    (reports : Reports result faults) (f : α → β) : Reports (f <$> result) faults := by
  cases shape : result with
  | error fault =>
      obtain ⟨more, rfl⟩ := reports.exists_of_error shape
      exact error fault more
  | ok value =>
      rw [reports.eq_nil_of_ok shape]
      exact ok (f value)

theorem mapM {check : α → Except CompileError β} {faults : α → List CompileError}
    (each : ∀ item, Reports (check item) (faults item)) (items : List α) :
    Reports (items.mapM check) (items.flatMap faults) := by
  induction items with
  | nil => exact ok []
  | cons item items ih =>
      rw [List.mapM_cons, List.flatMap_cons]
      refine (each item).bind fun value _ => ?_
      rw [← List.append_nil (items.flatMap faults)]
      exact ih.bind fun values _ => ok (value :: values)

end Reports

/-! ## Conditions -/

namespace Key

/-- A key that names no connective has to have a token that denotes an operator. -/
def faults (key : String) : List CompileError :=
  let token := (split key).val.1
  if (∃ logic, Names key logic) ∨ ∃ operator, Denotes token operator then
    []
  else
    [.unknownOperator key token]

theorem eq_unknownOperator_of_mem_faults {key : String} {fault : CompileError}
    (member : fault ∈ faults key) : ∃ token, fault = .unknownOperator key token := by
  simp only [faults] at member
  split at member
  · cases member
  · exact ⟨_, List.mem_singleton.mp member⟩

theorem reports_parse (key : String) : Reports (parse key) (faults key) := by
  intro fault
  simp only [(split key).property.parse_eq_error_iff, faults]
  split
  next known =>
    simp only [List.head?_nil, reduceCtorEq, iff_false]
    rintro ⟨bare, -, unknown⟩
    rcases known with ⟨logic, names⟩ | ⟨operator, denotes⟩
    · exact bare logic names
    · exact unknown operator denotes
  next unknown =>
    rw [not_or, not_exists, not_exists] at unknown
    simp [unknown, eq_comm]

end Key

namespace Literal

def faults (key : String) : Json → List CompileError
  | .array _ | .object _ => [.typeMismatch key .literal]
  | _ => []

theorem reports_ofJson (key : String) (value : Json) :
    Reports (ofJson key value) (faults key value) := by
  cases value with
  | array items | object members => exact .error _ []
  | number stored =>
      rw [ofJson_number]
      exact .ok _
  | null | bool value | string value => exact .ok _

end Literal

namespace Condition

mutual

def nestedFaults (limit depth : Nat) (key : String) : Json → List CompileError
  | .object members =>
      (if limit < depth then [.tooDeep limit] else []) ++ memberFaults limit depth members
  | _ => [.typeMismatch key .mapping]

def memberFaults (limit depth : Nat) : List (String × Json) → List CompileError
  | [] => []
  | (key, value) :: members =>
      Key.faults key ++
        ((if ∃ logic, Key.Names key logic then
            nestedFaults limit (depth + 1) key value
          else
            Literal.faults key value) ++ memberFaults limit depth members)

end

theorem reports_clausesOf (limit depth : Nat) (members : Json.Members) :
    Reports (clausesOf limit depth members) (memberFaults limit depth members) := by
  induction depth, members using clausesOf.induct limit
      (fun depth key value =>
        Reports (ofNested limit depth key value) (nestedFaults limit depth key value)) with
  | case1 depth key members tooDeep ih =>
      rw [ofNested, nestedFaults, if_pos tooDeep, if_pos tooDeep]
      exact .error _ _
  | case2 depth key members within ih =>
      rw [ofNested, nestedFaults, if_neg within, if_neg within]
      exact ih.map Clauses.condition
  | case3 value depth key scalar =>
      cases value with
      | object members => exact (scalar members rfl).elim
      | _ => exact .error _ []
  | case4 depth =>
      rw [clausesOf, memberFaults]
      exact .ok _
  | case5 depth key value members nestedIh ih =>
      rw [clausesOf, memberFaults]
      refine (Key.reports_parse key).bind fun found parsed => ?_
      cases found with
      | combinator logic =>
          rw [if_pos ⟨logic, Key.parse_eq_combinator_iff.mp parsed⟩]
          exact nestedIh.bind fun nested _ => ih.map (Clauses.push · logic nested)
      | comparison field operator =>
          obtain ⟨bare, -⟩ := (Key.split key).property.parse_eq_comparison_iff.mp parsed
          rw [if_neg (not_exists.mpr bare)]
          exact (Literal.reports_ofJson key value).bind fun literal _ =>
            ih.map (Clauses.push · .and (.compare ⟨field, operator, literal⟩))

theorem reports_ofMapping (limit : Nat) (members : Json.Members) :
    Reports (ofMapping limit members) (memberFaults limit 0 members) :=
  (reports_clausesOf limit 0 members).map Clauses.condition

end Condition

theorem Comparison.reports_verify (comparisons : List Comparison) :
    Reports (verify comparisons) ((comparisons.filter (!·.applies)).map fault) := by
  induction comparisons with
  | nil => exact .ok ()
  | cons comparison comparisons ih =>
      rw [verify]
      cases applicable : comparison.applies with
      | true => simpa [applicable] using ih
      | false => simpa [applicable] using Reports.error comparison.fault _

/-! ## Clauses -/

namespace Query

def selectEntryFaults : Json → List CompileError
  | .string _ => []
  | found => [.document (.selectEntryNotText found)]

def selectFaults : Option Json → List CompileError
  | none | some .null => []
  | some (.array items) => items.flatMap selectEntryFaults
  | some found => [.document (.selectNotList found)]

def tableKindFaults : Option Json → List CompileError
  | none | some .null | some (.string _) => []
  | some found => [.document (.tableNotText found)]

def tableNameFaults : Option Json → List CompileError
  | some (.string table) => if table.isEmpty then [.missingTable] else []
  | _ => [.missingTable]

def filterKindFaults : Option Json → List CompileError
  | none | some .null | some (.array []) | some (.object _) => []
  | some _ => [.typeMismatch "where" .mapping]

def conditionFaults (limit : Nat) : Option Json → List CompileError
  | some (.object members) => Condition.memberFaults limit 0 members
  | _ => []

def orderFaults : Option Json → List CompileError
  | none | some .null | some (.object []) | some (.object ((_, .string _) :: _)) => []
  | some (.object ((field, _) :: _)) => [.typeMismatch field .direction]
  | some _ => [.typeMismatch "order" .mapping]

def operatorFaults : Option Json → List CompileError
  | some (.object members) =>
      ((Condition.leaves members).filter (!·.applies)).map Comparison.fault
  | _ => []

def memberStages (limit : Nat) (members : Json.Members) : List (List CompileError) :=
  [selectFaults (Json.get? members "select"),
    tableKindFaults (Json.get? members "from"),
    tableNameFaults (Json.get? members "from"),
    filterKindFaults (Json.get? members "where"),
    conditionFaults limit (Json.get? members "where"),
    orderFaults (Json.get? members "order"),
    operatorFaults (Json.get? members "where")]

/-- The faults that each stage finds.  The first stage is that of the text itself. -/
def stages (limit : Nat) (text : String) : List (List CompileError) :=
  match Json.read text.toList with
  | .ok (.object members) => [] :: memberStages limit members
  | .ok _ => [[.document .notAnObject]]
  | .error fault => [[.document (.invalidJson fault.cause (fault.position text.toList))]]

theorem reports_selectOf (value : Option Json) :
    Reports (selectOf value) (selectFaults value) := by
  have entry (item : Json) : Reports (selectEntry item) (selectEntryFaults item) := by
    cases item with
    | string field => exact .ok field
    | _ => exact .error _ []
  match value with
  | none | some .null => exact .ok []
  | some (.array items) => exact .mapM entry items
  | some (.bool _) | some (.number _) | some (.string _) | some (.object _) =>
      exact .error _ []

theorem reports_tableOf (value : Option Json) :
    Reports (tableOf value) (tableKindFaults value ++ tableNameFaults value) := by
  match value with
  | none | some .null => exact .error _ []
  | some (.string table) =>
      rw [tableOf, tableKindFaults, tableNameFaults, List.nil_append]
      split
      · exact .error _ []
      · exact .ok table
  | some (.bool _) | some (.number _) | some (.array _) | some (.object _) =>
      exact .error _ _

theorem reports_filterOf (limit : Nat) (value : Option Json) :
    Reports (filterOf limit value)
      (filterKindFaults value ++ conditionFaults limit value) := by
  match value with
  | none | some .null | some (.array []) => exact .ok none
  | some (.object members) => exact (Condition.reports_ofMapping limit members).map some
  | some (.bool _) | some (.number _) | some (.string _) | some (.array (_ :: _)) =>
      exact .error _ []

theorem reports_orderOf (value : Option Json) :
    Reports (orderOf value) (orderFaults value) := by
  match value with
  | none | some .null | some (.object []) => exact .ok none
  | some (.object ((field, .string direction) :: _)) => exact .ok _
  | some (.object ((_, .null) :: _)) | some (.object ((_, .bool _) :: _))
  | some (.object ((_, .number _) :: _)) | some (.object ((_, .array _) :: _))
  | some (.object ((_, .object _) :: _)) => exact .error _ []
  | some (.bool _) | some (.number _) | some (.string _) | some (.array _) =>
      exact .error _ []

theorem isEmpty_of_tableOf {value : Option Json} {table : String}
    (named : tableOf value = .ok table) : table.isEmpty = false := by
  unfold tableOf at named
  split at named
  · contradiction
  · contradiction
  · split at named
    · contradiction
    · rename_i present
      cases named
      simpa using present
  · contradiction

theorem operatorFaults_of_filterOf {limit : Nat} {value : Option Json}
    {filter : Option Condition} (built : filterOf limit value = .ok filter) :
    operatorFaults value =
      ((filter.elim [] Condition.comparisons).filter (!·.applies)).map Comparison.fault := by
  rw [comparisons_of_filterOf built]
  match value with
  | none => rfl
  | some (.object members) =>
      rw [operatorFaults, Condition.leaves, Option.elim_some, Condition.groupLeaves]
  | some .null | some (.bool _) | some (.number _) | some (.string _) | some (.array _) =>
      simp [operatorFaults, Condition.groupLeaves]

theorem reports_text (escaping : Escaping) {query : Query}
    (named : query.table.isEmpty = false) :
    Reports (query.text escaping)
      ((query.comparisons.filter (!·.applies)).map Comparison.fault) := by
  rw [text_eq_layout, named]
  exact (Comparison.reports_verify query.comparisons).map _

theorem reports_members (settings : Settings) (members : Json.Members) :
    Reports (ofMembers settings.maxDepth members >>= text settings.escaping)
      (memberStages settings.maxDepth members).flatten := by
  simp only [ofMembers, bind_assoc, pure_bind, memberStages, List.flatten_cons,
    List.flatten_nil, List.append_nil]
  refine (reports_selectOf _).bind fun select _ => ?_
  rw [← List.append_assoc]
  refine (reports_tableOf _).bind fun table named => ?_
  rw [← List.append_assoc]
  refine (reports_filterOf settings.maxDepth _).bind fun filter built => ?_
  refine (reports_orderOf _).bind fun order _ => ?_
  rw [operatorFaults_of_filterOf built]
  exact reports_text settings.escaping (isEmpty_of_tableOf named)

theorem reports_compile (settings : Settings) (text : String) :
    Reports (compile settings text) (stages settings.maxDepth text).flatten := by
  rw [compile, ofText, membersOfText, stages]
  cases Json.read text.toList with
  | error fault => exact .error _ []
  | ok document =>
      cases document with
      | object members => exact reports_members settings members
      | _ => exact .error _ []

/--
Compiling fails exactly if a stage finds a fault, and reports what the first such
stage finds first.  The last stage takes the comparisons in the order in which
the condition has them.
-/
theorem compile_eq_error_iff (settings : Settings) (text : String) :
    (∀ error, compile settings text = .error error ↔
      (stages settings.maxDepth text).findSome? List.head? = some error) ∧
    ∀ members condition, Condition.ofMapping settings.maxDepth members = .ok condition →
      condition.comparisons = Condition.leaves members := by
  constructor
  · intro error
    rw [← List.head?_flatten]
    exact reports_compile settings text error
  · intro members condition built
    exact Condition.comparisons_of_ofMapping built

example : (stages 0 ("\x7b\"where\":\x7b\"!!a\":1,\"or\":\x7b\"b\":[]\x7d,\"<c\":null\x7d," ++
      "\"order\":[]\x7d")).map (List.map CompileError.message) =
    [[], [], [], ["Missing required field 'from'"], [],
      ["Unknown operator '!!' in key '!!a'",
        "Filter nesting exceeds the maximum depth of 0",
        "Type mismatch: value of 'b' must be a null, boolean, number or string"],
      ["Type mismatch: value of 'order' must be a mapping"],
      ["Operator '<' cannot be applied to a null value"]] := by
  decide +kernel

end Query

end QueryDoc
