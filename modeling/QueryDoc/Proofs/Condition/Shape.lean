import QueryDoc.Proofs.Query.Faults

/-!
# The shape of conditions read from a mapping

A mapping is read as a join with parentheses.  Every join inside it has parentheses
too, except that a conjunction of several parts may open a disjunction without them;
a disjunction has only groups behind its first part.  The numbers in the comparisons
are such as can be stored, and no comparison is made by `like`.

Main statement: `wellGrouped_of_ofMapping`.
-/

namespace QueryDoc

theorem Key.operator_ne_like {key field : String} {operator : Operator}
    (parsed : parse key = .ok (.comparison field operator)) : operator ≠ .like :=
  ((split key).property.parse_eq_comparison_iff.mp parsed).2.2.ne_like

theorem Literal.stored_of_ofJson {key : String} {value : Json} {number : Number}
    (plain : ofJson key value = .ok (.number number)) : number.Stored := by
  cases value with
  | number stored =>
      rw [ofJson_number, Except.ok.injEq, Literal.number.injEq] at plain
      rw [← plain]
      exact stored.stored_number
  | null | bool _ | string _ | array _ | object _ => cases plain

/-! ## Conditions inside a condition -/

namespace Condition

mutual

def nodes : Condition → List Condition
  | .compare comparison => [.compare comparison]
  | .join logic grouped parts => .join logic grouped parts :: partNodes parts

def partNodes : List Condition → List Condition
  | [] => []
  | part :: parts => part.nodes ++ partNodes parts

end

@[simp] theorem nodes_compare (comparison : Comparison) :
    (compare comparison).nodes = [.compare comparison] := by
  rw [nodes]

@[simp] theorem nodes_join (logic : Logic) (grouped : Bool) (parts : List Condition) :
    (join logic grouped parts).nodes = .join logic grouped parts :: parts.flatMap nodes := by
  rw [nodes]
  congr 1
  induction parts with
  | nil => rw [partNodes, List.flatMap_nil]
  | cons part parts ih => rw [partNodes, List.flatMap_cons, ih]

theorem compare_mem_nodes_iff {condition : Condition} {comparison : Comparison} :
    .compare comparison ∈ condition.nodes ↔ comparison ∈ condition.comparisons := by
  induction condition with
  | compare other => simp
  | join logic grouped parts ih =>
      simp only [nodes_join, comparisons_join, List.mem_cons, List.mem_flatMap, reduceCtorEq,
        false_or]
      exact exists_congr fun part => and_congr_right (ih part)

/-! ## Grouping -/

/-- A comparison, or a join with parentheses. -/
def Closed (part : Condition) : Prop :=
  part.isGroup = true ∨ ∃ comparison, part = .compare comparison

/-- A conjunction of several parts without parentheses. -/
def OpensChain (part : Condition) : Prop :=
  ∃ conjuncts, part = .join .and false conjuncts ∧ 2 ≤ conjuncts.length

/-- What the parts of a join may be. -/
structure WellGrouped (logic : Logic) (parts : List Condition) : Prop where
  ungrouped : ∀ index inner conjuncts, parts[index]? = some (.join inner false conjuncts) →
    logic = .or ∧ index = 0 ∧ inner = .and ∧ 2 ≤ conjuncts.length
  conjuncts : logic = .and → ∀ part ∈ parts, part.Closed
  alternatives : logic = .or → ∀ part ∈ parts.tail, part.isGroup = true
  nonempty : logic = .or → parts ≠ []

theorem Closed.ne_ungrouped {part : Condition} (closed : part.Closed) (logic : Logic)
    (parts : List Condition) : part ≠ .join logic false parts := by
  rintro rfl
  rcases closed with group | ⟨comparison, same⟩
  · simp [isGroup] at group
  · contradiction

theorem wellGrouped_and {parts : List Condition} (closed : ∀ part ∈ parts, part.Closed) :
    WellGrouped .and parts where
  ungrouped index inner conjuncts found :=
    absurd rfl ((closed _ (List.mem_of_getElem? found)).ne_ungrouped inner conjuncts)
  conjuncts _ := closed
  alternatives := by simp
  nonempty := by simp

theorem wellGrouped_or {first : Condition} {others : List Condition}
    (start : first.Closed ∨ first.OpensChain)
    (groups : ∀ other ∈ others, other.isGroup = true) : WellGrouped .or (first :: others) where
  ungrouped index inner conjuncts found := by
    cases index with
    | succ index =>
        have closed : Closed (.join inner false conjuncts) :=
          .inl (groups _ (List.mem_of_getElem? (by simpa using found)))
        exact absurd rfl (closed.ne_ungrouped inner conjuncts)
    | zero =>
        have same : first = .join inner false conjuncts := by simpa using found
        rcases start with closed | ⟨parts, opens, several⟩
        · exact absurd same (closed.ne_ungrouped inner conjuncts)
        · rw [opens] at same
          cases same
          exact ⟨rfl, rfl, rfl, several⟩
  conjuncts := by simp
  alternatives _ := groups
  nonempty := by simp

/-- Every join in a condition has parts that it may have. -/
def Proper (condition : Condition) : Prop :=
  ∀ logic grouped parts, .join logic grouped parts ∈ condition.nodes → WellGrouped logic parts

theorem proper_compare (comparison : Comparison) : (compare comparison).Proper := by
  simp [Proper]

theorem proper_join {logic : Logic} {grouped : Bool} {parts : List Condition}
    (wellGrouped : WellGrouped logic parts) (each : ∀ part ∈ parts, part.Proper) :
    (join logic grouped parts).Proper := by
  intro innerLogic innerGrouped innerParts inside
  rw [nodes_join, List.mem_cons, List.mem_flatMap] at inside
  rcases inside with same | ⟨part, member, inside⟩
  · cases same
    exact wellGrouped
  · exact each part member innerLogic innerGrouped innerParts inside

/-! ## Alternatives -/

theorem foldl_or_join (grouped : Bool) (parts alternatives : List Condition) :
    alternatives.foldl .or (join .or grouped parts) =
      .join .or grouped (parts ++ alternatives) := by
  induction alternatives generalizing parts with
  | nil => simp
  | cons alternative alternatives ih => simp [or, ih]

namespace Clauses

def front (clauses : Clauses) : List Condition :=
  match clauses.conjuncts with
  | [] => []
  | [part] => [part]
  | parts => [.join .and false parts]

theorem condition_eq (clauses : Clauses) :
    clauses.condition =
      if clauses.alternatives = [] then
        .all clauses.conjuncts
      else
        .any (clauses.front ++ clauses.alternatives) := by
  obtain ⟨conjuncts, alternatives⟩ := clauses
  cases alternatives with
  | nil => rfl
  | cons alternative alternatives =>
      have first : (all conjuncts).or alternative =
          .any (front ⟨conjuncts, alternative :: alternatives⟩ ++ [alternative]) := by
        match conjuncts with
        | [] | [_] | _ :: _ :: _ => rfl
      rw [condition, List.foldl_cons, first, any, foldl_or_join]
      simp [any]

theorem exists_condition_eq_join (clauses : Clauses) :
    ∃ logic parts, clauses.condition = .join logic true parts ∧
      (logic = .or ↔ clauses.alternatives ≠ []) := by
  rw [condition_eq]
  split
  · exact ⟨.and, clauses.conjuncts, rfl, by simpa⟩
  · exact ⟨.or, _, rfl, by simpa⟩

theorem proper_condition {clauses : Clauses}
    (conjunct : ∀ part ∈ clauses.conjuncts, part.Closed ∧ part.Proper)
    (alternative : ∀ part ∈ clauses.alternatives, part.isGroup = true ∧ part.Proper) :
    clauses.condition.Proper := by
  obtain ⟨conjuncts, alternatives⟩ := clauses
  simp only [imp_and, forall_and] at conjunct alternative
  obtain ⟨closed, inside⟩ := conjunct
  obtain ⟨groups, each⟩ := alternative
  rw [condition_eq]
  split
  · exact proper_join (wellGrouped_and closed) inside
  · rename_i some
    match conjuncts with
    | [] =>
        obtain ⟨first, others, rfl⟩ := List.exists_cons_of_ne_nil some
        rw [List.forall_mem_cons] at groups
        exact proper_join (wellGrouped_or (.inl (.inl groups.1)) groups.2) each
    | [part] =>
        rw [List.forall_mem_singleton] at closed inside
        exact proper_join (wellGrouped_or (.inl closed) groups)
          (List.forall_mem_cons.mpr ⟨inside, each⟩)
    | first :: second :: parts =>
        have chain : (join .and false (first :: second :: parts)).Proper :=
          proper_join (wellGrouped_and closed) inside
        exact proper_join (wellGrouped_or (.inr ⟨_, rfl, by simp⟩) groups)
          (List.forall_mem_cons.mpr ⟨chain, each⟩)

end Clauses

/-! ## Reading a mapping -/

theorem Reads.proper {limit depth : Nat} {members : Json.Members} {clauses : Clauses}
    (read : Reads limit depth members clauses) :
    (∀ part ∈ clauses.conjuncts, part.Closed ∧ part.Proper) ∧
      ∀ part ∈ clauses.alternatives, part.isGroup = true ∧ part.Proper := by
  induction read with
  | nil depth => simp [Clauses.empty]
  | @nested _ _ logic _ _ inner clauses _ _ _ _ innerIh ih =>
      have group := inner.isGroup_condition
      have proper := Clauses.proper_condition innerIh.1 innerIh.2
      cases logic with
      | and => exact ⟨List.forall_mem_cons.mpr ⟨⟨.inl group, proper⟩, ih.1⟩, ih.2⟩
      | or => exact ⟨ih.1, List.forall_mem_cons.mpr ⟨⟨group, proper⟩, ih.2⟩⟩
  | compared _ _ _ ih =>
      exact ⟨List.forall_mem_cons.mpr ⟨⟨.inr ⟨_, rfl⟩, proper_compare _⟩, ih.1⟩, ih.2⟩

theorem Reads.alternatives_ne_nil_iff {limit depth : Nat} {members : Json.Members}
    {clauses : Clauses} (read : Reads limit depth members clauses) :
    clauses.alternatives ≠ [] ↔
      ∃ member ∈ members, Key.parse member.1 = .ok (.combinator .or) := by
  induction read with
  | nil depth => simp [Clauses.empty]
  | @nested _ _ logic _ _ _ _ parsed _ _ _ _ ih =>
      cases logic with
      | and => simp [Clauses.push, parsed, ih]
      | or => simp [Clauses.push, parsed]
  | compared parsed _ _ ih => simp [Clauses.push, parsed, ih]

theorem Reads.comparison {limit depth : Nat} {members : Json.Members} {clauses : Clauses}
    (read : Reads limit depth members clauses) :
    ∀ comparison ∈ clauses.condition.comparisons, comparison.operator ≠ .like ∧
      ∀ number, comparison.value = .number number → number.Stored := by
  induction read with
  | nil depth => simp [Clauses.empty, Clauses.comparisons_condition]
  | nested _ _ _ _ innerIh ih =>
      intro comparison member
      rcases Clauses.mem_comparisons_push.mp member with inside | beside
      · exact innerIh comparison inside
      · exact ih comparison beside
  | compared parsed plain _ ih =>
      intro comparison member
      rcases Clauses.mem_comparisons_push.mp member with inside | beside
      · rw [comparisons_compare, List.mem_singleton] at inside
        subst inside
        refine ⟨Key.operator_ne_like parsed, ?_⟩
        rintro number rfl
        exact Literal.stored_of_ofJson plain
      · exact ih comparison beside

/-! ## Values of a wrong kind -/

def WantsMappingOrLiteral (fault : CompileError) : Prop :=
  ∀ key expected, fault = .typeMismatch key expected → expected = .mapping ∨ expected = .literal

mutual

theorem wants_of_mem_nestedFaults (limit depth : Nat) (key : String) :
    ∀ value, ∀ fault ∈ nestedFaults limit depth key value, WantsMappingOrLiteral fault
  | .object members => by
      intro fault member
      rw [nestedFaults, List.mem_append] at member
      rcases member with deep | inside
      · split at deep
        · rw [List.mem_singleton] at deep
          subst deep
          simp [WantsMappingOrLiteral]
        · simp at deep
      · exact wants_of_mem_memberFaults limit depth members fault inside
  | .null | .bool _ | .number _ | .string _ | .array _ => by
      simp [nestedFaults, WantsMappingOrLiteral]

theorem wants_of_mem_memberFaults (limit depth : Nat) :
    ∀ members, ∀ fault ∈ memberFaults limit depth members, WantsMappingOrLiteral fault
  | [] => by simp [memberFaults]
  | (key, value) :: members => by
      intro fault member
      rw [memberFaults, List.mem_append, List.mem_append] at member
      rcases member with unknown | here | others
      · obtain ⟨token, rfl⟩ := Key.eq_unknownOperator_of_mem_faults unknown
        simp [WantsMappingOrLiteral]
      · split at here
        · exact wants_of_mem_nestedFaults limit (depth + 1) key value fault here
        · cases value <;> simp [Literal.faults] at here <;> simp [here, WantsMappingOrLiteral]
      · exact wants_of_mem_memberFaults limit depth members fault others

end

/--
The root is a disjunction exactly if some key of the mapping asks for one.  Every number
is an integer of 64 bits or a finite double, whichever way it was stored, and a value is
refused only where a mapping or a literal is due: no number is.
-/
theorem wellGrouped_of_ofMapping (limit : Nat) (members : Json.Members) :
    (∀ condition, ofMapping limit members = .ok condition →
      (∃ logic parts, condition = .join logic true parts ∧
        (logic = .or ↔ ∃ member ∈ members, Key.parse member.1 = .ok (.combinator .or))) ∧
      (∀ logic grouped parts, .join logic grouped parts ∈ condition.nodes →
        WellGrouped logic parts) ∧
      ∀ comparison, .compare comparison ∈ condition.nodes →
        comparison.operator ≠ .like ∧
          ∀ number, comparison.value = .number number → number.Stored) ∧
    (∀ key, ofMapping limit members ≠ .error (.typeMismatch key .finiteNumber)) ∧
    ∀ key expected, ofMapping limit members = .error (.typeMismatch key expected) →
      expected = .mapping ∨ expected = .literal := by
  have wanted (key : String) (expected : Shape)
      (refused : ofMapping limit members = .error (.typeMismatch key expected)) :
      expected = .mapping ∨ expected = .literal := by
    have first := (reports_ofMapping limit members _).mp refused
    exact wants_of_mem_memberFaults limit 0 members _ (List.mem_of_mem_head? first)
      key expected rfl
  refine ⟨?_, ?_, wanted⟩
  · intro condition built
    obtain ⟨clauses, read, rfl⟩ := reads_of_ofMapping built
    obtain ⟨logic, parts, root, disjunction⟩ := clauses.exists_condition_eq_join
    refine ⟨⟨logic, parts, root, disjunction.trans read.alternatives_ne_nil_iff⟩,
      Clauses.proper_condition read.proper.1 read.proper.2, ?_⟩
    intro comparison inside
    exact read.comparison comparison (compare_mem_nodes_iff.mp inside)
  · intro key refused
    rcases wanted key .finiteNumber refused with other | other <;> cases other

theorem wellGrouped_of_opened_chain :
    let members : Json.Members :=
      [("or_x", .object [("!b", .null)]), (">=a", .number (.natural 18446744073709551615)),
        ("and", .object [("c", .number (.double 1.5 (by decide +kernel)))])]
    let conjuncts : List Condition :=
      [.compare ⟨"a", .ge, .number (.integer 18446744073709551615)⟩,
        all [.compare ⟨"c", .eq, .number (.float 1.5)⟩]]
    let condition := any [.join .and false conjuncts, all [.compare ⟨"b", .ne, .null⟩]]
    ofMapping 1 members = .ok condition ∧
      (∃ member ∈ members, Key.parse member.1 = .ok (.combinator .or)) ∧
      WellGrouped .and conjuncts ∧ Number.Stored (.integer 18446744073709551615) ∧
      Number.Stored (.float 1.5) := by
  intro members conjuncts condition
  have built : ofMapping 1 members = .ok condition := by rfl
  obtain ⟨⟨logic, parts, root, disjunction⟩, grouped, compared⟩ :=
    (wellGrouped_of_ofMapping 1 members).1 condition built
  refine ⟨built, disjunction.mp ?_, grouped .and false conjuncts ?_, ?_, ?_⟩
  · exact (Condition.join.inj root).1.symm
  · simp [condition, any]
  · refine (compared ⟨"a", .ge, .number (.integer 18446744073709551615)⟩ ?_).2 _ rfl
    simp [condition, conjuncts, any, all]
  · refine (compared ⟨"c", .eq, .number (.float 1.5)⟩ ?_).2 _ rfl
    simp [condition, conjuncts, any, all]

end Condition

end QueryDoc
