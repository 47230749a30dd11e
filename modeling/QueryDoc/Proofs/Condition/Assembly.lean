import QueryDoc.Condition.Mapping

/-!
# How conditions come about

A condition is put together from comparisons by `all`, `any` and `or`.  In what
these make, only a conjunction at the front of a disjunction is ever without
parentheses.  Every condition read from a mapping is put together so.

Main statements: `Assembled.bracketed`, `assembled_of_ofMapping`.
-/

namespace QueryDoc.Condition

inductive Assembled : Condition → Prop where
  | compare (comparison : Comparison) : Assembled (.compare comparison)
  | all {parts : List Condition} (each : ∀ part ∈ parts, Assembled part) :
      Assembled (.all parts)
  | any {parts : List Condition} (each : ∀ part ∈ parts, Assembled part) :
      Assembled (.any parts)
  | or {left right : Condition} (first : Assembled left) (second : Assembled right) :
      Assembled (left.or right)

/-! ## Where parentheses are left out -/

/--
Every join is grouped, except for a conjunction that is the first part of a
disjunction.
-/
inductive Bracketed : Condition → Prop where
  | compare (comparison : Comparison) : Bracketed (.compare comparison)
  | all {parts : List Condition} (each : ∀ part ∈ parts, Bracketed part) :
      Bracketed (.all parts)
  | any {parts : List Condition} (each : ∀ part ∈ parts, Bracketed part) :
      Bracketed (.any parts)
  | chain {conjuncts alternatives : List Condition}
      (conjunct : ∀ part ∈ conjuncts, Bracketed part)
      (alternative : ∀ part ∈ alternatives, Bracketed part) :
      Bracketed (.any (.join .and false conjuncts :: alternatives))

theorem Bracketed.or {left right : Condition} (first : Bracketed left)
    (second : Bracketed right) : Bracketed (left.or right) := by
  have behind (parts : List Condition) (each : ∀ part ∈ parts, Bracketed part) :
      ∀ part ∈ parts ++ [right], Bracketed part := by
    intro part member
    rcases List.mem_append.mp member with old | new
    · exact each part old
    · rwa [List.mem_singleton.mp new]
  cases first with
  | compare comparison =>
      exact .any (behind [_] (by simpa using .compare comparison))
  | all each =>
      rename_i parts
      match parts, each with
      | [], each => exact .any (behind _ each)
      | [_], each => exact .any (behind _ each)
      | _ :: _ :: _, each => exact .chain each (behind [] (by simp))
  | any each => exact .any (behind _ each)
  | chain conjunct alternative => exact .chain conjunct (behind _ alternative)

theorem Assembled.bracketed {condition : Condition} (assembled : Assembled condition) :
    Bracketed condition := by
  induction assembled with
  | compare comparison => exact .compare comparison
  | all _ ih => exact .all ih
  | any _ ih => exact .any ih
  | or _ _ first second => exact first.or second

/-! ## Reading a mapping -/

/--
The clauses that the members of a mapping give, `depth` levels below the
outermost mapping.
-/
inductive Reads (limit : Nat) : Nat → Json.Members → Clauses → Prop where
  | nil (depth : Nat) : Reads limit depth [] .empty
  | nested {depth : Nat} {key : String} {logic : Logic} {members rest : Json.Members}
      {inner clauses : Clauses} (parsed : Key.parse key = .ok (.combinator logic))
      (within : depth + 1 ≤ limit) (below : Reads limit (depth + 1) members inner)
      (others : Reads limit depth rest clauses) :
      Reads limit depth ((key, .object members) :: rest)
        (clauses.push logic inner.condition)
  | compared {depth : Nat} {key field : String} {operator : Operator} {value : Json}
      {literal : Literal} {rest : Json.Members} {clauses : Clauses}
      (parsed : Key.parse key = .ok (.comparison field operator))
      (plain : Literal.ofJson key value = .ok literal)
      (others : Reads limit depth rest clauses) :
      Reads limit depth ((key, value) :: rest)
        (clauses.push .and (.compare ⟨field, operator, literal⟩))

theorem bind_eq_ok_iff {α β : Type} {first : Except CompileError α}
    {next : α → Except CompileError β} {result : β} :
    first >>= next = .ok result ↔ ∃ value, first = .ok value ∧ next value = .ok result := by
  cases first with
  | error fault => simp [bind, Except.bind]
  | ok value => simp [bind, Except.bind]

theorem eq_ok_of_toOption {α : Type} {result : Except CompileError α} {value : α}
    (done : result.toOption = some value) : result = .ok value := by
  cases result with
  | error fault => cases done
  | ok found =>
      cases done
      rfl

theorem reads_of_clausesOf {limit depth : Nat} {members : Json.Members}
    {clauses : Clauses} (done : clausesOf limit depth members = .ok clauses) :
    Reads limit depth members clauses := by
  induction depth, members using clausesOf.induct limit
      (fun depth key value => ∀ condition,
        ofNested limit depth key value = .ok condition →
          ∃ members inner, value = .object members ∧ depth ≤ limit ∧
            Reads limit depth members inner ∧ condition = inner.condition)
      generalizing clauses with
  | case1 depth key members tooDeep ih condition done =>
      simp [ofNested, tooDeep, bind, Except.bind, throw, throwThe,
        MonadExceptOf.throw] at done
  | case2 depth key members within ih condition done =>
      simp only [ofNested, if_neg within] at done
      obtain ⟨inner, read, same⟩ := bind_eq_ok_iff.mp done
      cases same
      exact ⟨members, inner, rfl, Nat.le_of_not_lt within, ih read, rfl⟩
  | case3 value depth key scalar condition done =>
      cases value with
      | object members => exact (scalar members rfl).elim
      | _ => cases done
  | case4 depth =>
      cases done
      exact .nil depth
  | case5 depth key value members nestedIh ih =>
      rw [clausesOf] at done
      obtain ⟨found, parsed, done⟩ := bind_eq_ok_iff.mp done
      cases found with
      | combinator logic =>
          obtain ⟨condition, nested, done⟩ := bind_eq_ok_iff.mp done
          obtain ⟨rest, others, same⟩ := bind_eq_ok_iff.mp done
          obtain ⟨members, inner, rfl, within, below, rfl⟩ := nestedIh condition nested
          cases same
          exact .nested parsed within below (ih others)
      | comparison field operator =>
          obtain ⟨literal, plain, done⟩ := bind_eq_ok_iff.mp done
          obtain ⟨rest, others, same⟩ := bind_eq_ok_iff.mp done
          cases same
          exact .compared parsed plain (ih others)

theorem reads_of_ofMapping {limit : Nat} {members : Json.Members} {condition : Condition}
    (done : ofMapping limit members = .ok condition) :
    ∃ clauses, Reads limit 0 members clauses ∧ condition = clauses.condition := by
  obtain ⟨clauses, read, same⟩ := bind_eq_ok_iff.mp done
  cases same
  exact ⟨clauses, reads_of_clausesOf read, rfl⟩

theorem assembled_foldl_or {first : Condition} {alternatives : List Condition}
    (assembled : Assembled first)
    (each : ∀ alternative ∈ alternatives, Assembled alternative) :
    Assembled (alternatives.foldl .or first) := by
  induction alternatives generalizing first with
  | nil => exact assembled
  | cons alternative alternatives ih =>
      rw [List.forall_mem_cons] at each
      exact ih (assembled.or each.1) each.2

theorem Reads.assembled {limit depth : Nat} {members : Json.Members} {clauses : Clauses}
    (read : Reads limit depth members clauses) :
    (∀ conjunct ∈ clauses.conjuncts, Assembled conjunct) ∧
      ∀ alternative ∈ clauses.alternatives, Assembled alternative := by
  induction read with
  | nil depth => simp [Clauses.empty]
  | @nested _ _ logic _ _ inner clauses _ _ _ _ innerIh ih =>
      have whole : Assembled inner.condition :=
        assembled_foldl_or (.all innerIh.1) innerIh.2
      cases logic with
      | and => exact ⟨List.forall_mem_cons.mpr ⟨whole, ih.1⟩, ih.2⟩
      | or => exact ⟨ih.1, List.forall_mem_cons.mpr ⟨whole, ih.2⟩⟩
  | compared _ _ _ ih =>
      exact ⟨List.forall_mem_cons.mpr ⟨.compare _, ih.1⟩, ih.2⟩

theorem assembled_of_ofMapping {limit : Nat} {members : Json.Members}
    {condition : Condition} (done : ofMapping limit members = .ok condition) :
    Assembled condition := by
  obtain ⟨clauses, read, rfl⟩ := reads_of_ofMapping done
  exact assembled_foldl_or (.all read.assembled.1) read.assembled.2

end QueryDoc.Condition
