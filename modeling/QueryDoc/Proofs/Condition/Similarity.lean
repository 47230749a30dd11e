import Mathlib.Data.List.Forall2
import QueryDoc.Proofs.Condition.Depth

/-!
# Mappings that differ in spelling and interleaving

A key may be written in several ways, and what is joined by `or` may stand anywhere among
what is joined by `and`.  Mappings that differ in no more than this, at any level, are read
as the same condition: each member is read on its own, and only the order of those that are
joined the same way counts.

Main statements: `clausesOf_eq_ok_iff`, `ofMapping_of_similar`.
-/

namespace QueryDoc.Condition

/-! ## Members that are joined the same way -/

/-- The connective by which the member under a key is joined to the others. -/
def joint (key : String) : Logic :=
  match Key.parse key with
  | .ok (.combinator logic) => logic
  | _ => .and

theorem joint_combinator {key : String} {logic : Logic}
    (parsed : Key.parse key = .ok (.combinator logic)) : joint key = logic := by
  rw [joint, parsed]

theorem joint_comparison {key field : String} {operator : Operator}
    (parsed : Key.parse key = .ok (.comparison field operator)) : joint key = .and := by
  rw [joint, parsed]

def joined (logic : Logic) (members : Json.Members) : Json.Members :=
  members.filter fun member => joint member.1 = logic

theorem joined_cons_self (member : String × Json) (members : Json.Members) :
    joined (joint member.1) (member :: members) =
      member :: joined (joint member.1) members := by
  rw [joined, List.filter_cons_of_pos (by simp)]
  rfl

theorem joined_cons_of_ne {member : String × Json} {logic : Logic}
    (other : joint member.1 ≠ logic) (members : Json.Members) :
    joined logic (member :: members) = joined logic members := by
  rw [joined, List.filter_cons_of_neg (by simpa using other)]
  rfl

namespace Clauses

def part (clauses : Clauses) : Logic → List Condition
  | .and => clauses.conjuncts
  | .or => clauses.alternatives

@[simp]
theorem part_empty (logic : Logic) : empty.part logic = [] := by
  cases logic <;> rfl

@[simp]
theorem part_push_self (clauses : Clauses) (logic : Logic) (condition : Condition) :
    (clauses.push logic condition).part logic = condition :: clauses.part logic := by
  cases logic <;> rfl

theorem part_push_of_ne {added logic : Logic} (other : added ≠ logic) (clauses : Clauses)
    (condition : Condition) :
    (clauses.push added condition).part logic = clauses.part logic := by
  cases added <;> cases logic <;> first | rfl | exact (other rfl).elim

theorem ext_part {first second : Clauses}
    (same : ∀ logic, first.part logic = second.part logic) : first = second := by
  obtain ⟨conjuncts, alternatives⟩ := first
  obtain ⟨otherConjuncts, otherAlternatives⟩ := second
  have conjunct : conjuncts = otherConjuncts := same .and
  have alternative : alternatives = otherAlternatives := same .or
  rw [conjunct, alternative]

theorem exists_push_of_part_eq_cons {clauses : Clauses} {logic : Logic}
    {condition : Condition} {rest : List Condition}
    (found : clauses.part logic = condition :: rest) :
    ∃ others : Clauses, clauses = others.push logic condition := by
  obtain ⟨conjuncts, alternatives⟩ := clauses
  cases logic with
  | and =>
      have front : conjuncts = condition :: rest := found
      exact ⟨⟨rest, alternatives⟩, by rw [front]; rfl⟩
  | or =>
      have front : alternatives = condition :: rest := found
      exact ⟨⟨conjuncts, rest⟩, by rw [front]; rfl⟩

end Clauses

/-! ## Each member on its own -/

def ofMember (limit depth : Nat) (member : String × Json) :
    Except CompileError Condition := do
  match ← Key.parse member.1 with
  | .combinator _ => ofNested limit (depth + 1) member.1 member.2
  | .comparison field operator =>
      let literal ← Literal.ofJson member.1 member.2
      return .compare ⟨field, operator, literal⟩

theorem ofMember_combinator {key : String} {logic : Logic}
    (parsed : Key.parse key = .ok (.combinator logic)) (limit depth : Nat) (value : Json) :
    ofMember limit depth (key, value) = ofNested limit (depth + 1) key value := by
  rw [ofMember, parsed]
  rfl

theorem ofMember_comparison {key field : String} {operator : Operator}
    (parsed : Key.parse key = .ok (.comparison field operator)) (limit depth : Nat)
    (value : Json) :
    ofMember limit depth (key, value) = do
      let literal ← Literal.ofJson key value
      return .compare ⟨field, operator, literal⟩ := by
  rw [ofMember, parsed]
  rfl

theorem clausesOf_cons (limit depth : Nat) (member : String × Json)
    (members : Json.Members) :
    clausesOf limit depth (member :: members) = do
      let condition ← ofMember limit depth member
      let clauses ← clausesOf limit depth members
      return clauses.push (joint member.1) condition := by
  obtain ⟨key, value⟩ := member
  cases parsed : Key.parse key with
  | error fault =>
      rw [clausesOf, ofMember, parsed]
      rfl
  | ok found =>
      cases found with
      | combinator logic =>
          rw [clausesOf_combinator parsed, ofMember_combinator parsed, joint_combinator parsed]
      | comparison field operator =>
          rw [clausesOf_comparison parsed, ofMember_comparison parsed,
            joint_comparison parsed, bind_assoc]
          rfl

def Stand (limit depth : Nat) (members : Json.Members) (conditions : List Condition) : Prop :=
  List.Forall₂ (fun member condition => ofMember limit depth member = .ok condition)
    members conditions

/--
The clauses of a mapping are the conditions of its members, of those joined by `and` and of
those joined by `or`.
-/
theorem clausesOf_eq_ok_iff {limit depth : Nat} {members : Json.Members} {clauses : Clauses} :
    clausesOf limit depth members = .ok clauses ↔
      ∀ logic, Stand limit depth (joined logic members) (clauses.part logic) := by
  induction members generalizing clauses with
  | nil =>
      constructor
      · intro read
        rw [clausesOf] at read
        cases read
        intro logic
        rw [Clauses.part_empty]
        exact .nil
      · intro stand
        have same : Clauses.empty = clauses := Clauses.ext_part fun logic => by
          rw [Clauses.part_empty]
          exact (List.forall₂_nil_left_iff.mp (stand logic)).symm
        rw [clausesOf, same]
        rfl
  | cons member members ih =>
      rw [clausesOf_cons]
      constructor
      · intro read logic
        obtain ⟨condition, made, read⟩ := bind_eq_ok_iff.mp read
        obtain ⟨others, rest, same⟩ := bind_eq_ok_iff.mp read
        cases same
        have behind := ih.mp rest
        by_cases way : joint member.1 = logic
        · subst way
          rw [joined_cons_self, Clauses.part_push_self]
          exact .cons made (behind _)
        · rw [joined_cons_of_ne way, Clauses.part_push_of_ne way]
          exact behind logic
      · intro stand
        have front := stand (joint member.1)
        rw [joined_cons_self] at front
        obtain ⟨condition, rest, made, behind, found⟩ := List.forall₂_cons_left_iff.mp front
        obtain ⟨others, rfl⟩ := Clauses.exists_push_of_part_eq_cons found
        rw [Clauses.part_push_self, List.cons.injEq] at found
        have read : clausesOf limit depth members = .ok others := by
          refine ih.mpr fun logic => ?_
          by_cases way : joint member.1 = logic
          · subst way
            rw [found.2]
            exact behind
          · have other := stand logic
            rwa [joined_cons_of_ne way, Clauses.part_push_of_ne way] at other
        rw [made, read]
        rfl

theorem ofNested_object_eq_ok_iff {limit depth : Nat} {key : String} {members : Json.Members}
    {condition : Condition} :
    ofNested limit depth key (.object members) = .ok condition ↔
      depth ≤ limit ∧ ∃ clauses, clausesOf limit depth members = .ok clauses ∧
        clauses.condition = condition := by
  rw [ofNested]
  by_cases tooDeep : limit < depth
  · rw [if_pos tooDeep]
    constructor
    · intro read
      cases read
    · rintro ⟨within, -⟩
      omega
  · rw [if_neg tooDeep]
    have within : depth ≤ limit := Nat.le_of_not_lt tooDeep
    constructor
    · intro read
      obtain ⟨clauses, inner, same⟩ := bind_eq_ok_iff.mp read
      cases same
      exact ⟨within, clauses, inner, rfl⟩
    · rintro ⟨-, clauses, inner, rfl⟩
      exact bind_eq_ok_iff.mpr ⟨clauses, inner, rfl⟩

/-! ## Similar mappings -/

/--
Members that correspond in their order.  Comparisons have keys for the same field and
operator and the same value; nested mappings have keys for the same connective, and in them
again those members correspond that are joined the same way.
-/
inductive Corresponding : Json.Members → Json.Members → Prop where
  | nil : Corresponding [] []
  | compared {key otherKey field : String} {operator : Operator} (value : Json)
      {rest otherRest : Json.Members}
      (parsed : Key.parse key = .ok (.comparison field operator))
      (otherParsed : Key.parse otherKey = .ok (.comparison field operator))
      (behind : Corresponding rest otherRest) :
      Corresponding ((key, value) :: rest) ((otherKey, value) :: otherRest)
  | nested {key otherKey : String} {logic : Logic}
      {members otherMembers rest otherRest : Json.Members}
      (parsed : Key.parse key = .ok (.combinator logic))
      (otherParsed : Key.parse otherKey = .ok (.combinator logic))
      (below : ∀ way, Corresponding (joined way members) (joined way otherMembers))
      (behind : Corresponding rest otherRest) :
      Corresponding ((key, .object members) :: rest) ((otherKey, .object otherMembers) :: otherRest)

/-- Members that are joined the same way correspond, however they are interleaved. -/
def Similar (members others : Json.Members) : Prop :=
  ∀ way, Corresponding (joined way members) (joined way others)

theorem Corresponding.symm {members others : Json.Members}
    (corresponding : Corresponding members others) : Corresponding others members := by
  induction corresponding with
  | nil => exact .nil
  | compared value parsed otherParsed _ ih => exact .compared value otherParsed parsed ih
  | nested parsed otherParsed _ _ belowIh ih => exact .nested otherParsed parsed belowIh ih

theorem Similar.symm {members others : Json.Members} (similar : Similar members others) :
    Similar others members :=
  fun way => (similar way).symm

theorem Corresponding.stand {members others : Json.Members}
    (corresponding : Corresponding members others) {limit depth : Nat}
    {conditions : List Condition} (stand : Stand limit depth members conditions) :
    Stand limit depth others conditions := by
  induction corresponding generalizing depth conditions with
  | nil => exact stand
  | @compared key otherKey _ _ value _ _ parsed otherParsed _ ih =>
      obtain ⟨condition, rest, made, behind, rfl⟩ := List.forall₂_cons_left_iff.mp stand
      rw [ofMember_comparison parsed] at made
      obtain ⟨literal, plain, same⟩ := bind_eq_ok_iff.mp made
      -- The key only matters to the fault of a value that is no literal.
      have otherPlain : Literal.ofJson otherKey value = .ok literal := by
        cases value with
        | array items | object members => cases plain
        | number stored => simpa using plain
        | null | bool truth | string text => exact plain
      refine .cons ?_ (ih behind)
      rw [ofMember_comparison otherParsed, otherPlain]
      exact same
  | nested parsed otherParsed _ _ belowIh ih =>
      obtain ⟨condition, rest, made, behind, rfl⟩ := List.forall₂_cons_left_iff.mp stand
      rw [ofMember_combinator parsed, ofNested_object_eq_ok_iff] at made
      obtain ⟨within, clauses, inner, same⟩ := made
      have otherInner := clausesOf_eq_ok_iff.mpr fun way =>
        belowIh way (clausesOf_eq_ok_iff.mp inner way)
      refine .cons ?_ (ih behind)
      rw [ofMember_combinator otherParsed, ofNested_object_eq_ok_iff]
      exact ⟨within, clauses, otherInner, same⟩

theorem Similar.ofMapping_eq_ok {members others : Json.Members}
    (similar : Similar members others) {limit : Nat} {condition : Condition}
    (built : ofMapping limit members = .ok condition) :
    ofMapping limit others = .ok condition := by
  obtain ⟨clauses, read, same⟩ := bind_eq_ok_iff.mp built
  have otherRead := clausesOf_eq_ok_iff.mpr fun way =>
    (similar way).stand (clausesOf_eq_ok_iff.mp read way)
  exact bind_eq_ok_iff.mpr ⟨clauses, otherRead, same⟩

theorem ofMapping_of_similar {members others : Json.Members}
    (similar : Similar members others) (limit : Nat) (condition : Condition) :
    ofMapping limit members = .ok condition ↔ ofMapping limit others = .ok condition := by
  constructor
  · exact similar.ofMapping_eq_ok
  · exact similar.symm.ofMapping_eq_ok

end QueryDoc.Condition
