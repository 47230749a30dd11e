import QueryDoc.Proofs.Condition.Direct
import QueryDoc.Query

/-!
# The comparisons of a mapping

The condition of a mapping has a comparison for each member that is no nested
mapping.  At every level, what stands under a disjunction comes behind all else.

Main statement: `comparisons_of_ofMapping`.
-/

namespace QueryDoc

def Comparison.ofMember (key field : String) (operator : Operator) (value : Json) :
    List Comparison :=
  match Literal.ofJson key value with
  | .ok literal => [⟨field, operator, literal⟩]
  | .error _ => []

namespace Condition

mutual

def groupLeaves : Json → List Comparison
  | .object members => conjunctLeaves members ++ alternativeLeaves members
  | _ => []

def conjunctLeaves : List (String × Json) → List Comparison
  | [] => []
  | (key, value) :: members =>
      (match Key.parse key with
        | .ok (.comparison field operator) => Comparison.ofMember key field operator value
        | .ok (.combinator .and) => groupLeaves value
        | _ => []) ++ conjunctLeaves members

def alternativeLeaves : List (String × Json) → List Comparison
  | [] => []
  | (key, value) :: members =>
      (match Key.parse key with
        | .ok (.combinator .or) => groupLeaves value
        | _ => []) ++ alternativeLeaves members

end

def leaves (members : Json.Members) : List Comparison :=
  conjunctLeaves members ++ alternativeLeaves members

theorem Reads.leaves {limit depth : Nat} {members : Json.Members} {clauses : Clauses}
    (read : Reads limit depth members clauses) :
    clauses.conjuncts.flatMap comparisons = conjunctLeaves members ∧
      clauses.alternatives.flatMap comparisons = alternativeLeaves members := by
  induction read with
  | nil depth => simp [Clauses.empty, conjunctLeaves, alternativeLeaves]
  | @nested _ _ logic members _ inner _ parsed _ _ _ innerIh ih =>
      have group : groupLeaves (.object members) = inner.condition.comparisons := by
        rw [groupLeaves, inner.comparisons_condition, innerIh.1, innerIh.2]
      rw [conjunctLeaves, alternativeLeaves, parsed, ← ih.1, ← ih.2]
      cases logic with
      | and => simp [Clauses.push, group]
      | or => simp [Clauses.push, group]
  | compared parsed plain _ ih =>
      rw [conjunctLeaves, alternativeLeaves, parsed, ← ih.1, ← ih.2]
      simp [Clauses.push, Comparison.ofMember, plain]

theorem comparisons_of_ofMapping {limit : Nat} {members : Json.Members}
    {condition : Condition} (done : ofMapping limit members = .ok condition) :
    condition.comparisons = leaves members := by
  obtain ⟨clauses, read, rfl⟩ := reads_of_ofMapping done
  rw [clauses.comparisons_condition, read.leaves.1, read.leaves.2, leaves]

end Condition

theorem Query.comparisons_of_filterOf {limit : Nat} {value : Option Json}
    {filter : Option Condition} (built : filterOf limit value = .ok filter) :
    filter.elim [] Condition.comparisons = value.elim [] Condition.groupLeaves := by
  match value with
  | none =>
      cases built
      rfl
  | some .null | some (.array []) =>
      cases built
      simp [Condition.groupLeaves]
  | some (.object members) =>
      change (some <$> Condition.ofMapping limit members) = .ok filter at built
      cases read : Condition.ofMapping limit members with
      | error fault =>
          rw [read] at built
          cases built
      | ok condition =>
          rw [read] at built
          cases built
          change condition.comparisons = Condition.groupLeaves (.object members)
          rw [Condition.comparisons_of_ofMapping read, Condition.groupLeaves, Condition.leaves]
  | some (.array (_ :: _)) | some (.bool _) | some (.number _) | some (.string _) =>
      cases built

end QueryDoc
