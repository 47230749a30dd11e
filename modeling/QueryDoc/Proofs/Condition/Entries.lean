import Mathlib.Data.List.Forall2
import QueryDoc.Proofs.Condition.Direct

/-!
# The entries of a mapping

A member of a mapping that is no nested mapping is an entry, and so are the entries of
its nested mappings.  Reading a mapping takes its entries level by level: at each level
those under a disjunction come behind all others, and otherwise the order of the mapping
stays.  The condition has one comparison for each entry.

Main statement: `comparisons_standFor_entries`.
-/

namespace QueryDoc

def Json.literal? : Json → Option Literal
  | .null => some .null
  | .bool value => some (.bool value)
  | .number value => some (.number value.number)
  | .string value => some (.text value)
  | .array _ | .object _ => none

theorem Literal.ofJson_eq_ok_iff {key : String} {value : Json} {literal : Literal} :
    ofJson key value = .ok literal ↔ value.literal? = some literal := by
  cases value with
  | number stored => simp [Json.literal?]
  | null | bool value | string value | array items | object members =>
      simp [ofJson, Json.literal?]

/-- The field and the operator are those of the key, and the literal is the value. -/
def Comparison.StandsFor (comparison : Comparison) (entry : String × Json) : Prop :=
  Key.parse entry.1 = .ok (.comparison comparison.field comparison.operator) ∧
    entry.2.literal? = some comparison.value

namespace Condition

/-! ## Entries in the order of the condition -/

mutual

def groupEntries : Json → List (String × Json)
  | .object members => conjunctEntries members ++ alternativeEntries members
  | _ => []

def conjunctEntries : List (String × Json) → List (String × Json)
  | [] => []
  | (key, value) :: members =>
      (match Key.parse key with
        | .ok (.comparison _ _) => [(key, value)]
        | .ok (.combinator .and) => groupEntries value
        | _ => []) ++ conjunctEntries members

def alternativeEntries : List (String × Json) → List (String × Json)
  | [] => []
  | (key, value) :: members =>
      (match Key.parse key with
        | .ok (.combinator .or) => groupEntries value
        | _ => []) ++ alternativeEntries members

end

def entries (members : Json.Members) : List (String × Json) :=
  conjunctEntries members ++ alternativeEntries members

theorem Reads.standFor_entries {limit depth : Nat} {members : Json.Members}
    {clauses : Clauses} (read : Reads limit depth members clauses) :
    List.Forall₂ Comparison.StandsFor (clauses.conjuncts.flatMap comparisons)
        (conjunctEntries members) ∧
      List.Forall₂ Comparison.StandsFor (clauses.alternatives.flatMap comparisons)
        (alternativeEntries members) := by
  induction read with
  | nil depth =>
      rw [conjunctEntries, alternativeEntries]
      exact ⟨.nil, .nil⟩
  | @nested _ _ logic nestedMembers _ inner _ parsed _ _ _ innerIh ih =>
      have group : List.Forall₂ Comparison.StandsFor inner.condition.comparisons
          (groupEntries (.object nestedMembers)) := by
        rw [groupEntries, inner.comparisons_condition]
        exact List.rel_append innerIh.1 innerIh.2
      rw [conjunctEntries, alternativeEntries, parsed]
      cases logic with
      | and => exact ⟨List.rel_append group ih.1, ih.2⟩
      | or => exact ⟨ih.1, List.rel_append group ih.2⟩
  | compared parsed plain _ ih =>
      rw [conjunctEntries, alternativeEntries, parsed]
      refine ⟨?_, ih.2⟩
      simp only [Clauses.push, List.flatMap_cons, comparisons_compare]
      exact .cons ⟨parsed, Literal.ofJson_eq_ok_iff.mp plain⟩ ih.1

/-! ## Entries in the order of the document -/

mutual

def valueEntries : Json → List (String × Json)
  | .object members => documentEntries members
  | _ => []

def documentEntries : List (String × Json) → List (String × Json)
  | [] => []
  | (key, value) :: members =>
      (match Key.parse key with
        | .ok (.comparison _ _) => [(key, value)]
        | .ok (.combinator _) => valueEntries value
        | .error _ => []) ++ documentEntries members

end

mutual

theorem groupEntries_perm : ∀ value, (groupEntries value).Perm (valueEntries value)
  | .object members => by
      rw [groupEntries, valueEntries]
      exact entries_perm members
  | .null | .bool _ | .number _ | .string _ | .array _ => by
      simp [groupEntries, valueEntries]

/-- Entries change their places, but none is lost and none is doubled. -/
theorem entries_perm : ∀ members : List (String × Json),
    (conjunctEntries members ++ alternativeEntries members).Perm (documentEntries members)
  | [] => by simp [conjunctEntries, alternativeEntries, documentEntries]
  | (key, value) :: members => by
      have others := entries_perm members
      have group := groupEntries_perm value
      rw [conjunctEntries, alternativeEntries, documentEntries]
      match Key.parse key with
      | .error fault => simpa using others
      | .ok (.comparison field operator) => simpa using others
      | .ok (.combinator .and) => simpa using group.append others
      | .ok (.combinator .or) =>
          refine List.Perm.trans ?_ (group.append others)
          rw [List.nil_append]
          exact List.perm_append_comm_assoc _ _ _

end

/--
The comparisons of a condition stand for the entries of its mapping, one for one and in
their order, and there are as many as the document has entries.
-/
theorem comparisons_standFor_entries {limit : Nat} {members : Json.Members}
    {condition : Condition} (built : ofMapping limit members = .ok condition) :
    List.Forall₂ Comparison.StandsFor condition.comparisons (entries members) ∧
      condition.comparisons.length = (documentEntries members).length := by
  obtain ⟨clauses, read, rfl⟩ := reads_of_ofMapping built
  have standFor : List.Forall₂ Comparison.StandsFor clauses.condition.comparisons
      (entries members) := by
    rw [clauses.comparisons_condition]
    exact List.rel_append read.standFor_entries.1 read.standFor_entries.2
  exact ⟨standFor, standFor.length_eq.trans (entries_perm members).length_eq⟩

theorem comparisons_standFor_of_scattered :
    let members : Json.Members :=
      [("or_x", .object [("b", .null), ("or", .object [("c", .bool true)]), ("=d", .null)]),
        (">a", .string "x"),
        ("and", .object [("or_y", .object [("f", .null)]), ("!e", .string "")])]
    let condition : Condition :=
      any [
        join .and false [
          .compare ⟨"a", .gt, .text "x"⟩,
          any [.compare ⟨"e", .ne, .text ""⟩, all [.compare ⟨"f", .eq, .null⟩]]],
        any [
          join .and false [.compare ⟨"b", .eq, .null⟩, .compare ⟨"d", .eq, .null⟩],
          all [.compare ⟨"c", .eq, .bool true⟩]]]
    ofMapping 2 members = .ok condition ∧
      (entries members).map Prod.fst = [">a", "!e", "f", "b", "=d", "c"] ∧
      List.Forall₂ Comparison.StandsFor condition.comparisons (entries members) ∧
      condition.comparisons.length = 6 := by
  intro members condition
  have built : ofMapping 2 members = .ok condition := by rfl
  have order : (entries members).map Prod.fst = [">a", "!e", "f", "b", "=d", "c"] := by
    decide
  obtain ⟨standFor, count⟩ := comparisons_standFor_entries built
  exact ⟨built, order, standFor, count⟩

end Condition

end QueryDoc
