import QueryDoc.Proofs.Condition.Assembly

/-!
# How deep a mapping may be

The limit on the depth of mappings only decides how far a mapping is read: what is found
without coming upon the limit is found under every greater limit too.  A mapping that can
be read at all is read exactly under the limits from its height on, and always as the same
condition.

Main statements: `cutOff_ofMapping`, `ofMapping_eq_within`.
-/

namespace QueryDoc.Condition

/-! ## One member of a mapping -/

theorem clausesOf_combinator {key : String} {logic : Logic}
    (parsed : Key.parse key = .ok (.combinator logic)) (limit depth : Nat) (value : Json)
    (members : Json.Members) :
    clausesOf limit depth ((key, value) :: members) = do
      let nested ← ofNested limit (depth + 1) key value
      let clauses ← clausesOf limit depth members
      return clauses.push logic nested := by
  rw [clausesOf, parsed]
  rfl

theorem clausesOf_comparison {key field : String} {operator : Operator}
    (parsed : Key.parse key = .ok (.comparison field operator)) (limit depth : Nat)
    (value : Json) (members : Json.Members) :
    clausesOf limit depth ((key, value) :: members) = do
      let literal ← Literal.ofJson key value
      let clauses ← clausesOf limit depth members
      return clauses.push .and (.compare ⟨field, operator, literal⟩) := by
  rw [clausesOf, parsed]
  rfl

/-! ## Greater limits -/

/-- The first result met the limit, or the second one is the same. -/
def CutOff {α : Type} (limit : Nat) (result other : Except CompileError α) : Prop :=
  result = .error (.tooDeep limit) ∨ other = result

namespace CutOff

variable {α β : Type} {limit : Nat}

theorem refl (result : Except CompileError α) : CutOff limit result result :=
  .inr rfl

theorem bind {result other : Except CompileError α}
    {next otherNext : α → Except CompileError β} (first : CutOff limit result other)
    (rest : ∀ value, CutOff limit (next value) (otherNext value)) :
    CutOff limit (result >>= next) (other >>= otherNext) := by
  rcases first with rfl | rfl
  · exact .inl rfl
  · cases other with
    | error fault => exact .inr rfl
    | ok value => exact rest value

end CutOff

theorem cutOff_clausesOf {limit greater : Nat} (le : limit ≤ greater) (depth : Nat)
    (members : Json.Members) :
    CutOff limit (clausesOf limit depth members) (clausesOf greater depth members) := by
  induction depth, members using clausesOf.induct limit
      (fun depth key value =>
        CutOff limit (ofNested limit depth key value) (ofNested greater depth key value)) with
  | case1 depth key members tooDeep ih =>
      rw [ofNested, if_pos tooDeep]
      exact .inl rfl
  | case2 depth key members allowed ih =>
      rw [ofNested, ofNested, if_neg allowed, if_neg (by omega)]
      exact ih.bind fun _ => .refl _
  | case3 value depth key scalar =>
      cases value with
      | object members => exact (scalar members rfl).elim
      | _ => exact .refl _
  | case4 depth =>
      rw [clausesOf, clausesOf]
      exact .refl _
  | case5 depth key value members nestedIh ih =>
      rw [clausesOf, clausesOf]
      refine (CutOff.refl (Key.parse key)).bind fun found => ?_
      cases found with
      | combinator logic => exact nestedIh.bind fun _ => ih.bind fun _ => .refl _
      | comparison field operator =>
          exact (CutOff.refl _).bind fun _ => ih.bind fun _ => .refl _

theorem cutOff_ofMapping {limit greater : Nat} (le : limit ≤ greater)
    (members : Json.Members) :
    CutOff limit (ofMapping limit members) (ofMapping greater members) :=
  (cutOff_clausesOf le 0 members).bind fun _ => .refl _

/-! ## The height of a mapping -/

mutual

def nestedHeight : Json → Nat
  | .object members => height members + 1
  | _ => 0

/-- The most connectives on a way from a mapping down to one nested in it. -/
def height : List (String × Json) → Nat
  | [] => 0
  | (key, value) :: members =>
      max
        (match Key.parse key with
          | .ok (.combinator _) => nestedHeight value
          | _ => 0)
        (height members)

end

theorem height_combinator {key : String} {logic : Logic}
    (parsed : Key.parse key = .ok (.combinator logic)) (value : Json)
    (members : Json.Members) :
    height ((key, value) :: members) = max (nestedHeight value) (height members) := by
  rw [height, parsed]

theorem height_comparison {key field : String} {operator : Operator}
    (parsed : Key.parse key = .ok (.comparison field operator)) (value : Json)
    (members : Json.Members) : height ((key, value) :: members) = height members := by
  rw [height, parsed, Nat.zero_max]

/-! ## Limits from a height on -/

section

variable {α β : Type}

def within (limit level : Nat) (value : α) : Except CompileError α :=
  if level ≤ limit then .ok value else .error (.tooDeep limit)

theorem within_bind_ok {value : α} {result : β} {next : α → Except CompileError β}
    (done : next value = .ok result) (limit level : Nat) :
    (within limit level value >>= next) = within limit level result := by
  unfold within
  split
  · exact done
  · rfl

theorem within_bind_pure (limit level : Nat) (value : α) (f : α → β) :
    (within limit level value >>= fun value => pure (f value)) =
      within limit level (f value) := by
  unfold within
  split <;> rfl

theorem within_bind (limit first second : Nat) (value : α) (next : α → β) :
    (within limit first value >>= fun value => within limit second (next value)) =
      within limit (max first second) (next value) := by
  unfold within
  by_cases here : first ≤ limit
  · rw [if_pos here]
    have both : max first second ≤ limit ↔ second ≤ limit := by omega
    simp only [both]
    rfl
  · rw [if_neg here, if_neg (by omega)]
    rfl

end

theorem ofNested_eq_within {limit depth : Nat} {members : Json.Members} {clauses : Clauses}
    (inner : depth + 1 ≤ limit →
      clausesOf limit (depth + 1) members = within limit (depth + 1 + height members) clauses)
    (key : String) :
    ofNested limit (depth + 1) key (.object members) =
      within limit (depth + nestedHeight (.object members)) clauses.condition := by
  have levels : depth + nestedHeight (.object members) = depth + 1 + height members := by
    rw [nestedHeight]
    omega
  rw [ofNested, levels]
  by_cases tooDeep : limit < depth + 1
  · rw [if_pos tooDeep, within, if_neg (by omega)]
    rfl
  · rw [if_neg tooDeep, inner (by omega)]
    exact within_bind_pure _ _ _ _

theorem Reads.clausesOf_eq_within {wide depth : Nat} {members : Json.Members}
    {clauses : Clauses} (read : Reads wide depth members clauses) {limit : Nat}
    (start : depth ≤ limit) :
    clausesOf limit depth members = within limit (depth + height members) clauses := by
  induction read with
  | nil depth =>
      rw [clausesOf, height, Nat.add_zero, within, if_pos start]
      rfl
  | @nested depth key logic members rest inner clauses parsed _ _ _ innerIh ih =>
      -- Whether the nested mapping or one behind it is too deep, the fault is the same.
      rw [clausesOf_combinator parsed, ofNested_eq_within innerIh, ih start,
        height_combinator parsed, ← Nat.add_max_add_left]
      simp only [within_bind_pure, within_bind]
  | @compared depth key field operator value literal rest clauses parsed plain _ ih =>
      rw [clausesOf_comparison parsed, plain, ih start, height_comparison parsed]
      exact within_bind_pure _ _ _ _

theorem ofMapping_eq_within {wide : Nat} {members : Json.Members} {condition : Condition}
    (built : ofMapping wide members = .ok condition) (limit : Nat) :
    ofMapping limit members = within limit (height members) condition := by
  obtain ⟨clauses, read, rfl⟩ := reads_of_ofMapping built
  rw [ofMapping, read.clausesOf_eq_within (Nat.zero_le limit), Nat.zero_add]
  exact within_bind_pure _ _ _ _

end QueryDoc.Condition
