import QueryDoc.Proofs.Condition.Similarity
import QueryDoc.Query

/-!
# Documents that differ in one member

A query depends on what its document has under each key, and on nothing else.  In place of
one filter there may stand a similar one.

Main statement: `compile_of_similar_filters`.
-/

namespace QueryDoc

def Json.SameBut (key : String) (members others : Json.Members) : Prop :=
  ∀ other, other ≠ key → Json.get? others other = Json.get? members other

namespace Query

variable {members others : Json.Members} {limit : Nat}

theorem ofMembers_of_filterOf (same : Json.SameBut "where" members others)
    (filter : filterOf limit (Json.get? others "where") =
      filterOf limit (Json.get? members "where")) :
    ofMembers limit others = ofMembers limit members := by
  have select := same "select" (by decide)
  have table := same "from" (by decide)
  have order := same "order" (by decide)
  have rows := same "limit" (by decide)
  rw [ofMembers, select, table, filter, order, rows, ofMembers]

theorem ofMembers_of_limitOfJson (same : Json.SameBut "limit" members others)
    (rows : (Json.get? others "limit").bind limitOfJson =
      (Json.get? members "limit").bind limitOfJson) :
    ofMembers limit others = ofMembers limit members := by
  have select := same "select" (by decide)
  have table := same "from" (by decide)
  have filter := same "where" (by decide)
  have order := same "order" (by decide)
  rw [ofMembers, select, table, filter, order, rows, ofMembers]

end Query

theorem compile_of_ofMembers {settings : Settings} {document other : String}
    {members others : Json.Members} (read : Query.membersOfText document = .ok members)
    (otherRead : Query.membersOfText other = .ok others)
    (same : Query.ofMembers settings.maxDepth others =
      Query.ofMembers settings.maxDepth members) :
    compile settings other = compile settings document := by
  have text : Query.ofText settings.maxDepth other =
      Query.ofText settings.maxDepth document := by
    rw [Query.ofText, otherRead, Query.ofText, read]
    exact same
  rw [compile, text, compile]

/--
Similar mappings are read as the same condition or not at all, and if one can be read, then
documents which differ only in these as their filters have the same result.
-/
theorem compile_of_similar_filters {filter otherFilter : Json.Members}
    (similar : Condition.Similar filter otherFilter) :
    (∀ limit condition, Condition.ofMapping limit filter = .ok condition ↔
      Condition.ofMapping limit otherFilter = .ok condition) ∧
    ∀ settings condition, Condition.ofMapping settings.maxDepth filter = .ok condition →
      ∀ document other members others, Query.membersOfText document = .ok members →
        Query.membersOfText other = .ok others →
        Json.get? members "where" = some (.object filter) →
        Json.get? others "where" = some (.object otherFilter) →
        Json.SameBut "where" members others →
          compile settings other = compile settings document := by
  constructor
  · exact Condition.ofMapping_of_similar similar
  · intro settings condition built document other members others read otherRead found
      otherFound same
    have otherBuilt := similar.ofMapping_eq_ok built
    refine compile_of_ofMembers read otherRead (Query.ofMembers_of_filterOf same ?_)
    rw [found, otherFound, Query.filterOf, Query.filterOf, built, otherBuilt]

private def interleaved : String :=
  "\x7b\"from\":\"t\",\"where\":\x7b\"or\":\x7b\"=a\":\"x\"\x7d," ++
    "\"and\":\x7b\"b\":null,\"or_x\":\x7b\">d\":\"y\"\x7d\x7d,\"c\":true\x7d\x7d"

private def rearranged : String :=
  "\x7b\"where\":\x7b\"and_y\":\x7b\"or\":\x7b\">d\":\"y\"\x7d,\"=b\":null\x7d," ++
    "\"=c\":true,\"or_z\":\x7b\"a\":\"x\"\x7d\x7d,\"from\":\"t\"\x7d"

theorem compile_of_similar_filters_of_rearranged :
    let filter : Json.Members :=
      [("or", .object [("=a", .string "x")]),
        ("and", .object [("b", .null), ("or_x", .object [(">d", .string "y")])]),
        ("c", .bool true)]
    let otherFilter : Json.Members :=
      [("and_y", .object [("or", .object [(">d", .string "y")]), ("=b", .null)]),
        ("=c", .bool true), ("or_z", .object [("a", .string "x")])]
    let members : Json.Members := [("from", .string "t"), ("where", .object filter)]
    let others : Json.Members := [("where", .object otherFilter), ("from", .string "t")]
    Condition.Similar filter otherFilter ∧
      Query.membersOfText interleaved = .ok members ∧
      Query.membersOfText rearranged = .ok others ∧ Json.SameBut "where" members others ∧
      compile {} rearranged = compile {} interleaved ∧
      compile {} rearranged =
        .ok "select *\nfrom t\nwhere (b is null or (d > 'y')) and c is true or (a = 'x');" := by
  intro filter otherFilter members others
  have innermost : Condition.Corresponding [("=a", .string "x")]
      [("a", .string "x")] :=
    .compared _ rfl rfl .nil
  have middle : Condition.Similar [("b", .null), ("or_x", .object [(">d", .string "y")])]
      [("or", .object [(">d", .string "y")]), ("=b", .null)] := by
    intro way
    cases way with
    | and => exact .compared _ rfl rfl .nil
    | or =>
        refine .nested rfl rfl (fun way => ?_) .nil
        cases way with
        | and => exact .compared _ rfl rfl .nil
        | or => exact .nil
  have similar : Condition.Similar filter otherFilter := by
    intro way
    cases way with
    | and => exact .nested rfl rfl middle (.compared _ rfl rfl .nil)
    | or =>
        refine .nested rfl rfl (fun way => ?_) .nil
        cases way with
        | and => exact innermost
        | or => exact .nil
  have read : Query.membersOfText interleaved = .ok members := by with_unfolding_all rfl
  have otherRead : Query.membersOfText rearranged = .ok others := by with_unfolding_all rfl
  have same : Json.SameBut "where" members others := by
    intro key other
    have skipped : (key == "where") = false := beq_false_of_ne other
    simp only [Json.get?, members, others, List.lookup_cons, skipped]
  have compiled : compile {} interleaved =
      .ok "select *\nfrom t\nwhere (b is null or (d > 'y')) and c is true or (a = 'x');" :=
    Condition.eq_ok_of_toOption (by decide +kernel)
  obtain ⟨condition, built⟩ : ∃ condition, Condition.ofMapping 32 filter = .ok condition :=
    ⟨_, rfl⟩
  obtain ⟨-, results⟩ := compile_of_similar_filters similar
  have agree : compile {} rearranged = compile {} interleaved :=
    results {} condition built interleaved rearranged members others read otherRead rfl rfl same
  exact ⟨similar, read, otherRead, same, agree, agree.trans compiled⟩

end QueryDoc
