import QueryDoc.Proofs.Condition.Depth
import QueryDoc.Query

/-!
# The depth limit of a document

Only the filter of a document is under a limit, and the limit only cuts off: a greater one
changes nothing but that the filter may be deeper.

Main statement: `compile_of_limits`.
-/

namespace QueryDoc

open Condition (CutOff within)

namespace Query

theorem cutOff_filterOf {limit greater : Nat} (le : limit ≤ greater) (value : Option Json) :
    CutOff limit (filterOf limit value) (filterOf greater value) := by
  match value with
  | some (.object members) =>
      exact (Condition.cutOff_ofMapping le members).bind fun condition =>
        .refl (pure (some condition))
  | none | some .null | some (.array []) => exact .refl _
  | some (.bool _) | some (.number _) | some (.string _) | some (.array (_ :: _)) =>
      exact .refl _

theorem cutOff_ofText {limit greater : Nat} (le : limit ≤ greater) (text : String) :
    CutOff limit (ofText limit text) (ofText greater text) := by
  refine (CutOff.refl (membersOfText text)).bind fun members => ?_
  refine (CutOff.refl (selectOf _)).bind fun select => ?_
  refine (CutOff.refl (tableOf _)).bind fun table => ?_
  exact (cutOff_filterOf le _).bind fun filter => .refl _

def filterHeight : Option Json → Nat
  | some (.object members) => Condition.height members
  | _ => 0

theorem filterOf_eq_within {wide : Nat} {value : Option Json} {filter : Option Condition}
    (built : filterOf wide value = .ok filter) (limit : Nat) :
    filterOf limit value = within limit (filterHeight value) filter := by
  match value with
  | some (.object members) =>
      obtain ⟨condition, mapping, same⟩ := Condition.bind_eq_ok_iff.mp built
      cases same
      change (Condition.ofMapping limit members >>= fun condition => pure (some condition)) = _
      rw [Condition.ofMapping_eq_within mapping]
      exact Condition.within_bind_pure _ _ _ _
  | none | some .null | some (.array []) =>
      cases built
      rfl
  | some (.bool _) | some (.number _) | some (.string _) | some (.array (_ :: _)) =>
      cases built

end Query

theorem cutOff_compile {settings : Settings} {greater : Nat} (le : settings.maxDepth ≤ greater)
    (document : String) :
    CutOff settings.maxDepth (compile settings document)
      (compile { settings with maxDepth := greater } document) :=
  (Query.cutOff_ofText le document).bind fun _ => .refl _

theorem compile_eq_within {settings : Settings} {document text : String}
    (compiled : compile settings document = .ok text) :
    ∃ members, Query.membersOfText document = .ok members ∧ ∀ limit,
      compile { settings with maxDepth := limit } document =
        within limit (Query.filterHeight (Json.get? members "where")) text := by
  obtain ⟨query, made, written⟩ := Condition.bind_eq_ok_iff.mp compiled
  obtain ⟨members, read, made⟩ := Condition.bind_eq_ok_iff.mp made
  refine ⟨members, read, fun limit => ?_⟩
  obtain ⟨select, selected, made⟩ := Condition.bind_eq_ok_iff.mp made
  obtain ⟨table, named, made⟩ := Condition.bind_eq_ok_iff.mp made
  obtain ⟨filter, filtered, made⟩ := Condition.bind_eq_ok_iff.mp made
  obtain ⟨order, ordered, made⟩ := Condition.bind_eq_ok_iff.mp made
  cases made
  rw [compile, Query.ofText, read]
  change (Query.ofMembers limit members >>= _) = _
  rw [Query.ofMembers, selected, named, ordered]
  change ((Query.filterOf limit _ >>= _) >>= _) = _
  rw [Query.filterOf_eq_within filtered, bind_assoc]
  refine Condition.within_bind_ok ?_ limit _
  exact written

/--
A greater limit changes no result but that the old limit was exceeded.  What can be read or
compiled under some limit can be so under exactly those that its height does not exceed,
and with the same outcome.
-/
theorem compile_of_limits :
    (∀ members limit greater, limit ≤ greater →
      Condition.ofMapping limit members ≠ .error (.tooDeep limit) →
        Condition.ofMapping greater members = Condition.ofMapping limit members) ∧
    (∀ members wide condition, Condition.ofMapping wide members = .ok condition →
      ∀ limit, Condition.ofMapping limit members =
        if Condition.height members ≤ limit then .ok condition else .error (.tooDeep limit)) ∧
    (∀ document (settings : Settings) greater, settings.maxDepth ≤ greater →
      compile settings document ≠ .error (.tooDeep settings.maxDepth) →
        compile { settings with maxDepth := greater } document = compile settings document) ∧
    ∀ document settings text, compile settings document = .ok text →
      ∃ members, Query.membersOfText document = .ok members ∧
        ∀ limit, compile { settings with maxDepth := limit } document =
          if Query.filterHeight (Json.get? members "where") ≤ limit then
            .ok text
          else
            .error (.tooDeep limit) := by
  refine ⟨?_, ?_, ?_, ?_⟩
  · intro members limit greater le allowed
    exact (Condition.cutOff_ofMapping le members).resolve_left allowed
  · intro members wide condition built limit
    exact Condition.ofMapping_eq_within built limit
  · intro document settings greater le allowed
    exact (cutOff_compile le document).resolve_left allowed
  · intro document settings text compiled
    exact compile_eq_within compiled

private def nested : String :=
  "\x7b\"from\":\"t\",\"where\":\x7b\"and\":\x7b\"or\":\x7b\x7d\x7d\x7d\x7d"

theorem compile_of_limits_of_empty_group :
    let members : Json.Members := [("and", .object [("or", .object [])]), ("a", .null)]
    let faulty : Json.Members := [("!!a", .null), ("or", .object members)]
    let condition : Condition := .all [.any [.all []], .compare ⟨"a", .eq, .null⟩]
    Condition.ofMapping 2 members = .ok condition ∧
      Condition.ofMapping 1 members = .error (.tooDeep 1) ∧
      Condition.ofMapping 99 members = .ok condition ∧
      Condition.ofMapping 0 faulty ≠ .error (.tooDeep 0) ∧
      Condition.ofMapping 99 faulty = Condition.ofMapping 0 faulty ∧
      compile {} nested = .ok "select *\nfrom t;" ∧
      compile { maxDepth := 64 } nested = .ok "select *\nfrom t;" ∧
      compile { maxDepth := 1 } nested = .error (.tooDeep 1) := by
  intro members faulty condition
  have built : Condition.ofMapping 2 members = .ok condition := by rfl
  have fault : Condition.ofMapping 0 faulty = .error (.unknownOperator "!!a" "!!") := by rfl
  have compiled : compile {} nested = .ok "select *\nfrom t;" :=
    Condition.eq_ok_of_toOption (by decide +kernel)
  obtain ⟨greater, heights, greaterCompile, heightsCompile⟩ := compile_of_limits
  have allowed : Condition.ofMapping 0 faulty ≠ .error (.tooDeep 0) := by
    rw [fault]
    simp
  refine ⟨built, heights members 2 condition built 1, heights members 2 condition built 99,
    allowed, greater faulty 0 99 (by decide) allowed, compiled, ?_, ?_⟩
  · rw [← compiled]
    exact greaterCompile nested {} 64 (by decide) (by simp [compiled])
  · have two : (Query.membersOfText nested).toOption.map (fun members =>
        Query.filterHeight (Json.get? members "where")) = some 2 := by
      decide +kernel
    obtain ⟨members, read, limits⟩ := heightsCompile nested {} _ compiled
    rw [read] at two
    have height : Query.filterHeight (Json.get? members "where") = 2 := Option.some.inj two
    rw [limits 1, height]
    rfl

end QueryDoc
