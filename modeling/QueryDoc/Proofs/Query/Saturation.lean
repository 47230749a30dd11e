import QueryDoc.Proofs.Json.Levels
import QueryDoc.Proofs.Query.Depth
import QueryDoc.Proofs.Query.Faults

/-!
# Limits that no document exceeds

Every mapping of a filter is an object in the document, which may have no more than so many
levels.  The filter stands on the second of them, so that a limit of all levels but two
admits every filter, and each lower one refuses some.

Main statement: `compile_of_saturated_limit`.
-/

namespace QueryDoc

namespace Condition

/-! ## Mappings below a mapping -/

mutual

theorem nestedHeight_le_levels : ∀ value : Json, nestedHeight value ≤ value.levels
  | .object members => by
      have inside := height_le_memberLevels members
      rw [nestedHeight, Json.levels]
      omega
  | .null | .bool _ | .number _ | .string _ | .array _ => by
      simp [nestedHeight]

theorem height_le_memberLevels :
    ∀ members : List (String × Json), height members ≤ Json.memberLevels members
  | [] => by simp [height]
  | (key, value) :: members => by
      have first := nestedHeight_le_levels value
      have others := height_le_memberLevels members
      rw [height, Json.memberLevels]
      split <;> omega

end

/-- Reading the mapping at a depth comes to read another one, at another depth. -/
inductive Enters : Nat → Json.Members → Nat → Json.Members → Prop where
  | here (depth : Nat) (members : Json.Members) : Enters depth members depth members
  | nested {depth level : Nat} {key : String} {logic : Logic} {members rest : Json.Members}
      {found : Json.Members} (parsed : Key.parse key = .ok (.combinator logic))
      (below : Enters (depth + 1) members level found) :
      Enters depth ((key, .object members) :: rest) level found
  | behind {depth level : Nat} {members : Json.Members} {found : Json.Members}
      (member : String × Json) (others : Enters depth members level found) :
      Enters depth (member :: members) level found

theorem Enters.level_le {depth level : Nat} {members found : Json.Members}
    (enters : Enters depth members level found) : level ≤ depth + height members := by
  induction enters with
  | here depth members => exact Nat.le_add_right depth _
  | nested parsed _ ih =>
      rw [height_combinator parsed, nestedHeight]
      omega
  | behind member _ ih =>
      obtain ⟨key, value⟩ := member
      rw [height]
      omega

/-! ## Mappings within the limit -/

mutual

theorem tooDeep_not_mem_nestedFaults (limit exceeded : Nat) (key : String) :
    ∀ (depth : Nat) (value : Json), depth + nestedHeight value ≤ limit →
      .tooDeep exceeded ∉ nestedFaults limit (depth + 1) key value
  | depth, .object members => by
      intro shallow
      rw [nestedHeight] at shallow
      rw [nestedFaults, if_neg (by omega), List.nil_append]
      exact tooDeep_not_mem_memberFaults limit exceeded (depth + 1) members (by omega)
  | depth, .null | depth, .bool _ | depth, .number _ | depth, .string _ | depth, .array _ => by
      simp [nestedFaults]

theorem tooDeep_not_mem_memberFaults (limit exceeded : Nat) :
    ∀ (depth : Nat) (members : List (String × Json)), depth + height members ≤ limit →
      .tooDeep exceeded ∉ memberFaults limit depth members
  | depth, [] => by simp [memberFaults]
  | depth, (key, value) :: members => by
      intro shallow
      have less : height members ≤ height ((key, value) :: members) := by
        rw [height]
        omega
      have others := tooDeep_not_mem_memberFaults limit exceeded depth members (by omega)
      rw [memberFaults, List.mem_append, List.mem_append, not_or, not_or]
      refine ⟨?_, ?_, others⟩
      · intro unknown
        obtain ⟨token, same⟩ := Key.eq_unknownOperator_of_mem_faults unknown
        cases same
      · split
        next named =>
          obtain ⟨logic, names⟩ := named
          rw [height_combinator (Key.parse_eq_combinator_iff.mpr names)] at shallow
          exact tooDeep_not_mem_nestedFaults limit exceeded key depth value (by omega)
        next => cases value <;> simp [Literal.faults]

end

end Condition

namespace Query

/-! ## Filters of documents -/

theorem filterHeight_le {document : String} {members : Json.Members}
    (read : membersOfText document = .ok members) :
    filterHeight (Json.get? members "where") + 2 ≤ Json.maxLevels := by
  have within : Json.memberLevels members + 1 ≤ Json.maxLevels := by
    unfold membersOfText at read
    split at read
    · rename_i found
      cases read
      exact Json.levels_le_of_read found
    · cases read
    · cases read
  cases found : Json.get? members "where" with
  | none => decide
  | some value =>
      have inside := Json.levels_le_of_get? found
      cases value with
      | object mapping =>
          have height := Condition.height_le_memberLevels mapping
          rw [Json.levels] at inside
          rw [filterHeight]
          omega
      | null | bool _ | number _ | string _ | array _ => exact (by decide : 0 + 2 ≤ Json.maxLevels)

theorem tooDeep_not_mem_memberStages {limit : Nat} {members : Json.Members}
    (shallow : filterHeight (Json.get? members "where") ≤ limit) (exceeded : Nat) :
    .tooDeep exceeded ∉ (memberStages limit members).flatten := by
  have conditions : .tooDeep exceeded ∉ conditionFaults limit (Json.get? members "where") := by
    unfold conditionFaults
    split
    · rename_i mapping found
      rw [found, filterHeight, ← Nat.zero_add (Condition.height mapping)] at shallow
      exact Condition.tooDeep_not_mem_memberFaults limit exceeded 0 mapping shallow
    · simp
  have entry (item : Json) : .tooDeep exceeded ∉ selectEntryFaults item := by
    cases item <;> simp [selectEntryFaults]
  simp only [memberStages, List.flatten_cons, List.flatten_nil, List.mem_append, not_or]
  refine ⟨?_, ?_, ?_, ?_, conditions, ?_, ?_, List.not_mem_nil⟩
  · unfold selectFaults
    split <;> simp [entry]
  · unfold tableKindFaults
    split <;> simp
  · unfold tableNameFaults
    split <;> simp
  · unfold filterKindFaults
    split <;> simp
  · unfold orderFaults
    split <;> simp
  · unfold operatorFaults
    split <;> simp [Comparison.fault]

theorem tooDeep_not_mem_stages {limit : Nat} (wide : 125 ≤ limit) (document : String)
    (exceeded : Nat) : .tooDeep exceeded ∉ (stages limit document).flatten := by
  unfold stages
  split
  · rename_i members found
    have read : membersOfText document = .ok members := by rw [membersOfText, found]
    have height := filterHeight_le read
    rw [List.flatten_cons, List.nil_append]
    exact tooDeep_not_mem_memberStages (by simp only [Json.maxLevels] at height; omega) exceeded
  · simp
  · simp

end Query

theorem compile_ne_tooDeep {settings : Settings} (wide : 125 ≤ settings.maxDepth)
    (document : String) (exceeded : Nat) :
    compile settings document ≠ .error (.tooDeep exceeded) := by
  intro refused
  have first := (Query.reports_compile settings document _).mp refused
  exact Query.tooDeep_not_mem_stages wide document exceeded (List.mem_of_mem_head? first)

/-! ## Filters as deep as a limit -/

namespace Condition

def conjunctions : Nat → Condition
  | 0 => all []
  | count + 1 => all [conjunctions count]

theorem clausesOf_chain {limit depth count : Nat} (shallow : depth + count ≤ limit) :
    ∃ clauses, clausesOf limit depth (Json.chain count) = .ok clauses ∧
      clauses.condition = conjunctions count := by
  induction count generalizing depth with
  | zero =>
      rw [Json.chain, clausesOf]
      exact ⟨.empty, rfl, rfl⟩
  | succ count ih =>
      obtain ⟨inner, read, condition⟩ := @ih (depth + 1) (by omega)
      have parsed : Key.parse "and" = .ok (.combinator .and) := by rfl
      have nested : ofNested limit (depth + 1) "and" (.object (Json.chain count)) =
          .ok (conjunctions count) := by
        rw [ofNested, if_neg (by omega), read, ← condition]
        rfl
      rw [Json.chain, clausesOf_combinator parsed, nested, clausesOf]
      exact ⟨Clauses.empty.push .and (conjunctions count), rfl, rfl⟩

theorem ofMapping_chain (count : Nat) :
    ofMapping count (Json.chain count) = .ok (conjunctions count) := by
  obtain ⟨clauses, read, condition⟩ := clausesOf_chain (Nat.le_of_eq (Nat.zero_add count))
  rw [ofMapping, read, ← condition]
  rfl

theorem height_chain (count : Nat) : height (Json.chain count) = count := by
  induction count with
  | zero => rw [Json.chain, height]
  | succ count ih =>
      have parsed : Key.parse "and" = .ok (.combinator .and) := by rfl
      rw [Json.chain, height_combinator parsed, nestedHeight, height, ih]
      omega

theorem enters_chain (depth count : Nat) :
    Enters depth (Json.chain count) (depth + count) [] := by
  induction count generalizing depth with
  | zero => exact .here depth []
  | succ count ih =>
      have parsed : Key.parse "and" = .ok (.combinator .and) := by rfl
      have below := ih (depth + 1)
      rw [Nat.add_right_comm] at below
      exact .nested parsed below

theorem text_conjunctions (escaping : Escaping) (count : Nat) :
    (conjunctions count).text escaping = .ok "" := by
  induction count with
  | zero => rfl
  | succ count ih =>
      rw [conjunctions, all, text, partTexts, ih]
      rfl

end Condition

def chainDocument (count : Nat) : String :=
  "\x7b\"from\":\"t\",\"where\":" ++ String.ofList (Json.chainText count) ++ "\x7d"

theorem read_chainDocument {count : Nat} (within : count ≤ 125) :
    Json.read (chainDocument count).toList =
      .ok (.object [("from", .string "t"), ("where", .object (Json.chain count))]) := by
  have text : (chainDocument count).toList = '\x7b' :: '"' :: (['f', 'r', 'o', 'm'] ++ '"' :: ':' ::
      '"' :: (['t'] ++ '"' :: ',' :: '"' :: (['w', 'h', 'e', 'r', 'e'] ++ '"' :: ':' ::
        (Json.chainText count ++ ['\x7d'])))) := by
    unfold chainDocument
    simp
  have plainFrom : Json.IsPlain ['f', 'r', 'o', 'm'] := by simp [Json.IsPlain]
  have plainTable : Json.IsPlain ['t'] := by simp [Json.IsPlain]
  have plainWhere : Json.IsPlain ['w', 'h', 'e', 'r', 'e'] := by simp [Json.IsPlain]
  have table (rest : List Char) : (Json.value 126).run ('"' :: (['t'] ++ '"' :: rest)) =
      .ok (.string "t", rest) := by
    change (Json.Quoted.read (['t'] ++ '"' :: rest)).mapValue _ = _
    rw [Json.Quoted.read_plain plainTable]
    rfl
  rw [text, Json.read]
  change Json.finish _ ((Json.members (Json.value 126) _).mapValue Json.ofEntries) = _
  rw [Json.members_plain _ plainFrom, table]
  change Json.finish _ (((Json.moreMembers (Json.value 126) _).mapValue _).mapValue _) = _
  rw [Json.moreMembers_plain _ plainWhere, Json.run_chain (by omega)]
  change Json.finish _ ((((Json.moreMembers (Json.value 126) ['\x7d']).mapValue _).mapValue
    _).mapValue _) = _
  rw [Json.moreMembers_closed]
  rfl

theorem compile_chainDocument (settings : Settings) {count : Nat} (within : count ≤ 125) :
    compile { settings with maxDepth := count } (chainDocument count) =
      .ok "select *\nfrom t;" := by
  have filtered : Query.filterOf count (some (.object (Json.chain count))) =
      .ok (some (Condition.conjunctions count)) := by
    rw [Query.filterOf, Condition.ofMapping_chain]
    rfl
  have written : Query.text settings.escaping
      { table := "t", filter := some (Condition.conjunctions count) } =
        .ok "select *\nfrom t;" := by
    change (Condition.text settings.escaping (Condition.conjunctions count) >>= _) = _
    rw [Condition.text_conjunctions]
    rfl
  rw [compile, Query.ofText, Query.membersOfText, read_chainDocument within]
  change (Query.filterOf count (some (.object (Json.chain count))) >>= _) >>= _ = _
  rw [filtered]
  exact written

theorem compile_chainDocument_eq_within (settings : Settings) {count : Nat}
    (within : count ≤ 125) (limit : Nat) :
    compile { settings with maxDepth := limit } (chainDocument count) =
      Condition.within limit count "select *\nfrom t;" := by
  obtain ⟨members, read, limits⟩ := compile_eq_within (compile_chainDocument settings within)
  rw [Query.membersOfText, read_chainDocument within] at read
  cases read
  have height : Query.filterHeight (some (.object (Json.chain count))) = count :=
    Condition.height_chain count
  rw [limits limit]
  change Condition.within limit (Query.filterHeight (some (.object (Json.chain count)))) _ = _
  rw [height]

/--
From 125 on the limit makes no difference, since no filter can be deeper: the depths at which
its mappings are read have successors of at most 126.  Under 124 a document is refused that
compiles under 125.
-/
theorem compile_of_saturated_limit :
    (∀ (settings : Settings) (document : String), 125 ≤ settings.maxDepth →
      (∀ limit, 125 ≤ limit →
        compile { settings with maxDepth := limit } document = compile settings document) ∧
      ∀ exceeded, compile settings document ≠ .error (.tooDeep exceeded)) ∧
    (∀ document members filter, Query.membersOfText document = .ok members →
      Json.get? members "where" = some (.object filter) →
      ∀ level mapping, Condition.Enters 0 filter level mapping →
        level + 1 ≤ 126 ∧ level + 1 < Word.bound) ∧
    ∃ document text, compile { maxDepth := 124 } document = .error (.tooDeep 124) ∧
      compile { maxDepth := 125 } document = .ok text := by
  refine ⟨?_, ?_, ?_⟩
  · intro settings document wide
    let least : Settings := { settings with maxDepth := 125 }
    have allowed : compile least document ≠ .error (.tooDeep 125) :=
      compile_ne_tooDeep (Nat.le_refl 125) document 125
    have same (limit : Nat) (wide : 125 ≤ limit) :
        compile { settings with maxDepth := limit } document = compile least document := by
      have cut : Condition.CutOff 125 (compile least document)
          (compile { settings with maxDepth := limit } document) := cutOff_compile wide document
      exact cut.resolve_left allowed
    constructor
    · intro limit wideLimit
      exact (same limit wideLimit).trans (same settings.maxDepth wide).symm
    · exact compile_ne_tooDeep wide document
  · intro document members filter read found level mapping enters
    have height := Query.filterHeight_le read
    have below := enters.level_le
    rw [found, Query.filterHeight, Json.maxLevels] at height
    rw [Word.bound]
    omega
  · refine ⟨chainDocument 125, "select *\nfrom t;", ?_, ?_⟩
    · exact compile_chainDocument_eq_within {} (Nat.le_refl 125) 124
    · exact compile_chainDocument_eq_within {} (Nat.le_refl 125) 125

theorem compile_of_saturated_limit_of_chain :
    let filter := Json.chain 125
    Query.membersOfText (chainDocument 125) =
        .ok [("from", .string "t"), ("where", .object filter)] ∧
      Condition.Enters 0 filter 125 [] ∧ 125 + 1 < Word.bound ∧
      compile { maxDepth := 18446744073709551615 } (chainDocument 125) =
        .ok "select *\nfrom t;" ∧
      compile { maxDepth := 125 } (chainDocument 125) = .ok "select *\nfrom t;" := by
  intro filter
  have members : Query.membersOfText (chainDocument 125) =
      .ok [("from", .string "t"), ("where", .object filter)] := by
    rw [Query.membersOfText, read_chainDocument (Nat.le_refl 125)]
  have enters : Condition.Enters 0 filter 125 [] := Condition.enters_chain 0 125
  have compiled : compile { maxDepth := 125 } (chainDocument 125) = .ok "select *\nfrom t;" :=
    compile_chainDocument {} (Nat.le_refl 125)
  obtain ⟨saturated, depths, -⟩ := compile_of_saturated_limit
  obtain ⟨same, -⟩ := saturated { maxDepth := 125 } (chainDocument 125) (Nat.le_refl 125)
  obtain ⟨-, small⟩ := depths _ _ filter members rfl 125 [] enters
  refine ⟨members, enters, small, ?_, compiled⟩
  rw [← compiled]
  exact same 18446744073709551615 (by decide)

end QueryDoc
