import QueryDoc.Proofs.Condition.Depth
import QueryDoc.Proofs.Condition.Shape

/-!
# How high a condition is

A mapping that is read adds at most two levels to a condition: its own join, and a
conjunction of several parts that opens a disjunction.  The innermost mappings have no
alternatives and add their own join only, so that a limit on the depth of mappings bounds
the levels of what is read, and with them the calls that its text takes.

Main statement: `levels_le_of_limit`.
-/

namespace QueryDoc.Condition

/-! ## Ways down a condition -/

/-- The conditions on a way down from a condition, itself and the last one included. -/
inductive Path : Condition → List Condition → Prop where
  | here (condition : Condition) : Path condition [condition]
  | down {logic : Logic} {grouped : Bool} {parts : List Condition} {part : Condition}
      {path : List Condition} (member : part ∈ parts) (below : Path part path) :
      Path (.join logic grouped parts) (.join logic grouped parts :: path)

mutual

/-- The number of conditions on a longest way down. -/
def levels : Condition → Nat
  | .compare _ => 1
  | .join _ _ parts => partLevels parts + 1

def partLevels : List Condition → Nat
  | [] => 0
  | part :: parts => max part.levels (partLevels parts)

end

@[simp] theorem levels_compare (comparison : Comparison) : (compare comparison).levels = 1 := by
  rw [levels]

theorem levels_join (logic : Logic) (grouped : Bool) (parts : List Condition) :
    (join logic grouped parts).levels = partLevels parts + 1 := by
  rw [levels]

theorem levels_pos (condition : Condition) : 0 < condition.levels := by
  cases condition <;> rw [levels] <;> omega

theorem partLevels_le_iff {parts : List Condition} {bound : Nat} :
    partLevels parts ≤ bound ↔ ∀ part ∈ parts, part.levels ≤ bound := by
  induction parts with
  | nil => simp [partLevels]
  | cons part parts ih => rw [partLevels, Nat.max_le, ih, List.forall_mem_cons]

theorem levels_join_le_iff {logic : Logic} {grouped : Bool} {parts : List Condition}
    {bound : Nat} :
    (join logic grouped parts).levels ≤ bound + 1 ↔ ∀ part ∈ parts, part.levels ≤ bound := by
  rw [levels_join, Nat.add_le_add_iff_right, partLevels_le_iff]

theorem Path.length_le_levels {condition : Condition} {path : List Condition}
    (way : Path condition path) : path.length ≤ condition.levels := by
  induction way with
  | here condition => exact condition.levels_pos
  | down member _ ih =>
      rw [List.length_cons, levels_join, Nat.add_le_add_iff_right]
      exact Nat.le_trans ih (partLevels_le_iff.mp (Nat.le_refl _) _ member)

theorem exists_levels_eq_partLevels {parts : List Condition} (some : parts ≠ []) :
    ∃ part ∈ parts, part.levels = partLevels parts := by
  induction parts with
  | nil => contradiction
  | cons part parts ih =>
      rw [partLevels]
      by_cases higher : partLevels parts ≤ part.levels
      · exact ⟨part, List.mem_cons_self, by omega⟩
      · have others : parts ≠ [] := by
          rintro rfl
          simp [partLevels] at higher
        obtain ⟨other, member, same⟩ := ih others
        exact ⟨other, List.mem_cons_of_mem _ member, by omega⟩

theorem exists_path (condition : Condition) :
    ∃ path, Path condition path ∧ path.length = condition.levels := by
  induction condition with
  | compare comparison => exact ⟨_, .here _, by simp⟩
  | join logic grouped parts ih =>
      by_cases none : parts = []
      · exact ⟨_, .here _, by simp [none, levels_join, partLevels]⟩
      · obtain ⟨part, member, highest⟩ := exists_levels_eq_partLevels none
        obtain ⟨path, way, length⟩ := ih part member
        exact ⟨_, .down member way, by rw [List.length_cons, length, highest, levels_join]⟩

/-! ## Calls of calls -/

mutual

/-- The text of a condition, unless more calls are nested in each other than allowed. -/
def textWithin (escaping : Escaping) : Nat → Condition → ExceptT CompileError Option String
  | 0, _ => .mk none
  | _ + 1, .compare comparison => .mk (some (comparison.text escaping))
  | calls + 1, .join logic _ parts => do
      let texts ← partTextsWithin escaping calls parts
      return (separator logic).intercalate texts

def partTextsWithin (escaping : Escaping) (calls : Nat) :
    List Condition → ExceptT CompileError Option (List String)
  | [] => return []
  | part :: parts => do
      let first ← part.textWithin escaping calls
      let others ← partTextsWithin escaping calls parts
      return if first.isEmpty then others else part.enclose first :: others

end

section

variable {α β : Type}

/-- A result for which no more calls were needed than allowed. -/
def finished (result : Except CompileError α) : ExceptT CompileError Option α :=
  .mk (some result)

theorem finished_bind_finished (result : Except CompileError α) (next : α → Except CompileError β) :
    (finished result >>= fun value => finished (next value)) = finished (result >>= next) := by
  cases result <;> rfl

theorem finished_bind_pure (result : Except CompileError α) (f : α → β) :
    (finished result >>= fun value => pure (f value)) = finished (f <$> result) := by
  cases result <;> rfl

end

theorem partTextsWithin_eq_finished {escaping : Escaping} {calls : Nat} {parts : List Condition}
    (each : ∀ part ∈ parts, part.textWithin escaping calls = finished (part.text escaping)) :
    partTextsWithin escaping calls parts = finished (partTexts escaping parts) := by
  induction parts with
  | nil =>
      rw [partTextsWithin, partTexts]
      rfl
  | cons part parts ih =>
      rw [List.forall_mem_cons] at each
      rw [partTextsWithin, partTexts, each.1, ih each.2, ← finished_bind_finished]
      simp only [finished_bind_pure]
      rfl

theorem textWithin_of_levels_le (escaping : Escaping) {condition : Condition} {calls : Nat}
    (enough : condition.levels ≤ calls) :
    condition.textWithin escaping calls = finished (condition.text escaping) := by
  induction condition generalizing calls with
  | compare comparison =>
      obtain ⟨inner, rfl⟩ := Nat.exists_eq_succ_of_ne_zero (by simp at enough; omega : calls ≠ 0)
      rw [textWithin, text, finished]
  | join logic grouped parts ih =>
      have pos := (join logic grouped parts).levels_pos
      obtain ⟨inner, rfl⟩ := Nat.exists_eq_succ_of_ne_zero (by omega : calls ≠ 0)
      rw [Nat.succ_eq_add_one, levels_join_le_iff] at enough
      rw [textWithin, text,
        partTextsWithin_eq_finished fun part member => ih part member (enough part member),
        finished_bind_pure]
      rfl

theorem text_of_applies (escaping : Escaping) {condition : Condition}
    (applies : ∀ comparison ∈ condition.comparisons, comparison.applies = true) :
    ∃ text, condition.text escaping = .ok text := by
  rw [text_eq_spelling, Comparison.verify_eq_ok_iff.mpr applies]
  exact ⟨_, rfl⟩

theorem partTextsWithin_eq_none {escaping : Escaping} {calls : Nat} {parts : List Condition}
    (few : calls < partLevels parts)
    (applies : ∀ part ∈ parts, ∀ comparison ∈ part.comparisons, comparison.applies = true)
    (each : ∀ part ∈ parts, calls < part.levels → part.textWithin escaping calls = .mk none) :
    partTextsWithin escaping calls parts = .mk none := by
  induction parts with
  | nil => simp [partLevels] at few
  | cons part parts ih =>
      rw [List.forall_mem_cons] at applies each
      rw [partTextsWithin]
      by_cases high : calls < part.levels
      · rw [each.1 high]
        rfl
      · obtain ⟨text, written⟩ := text_of_applies escaping applies.1
        rw [partLevels] at few
        rw [textWithin_of_levels_le escaping (by omega), written,
          ih (by omega) applies.2 each.2]
        rfl

theorem textWithin_eq_none (escaping : Escaping) {condition : Condition} {calls : Nat}
    (few : calls < condition.levels)
    (applies : ∀ comparison ∈ condition.comparisons, comparison.applies = true) :
    condition.textWithin escaping calls = .mk none := by
  induction condition generalizing calls with
  | compare comparison =>
      rw [levels_compare, Nat.lt_one_iff] at few
      rw [few, textWithin]
  | join logic grouped parts ih =>
      cases calls with
      | zero => rw [textWithin]
      | succ calls =>
          have inside : ∀ part ∈ parts, ∀ comparison ∈ part.comparisons,
              comparison.applies = true := by
            intro part member comparison found
            refine applies comparison ?_
            rw [comparisons_join]
            exact List.mem_flatMap.mpr ⟨part, member, found⟩
          rw [levels_join, Nat.add_lt_add_iff_right] at few
          rw [textWithin, partTextsWithin_eq_none few inside fun part member high =>
            ih part member high (inside part member)]
          rfl

/-! ## Levels of what is read -/

theorem Clauses.levels_of_mem_front {clauses : Clauses} {bound : Nat}
    (conjunct : ∀ part ∈ clauses.conjuncts, part.levels ≤ bound) :
    ∀ part ∈ clauses.front, part.levels ≤ bound + 1 := by
  obtain ⟨conjuncts, alternatives⟩ := clauses
  match conjuncts with
  | [] => simp [front]
  | [_] =>
      rw [List.forall_mem_singleton] at conjunct
      simp only [front, List.forall_mem_singleton]
      omega
  | first :: second :: parts =>
      simp only [front, List.forall_mem_singleton, levels_join_le_iff]
      exact conjunct

theorem Clauses.levels_condition_le {clauses : Clauses} {height : Nat}
    (conjunct : ∀ part ∈ clauses.conjuncts, part.levels ≤ max 1 (2 * height))
    (alternative : ∀ part ∈ clauses.alternatives, part.levels ≤ 2 * height) :
    clauses.condition.levels ≤ 2 * height + 2 := by
  rw [condition_eq]
  split
  · rw [all, levels_join_le_iff]
    exact fun part member => Nat.le_trans (conjunct part member) (by omega)
  · rename_i some
    -- An alternative has been nested, so that the mapping is not flat.
    obtain ⟨part, member⟩ := List.exists_mem_of_ne_nil _ some
    have nested := alternative part member
    have pos := part.levels_pos
    rw [any, levels_join_le_iff]
    intro part member
    rcases List.mem_append.mp member with front | behind
    · have levels := levels_of_mem_front conjunct part front
      omega
    · have levels := alternative part behind
      omega

theorem Reads.levels_le {limit depth : Nat} {members : Json.Members} {clauses : Clauses}
    (read : Reads limit depth members clauses) :
    (∀ part ∈ clauses.conjuncts, part.levels ≤ max 1 (2 * height members)) ∧
      ∀ part ∈ clauses.alternatives, part.levels ≤ 2 * height members := by
  induction read with
  | nil depth => simp [Clauses.empty]
  | @nested _ key logic members rest inner clauses parsed _ _ _ innerIh ih =>
      have levels := Clauses.levels_condition_le innerIh.1 innerIh.2
      have higher := height_combinator parsed (.object members) rest
      rw [nestedHeight] at higher
      have conjuncts : ∀ part ∈ clauses.conjuncts,
          part.levels ≤ max 1 (2 * height ((key, .object members) :: rest)) :=
        fun part member => Nat.le_trans (ih.1 part member) (by omega)
      have alternatives : ∀ part ∈ clauses.alternatives,
          part.levels ≤ 2 * height ((key, .object members) :: rest) :=
        fun part member => Nat.le_trans (ih.2 part member) (by omega)
      cases logic with
      | and => exact ⟨List.forall_mem_cons.mpr ⟨by omega, conjuncts⟩, alternatives⟩
      | or => exact ⟨conjuncts, List.forall_mem_cons.mpr ⟨by omega, alternatives⟩⟩
  | compared parsed _ _ ih =>
      rw [height_comparison parsed]
      refine ⟨List.forall_mem_cons.mpr ⟨?_, ih.1⟩, ih.2⟩
      rw [levels_compare]
      exact Nat.le_max_left _ _

theorem height_le_of_ofMapping {limit : Nat} {members : Json.Members} {condition : Condition}
    (built : ofMapping limit members = .ok condition) : height members ≤ limit := by
  have result := ofMapping_eq_within built limit
  rw [built, within] at result
  split at result
  · assumption
  · cases result

theorem levels_le_of_ofMapping {limit : Nat} {members : Json.Members} {condition : Condition}
    (built : ofMapping limit members = .ok condition) : condition.levels ≤ 2 * limit + 2 := by
  have height := height_le_of_ofMapping built
  obtain ⟨clauses, read, rfl⟩ := reads_of_ofMapping built
  have levels := Clauses.levels_condition_le read.levels_le.1 read.levels_le.2
  omega

/-! ## Mappings that are as high as they may be -/

private def leaf (field : String) : Condition :=
  .compare ⟨field, .eq, .null⟩

def steep : Nat → Json.Members
  | 0 => [("a", .null)]
  | depth + 1 => [("a", .null), ("and", .object (steep depth)), ("or", .object [("b", .null)])]

def staircase : Nat → Condition
  | 0 => all [leaf "a"]
  | depth + 1 => any [.join .and false [leaf "a", staircase depth], all [leaf "b"]]

theorem height_steep (count : Nat) : height (steep count) = count := by
  have comparison (field : String) (members : Json.Members)
      (parsed : Key.parse field = .ok (.comparison field .eq)) :
      height ((field, .null) :: members) = height members :=
    height_comparison parsed .null members
  induction count with
  | zero => rw [steep, comparison _ _ rfl, height]
  | succ count ih =>
      have conjunction : Key.parse "and" = .ok (.combinator .and) := by rfl
      have disjunction : Key.parse "or" = .ok (.combinator .or) := by rfl
      rw [steep, comparison _ _ rfl, height_combinator conjunction,
        height_combinator disjunction, nestedHeight, nestedHeight, comparison _ _ rfl, height, ih]
      omega

theorem reads_steep {limit depth count : Nat} (within : depth + count ≤ limit) :
    ∃ clauses, Reads limit depth (steep count) clauses ∧ clauses.condition = staircase count := by
  have first : Key.parse "a" = .ok (.comparison "a" .eq) := by rfl
  have second : Key.parse "b" = .ok (.comparison "b" .eq) := by rfl
  induction count generalizing depth with
  | zero => exact ⟨_, .compared first rfl (.nil depth), rfl⟩
  | succ count ih =>
      obtain ⟨inner, below, condition⟩ := @ih (depth + 1) (by omega)
      have conjunction : Key.parse "and" = .ok (.combinator .and) := by rfl
      have disjunction : Key.parse "or" = .ok (.combinator .or) := by rfl
      refine ⟨_, .compared first rfl (.nested conjunction (by omega) below (.nested disjunction
        (by omega) (.compared second rfl (.nil (depth + 1))) (.nil depth))), ?_⟩
      rw [staircase, ← condition]
      rfl

theorem ofMapping_steep (limit : Nat) : ofMapping limit (steep limit) = .ok (staircase limit) := by
  obtain ⟨clauses, read, condition⟩ := reads_steep (Nat.le_of_eq (Nat.zero_add limit))
  rw [ofMapping, read.clausesOf_eq_within (Nat.zero_le limit), height_steep, Nat.zero_add, within,
    if_pos (Nat.le_refl limit), ← condition]
  rfl

theorem levels_staircase (count : Nat) : (staircase count).levels = 2 * count + 2 := by
  induction count with
  | zero => rfl
  | succ count ih =>
      simp only [staircase, any, all, leaf, levels_join, partLevels, levels_compare, ih]
      omega

theorem applies_staircase (count : Nat) :
    ∀ comparison ∈ (staircase count).comparisons, comparison.applies = true := by
  induction count with
  | zero =>
      intro comparison member
      simp only [staircase, all, leaf, comparisons_join, List.flatMap_singleton,
        comparisons_compare, List.mem_singleton] at member
      rw [member]
      rfl
  | succ count ih =>
      intro comparison member
      simp only [staircase, any, all, leaf, comparisons_join, List.flatMap_cons, List.flatMap_nil,
        comparisons_compare, List.append_nil, List.cons_append, List.nil_append, List.mem_cons,
        List.mem_append, List.not_mem_nil, or_false] at member
      rcases member with rfl | inner | rfl
      · rfl
      · exact ih comparison inner
      · rfl

/--
On no way down what is read under a limit are there more conditions than twice the limit and
two, nor are more calls nested in each other to write it.  Under every limit there is a
mapping, as deep as allowed, for which there are as many.
-/
theorem levels_le_of_limit (limit : Nat) :
    (∀ members condition, ofMapping limit members = .ok condition →
      (∀ path, Path condition path → path.length ≤ 2 * limit + 2) ∧
      ∀ escaping, (condition.textWithin escaping (2 * limit + 2)).run =
        some (condition.text escaping)) ∧
    ∃ members condition path, height members = limit ∧
      ofMapping limit members = .ok condition ∧ Path condition path ∧
      path.length = 2 * limit + 2 ∧
      ∀ escaping, (condition.textWithin escaping (2 * limit + 1)).run = none := by
  constructor
  · intro members condition built
    have levels := levels_le_of_ofMapping built
    refine ⟨fun path way => Nat.le_trans way.length_le_levels levels, fun escaping => ?_⟩
    rw [textWithin_of_levels_le escaping levels]
    rfl
  · obtain ⟨path, way, length⟩ := (staircase limit).exists_path
    rw [levels_staircase] at length
    refine ⟨steep limit, staircase limit, path, height_steep limit, ofMapping_steep limit, way,
      length, fun escaping => ?_⟩
    rw [textWithin_eq_none escaping (by rw [levels_staircase]; omega) (applies_staircase limit)]
    rfl

theorem levels_le_of_limit_of_chain :
    let members : Json.Members := [("a", .null), ("or", .object []),
      ("and_x", .object [("!b", .bool true)])]
    let innermost : Condition := .compare ⟨"b", .ne, .bool true⟩
    let conjunction : Condition := .join .and false [leaf "a", all [innermost]]
    let condition : Condition := any [conjunction, all []]
    ofMapping 1 members = .ok condition ∧
      Path condition [condition, conjunction, all [innermost], innermost] ∧
      (∀ path, Path condition path → path.length ≤ 4) ∧
      (condition.textWithin .verbatim 4).run = some (condition.text .verbatim) := by
  intro members innermost conjunction condition
  have built : ofMapping 1 members = .ok condition := by rfl
  obtain ⟨bounded, -⟩ := levels_le_of_limit 1
  obtain ⟨ways, calls⟩ := bounded members condition built
  refine ⟨built, ?_, ways, calls .verbatim⟩
  exact .down List.mem_cons_self (.down (List.mem_cons_of_mem _ List.mem_cons_self)
    (.down List.mem_cons_self (.here innermost)))

end QueryDoc.Condition
