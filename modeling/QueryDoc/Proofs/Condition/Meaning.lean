import QueryDoc.Proofs.Condition.Assembly
import QueryDoc.Proofs.Condition.Tokens

/-!
# What the text of a condition means

The comparisons of a condition are numbered from left to right, and each number
is given a truth value.  The tree then has a value of its own, and so has the
sequence of its tokens, read by someone for whom `and` binds tighter than `or`
or by someone who goes from left to right.

Main statement: `evaluate_tokens_eq_meaning`, all three values are the same.
-/

namespace QueryDoc

namespace Logic

def apply : Logic → Bool → Bool → Bool
  | .and, first, second => first && second
  | .or, first, second => first || second

def applyAll : Logic → List Bool → Bool
  | .and, values => values.all id
  | .or, values => values.any id

end Logic

/-! ## The value of a tree -/

namespace Condition

mutual

/-- The value of a condition whose first comparison has the number `next`. -/
def meaning (values : Nat → Bool) (next : Nat) : Condition → Bool
  | .compare _ => values next
  | .join logic _ parts => logic.applyAll (partMeanings values next parts)

def partMeanings (values : Nat → Bool) (next : Nat) : List Condition → List Bool
  | [] => []
  | part :: parts =>
      let others := partMeanings values (next + part.comparisons.length) parts
      if part.comparisons = [] then others else part.meaning values next :: others

end

end Condition

/-! ## The value of a sequence of tokens -/

inductive Precedence where
  | andFirst
  | leftToRight
  deriving DecidableEq, Repr

/-- Operands without parentheses around them, the latest in front, and behind
each the connective that follows it. -/
abbrev Pending := List (Bool × Logic)

namespace Precedence

def value : Precedence → Pending → Bool → Bool
  | _, [], last => last
  | .andFirst, (operand, .and) :: pending, last =>
      andFirst.value pending (operand && last)
  | .andFirst, (operand, .or) :: pending, last =>
      andFirst.value pending operand || last
  | .leftToRight, (operand, logic) :: pending, last =>
      logic.apply (leftToRight.value pending operand) last

mutual

/-- Goes on where an operand is due; `outer` is what is pending around each
parenthesis that is still open. -/
def readOperand (precedence : Precedence) (values : Nat → Bool) (next : Nat)
    (outer : List Pending) (pending : Pending) : List Token → Option Bool
  | .compare _ :: tokens =>
      precedence.readConnective values (next + 1) outer pending (values next) tokens
  | .opening :: tokens =>
      precedence.readOperand values next (pending :: outer) [] tokens
  | _ => none

def readConnective (precedence : Precedence) (values : Nat → Bool) (next : Nat)
    (outer : List Pending) (pending : Pending) (last : Bool) :
    List Token → Option Bool
  | .connective logic :: tokens =>
      precedence.readOperand values next outer ((last, logic) :: pending) tokens
  | .closing :: tokens =>
      match outer with
      | [] => none
      | enclosing :: outer =>
          precedence.readConnective values next outer enclosing
            (precedence.value pending last) tokens
  | [] =>
      match outer with
      | [] => some (precedence.value pending last)
      | _ :: _ => none
  | _ => none

end

def evaluate (precedence : Precedence) (values : Nat → Bool) (tokens : List Token) :
    Option Bool :=
  precedence.readOperand values 0 [] [] tokens

/-! ## Chains of one connective -/

def extend (logic : Logic) (chain : Pending × Bool) (operand : Bool) : Pending × Bool :=
  ((chain.2, logic) :: chain.1, operand)

theorem value_extend_or (precedence : Precedence) (pending : Pending)
    (last operand : Bool) :
    precedence.value ((last, .or) :: pending) operand =
      (precedence.value pending last || operand) := by
  cases precedence <;> rfl

theorem value_foldl_or (precedence : Precedence) (chain : Pending × Bool)
    (operands : List Bool) :
    precedence.value (operands.foldl (extend .or) chain).1
        (operands.foldl (extend .or) chain).2 =
      (precedence.value chain.1 chain.2 || operands.any id) := by
  induction operands generalizing chain with
  | nil => simp
  | cons operand operands ih =>
      rw [List.foldl_cons, ih, extend, value_extend_or]
      simp [Bool.or_assoc]

theorem value_of_and (precedence : Precedence) {pending : Pending} (last : Bool)
    (onlyAnd : ∀ step ∈ pending, step.2 = .and) :
    precedence.value pending last = (pending.all (·.1) && last) := by
  induction pending generalizing last with
  | nil => simp [value]
  | cons step pending ih =>
      obtain ⟨operand, logic⟩ := step
      obtain ⟨rfl, others⟩ := List.forall_mem_cons.mp onlyAnd
      cases precedence with
      | andFirst =>
          rw [value, ih _ others]
          cases operand <;> simp
      | leftToRight =>
          rw [value, ih _ others, Logic.apply]
          cases operand <;> simp

theorem value_foldl_and (precedence : Precedence) {chain : Pending × Bool}
    (operands : List Bool) (onlyAnd : ∀ step ∈ chain.1, step.2 = .and) :
    precedence.value (operands.foldl (extend .and) chain).1
        (operands.foldl (extend .and) chain).2 =
      (precedence.value chain.1 chain.2 && operands.all id) := by
  induction operands generalizing chain with
  | nil => simp
  | cons operand operands ih =>
      have stillAnd : ∀ step ∈ (extend .and chain operand).1, step.2 = .and :=
        List.forall_mem_cons.mpr ⟨rfl, onlyAnd⟩
      rw [List.foldl_cons, ih stillAnd, value_of_and precedence _ stillAnd,
        value_of_and precedence _ onlyAnd]
      simp [extend, Bool.and_assoc, Bool.and_left_comm]

theorem value_foldl (precedence : Precedence) (logic : Logic) (first : Bool)
    (operands : List Bool) :
    precedence.value (operands.foldl (extend logic) ([], first)).1
        (operands.foldl (extend logic) ([], first)).2 =
      logic.applyAll (first :: operands) := by
  cases logic with
  | and =>
      rw [value_foldl_and precedence operands (by simp)]
      simp [value, Logic.applyAll]
  | or =>
      rw [value_foldl_or]
      simp [value, Logic.applyAll]

end Precedence

/-! ## Reading the tokens of a tree -/

namespace Condition

section

variable (precedence : Precedence) (values : Nat → Bool)

def ReadAsOperand (part : Condition) : Prop :=
  part.comparisons ≠ [] → ∀ next outer pending rest,
    precedence.readOperand values next outer pending (part.operand ++ rest) =
      precedence.readConnective values (next + part.comparisons.length) outer pending
        (part.meaning values next) rest

/-- Tokens at the front of an expression are read as a chain that has a value. -/
def ReadAsChain (condition : Condition) : Prop :=
  condition.comparisons ≠ [] → ∀ next, ∃ read : Pending × Bool,
    precedence.value read.1 read.2 = condition.meaning values next ∧
      ∀ outer rest,
        precedence.readOperand values next outer [] (condition.tokens ++ rest) =
          precedence.readConnective values (next + condition.comparisons.length)
            outer read.1 read.2 rest

variable {precedence values}

theorem readConnective_follow (logic : Logic) {parts : List Condition}
    (each : ∀ part ∈ parts, ReadAsOperand precedence values part) (next : Nat)
    (outer : List Pending) (chain : Pending × Bool) (rest : List Token) :
    precedence.readConnective values next outer chain.1 chain.2
        (Token.follow logic (parts.map operand) ++ rest) =
      let read := (partMeanings values next parts).foldl (Precedence.extend logic) chain
      precedence.readConnective values (next + (parts.flatMap comparisons).length)
        outer read.1 read.2 rest := by
  induction parts generalizing next chain with
  | nil => simp [Token.follow, partMeanings]
  | cons part parts ih =>
      obtain ⟨first, others⟩ := List.forall_mem_cons.mp each
      by_cases empty : part.comparisons = []
      · have noTokens : part.operand = [] := by
          rw [operand_eq_nil_iff, tokens_eq_nil_iff, empty]
        simpa [Token.follow, partMeanings, noTokens, empty] using ih others next chain
      · have tokens : part.operand ≠ [] := by
          rwa [ne_eq, operand_eq_nil_iff, tokens_eq_nil_iff]
        have read := ih others (next + part.comparisons.length)
          (Precedence.extend logic chain (part.meaning values next))
        simp only [List.map_cons, Token.follow, if_neg tokens, List.cons_append,
          List.append_assoc, Precedence.readConnective, partMeanings, if_neg empty,
          List.foldl_cons, List.flatMap_cons, List.length_append]
        rw [first empty, ← Nat.add_assoc]
        exact read

theorem readOperand_join (logic : Logic) {parts : List Condition}
    (each : ∀ part ∈ parts, ReadAsOperand precedence values part)
    (nonempty : parts.flatMap comparisons ≠ []) (next : Nat) :
    ∃ first others, partMeanings values next parts = first :: others ∧
      ∀ outer rest,
        precedence.readOperand values next outer []
            (Token.join logic (parts.map operand) ++ rest) =
          let read := others.foldl (Precedence.extend logic) ([], first)
          precedence.readConnective values (next + (parts.flatMap comparisons).length)
            outer read.1 read.2 rest := by
  induction parts with
  | nil => exact (nonempty rfl).elim
  | cons part parts ih =>
      obtain ⟨first, others⟩ := List.forall_mem_cons.mp each
      by_cases empty : part.comparisons = []
      · have noTokens : part.operand = [] := by
          rw [operand_eq_nil_iff, tokens_eq_nil_iff, empty]
        rw [List.flatMap_cons, empty, List.nil_append] at nonempty
        simpa [Token.join, partMeanings, noTokens, empty] using ih others nonempty
      · have tokens : part.operand ≠ [] := by
          rwa [ne_eq, operand_eq_nil_iff, tokens_eq_nil_iff]
        refine ⟨part.meaning values next, partMeanings values
          (next + part.comparisons.length) parts, ?_, ?_⟩
        · rw [partMeanings, if_neg empty]
        · intro outer rest
          rw [List.map_cons, Token.join, if_neg tokens, List.append_assoc, first empty]
          simp only [List.flatMap_cons, List.length_append, ← Nat.add_assoc]
          exact readConnective_follow logic others _ outer
            ([], part.meaning values next) rest

theorem readAsChain_join (logic : Logic) (grouped : Bool) {parts : List Condition}
    (each : ∀ part ∈ parts, ReadAsOperand precedence values part) :
    ReadAsChain precedence values (.join logic grouped parts) := by
  intro nonempty next
  rw [comparisons_join] at nonempty
  obtain ⟨first, others, meanings, read⟩ := readOperand_join logic each nonempty next
  refine ⟨others.foldl (Precedence.extend logic) ([], first), ?_, fun outer rest => ?_⟩
  · rw [meaning, meanings]
    exact precedence.value_foldl logic first others
  · rw [tokens_join, comparisons_join]
    exact read outer rest

/--
The conjuncts are read before any alternative, so that what is pending for them
has their value under either precedence.
-/
theorem readAsChain_chain {conjuncts alternatives : List Condition}
    (conjunct : ∀ part ∈ conjuncts, ReadAsOperand precedence values part)
    (alternative : ∀ part ∈ alternatives, ReadAsOperand precedence values part) :
    ReadAsChain precedence values
      (.any (.join .and false conjuncts :: alternatives)) := by
  by_cases empty : conjuncts.flatMap comparisons = []
  · -- Without a conjunct the alternatives stand alone.
    have noTokens : (join .and false conjuncts).tokens = [] := by
      rw [tokens_eq_nil_iff, comparisons_join, empty]
    have alone := readAsChain_join .or true alternative
    simpa [ReadAsChain, any, empty, noTokens, Token.join, meaning, partMeanings]
      using alone
  · intro _ next
    obtain ⟨chain, value, read⟩ :=
      readAsChain_join .and false conjunct (by rwa [comparisons_join]) next
    let size := (conjuncts.flatMap comparisons).length
    refine ⟨(partMeanings values (next + size) alternatives).foldl
      (Precedence.extend .or) chain, ?_, fun outer rest => ?_⟩
    · rw [Precedence.value_foldl_or, value]
      simp only [any, meaning, partMeanings, comparisons_join, if_neg empty]
      rfl
    · have follow := readConnective_follow .or alternative (next + size) outer chain rest
      have tokens : (join .and false conjuncts).tokens ≠ [] := by
        rwa [ne_eq, tokens_eq_nil_iff, comparisons_join]
      rw [any, tokens_join, List.map_cons, operand_ungrouped, Token.join, if_neg tokens,
        List.append_assoc, read, comparisons_join, follow]
      simp [Nat.add_assoc, size]

theorem readAsOperand_compare (comparison : Comparison) :
    ReadAsOperand precedence values (.compare comparison) := by
  intro _ next outer pending rest
  simp [Precedence.readOperand, meaning]

theorem readAsOperand_group {condition : Condition} (grouped : condition.isGroup = true)
    (chain : ReadAsChain precedence values condition) :
    ReadAsOperand precedence values condition := by
  intro nonempty next outer pending rest
  obtain ⟨⟨inner, last⟩, value, read⟩ := chain nonempty next
  have tokens : condition.tokens ≠ [] := by
    rwa [ne_eq, tokens_eq_nil_iff]
  rw [operand_grouped grouped tokens, List.append_assoc, List.cons_append,
    Precedence.readOperand, read, List.singleton_append, Precedence.readConnective, value]

theorem Bracketed.readAsOperand {condition : Condition} (bracketed : Bracketed condition) :
    ReadAsOperand precedence values condition := by
  induction bracketed with
  | compare comparison => exact readAsOperand_compare comparison
  | all _ ih => exact readAsOperand_group rfl (readAsChain_join .and true ih)
  | any _ ih => exact readAsOperand_group rfl (readAsChain_join .or true ih)
  | chain _ _ conjunct alternative =>
      exact readAsOperand_group rfl (readAsChain_chain conjunct alternative)

theorem Bracketed.readAsChain {condition : Condition} (bracketed : Bracketed condition) :
    ReadAsChain precedence values condition := by
  cases bracketed with
  | compare comparison =>
      intro _ next
      exact ⟨([], values next), by simp [Precedence.value, meaning], by
        simp [Precedence.readOperand]⟩
  | all each =>
      exact readAsChain_join .and true fun part member => (each part member).readAsOperand
  | any each =>
      exact readAsChain_join .or true fun part member => (each part member).readAsOperand
  | chain conjunct alternative =>
      exact readAsChain_chain (fun part member => (conjunct part member).readAsOperand)
        fun part member => (alternative part member).readAsOperand

end

theorem evaluate_tokens {condition : Condition} (bracketed : Bracketed condition)
    (nonempty : condition.comparisons ≠ []) (precedence : Precedence) (values : Nat → Bool) :
    precedence.evaluate values condition.tokens =
      some (condition.meaning values 0) := by
  obtain ⟨read, value, run⟩ := bracketed.readAsChain nonempty 0
  have whole := run [] []
  rw [List.append_nil] at whole
  rw [Precedence.evaluate, whole, Precedence.readConnective, value]

/--
The tokens of an assembled condition spell its text and hold its comparisons
from left to right, and their value does not depend on which connective binds
tighter.
-/
theorem evaluate_tokens_eq_meaning {condition : Condition}
    (source : Assembled condition ∨
      ∃ limit members, ofMapping limit members = .ok condition)
    (nonempty : condition.comparisons ≠ []) {escaping : Escaping} {text : String}
    (written : condition.text escaping = .ok text) :
    Token.spell escaping condition.tokens = text.toList ∧
      condition.tokens.filterMap Token.comparison? = condition.comparisons ∧
      ∀ (precedence : Precedence) (values : Nat → Bool),
        precedence.evaluate values condition.tokens =
          some (condition.meaning values 0) := by
  have bracketed : Bracketed condition := by
    rcases source with assembled | ⟨limit, members, read⟩
    · exact assembled.bracketed
    · exact (assembled_of_ofMapping read).bracketed
  exact ⟨(text_eq_ok_iff.mp written).2.symm, condition.comparisons_eq_filterMap,
    evaluate_tokens bracketed nonempty⟩

private def isNull (field : String) : Condition :=
  .compare ⟨field, .eq, .null⟩

theorem evaluate_tokens_of_chain :
    let condition :=
      (all [isNull "a", all [], isNull "b"]).or (all [isNull "c", isNull "d"])
    (Assembled condition ∨ ∃ limit members, ofMapping limit members = .ok condition) ∧
      condition.comparisons ≠ [] ∧
      condition.text .verbatim =
        .ok "a is null and b is null or (c is null and d is null)" ∧
      Precedence.andFirst.evaluate (· = 1) condition.tokens = some false ∧
      Precedence.leftToRight.evaluate (fun n => 2 ≤ n) condition.tokens =
        some true := by
  have parts : ∀ field, Assembled (isNull field) := fun _ => .compare _
  have assembled : Assembled
      ((all [isNull "a", all [], isNull "b"]).or (all [isNull "c", isNull "d"])) :=
    .or (.all (by simp [parts, Assembled.all])) (.all (by simp [parts]))
  have nonempty : ((all [isNull "a", all [], isNull "b"]).or
      (all [isNull "c", isNull "d"])).comparisons ≠ [] := by
    simp [or, all, any, isNull]
  have written : ((all [isNull "a", all [], isNull "b"]).or
      (all [isNull "c", isNull "d"])).text .verbatim =
        .ok "a is null and b is null or (c is null and d is null)" := by
    rfl
  obtain ⟨-, -, values⟩ := evaluate_tokens_eq_meaning (.inl assembled) nonempty written
  exact ⟨.inl assembled, nonempty, written, by rw [values]; rfl, by rw [values]; rfl⟩

end Condition

end QueryDoc
