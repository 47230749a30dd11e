import Mathlib.Algebra.Field.Rat
import Mathlib.Algebra.Order.Field.Power
import Mathlib.Algebra.Order.Ring.Rat
import Mathlib.Data.List.TakeWhile
import QueryDoc.Proofs.Query.Members

/-!
# What limits denote

A limit is a stored number, of which a double stands for an exact rational, or digits
among white space, and it is kept as it is.  Only the double `2 ^ 64` becomes another number.
What is no limit is as good as not there.

Main statement: `limit_of_denotes`.
-/

namespace QueryDoc

/-! ## Doubles as rationals -/

namespace Binary64

def toRat? : Binary64 → Option ℚ
  | .finite negative significand exponent =>
      let magnitude : ℚ := significand * 2 ^ exponent
      some (if negative then -magnitude else magnitude)
  | .infinite _ | .notANumber => none

theorem magnitude_eq_natCast_iff {significand number : Nat} {exponent : Int} :
    (significand * 2 ^ exponent : ℚ) = number ↔
      significand % 2 ^ (-exponent).toNat = 0 ∧
        significand * 2 ^ exponent.toNat / 2 ^ (-exponent).toNat = number := by
  obtain ⟨power, rfl | rfl⟩ := exponent.eq_nat_or_neg
  · -- The value is whole, whatever the significand is.
    have whole : (significand * 2 ^ (power : Int) : ℚ) = number ↔
        significand * 2 ^ power = number := by
      rw [zpow_natCast]
      exact_mod_cast Iff.rfl
    rw [whole, Int.toNat_natCast, Int.toNat_neg_natCast]
    simp [Nat.mod_one]
  · have scaled : (significand * 2 ^ (-power : Int) : ℚ) = number ↔
        significand = number * 2 ^ power := by
      rw [zpow_neg, zpow_natCast, mul_inv_eq_iff_eq_mul₀ (pow_ne_zero power two_ne_zero)]
      exact_mod_cast Iff.rfl
    rw [scaled, Int.neg_neg, Int.toNat_natCast, Int.toNat_neg_natCast, Nat.pow_zero,
      Nat.mul_one]
    constructor
    · rintro rfl
      exact ⟨Nat.mul_mod_left _ _, Nat.mul_div_cancel _ (Nat.two_pow_pos power)⟩
    · rintro ⟨divides, quotient⟩
      rw [← quotient, Nat.div_mul_cancel (Nat.dvd_of_mod_eq_zero divides)]

theorem toNat?_eq_some_iff {value : Binary64} {number : Nat} :
    value.toNat? = some number ↔ value.toRat? = some (number : ℚ) := by
  cases value with
  | infinite negative | notANumber => simp [toNat?, toRat?]
  | finite negative significand exponent =>
      have magnitude := @magnitude_eq_natCast_iff significand number exponent
      rw [toNat?, toRat?]
      simp only [Nat.pow_eq, Option.some.injEq]
      cases negative with
      | false =>
          simp only [Bool.false_and, Bool.false_eq_true, if_false, magnitude,
            Option.ite_none_right_eq_some, Option.some.injEq]
      | true =>
          by_cases zero : significand = 0
          · subst zero
            simp [eq_comm]
          · have positive : (0 : ℚ) < significand * 2 ^ exponent :=
              mul_pos (Nat.cast_pos.mpr (Nat.pos_of_ne_zero zero)) (zpow_pos two_pos exponent)
            simp only [Bool.true_and, bne_iff_ne, ne_eq, zero, not_false_eq_true, if_true,
              reduceCtorEq, false_iff]
            intro same
            have natural : (0 : ℚ) ≤ number := Nat.cast_nonneg number
            rw [← same, neg_nonneg] at natural
            exact not_le_of_gt positive natural

end Binary64

/-! ## Numerals among blanks -/

namespace Text

def Spells (text : List Char) (number : Nat) : Prop :=
  ∃ digits, (text = digits ∨ text = '+' :: digits) ∧ digits ≠ [] ∧
    (∀ c ∈ digits, c.isDigit = true) ∧ Nat.ofDigitChars 10 digits 0 = number

theorem plusDropped_digits {digits : List Char} (each : ∀ c ∈ digits, c.isDigit = true) :
    plusDropped digits = digits := by
  unfold plusDropped
  split
  · have plus : Char.isDigit '+' = true := each '+' List.mem_cons_self
    cases plus
  · rfl

theorem unsigned?_eq_some_iff {text : List Char} {number : Nat} :
    unsigned? text = some number ↔ Spells text number ∧ number < Word.bound := by
  have unfolded : unsigned? text = some number ↔
      (plusDropped text ≠ [] ∧ (∀ c ∈ plusDropped text, c.isDigit = true) ∧
        Nat.ofDigitChars 10 (plusDropped text) 0 < Word.bound) ∧
          Nat.ofDigitChars 10 (plusDropped text) 0 = number := by
    simp only [unsigned?, List.all_eq_true, Option.ite_none_right_eq_some, Option.some.injEq]
  rw [unfolded]
  constructor
  · rintro ⟨⟨nonempty, each, small⟩, rfl⟩
    refine ⟨⟨plusDropped text, ?_, nonempty, each, rfl⟩, small⟩
    unfold plusDropped
    split
    · exact .inr rfl
    · exact .inl rfl
  · rintro ⟨⟨digits, shape, nonempty, each, rfl⟩, small⟩
    have dropped : plusDropped text = digits := by
      rcases shape with rfl | rfl
      · exact plusDropped_digits each
      · rfl
    rw [dropped]
    exact ⟨⟨nonempty, each, small⟩, rfl⟩

theorem isBlank_of_isDigit {c : Char} (digit : c.isDigit = true) : isBlank c = false := by
  have between : 48 ≤ c.toNat ∧ c.toNat ≤ 57 := Char.isDigit_iff_toNat.mp digit
  have apart : ∀ range ∈ blankRanges, range.2 < 48 ∨ 57 < range.1 := by decide
  rw [Bool.eq_false_iff]
  intro blank
  obtain ⟨range, member, inside⟩ := exists_of_inRanges blank
  have := apart range member
  omega

theorem Spells.ne_nil {text : List Char} {number : Nat} (spells : Spells text number) :
    text ≠ [] := by
  obtain ⟨digits, rfl | rfl, nonempty, -⟩ := spells
  · exact nonempty
  · exact List.cons_ne_nil _ _

theorem Spells.isBlank_eq_false {text : List Char} {number : Nat}
    (spells : Spells text number) : ∀ c ∈ text, isBlank c = false := by
  have plus : isBlank '+' = false := by decide
  obtain ⟨digits, rfl | rfl, -, each, -⟩ := spells
  · exact fun c member => isBlank_of_isDigit (each c member)
  · exact List.forall_mem_cons.mpr ⟨plus, fun c member => isBlank_of_isDigit (each c member)⟩

theorem dropWhile_isBlank {front text : List Char} (blank : ∀ c ∈ front, isBlank c = true)
    (nonempty : text ≠ []) (written : ∀ c ∈ text, isBlank c = false) (back : List Char) :
    (front ++ (text ++ back)).dropWhile isBlank = text ++ back := by
  rw [List.dropWhile_append_of_pos blank]
  cases text with
  | nil => exact (nonempty rfl).elim
  | cons c text =>
      have first : ¬ isBlank c = true := by simp [written c List.mem_cons_self]
      rw [List.cons_append, List.dropWhile_cons_of_neg first]

theorem trim_between {front text back : List Char}
    (blank : ∀ c ∈ front ++ back, isBlank c = true) (nonempty : text ≠ [])
    (written : ∀ c ∈ text, isBlank c = false) : trim (front ++ (text ++ back)) = text := by
  rw [List.forall_mem_append] at blank
  have behind : (back.reverse ++ (text.reverse ++ [])).dropWhile isBlank =
      text.reverse ++ [] := by
    apply dropWhile_isBlank
    · simpa using blank.2
    · simpa using nonempty
    · simpa using written
  rw [List.append_nil] at behind
  rw [trim, dropWhile_isBlank blank.1 nonempty written, List.reverse_append, behind,
    List.reverse_reverse]

theorem exists_trim (text : List Char) :
    ∃ front back, (∀ c ∈ front ++ back, isBlank c = true) ∧
      text = front ++ (trim text ++ back) := by
  let rest := text.dropWhile isBlank
  refine ⟨text.takeWhile isBlank, (rest.reverse.takeWhile isBlank).reverse, ?_, ?_⟩
  · simp only [List.forall_mem_append, List.mem_reverse]
    constructor
    · intro c member
      exact List.mem_takeWhile_imp member
    · intro c member
      exact List.mem_takeWhile_imp member
  · rw [trim, ← List.reverse_append, List.takeWhile_append_dropWhile, List.reverse_reverse,
      List.takeWhile_append_dropWhile]

end Text

/-! ## Limits -/

def Number.toRat? : Number → Option ℚ
  | .integer value => some value
  | .float value => (Binary64.ofFloat value).toRat?

namespace Query

/-- What a value is as a number: its exact value, or what its digits say. -/
inductive Denotes : Json → Nat → Prop where
  | number {stored : StoredNumber} {number : Nat}
      (exact : stored.number.toRat? = some (number : ℚ)) : Denotes (.number stored) number
  | text {text : String} {front numeral back : List Char} {number : Nat}
      (blank : ∀ c ∈ front ++ back, Text.isBlank c = true)
      (written : text.toList = front ++ (numeral ++ back))
      (spells : Text.Spells numeral number) : Denotes (.string text) number

theorem denotes_number_iff {stored : StoredNumber} {number : Nat} :
    Denotes (.number stored) number ↔ stored.number.toRat? = some (number : ℚ) := by
  constructor
  · rintro ⟨⟩
    assumption
  · exact .number

theorem denotes_natural_iff {value : UInt64} {number : Nat} :
    Denotes (.number (.natural value)) number ↔ value.toNat = number := by
  rw [denotes_number_iff, StoredNumber.number, Number.toRat?, Option.some.injEq]
  exact_mod_cast Iff.rfl

theorem not_denotes_negative {value : Int64} {below : value < 0} {number : Nat} :
    ¬ Denotes (.number (.negative value below)) number := by
  rw [denotes_number_iff, StoredNumber.number, Number.toRat?, Option.some.injEq]
  intro same
  have negative := StoredNumber.toInt_lt_zero below
  have natural : value.toInt = number := by exact_mod_cast same
  omega

theorem denotes_double_iff {value : Float} {finite : value.isFinite = true} {number : Nat} :
    Denotes (.number (.double value finite)) number ↔
      (Binary64.ofFloat value).toNat? = some number := by
  rw [denotes_number_iff, Binary64.toNat?_eq_some_iff]
  rfl

theorem denotes_string_iff {text : String} {number : Nat} :
    Denotes (.string text) number ↔ Text.Spells (Text.trim text.toList) number := by
  constructor
  · rintro ⟨⟩
    rename_i front numeral back blank written spells
    rw [written, Text.trim_between blank spells.ne_nil spells.isBlank_eq_false]
    exact spells
  · intro spells
    obtain ⟨front, back, blank, written⟩ := Text.exists_trim text.toList
    exact .text blank written spells

/-- The double `2 ^ 64`. -/
def Saturates (value : Json) : Prop :=
  ∃ (double : Float) (finite : double.isFinite = true),
    value = .number (.double double finite) ∧
      (Binary64.ofFloat double).toRat? = some (2 ^ 64)

theorem saturates_double_iff {value : Float} {finite : value.isFinite = true} :
    Saturates (.number (.double value finite)) ↔
      (Binary64.ofFloat value).toNat? = some Word.bound := by
  have cast : ((Word.bound : Nat) : ℚ) = 2 ^ 64 := by
    exact_mod_cast (by decide : Word.bound = 2 ^ 64)
  rw [Binary64.toNat?_eq_some_iff, cast]
  constructor
  · rintro ⟨double, finite, ⟨⟩, exact⟩
    exact exact
  · intro exact
    exact ⟨value, finite, rfl, exact⟩

theorem limitOfFloat_eq_some_iff {value : Float} {number : Nat} :
    limitOfFloat value = some number ↔
      ∃ whole, (Binary64.ofFloat value).toNat? = some whole ∧ whole ≤ Word.bound ∧
        min whole (Word.bound - 1) = number := by
  simp only [limitOfFloat, Option.bind_eq_bind, Option.bind_eq_some_iff,
    Option.ite_none_right_eq_some, Option.some.injEq]
  rfl

theorem limitOfJson_eq_some_iff {value : Json} (below : ¬ Saturates value) {number : Nat} :
    limitOfJson value = some number ↔ Denotes value number ∧ number < Word.bound := by
  cases value with
  | null | bool _ | array _ | object _ =>
      constructor
      · rintro ⟨⟩
      · rintro ⟨⟨⟩, -⟩
  | string text => rw [limitOfJson, Text.unsigned?_eq_some_iff, denotes_string_iff]
  | number stored =>
      rw [limitOfJson]
      cases stored with
      | natural value =>
          have small := StoredNumber.toNat_lt_bound value
          rw [limitOfNumber, denotes_natural_iff, Option.some.injEq]
          constructor
          · rintro rfl
            exact ⟨rfl, small⟩
          · exact And.left
      | negative value negative =>
          rw [limitOfNumber]
          constructor
          · rintro ⟨⟩
          · rintro ⟨denotes, -⟩
            exact absurd denotes not_denotes_negative
      | double value finite =>
          rw [saturates_double_iff] at below
          rw [limitOfNumber, limitOfFloat_eq_some_iff, denotes_double_iff]
          constructor
          · rintro ⟨whole, exact, bounded, rfl⟩
            have other : whole ≠ Word.bound := by
              rintro rfl
              exact below exact
            have same : min whole (Word.bound - 1) = whole := by omega
            rw [same]
            exact ⟨exact, by omega⟩
          · rintro ⟨exact, small⟩
            exact ⟨number, exact, by omega, by omega⟩

theorem limitOfJson_of_saturates {value : Json} (saturates : Saturates value) :
    limitOfJson value = some (Word.bound - 1) := by
  obtain ⟨double, finite, rfl, exact⟩ := saturates
  have whole := saturates_double_iff.mp ⟨double, finite, rfl, exact⟩
  exact limitOfFloat_eq_some_iff.mpr ⟨Word.bound, whole, Nat.le_refl _, rfl⟩

theorem eq_bound_of_saturates {value : Json} (saturates : Saturates value) {number : Nat}
    (denotes : Denotes value number) : number = Word.bound := by
  obtain ⟨double, finite, rfl, exact⟩ := saturates
  have whole := saturates_double_iff.mp ⟨double, finite, rfl, exact⟩
  rw [denotes_double_iff, whole] at denotes
  exact (Option.some.inj denotes).symm

end Query

/--
A limit is the number that its value denotes, unless this has more than 64 bits; anything
else is no limit, and compiles as if it were not there.
-/
theorem limit_of_denotes {value : Json} (below : ¬ Query.Saturates value) :
    (∀ number, Query.limitOfJson value = some number ↔
      Query.Denotes value number ∧ number < 2 ^ 64) ∧
    ((¬ ∃ number, Query.Denotes value number ∧ number < 2 ^ 64) →
      Query.limitOfJson value = none ∧
        ∀ settings document other members others,
          Query.membersOfText document = .ok members →
          Query.membersOfText other = .ok others →
          Json.get? members "limit" = some value → Json.get? others "limit" = none →
          Json.SameBut "limit" members others →
            compile settings other = compile settings document) := by
  constructor
  · intro number
    exact Query.limitOfJson_eq_some_iff below
  · intro unbounded
    have none : Query.limitOfJson value = none := by
      rw [Option.eq_none_iff_forall_not_mem]
      intro number found
      exact unbounded ⟨number, (Query.limitOfJson_eq_some_iff below).mp found⟩
    refine ⟨none, ?_⟩
    intro settings document other members others read otherRead found absent same
    refine compile_of_ofMembers read otherRead (Query.ofMembers_of_limitOfJson same ?_)
    rw [found, absent]
    exact none.symm

private def negativeLimit : String :=
  "\x7b\"from\":\"t\",\"limit\":\"-5\"\x7d"

private def withoutLimit : String :=
  "\x7b\"from\":\"t\"\x7d"

theorem limit_of_denotes_of_extremes :
    let greatest : Json := .number (.double 18446744073709549568.0 (by decide +kernel))
    let digits : Json := .string "\u00a0+007\n"
    Query.limitOfJson greatest = some 18446744073709549568 ∧
      Query.Denotes greatest 18446744073709549568 ∧
      Query.limitOfJson digits = some 7 ∧ Query.Denotes digits 7 ∧
      compile {} withoutLimit = compile {} negativeLimit := by
  intro greatest digits
  have noFloat : ∀ text, ¬ Query.Saturates (.string text) := by
    rintro text ⟨double, finite, ⟨⟩, -⟩
  have found : Query.limitOfJson greatest = some 18446744073709549568 := by decide +kernel
  have below : ¬ Query.Saturates greatest := by
    intro saturates
    rw [Query.saturates_double_iff] at saturates
    have other : (Binary64.ofFloat 18446744073709549568.0).toNat? ≠ some Word.bound := by
      decide +kernel
    exact other saturates
  have seven : Query.limitOfJson digits = some 7 := by decide +kernel
  have refused : Query.limitOfJson (.string "-5") = none := by decide +kernel
  have read : Query.membersOfText negativeLimit =
      .ok [("from", .string "t"), ("limit", .string "-5")] := by with_unfolding_all rfl
  have otherRead : Query.membersOfText withoutLimit = .ok [("from", .string "t")] := by
    with_unfolding_all rfl
  have same : Json.SameBut "limit" [("from", .string "t"), ("limit", .string "-5")]
      [("from", .string "t")] := by
    intro key other
    have skipped : (key == "limit") = false := beq_false_of_ne other
    simp only [Json.get?, List.lookup_cons, List.lookup_nil, skipped]
  refine ⟨found, ?_, seven, ?_, ?_⟩
  · obtain ⟨exact, -⟩ := limit_of_denotes below
    exact ((exact _).mp found).1
  · obtain ⟨exact, -⟩ := limit_of_denotes (noFloat "\u00a0+007\n")
    exact ((exact _).mp seven).1
  · obtain ⟨exact, dropped⟩ := limit_of_denotes (noFloat "-5")
    have none : ¬ ∃ number, Query.Denotes (.string "-5") number ∧ number < 2 ^ 64 := by
      rintro ⟨number, denotes⟩
      rw [(exact number).mpr denotes] at refused
      cases refused
    obtain ⟨-, alike⟩ := dropped none
    exact alike {} negativeLimit withoutLimit _ _ read otherRead rfl rfl same

private def saturated : String :=
  "\x7b\"from\":\"t\",\"limit\":18446744073709551616\x7d"

theorem limit_not_denoted_of_saturated :
    let value : Json := .number (.double 18446744073709551616.0 (by decide +kernel))
    Query.limitOfJson value = some 18446744073709551615 ∧
      (¬ ∃ number, Query.Denotes value number ∧ number < 2 ^ 64) ∧
      (compile {} saturated).toOption = some "select *\nfrom t\nlimit 18446744073709551615;" ∧
      (compile {} withoutLimit).toOption = some "select *\nfrom t;" := by
  intro value
  have whole : (Binary64.ofFloat 18446744073709551616.0).toNat? = some Word.bound := by
    decide +kernel
  have saturates : Query.Saturates value := Query.saturates_double_iff.mpr whole
  refine ⟨Query.limitOfJson_of_saturates saturates, ?_, by decide +kernel, by decide +kernel⟩
  rintro ⟨number, denotes, small⟩
  rw [Query.eq_bound_of_saturates saturates denotes] at small
  exact absurd small (by decide)

end QueryDoc
