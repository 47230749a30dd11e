import Mathlib.Data.List.TakeWhile
import QueryDoc.Number

/-!
# Numerals

A numeral is a row of digits, with a point and more digits behind it or not, and
with a minus sign in front or not.  A finite number is a numeral in query text.

Main statement: `isNumeral_queryText`.
-/

namespace QueryDoc

namespace Decimal

def IsDigits (text : List Char) : Prop :=
  text ≠ [] ∧ ∀ c ∈ text, c.isDigit = true

inductive IsUnsigned : List Char → Prop where
  | whole {digits : List Char} (whole : IsDigits digits) : IsUnsigned digits
  | pointed {digits fraction : List Char} (whole : IsDigits digits)
      (part : IsDigits fraction) : IsUnsigned (digits ++ '.' :: fraction)

inductive IsNumeral : List Char → Prop where
  | plain {text : List Char} (unsigned : IsUnsigned text) : IsNumeral text
  | negative {text : List Char} (unsigned : IsUnsigned text) : IsNumeral ('-' :: text)

theorem IsDigits.not_mem {text : List Char} (digits : IsDigits text) {c : Char}
    (other : c.isDigit = false) : c ∉ text := by
  intro member
  rw [digits.2 c member] at other
  contradiction

theorem IsUnsigned.not_mem {text : List Char} (unsigned : IsUnsigned text) {c : Char}
    (other : c.isDigit = false) (noPoint : c ≠ '.') : c ∉ text := by
  cases unsigned with
  | whole whole => exact whole.not_mem other
  | pointed whole part => simp [whole.not_mem other, part.not_mem other, noPoint]

theorem IsNumeral.not_mem {text : List Char} (numeral : IsNumeral text) {c : Char}
    (other : c.isDigit = false) (noPoint : c ≠ '.') (noSign : c ≠ '-') : c ∉ text := by
  cases numeral with
  | plain unsigned => exact unsigned.not_mem other noPoint
  | negative unsigned => simp [unsigned.not_mem other noPoint, noSign]

theorem isUnsigned_iff {text : List Char} :
    IsUnsigned text ↔ IsDigits text ∨ ∃ point < text.length,
      IsDigits (text.take point) ∧ text[point]? = some '.' ∧
        IsDigits (text.drop (point + 1)) := by
  constructor
  · intro unsigned
    cases unsigned with
    | whole whole => exact .inl whole
    | @pointed digits fraction whole part =>
        exact .inr ⟨digits.length, by simp, by simpa using whole, by simp, by simpa using part⟩
  · rintro (whole | ⟨point, within, whole, here, part⟩)
    · exact .whole whole
    · have split : text = text.take point ++ '.' :: text.drop (point + 1) := by
        rw [List.getElem?_eq_getElem within] at here
        rw [← Option.some.inj here, ← List.drop_eq_getElem_cons within,
          List.take_append_drop]
      rw [split]
      exact .pointed whole part

theorem isNumeral_iff {text : List Char} :
    IsNumeral text ↔ IsUnsigned text ∨ text.head? = some '-' ∧ IsUnsigned text.tail := by
  constructor
  · intro numeral
    cases numeral with
    | plain unsigned => exact .inl unsigned
    | negative unsigned => exact .inr ⟨rfl, unsigned⟩
  · rintro (unsigned | ⟨sign, unsigned⟩)
    · exact .plain unsigned
    · obtain ⟨rest, rfl⟩ := List.head?_eq_some_iff.mp sign
      exact .negative unsigned

instance (text : List Char) : Decidable (IsDigits text) :=
  decidable_of_iff (text ≠ [] ∧ text.all Char.isDigit = true) (by simp [IsDigits])

instance (text : List Char) : Decidable (IsUnsigned text) :=
  decidable_of_iff _ isUnsigned_iff.symm

instance (text : List Char) : Decidable (IsNumeral text) :=
  decidable_of_iff _ isNumeral_iff.symm

/-! ## Digits -/

theorem isDigits_toDigits (count : Nat) : IsDigits (Nat.toDigits 10 count) :=
  ⟨Nat.toDigits_ne_nil,
    fun _ member => Nat.isDigit_of_mem_toDigits (by decide) (by decide) member⟩

theorem isDigits_append {first second : List Char} (digits : IsDigits first)
    (more : ∀ c ∈ second, c.isDigit = true) : IsDigits (first ++ second) := by
  refine ⟨by simp [digits.1], fun c member => ?_⟩
  rcases List.mem_append.mp member with old | new
  · exact digits.2 c old
  · exact more c new

theorem isDigit_of_mem_replicate {count : Nat} {c : Char}
    (member : c ∈ List.replicate count '0') : c.isDigit = true := by
  rw [List.eq_of_mem_replicate member]
  decide

theorem isDigits_ofUnits {count : Nat} (positive : 0 < count) (place : Int) :
    IsDigits (ofUnits count place).digits := by
  have digits := isDigits_toDigits count
  constructor
  · intro empty
    have onlyZeros : ∀ c ∈ Nat.toDigits 10 count, c = '0' := by
      simpa [ofUnits, List.dropWhile_eq_nil_iff] using empty
    have value : Nat.ofDigitChars 10 (Nat.toDigits 10 count) 0 = count :=
      Nat.ofDigitChars_ten_toDigits
    rw [List.eq_replicate_of_mem onlyZeros, Nat.ofDigitChars_replicate_zero] at value
    omega
  · intro c member
    have kept : c ∈ (Nat.toDigits 10 count).reverse.dropWhile (· == '0') := by
      simpa [ofUnits] using member
    exact digits.2 c (List.mem_reverse.mp ((List.dropWhile_sublist _).mem kept))

/-! ## The shortest decimal -/

theorem Interval.pos_of_contains {interval : Interval} (positive : 0 < interval.lower)
    {point : Nat} (inside : interval.contains point = true) : 0 < point := by
  rcases Nat.eq_zero_or_pos point with rfl | positivePoint
  · simp only [contains, Nat.zero_mul] at inside
    split at inside
    · have bounds := of_decide_eq_true inside
      omega
    · have bounds := of_decide_eq_true inside
      omega
  · exact positivePoint

theorem Interval.lower_pos_ofBinary {significand : Nat} (positive : 0 < significand)
    (exponent : Int) : 0 < (ofBinary significand exponent).lower := by
  have scale : 0 < Nat.pow 2 (exponent - 2).toNat := Nat.pow_pos (by decide)
  refine Nat.mul_pos ?_ scale
  split <;> omega

theorem Interval.lower_pos_inUnitsOf {interval : Interval} (positive : 0 < interval.lower)
    (place : Int) : 0 < (interval.inUnitsOf place).lower :=
  Nat.mul_pos positive (Nat.pow_pos (by decide))

theorem isDigits_shortest (tie : Tie) (significand : Nat) (exponent : Int) :
    IsDigits (shortest tie significand exponent).digits := by
  unfold shortest
  simp only
  split
  · decide
  · rename_i nonzero
    have positive : 0 < significand := Nat.pos_of_ne_zero nonzero
    cases found : (List.range 17).findSome? _ with
    | none =>
        refine isDigits_ofUnits (Nat.mul_pos (Nat.mul_pos positive ?_) ?_) _
        · exact Nat.pow_pos (by decide)
        · exact Nat.pow_pos (by decide)
    | some decimal =>
        obtain ⟨count, -, onGrid⟩ := List.exists_of_findSome?_eq_some found
        obtain ⟨point, chosen, rfl⟩ := Option.map_eq_some_iff.mp onGrid
        have inside := Interval.nearest?_mem chosen
        exact isDigits_ofUnits (Interval.pos_of_contains
          (Interval.lower_pos_inUnitsOf (Interval.lower_pos_ofBinary positive _) _)
          inside) _

/-! ## Texts -/

theorem isUnsigned_place {layout : Layout} (bare : layout.wholeEnd = [])
    {number : Decimal} (digits : IsDigits number.digits) :
    IsUnsigned (layout.place number) := by
  unfold Layout.place
  simp only [bare, List.append_nil]
  split
  · have zero : IsDigits ['0'] := by decide
    refine .pointed zero ⟨by simp [digits.1], ?_⟩
    intro c member
    rcases List.mem_append.mp member with zero | digit
    · exact isDigit_of_mem_replicate zero
    · exact digits.2 c digit
  · rename_i after
    split
    · exact .whole (isDigits_append digits fun c => isDigit_of_mem_replicate)
    · rename_i among
      refine .pointed ⟨?_, fun c member => digits.2 c (List.mem_of_mem_take member)⟩
        ⟨?_, fun c member => digits.2 c (List.mem_of_mem_drop member)⟩
      · rw [ne_eq, List.take_eq_nil_iff]
        rintro (nothing | empty)
        · omega
        · exact digits.1 empty
      · rw [ne_eq, List.drop_eq_nil_iff]
        omega

theorem isNumeral_signed (negative : Bool) {text : List Char} (unsigned : IsUnsigned text) :
    IsNumeral (Layout.signed negative text) := by
  cases negative with
  | false => exact .plain unsigned
  | true => exact .negative unsigned

end Decimal

namespace Number

open Decimal

def isFinite : Number → Bool
  | .integer _ => true
  | .float value => (Binary64.ofFloat value).isFinite

theorem isNumeral_queryText {number : Number} (finite : number.isFinite = true) :
    IsNumeral number.queryText.toList := by
  cases number with
  | integer value =>
      have digits (count : Nat) : IsUnsigned (Nat.toDigits 10 count) :=
        .whole (isDigits_toDigits count)
      cases value with
      | ofNat count => simpa [queryText, text, Int.repr] using IsNumeral.plain (digits count)
      | negSucc count =>
          simpa [queryText, text, Int.repr] using IsNumeral.negative (digits (count + 1))
  | float value =>
      have written : (float value).queryText.toList =
          queryLayout.ofBinary64 (.ofFloat value) := by
        simp [queryText, text, Layout.ofFloat]
      rw [written]
      cases shape : Binary64.ofFloat value with
      | finite negative significand exponent =>
          exact isNumeral_signed negative
            (isUnsigned_place rfl (isDigits_shortest _ significand exponent))
      | infinite negative => simp [isFinite, shape, Binary64.isFinite] at finite
      | notANumber => simp [isFinite, shape, Binary64.isFinite] at finite

/-- Not even what is written for an infinity or for no number holds a quote. -/
theorem quote_not_mem_queryText (number : Number) : '\'' ∉ number.queryText.toList := by
  by_cases finite : number.isFinite = true
  · exact (isNumeral_queryText finite).not_mem (by decide) (by decide) (by decide)
  · cases number with
    | integer value => exact (finite rfl).elim
    | float value =>
        cases shape : Binary64.ofFloat value with
        | finite negative significand exponent =>
            simp [isFinite, shape, Binary64.isFinite] at finite
        | infinite negative =>
            cases negative <;>
              simp [queryText, text, Layout.ofFloat, shape, Layout.ofBinary64, Layout.signed]
        | notANumber =>
            simp [queryText, text, Layout.ofFloat, shape, Layout.ofBinary64]

end Number

end QueryDoc
