import QueryDoc.Decimal

/-!
# Numbers

Integers are kept exact and written in full; every other number is a double.  A JSON
value holds integers of 64 bits, with a sign or without one, and finite doubles.
-/

namespace QueryDoc

inductive Number where
  | integer (value : Int)
  | float (value : Float)
  deriving DecidableEq

namespace Number

def text (layout : Decimal.Layout) : Number → String
  | .integer value => toString value
  | .float value => layout.ofFloat value

/--
In query text a number never has an exponent, a whole number never a point, and
of two equally near shortest decimals the greater is written.
-/
def queryLayout : Decimal.Layout :=
  { tie := .up
    positional := fun _ => true
    wholeEnd := [] }

def queryText : Number → String :=
  text queryLayout

/-- Doubles compare as numbers do: zeros are equal, and no `NaN` equals itself. -/
def beq : Number → Number → Bool
  | .integer first, .integer second => first == second
  | .float first, .float second => first == second
  | _, _ => false

instance : BEq Number := ⟨beq⟩

example : (float 10.0).queryText = "10" := by decide +kernel
example : (float (-0.0)).queryText = "-0" := by decide +kernel
example : (float 1e21).queryText = "1000000000000000000000" := by
  decide +kernel
example : (float 0.1).queryText = "0.1" := by decide +kernel

/-- Integers of 64 bits, with a sign or without one, and doubles that are finite. -/
def Stored : Number → Prop
  | .integer value => -(Word.negativeBound : Int) ≤ value ∧ value < Word.bound
  | .float value => value.isFinite = true

instance : DecidablePred Stored
  | .integer value =>
      inferInstanceAs (Decidable (-(Word.negativeBound : Int) ≤ value ∧ value < Word.bound))
  | .float value => inferInstanceAs (Decidable (value.isFinite = true))

end Number

/-! ## Stored numbers -/

/-- A number as a JSON value holds it. -/
inductive StoredNumber where
  | natural (value : UInt64)
  | negative (value : Int64) (below : value < 0)
  | double (value : Float) (finite : value.isFinite = true)
  deriving DecidableEq

namespace StoredNumber

def number : StoredNumber → Number
  | .natural value => .integer value.toNat
  | .negative value _ => .integer value.toInt
  | .double value _ => .float value

theorem toInt_ofInt {value : Int} (least : -(Word.negativeBound : Int) ≤ value)
    (below : value < 0) : (Int64.ofInt value).toInt = value := by
  rw [Word.negativeBound] at least
  exact Int64.toInt_ofInt_of_le (by omega) (by omega)

theorem ofInt_lt_zero {value : Int} (least : -(Word.negativeBound : Int) ≤ value)
    (below : value < 0) : Int64.ofInt value < 0 := by
  rw [Int64.lt_iff_toInt_lt, toInt_ofInt least below]
  exact below

def ofNumber? : Number → Option StoredNumber
  | .integer value =>
      if 0 ≤ value ∧ value < Word.bound then
        some (.natural (.ofNat value.toNat))
      else if within : -(Word.negativeBound : Int) ≤ value ∧ value < 0 then
        some (.negative (.ofInt value) (ofInt_lt_zero within.1 within.2))
      else
        none
  | .float value =>
      if finite : value.isFinite = true then some (.double value finite) else none

def toInt64? : StoredNumber → Option Int64
  | .natural value =>
      if value.toNat < Word.negativeBound then some (.ofNat value.toNat) else none
  | .negative value _ => some value
  | .double _ _ => none

def toUInt64? : StoredNumber → Option UInt64
  | .natural value => some value
  | .negative _ _ | .double _ _ => none

def toFloat? : StoredNumber → Option Float
  | .natural value => some value.toFloat
  | .negative value _ => some (-value.toInt.natAbs.toFloat)
  | .double value _ => some value

theorem toNat_lt_bound (value : UInt64) : value.toNat < Word.bound :=
  value.toNat_lt

theorem toInt_lt_zero {value : Int64} (below : value < 0) : value.toInt < 0 :=
  Int64.lt_iff_toInt_lt.mp below

theorem stored_number (stored : StoredNumber) : stored.number.Stored := by
  cases stored with
  | natural value =>
      have small := toNat_lt_bound value
      simp only [number, Number.Stored]
      omega
  | negative value below =>
      have least := value.le_toInt
      have negative := toInt_lt_zero below
      simp only [number, Number.Stored, Word.negativeBound, Word.bound]
      omega
  | double value finite => exact finite

theorem ofNumber?_number (stored : StoredNumber) : ofNumber? stored.number = some stored := by
  cases stored with
  | natural value =>
      have small := toNat_lt_bound value
      rw [number, ofNumber?, if_pos (by omega), Int.toNat_natCast, UInt64.ofNat_toNat]
  | negative value below =>
      have least := value.le_toInt
      have negative := toInt_lt_zero below
      have notNatural : ¬ (0 ≤ value.toInt ∧ value.toInt < Word.bound) := by omega
      have within : -(Word.negativeBound : Int) ≤ value.toInt ∧ value.toInt < 0 := by
        rw [Word.negativeBound]
        omega
      simp only [number, ofNumber?, if_neg notNatural, dif_pos within, Int64.ofInt_toInt]
  | double value finite => exact dif_pos finite

theorem number_of_ofNumber? {number : Number} {stored : StoredNumber}
    (found : ofNumber? number = some stored) : stored.number = number := by
  cases number with
  | integer value =>
      simp only [ofNumber?] at found
      split at found
      next within =>
        cases found
        have small : value.toNat < UInt64.size := by
          rw [Word.bound] at within
          rw [UInt64.size]
          omega
        rw [StoredNumber.number, UInt64.toNat_ofNat_of_lt' small,
          Int.toNat_of_nonneg within.1]
      next =>
        split at found
        next within =>
          cases found
          rw [StoredNumber.number, toInt_ofInt within.1 within.2]
        next => cases found
  | float value =>
      simp only [ofNumber?] at found
      split at found
      · cases found
        rfl
      · cases found

theorem exists_number_eq {number : Number} (fits : number.Stored) :
    ∃ stored : StoredNumber, stored.number = number := by
  suffices some : ∃ stored, ofNumber? number = some stored by
    obtain ⟨stored, found⟩ := some
    exact ⟨stored, number_of_ofNumber? found⟩
  cases number with
  | integer value =>
      obtain ⟨least, greatest⟩ := fits
      simp only [ofNumber?]
      split
      · exact ⟨_, rfl⟩
      · rw [dif_pos (by omega)]
        exact ⟨_, rfl⟩
  | float value => exact ⟨_, dif_pos fits⟩

end StoredNumber

/-! ## Unsigned numbers as text -/

namespace Text

def plusDropped : List Char → List Char
  | '+' :: digits => digits
  | digits => digits

/--
A number of 64 bits, written with ASCII digits, zeros in front allowed, after an
optional plus sign.
-/
def unsigned? (text : List Char) : Option Nat :=
  let digits := plusDropped text
  let value := Nat.ofDigitChars 10 digits 0
  if digits ≠ [] ∧ digits.all Char.isDigit ∧ value < Word.bound then
    some value
  else
    none

example : unsigned? "+18446744073709551615".toList = some (Word.bound - 1) := by decide
example : unsigned? "18446744073709551616".toList = none := by decide
example : unsigned? "+".toList = none := by decide

end Text

end QueryDoc
