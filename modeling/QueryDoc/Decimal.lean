import QueryDoc.Binary64

/-!
# Decimals of doubles

The numbers that round to a given double form an interval around its value.
The shortest decimal is found on ever finer decimal grids: the first grid with
a point in the interval decides how many digits are written, and the point
nearest to the value decides which.  An exact tie is left to the caller.

Main statement: `Interval.nearest?_mem`, the chosen point lies in the interval.
-/

namespace QueryDoc

/-- The number `0.d₁d₂… * 10 ^ point`, where `d₁d₂…` are the digits. -/
structure Decimal where
  digits : List Char
  point : Int
  deriving DecidableEq, Repr

namespace Decimal

/-! ## Ties -/

/-- Which of two equally near neighbours `n` and `n + 1` is taken. -/
inductive Tie where
  | up
  | toEven
  deriving DecidableEq, Repr

def Tie.choose : Tie → Nat → Nat
  | .up, below => below + 1
  | .toEven, below => if below % 2 = 0 then below else below + 1

/-! ## Rounding intervals -/

/--
A positive value with the ends of an interval around it, all three over the
same denominator.
-/
structure Interval where
  lower : Nat
  value : Nat
  upper : Nat
  denominator : Nat
  closed : Bool
  deriving DecidableEq, Repr

namespace Interval

/--
The numbers that round to `significand * 2 ^ exponent`.  Neighbouring doubles
are one unit away, except that below a power of two they are half a unit away;
the ends belong to the interval when the significand is even.
-/
def ofBinary (significand : Nat) (exponent : Int) : Interval :=
  let scale := Nat.pow 2 (exponent - 2).toNat
  let below := if significand = Word.leadingBit ∧ -1074 < exponent then 1 else 2
  { lower := (4 * significand - below) * scale
    value := 4 * significand * scale
    upper := (4 * significand + 2) * scale
    denominator := Nat.pow 2 (2 - exponent).toNat
    closed := significand % 2 = 0 }

def inUnitsOf (interval : Interval) (place : Int) : Interval :=
  let scale := Nat.pow 10 (-place).toNat
  { interval with
    lower := interval.lower * scale
    value := interval.value * scale
    upper := interval.upper * scale
    denominator := interval.denominator * Nat.pow 10 place.toNat }

def contains (interval : Interval) (point : Nat) : Bool :=
  let scaled := point * interval.denominator
  if interval.closed then
    decide (interval.lower ≤ scaled ∧ scaled ≤ interval.upper)
  else
    decide (interval.lower < scaled ∧ scaled < interval.upper)

/--
The whole number in the interval that is nearest to its value.  Only the two
neighbours of the value need to be looked at.
-/
def nearest? (tie : Tie) (interval : Interval) : Option Nat :=
  let below := interval.value / interval.denominator
  match interval.contains below, interval.contains (below + 1) with
  | false, false => none
  | true, false => some below
  | false, true => some (below + 1)
  | true, true =>
      let twice := 2 * (interval.value % interval.denominator)
      if twice < interval.denominator then
        some below
      else if interval.denominator < twice then
        some (below + 1)
      else
        some (tie.choose below)

theorem nearest?_mem {tie : Tie} {interval : Interval} {point : Nat}
    (chosen : interval.nearest? tie = some point) :
    interval.contains point = true := by
  simp only [nearest?] at chosen
  split at chosen
  · simp at chosen
  · simp_all
  · simp_all
  · rename_i first second
    have either : ∀ below, tie.choose below = below ∨
        tie.choose below = below + 1 := by
      intro below
      cases tie <;> simp only [Tie.choose] <;> grind
    grind

def magnitude (interval : Interval) : Int :=
  let whole := interval.value / interval.denominator
  if whole = 0 then
    1 - (Nat.toDigits 10 ((interval.denominator - 1) / interval.value)).length
  else
    (Nat.toDigits 10 whole).length

end Interval

/-! ## Decimals -/

def zero : Decimal := ⟨['0'], 1⟩

def ofUnits (count : Nat) (place : Int) : Decimal :=
  let digits := Nat.toDigits 10 count
  { digits := (digits.reverse.dropWhile (· == '0')).reverse
    point := digits.length + place }

def expansion (significand : Nat) (exponent : Int) : Decimal :=
  ofUnits (significand * Nat.pow 2 exponent.toNat * Nat.pow 5 (-exponent).toNat)
    (min exponent 0)

/--
The shortest decimal that rounds to `significand * 2 ^ exponent`.  A grid of at
most seventeen digits always has one; the whole expansion would serve as well.
-/
def shortest (tie : Tie) (significand : Nat) (exponent : Int) : Decimal :=
  let interval := Interval.ofBinary significand exponent
  let onGrid (count : Nat) : Option Decimal :=
    let place := interval.magnitude - (count + 1)
    ((interval.inUnitsOf place).nearest? tie).map (ofUnits · place)
  if significand = 0 then
    zero
  else
    ((List.range 17).findSome? onGrid).getD (expansion significand exponent)

example : shortest .up (2 ^ 52) (-52) = ⟨['1'], 1⟩ := by decide +kernel
example : shortest .up 1 (-1074) = ⟨['5'], -323⟩ := by decide +kernel

end Decimal

end QueryDoc

/-!
## Written decimals

A `Layout` holds the decisions that turn the shortest decimal of a double into
text: how ties go, which numbers are written without an exponent, and what a
whole number ends with.
-/

namespace QueryDoc.Decimal

structure Layout where
  tie : Tie
  /-- Whether a decimal with its point here is written without an exponent. -/
  positional : Int → Bool
  wholeEnd : List Char

namespace Layout

def place (layout : Layout) (number : Decimal) : List Char :=
  let count := number.point.toNat
  if number.point ≤ 0 then
    '0' :: '.' :: List.replicate (-number.point).toNat '0' ++ number.digits
  else if number.digits.length ≤ count then
    number.digits ++ List.replicate (count - number.digits.length) '0' ++
      layout.wholeEnd
  else
    number.digits.take count ++ '.' :: number.digits.drop count

def scientific (number : Decimal) : List Char :=
  let mantissa :=
    match number.digits with
    | first :: second :: rest => first :: '.' :: second :: rest
    | digits => digits
  let exponent := number.point - 1
  mantissa ++ 'e' :: (if exponent < 0 then '-' else '+') ::
    Nat.toDigits 10 exponent.natAbs

def unsigned (layout : Layout) (number : Decimal) : List Char :=
  if layout.positional number.point then
    layout.place number
  else
    scientific number

def signed (negative : Bool) (text : List Char) : List Char :=
  if negative then '-' :: text else text

def ofBinary64 (layout : Layout) : Binary64 → List Char
  | .finite negative significand exponent =>
      signed negative
        (layout.unsigned (shortest layout.tie significand exponent))
  | .infinite negative => signed negative "inf".toList
  | .notANumber => "NaN".toList

def ofFloat (layout : Layout) (x : Float) : String :=
  String.ofList (layout.ofBinary64 (.ofFloat x))

end Layout

end QueryDoc.Decimal
