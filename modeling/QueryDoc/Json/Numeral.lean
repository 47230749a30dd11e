import QueryDoc.Binary64
import QueryDoc.Json.Reading
import QueryDoc.Number

/-!
# JSON numbers

The digits of a numeral are gathered into a significand of 64 bits and a power
of ten.  A numeral without fraction and exponent whose digits all fit is kept
as an integer; every other one becomes a double, by one multiplication or a
few divisions that each round.
-/

namespace QueryDoc.Json.Numeral

/-! ## Gathering digits -/

structure Gathered where
  significand : Nat
  exponent : Int
  deriving DecidableEq, Repr

def digitValue (c : Char) : Nat :=
  c.toNat - '0'.toNat

def fits (number : Nat) : Bool :=
  number < Word.bound

/-- Once a digit does not fit, it and all behind it only count. -/
def gatherWhole (gathered : Gathered) (digit : Char) : Gathered :=
  let number := 10 * gathered.significand + digitValue digit
  if gathered.exponent = 0 ∧ fits number then
    { gathered with significand := number }
  else
    { gathered with exponent := gathered.exponent + 1 }

def gatherFraction (gathered : Gathered) : List Char → Gathered
  | [] => gathered
  | digit :: digits =>
      let number := 10 * gathered.significand + digitValue digit
      if fits number then
        gatherFraction ⟨number, gathered.exponent - 1⟩ digits
      else
        gathered

/--
The exponent, or nothing once it needs more than 31 bits; reading stops at the
digit that is too much.
-/
def gatherExponent (exponent : Nat) : List Char → Option Nat × List Char
  | [] => (some exponent, [])
  | c :: text =>
      if c.isDigit then
        let number := 10 * exponent + digitValue c
        if number < Word.halfBound then
          gatherExponent number text
        else
          (none, text)
      else
        (some exponent, c :: text)

/-! ## Values -/

def powerOfTen (exponent : Nat) : Float :=
  Float.ofScientific 1 false exponent

def scale (number : Float) (exponent : Int) : Option Float :=
  if exponent.natAbs ≤ 308 then
    let scaled :=
      if exponent < 0 then
        number / powerOfTen exponent.natAbs
      else
        number * powerOfTen exponent.natAbs
    if scaled.isFinite then some scaled else none
  else if number == 0 then
    some number
  else if 0 < exponent then
    none
  else
    scale (number / powerOfTen 308) (exponent + 308)
termination_by (-exponent).toNat

def signed (negative : Bool) (number : Float) : Float :=
  if negative then -number else number

def double (negative : Bool) (gathered : Gathered) (rest : List Char) :
    Reading Cause Number :=
  match scale (Float.ofNat gathered.significand) gathered.exponent with
  | some value => .ok (.float (signed negative value), rest)
  | none => .error (.here .numberOutOfRange rest)

/--
Negative integers reach down to `-2 ^ 63`; what lies below is a double, and so
is negative zero.
-/
def whole (negative : Bool) (significand : Nat) : Number :=
  if negative = false then
    .integer significand
  else if 0 < significand ∧ significand ≤ Word.negativeBound then
    .integer (-significand)
  else
    .float (-Float.ofNat significand)

/-! ## Reading -/

def isExponentMark (c : Char) : Bool :=
  c = 'e' || c = 'E'

def exponentSign : List Char → Bool × List Char
  | '-' :: text => (true, text)
  | '+' :: text => (false, text)
  | text => (false, text)

/--
The exponent and the number it completes.  An exponent that is too large makes
the number zero if it is negative or there is nothing to scale.
-/
def readExponent (negative : Bool) (gathered : Gathered) (text : List Char) :
    Reading Cause Number :=
  let below := (exponentSign text).1
  match (exponentSign text).2 with
  | [] => .error (.here .unfinishedValue [])
  | c :: digits =>
      if c.isDigit then
        match gatherExponent 0 (c :: digits) with
        | (some exponent, rest) =>
            let exponent : Int := if below then -exponent else exponent
            double negative { gathered with exponent := gathered.exponent + exponent } rest
        | (none, rest) =>
            if gathered.significand = 0 || below then
              .ok (.float (signed negative 0), rest.dropWhile Char.isDigit)
            else
              .error (.here .numberOutOfRange rest)
      else
        .error (.next .invalidNumber (c :: digits))

def readFraction (negative : Bool) (gathered : Gathered) (text : List Char) :
    Reading Cause Number :=
  let digits := text.takeWhile Char.isDigit
  let gathered := gatherFraction gathered digits
  match digits, text.dropWhile Char.isDigit with
  | [], [] => .error (.next .unfinishedValue [])
  | [], rest => .error (.next .invalidNumber rest)
  | _, [] => double negative gathered []
  | _, c :: rest =>
      if isExponentMark c then
        readExponent negative gathered rest
      else
        double negative gathered (c :: rest)

def readTail (negative : Bool) (gathered : Gathered) (text : List Char) :
    Reading Cause Number :=
  match text with
  | '.' :: rest => readFraction negative gathered rest
  | 'e' :: rest => readExponent negative gathered rest
  | 'E' :: rest => readExponent negative gathered rest
  | rest =>
      if gathered.exponent = 0 then
        .ok (whole negative gathered.significand, rest)
      else
        double negative gathered rest

def startsWithDigit : List Char → Bool
  | [] => false
  | c :: _ => c.isDigit

def readUnsigned (negative : Bool) (text : List Char) : Reading Cause Number :=
  match text with
  | [] => .error (.here .unfinishedValue [])
  | '0' :: rest =>
      if startsWithDigit rest then
        .error (.next .invalidNumber rest)
      else
        readTail negative ⟨0, 0⟩ rest
  | c :: rest =>
      if c.isDigit then
        readTail negative
          ((c :: rest.takeWhile Char.isDigit).foldl gatherWhole ⟨0, 0⟩)
          (rest.dropWhile Char.isDigit)
      else
        .error (.next .invalidNumber (c :: rest))

def read : List Char → Reading Cause Number
  | '-' :: text => readUnsigned true text
  | text => readUnsigned false text

/-! ## Progress -/

theorem length_gatherExponent_le (exponent : Nat) (text : List Char) :
    (gatherExponent exponent text).2.length ≤ text.length := by
  fun_induction gatherExponent exponent text with
  | case1 => simp
  | case2 exponent c text _ _ _ ih => simp only [List.length_cons]; omega
  | case3 => simp
  | case4 => simp

theorem length_dropDigits_le (text : List Char) :
    (text.dropWhile Char.isDigit).length ≤ text.length :=
  (List.dropWhile_sublist Char.isDigit).length_le

theorem length_exponentSign_le (text : List Char) :
    (exponentSign text).2.length ≤ text.length := by
  unfold exponentSign
  split <;> simp

theorem double_consumes (negative : Bool) (gathered : Gathered) (rest : List Char) :
    (double negative gathered rest).LeavesLess (rest.length + 1) := by
  unfold double
  split
  · exact Reading.leavesLess_ok (by omega)
  · exact Reading.leavesLess_error

theorem readExponent_consumes (negative : Bool) (gathered : Gathered)
    (text : List Char) :
    (readExponent negative gathered text).LeavesLess (text.length + 1) := by
  have signed := length_exponentSign_le text
  unfold readExponent
  dsimp only
  split
  · exact Reading.leavesLess_error
  · rename_i c digits sign
    rw [sign] at signed
    have gathered := length_gatherExponent_le 0 (c :: digits)
    split
    · split
      · rename_i found
        rw [found] at gathered
        dsimp only at gathered
        exact (double_consumes _ _ _).mono (by omega)
      · rename_i rest found
        rw [found] at gathered
        dsimp only at gathered
        have := length_dropDigits_le rest
        split
        · exact Reading.leavesLess_ok (by omega)
        · exact Reading.leavesLess_error
    · exact Reading.leavesLess_error

theorem readFraction_consumes (negative : Bool) (gathered : Gathered)
    (text : List Char) :
    (readFraction negative gathered text).LeavesLess (text.length + 1) := by
  have dropped := length_dropDigits_le text
  unfold readFraction
  dsimp only
  split
  · exact Reading.leavesLess_error
  · exact Reading.leavesLess_error
  · exact (double_consumes _ _ _).mono (by simp)
  · rename_i c rest found _
    rw [found] at dropped
    simp only [List.length_cons] at dropped
    split
    · exact (readExponent_consumes _ _ _).mono (by omega)
    · exact (double_consumes _ _ _).mono (by simp only [List.length_cons]; omega)

theorem readTail_consumes (negative : Bool) (gathered : Gathered)
    (text : List Char) :
    (readTail negative gathered text).LeavesLess (text.length + 1) := by
  unfold readTail
  split
  · exact (readFraction_consumes _ _ _).mono (by simp)
  · exact (readExponent_consumes _ _ _).mono (by simp)
  · exact (readExponent_consumes _ _ _).mono (by simp)
  · split
    · exact Reading.leavesLess_ok (by omega)
    · exact double_consumes _ _ _

theorem readUnsigned_consumes (negative : Bool) (text : List Char) :
    (readUnsigned negative text).LeavesLess text.length := by
  unfold readUnsigned
  split
  · exact Reading.leavesLess_error
  · split
    · exact Reading.leavesLess_error
    · exact (readTail_consumes _ _ _).mono (by simp)
  · split
    · rename_i c rest _ _
      have := length_dropDigits_le rest
      exact (readTail_consumes _ _ _).mono (by simp only [List.length_cons]; omega)
    · exact Reading.leavesLess_error

theorem read_consumes (text : List Char) : (read text).LeavesLess text.length := by
  unfold read
  split
  · exact (readUnsigned_consumes _ _).mono (by simp)
  · exact readUnsigned_consumes _ _

end QueryDoc.Json.Numeral
