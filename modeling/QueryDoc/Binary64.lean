/-!
# Words and doubles

Numbers that words of a fixed size cannot hold begin at a power of two.  A finite
double is a whole number times a power of two, and questions about its decimal
text, or whether it is a whole number, are asked of that exact value, so that none
of them needs arithmetic that rounds.
-/

/-! ## Word sizes -/

namespace QueryDoc.Word

def bound : Nat := 18446744073709551616

def negativeBound : Nat := 9223372036854775808

def halfBound : Nat := 2147483648

/-- The significands of doubles in full precision start here, at `2 ^ 52`. -/
def leadingBit : Nat := 4503599627370496

example : bound = 2 ^ 64 ∧ negativeBound = 2 ^ 63 := by decide
example : halfBound = 2 ^ 31 ∧ leadingBit = 2 ^ 52 := by decide

end QueryDoc.Word

/-! ## Doubles -/

namespace QueryDoc

inductive Binary64 where
  | finite (negative : Bool) (significand : Nat) (exponent : Int)
  | infinite (negative : Bool)
  | notANumber
  deriving DecidableEq, Repr

namespace Binary64

def ofBits (bits : UInt64) : Binary64 :=
  let word := bits.toNat
  let negative := word.testBit 63
  let exponent : Nat := word / Word.leadingBit % 2048
  let fraction := word % Word.leadingBit
  if exponent = 2047 then
    if fraction = 0 then .infinite negative else .notANumber
  else if exponent = 0 then
    .finite negative fraction (-1074)
  else
    .finite negative (Word.leadingBit + fraction) (exponent - 1075)

def ofFloat (x : Float) : Binary64 :=
  ofBits x.toBits

def isFinite : Binary64 → Bool
  | .finite .. => true
  | _ => false

/--
The natural number that a double equals, if it equals one.  A zero of either
sign equals `0`.
-/
def toNat? : Binary64 → Option Nat
  | .finite negative significand exponent =>
      let scale := Nat.pow 2 (-exponent).toNat
      if negative && significand != 0 then
        none
      else if significand % scale = 0 then
        some (significand * Nat.pow 2 exponent.toNat / scale)
      else
        none
  | _ => none

example : ofFloat 1.5 = .finite false (3 * 2 ^ 51) (-52) := by decide +kernel
example : (ofFloat (-0.0)).toNat? = some 0 := by decide +kernel
example : (ofFloat 1e20).toNat? = some (10 ^ 20) := by decide +kernel
example : (ofFloat 2.5).toNat? = none := by decide +kernel

end Binary64

end QueryDoc
