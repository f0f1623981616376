import OpcodeAtlas.Text.Numeral

namespace OpcodeAtlas.Report

/-- The nearest whole number to a quotient; a half goes to the even neighbour. -/
def roundDiv (num den : Nat) : Nat :=
  let quotient := num / den
  let twice := 2 * (num % den)
  if twice < den then quotient
  else if twice = den then quotient + quotient % 2
  else quotient + 1

/-- A positive number of binary floating point: the significand times a power of two. -/
structure Binary where
  significand : Nat
  exponent : Int
deriving DecidableEq, Repr

namespace Binary

/-- Numerator and denominator of the exact value. -/
def ratio (value : Binary) : Nat × Nat :=
  (value.significand <<< value.exponent.toNat, 1 <<< (-value.exponent).toNat)

/-- The nearest number with a significand of fifty-three bits. The exponent is guessed from the
    bit lengths, which leaves the quotient of the scaled terms between 2^52 and 2^54, and is then
    raised by one where the quotient has a bit too many. -/
def ofRatio (num den : Nat) : Binary :=
  if num = 0 then ⟨0, 0⟩
  else
    let scaled (exponent : Int) : Nat × Nat :=
      (num <<< (-exponent).toNat, den <<< exponent.toNat)
    let guess : Int := (num.log2 : Int) - den.log2 - 53
    let exponent :=
      if 1 <<< 53 ≤ (scaled guess).1 / (scaled guess).2 then guess + 1 else guess
    ⟨roundDiv (scaled exponent).1 (scaled exponent).2, exponent⟩

end Binary

/-- The share of a count in a total as a percentage: a quotient of binary floating point times a
    hundred. Without a total the share is nothing. -/
def share (count total : Nat) : Binary :=
  if total = 0 then ⟨0, 0⟩
  else
    let quotient := (Binary.ofRatio count total).ratio
    Binary.ofRatio (quotient.1 * 100) quotient.2

/-- The share with one decimal place. The place is rounded from the exact binary value, a half to
    the even neighbour. -/
def percent (count total : Nat) : Text :=
  let value := (share count total).ratio
  let tenths := roundDiv (value.1 * 10) value.2
  Numeral.ofNat (tenths / 10) ++ "." ++ Numeral.ofNat (tenths % 10)

end OpcodeAtlas.Report
