/-! The numbers behind 64-bit floating point: a finite one is `mantissa * 2 ^ exponent` with a sign.
`nearest` goes the other way, from a fraction to the closest number of that form. -/
namespace Telecine.Decimal

def twoTo (n : Nat) : Nat := Nat.pow 2 n

def tenTo (n : Nat) : Nat := Nat.pow 10 n

structure Binary64 where
  negative : Bool
  mantissa : Nat
  exponent : Int
  narrowBelow : Bool
  deriving DecidableEq, Repr

inductive Reading
  | finite (value : Binary64)
  | infinite (negative : Bool)
  | notANumber
  deriving DecidableEq, Repr

def Reading.ofBits (bits : UInt64) : Reading :=
  let n := bits.toNat
  let negative : Bool := n / twoTo 63 % 2 = 1
  let field : Nat := n / twoTo 52 % 2048
  let fraction : Nat := n % twoTo 52
  if field = 2047 then
    if fraction = 0 then .infinite negative else .notANumber
  else if field = 0 then .finite ⟨negative, fraction, -1074, false⟩
  else .finite ⟨negative, fraction + twoTo 52, (field : Int) - 1075, fraction = 0 && field ≠ 1⟩

def Reading.ofFloat (x : Float) : Reading := .ofBits x.toBits

def Binary64.round (v : Binary64) : Int :=
  let size := (v.mantissa * 2 * twoTo v.exponent.toNat + twoTo (-v.exponent).toNat) /
    (2 * twoTo (-v.exponent).toNat)
  if v.negative then -size else size

/-- The nearest of the 64-bit integers, and zero for what is not a number. -/
def nearestInt64 (x : Float) : Int :=
  match Reading.ofFloat x with
  | .finite v => max (-9223372036854775808) (min v.round 9223372036854775807)
  | .infinite negative => if negative then -9223372036854775808 else 9223372036854775807
  | .notANumber => 0

def roundHalfEven (num den : Nat) : Nat :=
  let quotient := num / den
  let twice := num % den * 2
  if twice < den then quotient
  else if den < twice then quotient + 1
  else if quotient % 2 = 0 then quotient else quotient + 1

/-- Bits of the number nearest to `num / den`, a half going to the even mantissa. Too large a
fraction gives infinity. -/
def nearestBits (num den : Nat) : UInt64 :=
  if num = 0 ∨ den = 0 then 0 else
  let guess : Int := (num.log2 : Int) - den.log2
  let scale : Int := if num * twoTo (-guess).toNat < den * twoTo guess.toNat then guess - 1 else guess
  let exponent := max (scale - 52) (-1074)
  let mantissa := roundHalfEven (num * twoTo (-exponent).toNat) (den * twoTo exponent.toNat)
  let bits := ((exponent + 1074) * twoTo 52 + mantissa).toNat
  if bits < 2047 * twoTo 52 then bits.toUInt64 else 0x7ff0000000000000

def nearest (digits : Nat) (exponent : Int) : Float :=
  if digits = 0 then 0
  else if exponent > 400 then Float.ofBits 0x7ff0000000000000
  else if exponent + digits.log2 < -1200 then 0
  else Float.ofBits (nearestBits (digits * tenTo exponent.toNat) (tenTo (-exponent).toNat))

end Telecine.Decimal
