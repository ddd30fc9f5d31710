import Telecine.Decimal.Binary64

/-! A number with a fixed count of decimal places: the exact binary value, rounded half to even. -/
namespace Telecine.Decimal

def padLeft (width : Nat) (fill : Char) (s : String) : String :=
  String.ofList (List.replicate (width - s.length) fill) ++ s

def placed (places scaled : Nat) : String :=
  let whole := toString (scaled / tenTo places)
  if places = 0 then whole
  else whole ++ "." ++ padLeft places '0' (toString (scaled % tenTo places))

def fixed (places : Nat) (x : Float) : String :=
  match Reading.ofFloat x with
  | .notANumber => "NaN"
  | .infinite negative => if negative then "-inf" else "inf"
  | .finite v =>
    let scaled := roundHalfEven (v.mantissa * twoTo v.exponent.toNat * tenTo places)
      (twoTo (-v.exponent).toNat)
    (if v.negative then "-" else "") ++ placed places scaled

end Telecine.Decimal
