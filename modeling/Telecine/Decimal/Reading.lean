import Telecine.Decimal.Binary64

/-! Numbers as they are typed: a sign, then digits; with a point and an exponent where the number need
not be whole. -/
namespace Telecine.Decimal

def digits? (cs : List Char) : Option Nat :=
  if cs ≠ [] ∧ cs.all Char.isDigit then some (Nat.ofDigitChars 10 cs 0) else none

def signed : List Char → Bool × List Char
  | '-' :: rest => (true, rest)
  | '+' :: rest => (false, rest)
  | cs => (false, cs)

def int? (text : String) : Option Int := do
  let (negative, rest) := signed text.toList
  let magnitude : Nat ← digits? rest
  return if negative then -magnitude else magnitude

def nat? (limit : Nat) (text : String) : Option Nat := do
  let value ← match text.toList with
    | '+' :: rest => digits? rest
    | cs => digits? cs
  if value < limit then some value else none

def exponent? : List Char → Option Int
  | [] => some 0
  | mark :: rest =>
    if mark = 'e' ∨ mark = 'E' then int? (String.ofList rest) else none

def magnitude? (cs : List Char) : Option Float := do
  let whole := cs.takeWhile Char.isDigit
  let rest := cs.dropWhile Char.isDigit
  let (fraction, rest) := match rest with
    | '.' :: rest => (rest.takeWhile Char.isDigit, rest.dropWhile Char.isDigit)
    | rest => ([], rest)
  let digits : Nat ← digits? (whole ++ fraction)
  let exponent ← exponent? rest
  return nearest digits (exponent - fraction.length)

def float? (text : String) : Option Float := do
  let (negative, rest) := signed text.toList
  let name := String.ofList (rest.map Char.toLower)
  let value ←
    if name = "inf" ∨ name = "infinity" then some (Float.ofBits 0x7ff0000000000000)
    else if name = "nan" then some (Float.ofBits 0x7ff8000000000000)
    else magnitude? rest
  return if negative then -value else value

end Telecine.Decimal
