import Telecine.Decimal.Binary64

/-! The fewest decimal digits that read back as a given number, and the two ways this library lays
them out. The candidates on each decimal grid are the two neighbours of the exact value; the first
grid with one inside the number's rounding interval wins. -/
namespace Telecine.Decimal

structure Scientific where
  digits : Nat
  exponent : Int
  deriving DecidableEq, Repr

def digitCount (n : Nat) : Nat := if n = 0 then 0 else (Nat.toDigits 10 n).length

/-- Where the point stands: `value < 10 ^ p`, and `p` is least. -/
def pointPosition (num den : Nat) : Int :=
  if den ≤ num then digitCount (num / den) else 1 - (digitCount ((den - 1) / num) : Int)

def pow10 (n : Int) : Nat := tenTo n.toNat

/-- The neighbours of the value among multiples of `10 ^ exponent`, if they read back. `value`,
`low` and `high` are over one denominator `den`; the interval's ends belong to it if `closed`. -/
def onGrid (value low high den : Nat) (closed tieUp : Bool) (exponent : Int) : Option Scientific :=
  let up := pow10 (-exponent)
  let unit := den * pow10 exponent
  let value := value * up
  let inside (n : Nat) : Bool :=
    if closed then low * up ≤ n * unit && n * unit ≤ high * up
    else low * up < n * unit && n * unit < high * up
  let below := value / unit
  let above := below + 1
  match inside below && below ≠ 0, inside above with
  | false, false => none
  | true, false => some ⟨below, exponent⟩
  | false, true => some ⟨above, exponent⟩
  | true, true =>
    let twice := value % unit * 2
    let pickAbove := unit < twice || (twice = unit && (tieUp || below % 2 = 1))
    some ⟨if pickAbove then above else below, exponent⟩

def firstGrid (value low high den : Nat) (closed tieUp : Bool) (point : Int) :
    (count left : Nat) → Scientific
  | _, 0 => ⟨value / den, 0⟩
  | count, left + 1 =>
    match onGrid value low high den closed tieUp (point - count) with
    | some found => found
    | none => firstGrid value low high den closed tieUp point (count + 1) left

def Scientific.trim (s : Scientific) : (fuel : Nat) → Scientific
  | 0 => s
  | fuel + 1 =>
    if s.digits ≠ 0 ∧ s.digits % 10 = 0 then
      Scientific.trim ⟨s.digits / 10, s.exponent + 1⟩ fuel
    else s

def shortest (x : Binary64) (tieUp : Bool) : Scientific :=
  if x.mantissa = 0 then ⟨0, 0⟩ else
  let quarter := x.exponent - 2
  let unit := twoTo quarter.toNat
  let den := twoTo (-quarter).toNat
  let value := x.mantissa * 4 * unit
  let low := (x.mantissa * 4 - if x.narrowBelow then 1 else 2) * unit
  let high := (x.mantissa * 4 + 2) * unit
  (firstGrid value low high den (x.mantissa % 2 = 0) tieUp (pointPosition value den) 1 17).trim 20

structure Layout where
  positional : Int → Bool
  wholePoint : Bool
  /-- Of two equally near decimals the larger, not the even one. -/
  tieUp : Bool
  notANumber : String
  infinity : String

def zeros (n : Nat) : String := String.ofList (List.replicate n '0')

def Layout.positionalText (l : Layout) (digits : List Char) (point : Int) : String :=
  if point ≤ 0 then "0." ++ zeros (-point).toNat ++ String.ofList digits
  else if digits.length ≤ point then
    String.ofList digits ++ zeros (point - digits.length).toNat ++ if l.wholePoint then ".0" else ""
  else String.ofList (digits.take point.toNat) ++ "." ++ String.ofList (digits.drop point.toNat)

def exponentText (digits : List Char) (point : Int) : String :=
  let tail := if digits.length ≤ 1 then "" else "." ++ String.ofList (digits.drop 1)
  let power := point - 1
  String.ofList (digits.take 1) ++ tail ++ "e" ++ (if power < 0 then "-" else "+") ++
    toString power.natAbs

def Layout.magnitude (l : Layout) (x : Binary64) : String :=
  if x.mantissa = 0 then (if l.wholePoint then "0.0" else "0") else
  let s := shortest x l.tieUp
  let digits := Nat.toDigits 10 s.digits
  let point := s.exponent + digits.length
  if l.positional point then l.positionalText digits point else exponentText digits point

def Layout.write (l : Layout) (x : Float) : String :=
  match Reading.ofFloat x with
  | .notANumber => l.notANumber
  | .infinite negative => (if negative then "-" else "") ++ l.infinity
  | .finite v => (if v.negative then "-" else "") ++ l.magnitude v

def plain : Layout := ⟨fun _ => true, false, true, "NaN", "inf"⟩

def interchange : Layout :=
  ⟨fun point => -5 < point && point ≤ 16, true, false, "null", "null"⟩

end Telecine.Decimal
