import Telecine.Decimal.Shortest

/-! JSON values. A number keeps its digits as they are written, and a text that no Unicode string can
stand for, because an escape in it names half a surrogate pair, is kept as `none`: what is never looked
at need not have a meaning. -/
namespace Telecine

structure Numeral where
  negative : Bool
  whole : List Char
  fraction : Option (List Char)
  power : Option (Option Char × List Char)
  deriving DecidableEq, Repr

namespace Numeral

def spanDigits (cs : List Char) : List Char × List Char :=
  (cs.takeWhile Char.isDigit, cs.dropWhile Char.isDigit)

def readPower (sign : Option Char) (cs : List Char) : Option (Option Char × List Char) :=
  if cs ≠ [] ∧ cs.all Char.isDigit then some (sign, cs) else none

def readTail : List Char → Option (Option (Option Char × List Char))
  | [] => some none
  | mark :: rest =>
    if mark ≠ 'e' ∧ mark ≠ 'E' then none
    else match rest with
      | '+' :: digits => (readPower (some '+') digits).map some
      | '-' :: digits => (readPower (some '-') digits).map some
      | digits => (readPower none digits).map some

def readMagnitude (negative : Bool) (cs : List Char) : Option Numeral := do
  let (whole, rest) := spanDigits cs
  if whole = [] ∨ (whole.length > 1 ∧ whole.head? = some '0') then none
  match rest with
  | '.' :: rest =>
    let (fraction, rest) := spanDigits rest
    if fraction = [] then none
    return ⟨negative, whole, some fraction, ← readTail rest⟩
  | rest => return ⟨negative, whole, none, ← readTail rest⟩

def read : List Char → Option Numeral
  | '-' :: rest => readMagnitude true rest
  | cs => readMagnitude false cs

def write (n : Numeral) : List Char :=
  (if n.negative then ['-'] else []) ++ n.whole ++
    (match n.fraction with | some digits => '.' :: digits | none => []) ++
    match n.power with
    | some (sign, digits) => 'e' :: sign.toList ++ digits
    | none => []

def digitValue (c : Char) : Nat := c.toNat - '0'.toNat

def ofInt (n : Int) : Numeral := ⟨n < 0, Nat.toDigits 10 n.natAbs, none, none⟩

/-- The integer, where one is written that a signed or an unsigned word can hold. Minus zero is no
integer. -/
def toInt? (n : Numeral) : Option Int :=
  if n.fraction.isSome ∨ n.power.isSome then none else
  let magnitude : Nat := n.whole.foldl (fun total c => total * 10 + digitValue c) 0
  if n.negative then
    if magnitude = 0 ∨ magnitude > 9223372036854775808 then none else some (-(magnitude : Int))
  else if magnitude < 18446744073709551616 then some magnitude else none

structure Gathered where
  significand : Nat
  exponent : Int
  deriving DecidableEq, Repr

def fits (significand : Nat) (c : Char) : Bool :=
  significand * 10 + digitValue c < 18446744073709551616

/-- Digits before the point; from the first that does not fit on, each counts as a power of ten. -/
def gatherWhole : (significand : Nat) → List Char → Gathered
  | significand, [] => ⟨significand, 0⟩
  | significand, c :: rest =>
    if fits significand c then gatherWhole (significand * 10 + digitValue c) rest
    else ⟨significand, (rest.length + 1 : Nat)⟩

def gatherFraction : Gathered → List Char → Gathered
  | g, [] => g
  | g, c :: rest =>
    if fits g.significand c then
      gatherFraction ⟨g.significand * 10 + digitValue c, g.exponent - 1⟩ rest
    else g

/-- `value * 10 ^ exponent` by a power of ten that is itself rounded; infinite is no number. -/
def scale (value : Float) (exponent : Int) : (steps : Nat) → Option Float
  | 0 => some value
  | steps + 1 =>
    if exponent.natAbs ≤ 308 then
      let power := Decimal.nearest 1 exponent.natAbs
      if exponent < 0 then some (value / power)
      else
        let scaled := value * power
        if scaled.isInf then none else some scaled
    else if value == 0 then some value
    else if exponent ≥ 0 then none
    else scale (value / Decimal.nearest 1 308) (exponent + 308) steps

def powerValue (digits : List Char) : Nat := digits.foldl (fun total c => total * 10 + digitValue c) 0

def toFloat? (n : Numeral) : Option Float := do
  let g := gatherFraction (gatherWhole 0 n.whole) (n.fraction.getD [])
  let signed (x : Float) : Float := if n.negative then -x else x
  let start := g.significand.toUInt64.toFloat
  match n.power with
  | none => signed <$> scale start g.exponent 4
  | some (sign, digits) =>
    let power := powerValue digits
    if power > 2147483647 then
      if g.significand ≠ 0 ∧ sign ≠ some '-' then none else return signed 0
    else signed <$> scale start (if sign = some '-' then g.exponent - power else g.exponent + power) 4

end Numeral

inductive Json
  | null
  | bool (value : Bool)
  | number (value : Numeral)
  | text (value : Option String)
  | list (items : List Json)
  | record (members : List (Option String × Json))

namespace Json

def ofInt (n : Int) : Json := .number (.ofInt n)

def ofString (s : String) : Json := .text (some s)

def ofFloat (x : Float) : Json :=
  match Numeral.read (Decimal.interchange.write x).toList with
  | some n => .number n
  | none => .null

end Json
end Telecine
