import Mathlib.Data.List.Basic
import Telecine.Json.Fields
import Telecine.Json.Reader

/-! Numerals as they are written. A numeral that was ever read is sound, what is written for a sound one
is read back as it, and the digits of an integer stand for that integer. -/
namespace Telecine.Numeral

structure Digits (cs : List Char) : Prop where
  some : cs ≠ []
  all : ∀ c ∈ cs, c.isDigit = true

structure Sound (n : Numeral) : Prop where
  whole : Digits n.whole
  lead : ¬(n.whole.length > 1 ∧ n.whole.head? = some '0')
  fraction : ∀ ds, n.fraction = some ds → Digits ds
  power : ∀ sign ds, n.power = some (sign, ds) →
    Digits ds ∧ (sign = none ∨ sign = some '+' ∨ sign = some '-')

section Reading
variable {n : Numeral} {negative : Bool} {cs ds rest : List Char}

theorem Digits.cons (digits : Digits ds) : ∃ d more, ds = d :: more ∧ d.isDigit = true := by
  cases ds with
  | nil => exact absurd rfl digits.some
  | cons d more => exact ⟨d, more, rfl, digits.all d (List.mem_cons_self)⟩

theorem spanAppend (digits : ∀ c ∈ ds, c.isDigit = true) (ends : ∀ c ∈ rest.head?, c.isDigit = false) :
    spanDigits (ds ++ rest) = (ds, rest) := by
  have stops : rest.takeWhile Char.isDigit = [] ∧ rest.dropWhile Char.isDigit = rest := by
    cases rest with
    | nil => exact ⟨rfl, rfl⟩
    | cons c rest =>
      have plain := ends c rfl
      simp [plain]
  rw [spanDigits, List.takeWhile_append_of_pos digits, List.dropWhile_append_of_pos digits, stops.1,
    stops.2, List.append_nil]

theorem spanSound (cs : List Char) : ∀ c ∈ (spanDigits cs).1, c.isDigit = true :=
  List.all_eq_true.mp List.all_takeWhile

theorem readPowerExact (digits : Digits ds) (sign : Option Char) :
    readPower sign ds = some (sign, ds) := by
  rw [readPower, if_pos ⟨digits.some, List.all_eq_true.mpr digits.all⟩]

theorem readPowerSound {sign : Option Char} {power : Option Char × List Char}
    (read : readPower sign cs = some power) : power = (sign, cs) ∧ Digits cs := by
  unfold readPower at read
  split at read
  · next digits =>
    cases read
    exact ⟨rfl, digits.1, List.all_eq_true.mp digits.2⟩
  · cases read

def writeTail : Option (Option Char × List Char) → List Char
  | some (sign, digits) => 'e' :: sign.toList ++ digits
  | none => []

theorem readTailExact {power : Option (Option Char × List Char)}
    (sound : ∀ sign ds, power = some (sign, ds) →
      Digits ds ∧ (sign = none ∨ sign = some '+' ∨ sign = some '-')) :
    readTail (writeTail power) = some power := by
  rcases power with _ | ⟨sign, ds⟩
  · rfl
  · obtain ⟨digits, rfl | rfl | rfl⟩ := sound sign ds rfl
    · obtain ⟨d, more, rfl, digit⟩ := digits.cons
      have plus : d ≠ '+' := by rintro rfl; cases digit
      have minus : d ≠ '-' := by rintro rfl; cases digit
      simp [writeTail, readTail, plus, minus, readPowerExact digits]
    · simp [writeTail, readTail, readPowerExact digits]
    · simp [writeTail, readTail, readPowerExact digits]

theorem readTailSound {power : Option (Option Char × List Char)} (read : readTail cs = some power) :
    ∀ sign ds, power = some (sign, ds) →
      Digits ds ∧ (sign = none ∨ sign = some '+' ∨ sign = some '-') := by
  intro sign ds same
  unfold readTail at read
  split at read
  · cases read
    cases same
  · split at read
    · cases read
    · split at read <;>
      · obtain ⟨found, one, rfl⟩ := Option.map_eq_some_iff.mp read
        obtain ⟨rfl, digits⟩ := readPowerSound one
        cases same
        exact ⟨digits, by simp⟩

theorem readMagnitudeSound (read : readMagnitude negative cs = some n) : n.Sound := by
  unfold readMagnitude at read
  have digits := spanSound cs
  generalize spanDigits cs = parts at read digits
  obtain ⟨whole, rest⟩ := parts
  simp only [] at read digits
  split at read
  · cases read
  · next lead =>
    rw [not_or] at lead
    split at read
    · next rest =>
      have fractions := spanSound rest
      generalize spanDigits rest = parts at read fractions
      obtain ⟨fraction, rest⟩ := parts
      simp only [] at read fractions
      split at read
      · cases read
      · next some =>
        obtain ⟨power, found, same⟩ := Option.bind_eq_some_iff.mp read
        cases same
        exact ⟨⟨lead.1, digits⟩, lead.2, fun _ same => by cases same; exact ⟨some, fractions⟩,
          readTailSound found⟩
    · obtain ⟨power, found, same⟩ := Option.bind_eq_some_iff.mp read
      cases same
      exact ⟨⟨lead.1, digits⟩, lead.2, nofun, readTailSound found⟩

theorem readSound (read : Numeral.read cs = some n) : n.Sound := by
  unfold Numeral.read at read
  split at read <;> exact readMagnitudeSound read

theorem tailPlain (power : Option (Option Char × List Char)) :
    ∀ c ∈ (writeTail power).head?, c.isDigit = false ∧ c ≠ '.' := by
  rcases power with _ | ⟨sign, ds⟩
  · simp [writeTail]
  · simp [writeTail]

theorem readMagnitudeExact (sound : n.Sound) :
    readMagnitude n.negative ({ n with negative := false : Numeral }.write) = some n := by
  obtain ⟨negative, whole, fraction, power⟩ := n
  have tail := readTailExact sound.power
  have plain := tailPlain power
  have lead : ¬(whole = [] ∨ whole.length > 1 ∧ whole.head? = some '0') := by
    rw [not_or]
    exact ⟨sound.whole.some, sound.lead⟩
  cases fraction with
  | none =>
    have span := spanAppend sound.whole.all fun c first => (plain c first).1
    have same : ({ negative := false, whole, fraction := none, power : Numeral }.write) =
        whole ++ writeTail power := by
      cases power <;> simp [write, writeTail]
    rw [same, readMagnitude, span]
    simp only [if_neg lead]
    split
    · next rest pointed =>
      have first : '.' ∈ (writeTail power).head? := by rw [pointed]; rfl
      exact absurd rfl (plain '.' first).2
    · rw [tail]
      rfl
  | some digits =>
    have fractional := sound.fraction digits rfl
    have pointed : ∀ c ∈ ('.' :: digits ++ writeTail power).head?, c.isDigit = false := by
      simp
    have span := spanAppend sound.whole.all pointed
    have later := spanAppend fractional.all fun c first => (plain c first).1
    have same : ({ negative := false, whole, fraction := some digits, power : Numeral }.write) =
        whole ++ ('.' :: digits ++ writeTail power) := by
      cases power <;> simp [write, writeTail]
    rw [same, readMagnitude, span]
    simp only [if_neg lead, List.cons_append, later, if_neg fractional.some, tail]
    rfl

theorem readWrite (sound : n.Sound) : Numeral.read n.write = some n := by
  have exactly := readMagnitudeExact sound
  obtain ⟨d, more, whole, digit⟩ := sound.whole.cons
  cases signed : n.negative with
  | true =>
    have same : n.write = '-' :: ({ n with negative := false : Numeral }.write) := by
      simp [write, signed]
    rw [signed] at exactly
    rw [same, Numeral.read, exactly]
  | false =>
    have same : n.write = { n with negative := false : Numeral }.write := by
      simp [write, signed]
    have first : n.write = d :: n.write.tail := by
      simp [write, signed, whole]
    rw [signed, ← same, first] at exactly
    rw [first, Numeral.read, exactly]
    rintro rest same
    cases (List.cons.inj same).1
    cases digit

theorem writeParts (sound : n.Sound) : ∀ c ∈ n.write, Json.isNumberPart c = true := by
  have digitPart {ds : List Char} (digits : Digits ds) : ∀ c ∈ ds, Json.isNumberPart c = true :=
    fun c member => by simp [Json.isNumberPart, digits.all c member]
  obtain ⟨negative, whole, fraction, power⟩ := n
  intro c member
  simp only [write, List.mem_append] at member
  rcases member with ((sign | inside) | pointed) | tail
  · cases negative <;> simp at sign
    subst sign
    rfl
  · exact digitPart sound.whole c inside
  · cases fraction with
    | none => cases pointed
    | some ds =>
      rcases List.mem_cons.mp pointed with rfl | inside
      · rfl
      · exact digitPart (sound.fraction ds rfl) c inside
  · rcases power with _ | ⟨sign, ds⟩
    · cases tail
    · obtain ⟨digits, signs⟩ := sound.power sign ds rfl
      simp only [List.cons_append, List.mem_cons, List.mem_append] at tail
      rcases tail with rfl | marked | inside
      · rfl
      · rcases signs with rfl | rfl | rfl <;> simp at marked <;> subst marked <;> rfl
      · exact digitPart digits c inside

theorem writeBegins (sound : n.Sound) : ∃ c more, n.write = c :: more ∧ (c.isDigit || c = '-') = true := by
  obtain ⟨d, more, whole, digit⟩ := sound.whole.cons
  unfold write
  cases n.negative with
  | true => exact ⟨'-', _, rfl, rfl⟩
  | false => exact ⟨d, _, by rw [whole]; rfl, by simp [digit]⟩

end Reading

section Integers

theorem digitsAll (n : Nat) : Digits (Nat.toDigits 10 n) :=
  ⟨Nat.toDigits_ne_nil, fun _ => Nat.isDigit_of_mem_toDigits (by decide) (by decide)⟩

theorem digitsLead (n : Nat) :
    ¬((Nat.toDigits 10 n).length > 1 ∧ (Nat.toDigits 10 n).head? = some '0') := by
  induction n using Nat.strongRecOn with
  | ind n ih =>
    by_cases one : n < 10
    · rw [Nat.toDigits_of_lt_base one]
      exact fun long => absurd long.1 (Nat.lt_irrefl 1)
    · rw [Nat.toDigits_of_base_le (by decide) (Nat.not_lt.mp one),
        List.head?_append_of_ne_nil _ Nat.toDigits_ne_nil]
      rintro ⟨_, zero⟩
      by_cases many : (Nat.toDigits 10 (n / 10)).length > 1
      · exact ih (n / 10) (by omega) ⟨many, zero⟩
      · have small : n / 10 < 10 :=
          (Nat.length_toDigits_le_iff (by decide) (by decide)).mp (Nat.not_lt.mp many)
        rw [Nat.toDigits_of_lt_base small, List.head?_cons, Option.some.injEq,
          Nat.digitChar_eq_zero] at zero
        omega

theorem ofIntSound (n : Int) : (ofInt n).Sound :=
  ⟨digitsAll _, digitsLead _, nofun, nofun⟩

theorem digitsValue (n : Nat) :
    (Nat.toDigits 10 n).foldl (fun total c => total * 10 + digitValue c) 0 = n := by
  have commute : (fun (total : Nat) c => total * 10 + digitValue c) =
      fun total c => 10 * total + (c.toNat - '0'.toNat) := by
    funext total c
    rw [Nat.mul_comm, digitValue]
  rw [commute, ← Nat.ofDigitChars_eq_foldl, Nat.ofDigitChars_ten_toDigits]

theorem toIntExact {n : Int} (low : -9223372036854775808 ≤ n) (high : n < 18446744073709551616) :
    (ofInt n).toInt? = some n := by
  simp only [toInt?, ofInt, digitsValue, Option.isSome_none, Bool.false_eq_true, or_self, if_false]
  by_cases negative : n < 0
  · rw [decide_eq_true negative, if_pos rfl, if_neg (by omega)]
    exact congrArg some (by omega)
  · rw [decide_eq_false negative, if_neg (by decide), if_pos (by omega)]
    exact congrArg some (by omega)

end Integers
end Telecine.Numeral

namespace Telecine.Json

theorem toInt64Exact {n : Int} (fits : -9223372036854775808 ≤ n ∧ n ≤ 9223372036854775807) :
    toInt64? (ofInt n) = some n := by
  rw [ofInt, toInt64?, Numeral.toIntExact fits.1 (by omega)]
  exact Option.filter_some_pos (by simp; omega)

theorem toNatExact {n limit : Nat} (below : n < limit) (word : limit ≤ 18446744073709551616) :
    toNat? limit (ofInt n) = some n := by
  rw [ofInt, toNat?, Numeral.toIntExact (by omega) (by omega)]
  simp [below]

end Telecine.Json
