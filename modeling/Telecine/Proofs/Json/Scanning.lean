import Telecine.Json.Printer
import Telecine.Proofs.Json.Numerals

/-! The text of a value is cut into the tokens of the value, wherever in a text it stands. -/
namespace Telecine.Json

inductive Sound : Json → Prop
  | null : Sound .null
  | bool (value : Bool) : Sound (.bool value)
  | number {value : Numeral} (sound : value.Sound) : Sound (.number value)
  | text (value : String) : Sound (.text (some value))
  | list {items : List Json} (all : ∀ item ∈ items, Sound item) : Sound (.list items)
  | record {members : List (Option String × Json)} (keys : ∀ m ∈ members, m.1.isSome)
      (all : ∀ m ∈ members, Sound m.2) : Sound (.record members)

mutual

def tokens : Json → List Token
  | .null => [.word ['n', 'u', 'l', 'l']]
  | .bool true => [.word ['t', 'r', 'u', 'e']]
  | .bool false => [.word ['f', 'a', 'l', 's', 'e']]
  | .number n => [.number n]
  | .text s => [.text s]
  | .list [] => [.mark '[', .mark ']']
  | .list (item :: items) => .mark '[' :: (tokens item ++ itemTokens items ++ [.mark ']'])
  | .record [] => [.mark '{', .mark '}']
  | .record ((key, value) :: members) =>
    .mark '{' :: .text key :: .mark ':' :: (tokens value ++ memberTokens members ++ [.mark '}'])

def itemTokens : List Json → List Token
  | [] => []
  | item :: items => .mark ',' :: (tokens item ++ itemTokens items)

def memberTokens : List (Option String × Json) → List Token
  | [] => []
  | (key, value) :: members =>
    .mark ',' :: .text key :: .mark ':' :: (tokens value ++ memberTokens members)

end

section Scanning
variable {taken rest : List Char} {made : List Token}

def Ends (rest : List Char) : Prop := ∀ c ∈ rest.head?, isSpace c = true ∨ isMark c = true

theorem endsMark {c : Char} (mark : isMark c = true) : Ends (c :: rest) := by
  rintro _ ⟨⟩
  exact .inr mark

theorem endsIndent (depth : Nat) : Ends (indent depth ++ rest) := by
  rintro _ ⟨⟩
  exact .inl rfl

theorem endsPlain (ends : Ends rest) :
    ∀ c ∈ rest.head?, c.isLower = false ∧ isNumberPart c = false := by
  intro c first
  have cases := ends c first
  simp only [isSpace, isMark, Bool.or_eq_true, decide_eq_true_eq] at cases
  rcases cases with (((rfl | rfl) | rfl) | rfl) | ((((rfl | rfl) | rfl) | rfl) | rfl) | rfl <;>
    exact ⟨rfl, rfl⟩

theorem scanMark {c : Char} (mark : isMark c = true) :
    scan .gap (c :: rest) made = scan .gap rest (.mark c :: made) := by
  have blank : isSpace c = false := by
    simp only [isMark, Bool.or_eq_true, decide_eq_true_eq] at mark
    rcases mark with ((((rfl | rfl) | rfl) | rfl) | rfl) | rfl <;> rfl
  rw [scan, scanStep, start, if_neg (by simp [blank]), if_pos mark]
  rfl

theorem scanSpace : scan .gap (' ' :: rest) made = scan .gap rest made := rfl

theorem scanIndent (depth : Nat) : scan .gap (indent depth ++ rest) made = scan .gap rest made := by
  have blanks (n : Nat) : scan .gap (List.replicate n ' ' ++ rest) made = scan .gap rest made := by
    induction n with
    | zero => rfl
    | succ n ih =>
      rw [List.replicate_succ, List.cons_append, scanSpace, ih]
  rw [← blanks (2 * depth)]
  rfl

section Words

theorem scanLetters {letters : List Char} (lower : ∀ c ∈ letters, c.isLower = true) (taken : List Char) :
    scan (.word taken) (letters ++ rest) made = scan (.word (letters.reverse ++ taken)) rest made := by
  induction letters generalizing taken with
  | nil => rfl
  | cons c letters ih =>
    obtain ⟨first, others⟩ := List.forall_mem_cons.mp lower
    rw [List.cons_append, scan, scanStep, if_pos first]
    simp only [bind, Option.bind_some, ih others]
    simp

theorem scanWordEnd (ends : Ends rest) :
    scan (.word taken) rest made = scan .gap rest (.word taken.reverse :: made) := by
  cases rest with
  | nil => rfl
  | cons c rest =>
    have plain := (endsPlain ends c rfl).1
    rw [scan, scan, scanStep, scanStep, if_neg (by simp [plain])]

theorem scanWord {c : Char} {letters : List Char} (lower : ∀ d ∈ c :: letters, d.isLower = true)
    (ends : Ends rest) :
    scan .gap (c :: letters ++ rest) made = scan .gap rest (.word (c :: letters) :: made) := by
  obtain ⟨first, others⟩ := List.forall_mem_cons.mp lower
  have begins : start c made = some (.word [c], made) := by
    have apart {d : Char} (upper : d.isLower = false) : c ≠ d := by
      rintro rfl
      rw [upper] at first
      cases first
    have digit : c.isDigit = false := by
      have least := of_decide_eq_true (Bool.and_eq_true_iff.mp first).1
      simp only [Char.isDigit, Bool.and_eq_false_iff, decide_eq_false_iff_not]
      right
      intro small
      exact absurd (UInt32.le_trans least small) (by decide)
    simp [start, isSpace, isMark, apart, digit, first]
  rw [List.cons_append, scan, scanStep, begins]
  simp only [bind, Option.bind_some, scanLetters others, scanWordEnd ends]
  simp

end Words

section Numbers

theorem scanParts {parts : List Char} (all : ∀ c ∈ parts, isNumberPart c = true) (taken : List Char) :
    scan (.number taken) (parts ++ rest) made = scan (.number (parts.reverse ++ taken)) rest made := by
  induction parts generalizing taken with
  | nil => rfl
  | cons c parts ih =>
    obtain ⟨first, others⟩ := List.forall_mem_cons.mp all
    rw [List.cons_append, scan, scanStep, if_pos first]
    simp only [bind, Option.bind_some, ih others]
    simp

theorem scanNumberEnd (ends : Ends rest) {n : Numeral} (reads : Numeral.read taken.reverse = some n) :
    scan (.number taken) rest made = scan .gap rest (.number n :: made) := by
  cases rest with
  | nil =>
    simp [scan, reads]
  | cons c rest =>
    have plain := (endsPlain ends c rfl).2
    rw [scan, scan, scanStep, scanStep, if_neg (by simp [plain]), reads]
    rfl

theorem scanNumber {n : Numeral} (sound : n.Sound) (ends : Ends rest) :
    scan .gap (n.write ++ rest) made = scan .gap rest (.number n :: made) := by
  obtain ⟨c, more, written, first⟩ := Numeral.writeBegins sound
  have parts := Numeral.writeParts sound
  have reads := Numeral.readWrite sound
  rw [written] at parts reads ⊢
  have begins : start c made = some (.number [c], made) := by
    have apart {d : Char} (other : (d.isDigit || decide (d = '-')) = false) : c ≠ d := by
      rintro rfl
      rw [other] at first
      cases first
    simp only [start, isSpace, isMark]
    simp [apart, first]
  rw [List.cons_append, scan, scanStep, begins]
  simp only [bind, Option.bind_some, scanParts (List.forall_mem_cons.mp parts).2]
  exact scanNumberEnd ends (by simpa using reads)

end Numbers

section Texts

theorem hexExact (n : Nat) : hexValue? (hexDigit n) = some (n % 16) := by
  have all : ∀ k < 16, hexValue? (Nat.digitChar k) = some k := by decide
  exact all _ (Nat.mod_lt n (by decide))

theorem scanEscaped (c : Char) (taken : List Char) :
    scan (.text taken none true) (escaped c ++ rest) made = scan (.text (c :: taken) none true) rest made := by
  unfold escaped
  split
  · next same => subst same; rfl
  split
  · next same => subst same; rfl
  split
  · next same => subst same; rfl
  split
  · next same => subst same; rfl
  split
  · next same => subst same; rfl
  split
  · next same => subst same; rfl
  split
  · next same => subst same; rfl
  next notQuote notSlash _ _ _ _ _ =>
  split
  · next small =>
    have zero : hexValue? '0' = some 0 := rfl
    have code : c.toNat / 16 % 16 * 16 + c.toNat % 16 = c.toNat := by omega
    have plain : unit taken none true c.toNat = .text (c :: taken) none true := by
      simp only [unit, Char.ofNat_toNat]
      rw [if_neg (by omega), if_neg (by omega)]
    simp [scan, scanStep, hexExact, zero, code, plain]
  · next large =>
    rw [List.cons_append, scan, scanStep, if_neg notSlash, if_neg notQuote, if_neg large]
    rfl

theorem scanCharacters (cs taken : List Char) :
    scan (.text taken none true) (cs.flatMap escaped ++ rest) made =
      scan (.text (cs.reverse ++ taken) none true) rest made := by
  induction cs generalizing taken with
  | nil => rfl
  | cons c cs ih =>
    rw [List.flatMap_cons, List.append_assoc, scanEscaped, ih, List.reverse_cons, List.append_assoc]
    rfl

theorem scanQuoted (s : String) :
    scan .gap (quoted s ++ rest) made = scan .gap rest (.text (some s) :: made) := by
  have opens : ∀ cs, scan .gap ('"' :: cs) made = scan (.text [] none true) cs made := fun _ => rfl
  have closes : ∀ taken : List Char, scan (.text taken none true) ('"' :: rest) made =
      scan .gap rest (.text (some (String.ofList taken.reverse)) :: made) := fun _ => rfl
  rw [quoted, List.cons_append, List.cons_append, opens, List.append_assoc, scanCharacters,
    List.singleton_append, closes]
  simp

end Texts

/-- Whatever was made out before and whatever follows, as long as that does not go on with a word or a
number. -/
def Scans (value : Json) : Prop :=
  ∀ (depth : Nat) (rest : List Char) (made : List Token), Ends rest →
    scan .gap (pretty depth value ++ rest) made = scan .gap rest ((tokens value).reverse ++ made)

theorem scanItems {items : List Json} (each : ∀ item ∈ items, Scans item) (depth : Nat) (ends : Ends rest) :
    Ends (prettyItems depth items ++ rest) ∧ ∀ made,
      scan .gap (prettyItems depth items ++ rest) made =
        scan .gap rest ((itemTokens items).reverse ++ made) := by
  induction items with
  | nil => exact ⟨ends, fun _ => rfl⟩
  | cons item items ih =>
    obtain ⟨first, others⟩ := List.forall_mem_cons.mp each
    obtain ⟨more, same⟩ := ih others
    refine ⟨endsMark rfl, fun made => ?_⟩
    simp only [prettyItems, List.cons_append, List.append_assoc]
    rw [scanMark rfl, scanIndent, first _ _ _ more, same, itemTokens]
    simp

theorem scanMembers {members : List (Option String × Json)} (keys : ∀ m ∈ members, m.1.isSome)
    (each : ∀ m ∈ members, Scans m.2) (depth : Nat) (ends : Ends rest) :
    Ends (prettyMembers depth members ++ rest) ∧ ∀ made,
      scan .gap (prettyMembers depth members ++ rest) made =
        scan .gap rest ((memberTokens members).reverse ++ made) := by
  induction members with
  | nil => exact ⟨ends, fun _ => rfl⟩
  | cons m members ih =>
    obtain ⟨first, others⟩ := List.forall_mem_cons.mp each
    obtain ⟨named, keys⟩ := List.forall_mem_cons.mp keys
    obtain ⟨more, same⟩ := ih keys others
    obtain ⟨key, value⟩ := m
    obtain ⟨key, rfl⟩ := Option.isSome_iff_exists.mp named
    refine ⟨endsMark rfl, fun made => ?_⟩
    simp only [prettyMembers, List.cons_append, List.append_assoc, List.nil_append]
    rw [scanMark rfl, scanIndent, Option.getD_some, scanQuoted, scanMark rfl, scanSpace,
      first _ _ _ more, same, memberTokens]
    simp

theorem soundScans {value : Json} (sound : Sound value) : Scans value := by
  induction sound with
  | null =>
    intro _ _ _ ends
    exact scanWord (by simp) ends
  | bool value =>
    intro _ _ _ ends
    cases value <;> exact scanWord (by simp) ends
  | number sound =>
    intro _ _ _ ends
    exact scanNumber sound ends
  | text value =>
    intro _ _ _ _
    exact scanQuoted value
  | @list items _ ih =>
    intro depth rest made ends
    cases items with
    | nil =>
      rw [pretty, tokens, List.cons_append, scanMark rfl, List.singleton_append, scanMark rfl]
      rfl
    | cons item items =>
      obtain ⟨first, others⟩ := List.forall_mem_cons.mp ih
      have closed : Ends (indent depth ++ (']' :: rest)) := endsIndent depth
      obtain ⟨more, same⟩ := scanItems others (depth + 1) closed
      simp only [pretty, tokens, List.cons_append, List.append_assoc, List.nil_append]
      rw [scanMark rfl, scanIndent, first _ _ _ more, same, scanIndent, scanMark rfl]
      simp
  | @record members keys _ ih =>
    intro depth rest made ends
    cases members with
    | nil =>
      rw [pretty, tokens, List.cons_append, scanMark rfl, List.singleton_append, scanMark rfl]
      rfl
    | cons m members =>
      obtain ⟨first, others⟩ := List.forall_mem_cons.mp ih
      obtain ⟨named, later⟩ := List.forall_mem_cons.mp keys
      obtain ⟨key, value⟩ := m
      obtain ⟨key, rfl⟩ := Option.isSome_iff_exists.mp named
      have closed : Ends (indent depth ++ ('}' :: rest)) := endsIndent depth
      obtain ⟨more, same⟩ := scanMembers later others (depth + 1) closed
      simp only [pretty, tokens, List.cons_append, List.append_assoc, List.nil_append,
        Option.getD_some]
      rw [scanMark rfl, scanIndent, scanQuoted, scanMark rfl, scanSpace, first _ _ _ more, same,
        scanIndent, scanMark rfl]
      simp

end Scanning
end Telecine.Json
