import Mathlib.Data.List.Basic
import Telecine.Clock.Period

/-! Periods that follow on from one another without a gap. What two of them contain is apart, so the one
that contains a time is the first that does. -/
namespace Telecine.Period

variable {periods : List Period} {length time : Time}

theorem containsBounds {p : Period} :
    p.contains time = true ↔ p.start.ticks ≤ time.ticks ∧ time.ticks < p.stop.ticks := by
  simp [contains]

theorem contiguousApart (joined : contiguous periods = true)
    (full : ∀ p ∈ periods, p.isEmpty = false) :
    periods.Pairwise fun p q => p.stop.ticks ≤ q.start.ticks := by
  induction periods with
  | nil => exact .nil
  | cons p rest ih =>
    cases rest with
    | nil => exact List.pairwise_singleton _ p
    | cons q rest =>
      simp only [contiguous, Bool.and_eq_true, decide_eq_true_eq] at joined
      have later := ih joined.2 fun r member => full r (List.mem_cons_of_mem _ member)
      refine .cons ?_ later
      intro r member
      rcases List.mem_cons.mp member with rfl | member
      · exact Int.le_of_eq (congrArg Time.ticks joined.1)
      · have inside := full q (List.mem_cons_of_mem _ List.mem_cons_self)
        have next := List.rel_of_pairwise_cons later member
        simp only [isEmpty, decide_eq_false_iff_not] at inside
        rw [joined.1]
        omega

theorem partitionApart (parts : partition periods length = true) :
    periods.Pairwise fun p q => p.stop.ticks ≤ q.start.ticks := by
  cases periods with
  | nil => exact .nil
  | cons p rest =>
    simp only [partition, Bool.and_eq_true, Bool.not_eq_true', List.any_eq_false,
      Bool.not_eq_true] at parts
    exact contiguousApart parts.1.2 parts.1.1.2

theorem firstContains (parts : partition periods length = true) {n : Nat} {p : Period}
    (found : periods[n]? = some p) (inside : p.contains time = true) :
    periods.findIdx (·.contains time) = n := by
  obtain ⟨low, rfl⟩ := List.getElem?_eq_some_iff.mp found
  refine (List.findIdx_eq low).mpr ⟨inside, fun m earlier => ?_⟩
  have apart := List.pairwise_iff_getElem.mp (partitionApart parts) m n (by omega) low earlier
  have bounds := containsBounds.mp inside
  simp only [contains, Bool.and_eq_false_iff, decide_eq_false_iff_not]
  omega

theorem contiguousCovers (joined : contiguous periods = true) {first : Period}
    (head : periods.head? = some first) (last : periods.getLast?.map stop = some length)
    (from' : first.start.ticks ≤ time.ticks) (low : time.ticks < length.ticks) :
    ∃ (n : Nat) (p : Period), periods[n]? = some p ∧ p.contains time = true := by
  induction periods generalizing first with
  | nil => cases head
  | cons p rest ih =>
    cases Option.some.inj head
    by_cases here : time.ticks < p.stop.ticks
    · exact ⟨0, p, rfl, containsBounds.mpr ⟨from', here⟩⟩
    · cases rest with
      | nil =>
        cases Option.some.inj last
        exact absurd low here
      | cons q rest =>
        simp only [contiguous, Bool.and_eq_true, decide_eq_true_eq] at joined
        rw [List.getLast?_cons_cons] at last
        obtain ⟨n, p, there, inside⟩ := ih joined.2 rfl last (by rw [← joined.1]; omega)
        exact ⟨n + 1, p, there, inside⟩

theorem contiguousNext (joined : contiguous periods = true) {n : Nat} {p q : Period}
    (here : periods[n]? = some p) (there : periods[n + 1]? = some q) : p.stop = q.start := by
  induction periods generalizing n with
  | nil => cases here
  | cons first rest ih =>
    cases rest with
    | nil => cases there
    | cons second rest =>
      simp only [contiguous, Bool.and_eq_true, decide_eq_true_eq] at joined
      cases n with
      | zero =>
        cases Option.some.inj here
        cases Option.some.inj there
        exact joined.1
      | succ n => exact ih joined.2 here there

structure Divides (periods : List Period) (length : Time) (first : Period) : Prop where
  head : periods.head? = some first
  start : first.start = Time.zero
  full : ∀ p ∈ periods, p.isEmpty = false
  joined : contiguous periods = true
  last : periods.getLast?.map stop = some length

theorem partitionDivides (parts : partition periods length = true) :
    (periods = [] ∧ length = Time.zero) ∨ ∃ first, Divides periods length first := by
  cases periods with
  | nil => exact .inl ⟨rfl, by simpa [partition] using parts⟩
  | cons first rest =>
    simp only [partition, Bool.and_eq_true, Bool.not_eq_true', List.any_eq_false, Bool.not_eq_true,
      decide_eq_true_eq] at parts
    exact .inr ⟨first, rfl, parts.1.1.1, parts.1.1.2, parts.1.2, parts.2⟩

theorem partitionFull (parts : partition periods length = true) :
    ∀ p ∈ periods, p.isEmpty = false := by
  rcases partitionDivides parts with ⟨rfl, _⟩ | ⟨first, divides⟩
  · simp
  · exact divides.full

theorem partitionStart (parts : partition periods length = true) {p : Period} (member : p ∈ periods) :
    0 ≤ p.start.ticks := by
  rcases partitionDivides parts with ⟨rfl, _⟩ | ⟨first, divides⟩
  · cases member
  · obtain ⟨rest, rfl⟩ := List.head?_eq_some_iff.mp divides.head
    have zero := congrArg Time.ticks divides.start
    simp only [Time.zero] at zero
    rcases List.mem_cons.mp member with rfl | later
    · exact Int.le_of_eq zero.symm
    · have apart := List.rel_of_pairwise_cons (partitionApart parts) later
      have full := divides.full first List.mem_cons_self
      simp only [isEmpty, decide_eq_false_iff_not] at full
      omega

theorem partitionCovers (parts : partition periods length = true) (from' : 0 ≤ time.ticks)
    (low : time.ticks < length.ticks) :
    ∃ (n : Nat) (p : Period), periods[n]? = some p ∧ p.contains time = true := by
  rcases partitionDivides parts with ⟨_, rfl⟩ | ⟨first, divides⟩
  · exact absurd low (by simpa [Time.zero] using from')
  · refine contiguousCovers divides.joined divides.head divides.last ?_ low
    rw [divides.start]
    exact from'

theorem partitionNext (parts : partition periods length = true) {n : Nat} {p : Period}
    (here : periods[n]? = some p) (begun : 0 ≤ time.ticks) (from' : p.start.ticks ≤ time.ticks)
    (past : p.contains time = false) (low : time.ticks < length.ticks) :
    ∃ q : Period, periods[n + 1]? = some q ∧ q.start = p.stop ∧ p.stop.ticks ≤ time.ticks := by
  have past : p.stop.ticks ≤ time.ticks := by
    simp only [contains, Bool.and_eq_false_iff, decide_eq_false_iff_not] at past
    omega
  obtain ⟨m, q, there, inside⟩ := partitionCovers parts begun low
  obtain ⟨within, same⟩ := List.getElem?_eq_some_iff.mp here
  obtain ⟨within', same'⟩ := List.getElem?_eq_some_iff.mp there
  have bounds := containsBounds.mp inside
  have later : n < m := by
    by_contra not
    rcases Nat.lt_or_eq_of_le (Nat.le_of_not_lt not) with less | equal
    · have apart := List.pairwise_iff_getElem.mp (partitionApart parts) m n within' within less
      rw [same, same'] at apart
      omega
    · subst equal
      obtain rfl := same.symm.trans same'
      omega
  have next := List.getElem?_eq_getElem (show n + 1 < periods.length by omega)
  rcases partitionDivides parts with ⟨rfl, _⟩ | ⟨first, divides⟩
  · cases here
  · exact ⟨_, next, (contiguousNext divides.joined here next).symm, past⟩

end Telecine.Period
