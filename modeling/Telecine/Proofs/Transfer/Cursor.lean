import Telecine.Proofs.Transfer.Completed

/-! The reel cursor, which moves on by at most one reel a tick. It finds the reel of every tick until it
comes to a reel in which no tick starts, and then stops at the first tick after that reel. -/
namespace Telecine.Transfer

section Cursor
variable {t : Transfer} {duration n reel : Nat} {time : Time}

structure Cursor (t : Transfer) (duration n reel : Nat) : Prop where
  single : t.sets.length ≤ 1 → reel = 0
  place : 1 < t.sets.length → ∃ p : Period, t.plan.reels[reel]? = some p ∧
    p.start.ticks ≤ (tickStart duration n).ticks ∧
    ∀ m < n, (tickStart duration m).ticks < p.stop.ticks
  visited : 1 < t.sets.length → ∀ (j : Nat) (p : Period), j ≤ reel → t.plan.reels[j]? = some p →
    ∃ m, p.contains (tickStart duration m) = true

structure Skips (plan : Plan) (duration i n : Nat) : Prop where
  reel : ∃ p : Period, plan.reels[i]? = some p ∧
    (∀ m, p.contains (tickStart duration m) = false) ∧
    p.stop.ticks ≤ (tickStart duration n).ticks ∧
    ∀ m < n, (tickStart duration m).ticks < p.stop.ticks
  first : ∀ (j : Nat) (p : Period), j < i → plan.reels[j]? = some p →
    ∃ m, p.contains (tickStart duration m) = true
  inside : (tickStart duration n).ticks < plan.length.ticks

theorem startsOrdered {duration m n : Nat} (order : m ≤ n) :
    (tickStart duration m).ticks ≤ (tickStart duration n).ticks :=
  Int.ofNat_le.mpr (Nat.mul_le_mul_right duration order)

theorem cursorStart (accepted : Accepted t.plan t.sets) (some : 0 < t.plan.length.ticks) :
    Cursor t duration 0 0 := by
  rcases Period.partitionDivides accepted.parts with ⟨_, none⟩ | ⟨first, divides⟩
  · rw [none] at some
    exact absurd some (Int.lt_irrefl 0)
  · have there : t.plan.reels[0]? = Option.some first := by
      rw [← List.head?_eq_getElem?, divides.head]
    have full := divides.full first (List.mem_of_getElem? there)
    have inside : first.contains (tickStart duration 0) = true := by
      have start := congrArg Time.ticks divides.start
      simp only [Period.isEmpty, decide_eq_false_iff_not] at full
      simp only [Time.zero] at start
      rw [Period.containsBounds]
      simp only [tickStart]
      omega
    refine ⟨fun _ => rfl, fun _ => ⟨first, there, (Period.containsBounds.mp inside).1, by omega⟩, ?_⟩
    intro _ j p low here
    obtain rfl := Nat.le_zero.mp low
    cases Option.some.inj (there.symm.trans here)
    exact ⟨0, inside⟩

theorem cursorSet (accepted : Accepted t.plan t.sets) (cursor : Cursor t duration n reel) :
    ∃ set, t.sets[reel]? = some set := by
  have within : reel < t.sets.length := by
    by_cases several : 1 < t.sets.length
    · obtain ⟨p, there, _⟩ := cursor.place several
      rw [accepted.each several]
      exact (List.getElem?_eq_some_iff.mp there).1
    · rw [cursor.single (by omega)]
      exact List.length_pos_iff.mpr accepted.some
  exact ⟨_, List.getElem?_eq_getElem within⟩

theorem reelAtHere (several : 1 < t.sets.length) {p : Period} (there : t.plan.reels[reel]? = some p)
    (inside : p.contains time = true) : t.reelAt reel time = .ok reel := by
  unfold reelAt
  rw [if_neg (by omega), there]
  simp [inside]

theorem reelAtAfter (several : 1 < t.sets.length) {p q : Period}
    (there : t.plan.reels[reel]? = some p) (outside : p.contains time = false)
    (following : t.plan.reels[reel + 1]? = some q) (inside : q.contains time = true)
    (set : reel + 1 < t.sets.length) : t.reelAt reel time = .ok (reel + 1) := by
  unfold reelAt
  rw [if_neg (by omega), there, following]
  simp [outside, inside, Nat.not_le.mpr set]

theorem reelAtStray (several : 1 < t.sets.length) {p q : Period}
    (there : t.plan.reels[reel]? = some p) (outside : p.contains time = false)
    (following : t.plan.reels[reel + 1]? = some q) (beyond : q.contains time = false)
    (set : reel + 1 < t.sets.length) :
    t.reelAt reel time = .error (.failed (.internal ("no reel contains " ++ time.text))) := by
  unfold reelAt
  rw [if_neg (by omega), there, following]
  simp [outside, beyond, Nat.not_le.mpr set, reelAt.broken]

theorem insideBefore {p : Period} (inside : p.contains (tickStart duration n) = true) :
    p.start.ticks ≤ (tickStart duration (n + 1)).ticks ∧
      ∀ m < n + 1, (tickStart duration m).ticks < p.stop.ticks := by
  obtain ⟨from', before⟩ := Period.containsBounds.mp inside
  exact ⟨Int.le_trans from' (startsOrdered (Nat.le_succ n)), fun m early =>
    Int.lt_of_le_of_lt (startsOrdered (Nat.le_of_lt_succ early)) before⟩

theorem cursorStays (cursor : Cursor t duration n reel) (several : 1 < t.sets.length) {p : Period}
    (here : t.plan.reels[reel]? = some p) (inside : p.contains (tickStart duration n) = true) :
    Cursor t duration (n + 1) reel :=
  ⟨cursor.single, fun _ => ⟨p, here, insideBefore inside⟩, fun _ => cursor.visited several⟩

theorem cursorMoves (cursor : Cursor t duration n reel) (several : 1 < t.sets.length) {q : Period}
    (there : t.plan.reels[reel + 1]? = some q) (inside : q.contains (tickStart duration n) = true) :
    Cursor t duration (n + 1) (reel + 1) := by
  refine ⟨fun single => by omega, fun _ => ⟨q, there, insideBefore inside⟩, ?_⟩
  intro _ j p reached at'
  rcases Nat.lt_or_eq_of_le reached with less | rfl
  · exact cursor.visited several j p (Nat.le_of_lt_succ less) at'
  · cases Option.some.inj (there.symm.trans at')
    exact ⟨n, inside⟩

theorem cursorSkips (cursor : Cursor t duration n reel) (several : 1 < t.sets.length) {q : Period}
    (there : t.plan.reels[reel + 1]? = some q) (full : q.isEmpty = false)
    (before : ∀ m < n, (tickStart duration m).ticks < q.start.ticks)
    (from' : q.start.ticks ≤ (tickStart duration n).ticks)
    (beyond : q.contains (tickStart duration n) = false)
    (inside : (tickStart duration n).ticks < t.plan.length.ticks) :
    Skips t.plan duration (reel + 1) n := by
  have past : q.stop.ticks ≤ (tickStart duration n).ticks := by
    simp only [Period.contains, Bool.and_eq_false_iff, decide_eq_false_iff_not] at beyond
    omega
  simp only [Period.isEmpty, decide_eq_false_iff_not] at full
  refine ⟨⟨q, there, fun m => ?_, past, fun m less => ?_⟩, ?_, inside⟩
  · simp only [Period.contains, Bool.and_eq_false_iff, decide_eq_false_iff_not]
    rcases Nat.lt_or_ge m n with less | more
    · have early := before m less
      omega
    · have late := @startsOrdered duration n m more
      omega
  · have early := before m less
    omega
  · exact fun j p less at' => cursor.visited several j p (Nat.le_of_lt_succ less) at'

theorem reelAtCursor (accepted : Accepted t.plan t.sets) (cursor : Cursor t duration n reel)
    (low : (tickStart duration n).ticks < t.plan.length.ticks) :
    (∃ later, t.reelAt reel (tickStart duration n) = .ok later ∧ Cursor t duration (n + 1) later) ∨
      (1 < t.sets.length ∧ Skips t.plan duration (reel + 1) n ∧
        t.reelAt reel (tickStart duration n) =
          .error (.failed (.internal ("no reel contains " ++ (tickStart duration n).text)))) := by
  by_cases several : 1 < t.sets.length
  · obtain ⟨p, here, from', before⟩ := cursor.place several
    cases still : p.contains (tickStart duration n) with
    | true => exact .inl ⟨reel, reelAtHere several here still, cursorStays cursor several here still⟩
    | false =>
      obtain ⟨q, there, joined, past⟩ := Period.partitionNext accepted.parts here
        (startNonneg duration n) from' still low
      have set : reel + 1 < t.sets.length := by
        rw [accepted.each several]
        exact (List.getElem?_eq_some_iff.mp there).1
      cases next : q.contains (tickStart duration n) with
      | true =>
        exact .inl ⟨reel + 1, reelAtAfter several here still there next set,
          cursorMoves cursor several there next⟩
      | false =>
        rw [← joined] at before past
        have full := Period.partitionFull accepted.parts q (List.mem_of_getElem? there)
        exact .inr ⟨several, cursorSkips cursor several there full before past next low,
          reelAtStray several here still there next set⟩
  · have first := cursor.single (by omega)
    refine .inl ⟨reel, by rw [reelAt, if_pos (by omega)], fun _ => first, ?_, ?_⟩ <;>
      exact fun more => absurd more several

end Cursor
end Telecine.Transfer
