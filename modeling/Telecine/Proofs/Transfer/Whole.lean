import Telecine.Proofs.Film.Reels
import Telecine.Proofs.Transfer.Cursor

/-! Transfers of films whose reels are whole frames: there is a reel for every tick, and the reel of a
tick is the one of the tick before it or the next. -/
namespace Telecine.Transfer

structure WholeFilm (t : Transfer) (last : Nat) : Prop where
  accepted : Accepted t.plan t.sets
  whole : WholeReels t.plan.rates.pictureTicks last 0 t.plan.reels
  length : t.plan.length = tickStart t.plan.rates.pictureTicks last
  lasts : 0 < t.plan.rates.pictureTicks
  fits : FitsInt64 (tickStart t.plan.rates.pictureTicks last).ticks

theorem tickCountWhole {plan : Plan} {last : Nat} (lasts : 0 < plan.rates.pictureTicks)
    (length : plan.length = tickStart plan.rates.pictureTicks last) : plan.tickCount = last := by
  unfold Plan.tickCount
  rw [length]
  simp only [tickStart, Int.toNat_natCast]
  refine Nat.div_eq_of_lt_le (by omega) ?_
  rw [Nat.succ_mul]
  omega

section Reels
variable {t : Transfer} {last n i : Nat} {time : Time} {reel : Period}

theorem reelOfInside (several : 1 < t.sets.length)
    (parts : Period.partition t.plan.reels t.plan.length = true)
    (there : t.plan.reels[i]? = some reel) (inside : reel.contains time = true) :
    t.reelOf time = i := by
  rw [reelOf, if_neg (by omega), Period.firstContains parts there inside]

theorem reelOfSingle (single : t.sets.length ≤ 1) (time : Time) : t.reelOf time = 0 := if_pos single

theorem reelAtFirst (film : WholeFilm t last) (low : 0 < last) :
    t.reelAt 0 (tickStart t.plan.rates.pictureTicks 0) =
      .ok (t.reelOf (tickStart t.plan.rates.pictureTicks 0)) := by
  by_cases several : 1 < t.sets.length
  · obtain ⟨reel, there, inside⟩ := wholeFirst film.lasts film.whole low
    rw [reelAtHere several there inside, reelOfInside several film.accepted.parts there inside]
  · rw [reelOfSingle (by omega), reelAt, if_pos (by omega)]

theorem reelAtNext (film : WholeFilm t last) (low : n + 1 < last) :
    t.reelAt (t.reelOf (tickStart t.plan.rates.pictureTicks n))
        (tickStart t.plan.rates.pictureTicks (n + 1)) =
      .ok (t.reelOf (tickStart t.plan.rates.pictureTicks (n + 1))) := by
  by_cases several : 1 < t.sets.length
  · have parts := film.accepted.parts
    have each := film.accepted.each several
    obtain ⟨i, reel, there, inside⟩ := wholeCovers film.lasts film.whole (Nat.zero_le n) (by omega)
    rw [reelOfInside several parts there inside]
    cases here : reel.contains (tickStart t.plan.rates.pictureTicks (n + 1)) with
    | true => rw [reelAtHere several there here, reelOfInside several parts there here]
    | false =>
      rcases wholeNext film.lasts film.whole there inside low with here' | ⟨next, following, after⟩
      · rw [here] at here'
        cases here'
      · rw [reelAtAfter several there here following after, reelOfInside several parts following after]
        rw [each]
        exact (List.getElem?_eq_some_iff.mp following).1
  · rw [reelOfSingle (by omega), reelOfSingle (by omega), reelAt, if_pos (by omega)]

theorem reelOfCovers (film : WholeFilm t last) (low : n < last) :
    t.reelOf (tickStart t.plan.rates.pictureTicks n) < t.sets.length ∧
      (1 < t.sets.length → ∃ reel : Period,
        t.plan.reels[t.reelOf (tickStart t.plan.rates.pictureTicks n)]? = some reel ∧
          reel.contains (tickStart t.plan.rates.pictureTicks n) = true) := by
  by_cases several : 1 < t.sets.length
  · obtain ⟨i, reel, there, inside⟩ := wholeCovers film.lasts film.whole (Nat.zero_le n) low
    rw [reelOfInside several film.accepted.parts there inside, film.accepted.each several]
    exact ⟨(List.getElem?_eq_some_iff.mp there).1, fun _ => ⟨reel, there, inside⟩⟩
  · rw [reelOfSingle (by omega)]
    exact ⟨List.length_pos_iff.mpr film.accepted.some, fun more => absurd more several⟩

theorem courseWhole {frames : Nat} (film : WholeFilm t last)
    {tickOf : Nat → Tick (t.plan.soundChannels * frames)}
    (fits : ∀ n < last, (tickOf n).Fits t (tickStart t.plan.rates.pictureTicks n)) :
    Course t t.plan.rates.pictureTicks frames 0 0 ((List.range last).map tickOf) := by
  -- The cursor may stand one reel behind; that `reelAt` finds the right one is what is carried along.
  have onward (count : Nat) : ∀ n reel, n + count = last →
      (n < last → t.reelAt reel (tickStart t.plan.rates.pictureTicks n) =
        .ok (t.reelOf (tickStart t.plan.rates.pictureTicks n))) →
      Course t t.plan.rates.pictureTicks frames reel n ((List.range' n count).map tickOf) := by
    induction count with
    | zero =>
      intro n reel ended _
      obtain rfl : n = last := by omega
      exact .ended (Int.le_of_eq (congrArg Time.ticks film.length))
    | succ count ih =>
      intro n reel more found
      have low : n < last := by omega
      have fit := fits n low
      refine .tick ?_ ?_ (found low) fit.selected fit.count fit.taken
        (ih (n + 1) _ (by omega) (reelAtNext film))
      · rw [film.length]
        exact (startBefore film.lasts).mpr low
      · have upper : (n + 1) * t.plan.rates.pictureTicks ≤ last * t.plan.rates.pictureTicks :=
          Nat.mul_le_mul_right _ low
        have fits := film.fits
        simp only [tickStart, FitsInt64] at fits ⊢
        omega
  rw [List.range_eq_range']
  exact onward last 0 0 (by omega) (reelAtFirst film)

end Reels
end Telecine.Transfer
