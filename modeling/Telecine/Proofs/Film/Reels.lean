import Mathlib.Data.List.Basic
import Telecine.Film.Basic
import Telecine.Proofs.Clock.Frames
import Telecine.Proofs.Clock.Partition
import Telecine.Proofs.Film.Cuts

/-! The reels of a film that is fit to be exported: each takes a whole number of frames and at least
one, and they follow on from the first frame to the last. -/
namespace Telecine

inductive WholeReels (duration last : Nat) : (start : Nat) → List Period → Prop where
  | ended : WholeReels duration last last []
  | reel {start bound rest} (some : start < bound) (later : WholeReels duration last bound rest) :
      WholeReels duration last start (⟨tickStart duration start, tickStart duration bound⟩ :: rest)

section Whole
variable {duration last start n : Nat} {reels : List Period}

theorem wholeBound (whole : WholeReels duration last start reels) : start ≤ last := by
  induction whole with
  | ended => exact Nat.le_refl _
  | reel some _ ih => omega

theorem containsFrame {a b : Nat} (lasts : 0 < duration) :
    (Period.mk (tickStart duration a) (tickStart duration b)).contains (tickStart duration n) = true ↔
      a ≤ n ∧ n < b := by
  rw [Period.containsBounds, startBefore lasts, ← Int.not_lt, startBefore lasts, Nat.not_lt]

theorem wholeFirst (lasts : 0 < duration) (whole : WholeReels duration last start reels)
    (low : start < last) :
    ∃ reel : Period, reels[0]? = some reel ∧ reel.contains (tickStart duration start) = true := by
  cases whole with
  | ended => omega
  | reel some later => exact ⟨_, rfl, (containsFrame lasts).mpr ⟨Nat.le_refl _, some⟩⟩

theorem wholeCovers (lasts : 0 < duration) (whole : WholeReels duration last start reels)
    (from' : start ≤ n) (low : n < last) :
    ∃ (i : Nat) (reel : Period), reels[i]? = some reel ∧ reel.contains (tickStart duration n) = true := by
  induction whole with
  | ended => omega
  | @reel start bound rest some later ih =>
    by_cases here : n < bound
    · exact ⟨0, _, rfl, (containsFrame lasts).mpr ⟨from', here⟩⟩
    · obtain ⟨i, reel, there, inside⟩ := ih (by omega)
      exact ⟨i + 1, reel, there, inside⟩

theorem wholeNext (lasts : 0 < duration) (whole : WholeReels duration last start reels) {i : Nat}
    {reel : Period} (there : reels[i]? = some reel)
    (inside : reel.contains (tickStart duration n) = true) (low : n + 1 < last) :
    reel.contains (tickStart duration (n + 1)) = true ∨
      ∃ next : Period, reels[i + 1]? = some next ∧
        next.contains (tickStart duration (n + 1)) = true := by
  induction whole generalizing i with
  | ended => simp at there
  | @reel start bound rest some later ih =>
    cases i with
    | succ i => exact ih there
    | zero =>
      cases Option.some.inj there
      obtain ⟨from', here⟩ := (containsFrame lasts).mp inside
      by_cases same : n + 1 < bound
      · exact .inl ((containsFrame lasts).mpr ⟨by omega, same⟩)
      · right
        cases later with
        | ended => omega
        | reel some later =>
          exact ⟨_, rfl, (containsFrame lasts).mpr ⟨by omega, by omega⟩⟩

theorem wholeFull (lasts : 0 < duration) (whole : WholeReels duration last start reels) :
    ∀ reel ∈ reels, reel.isEmpty = false := by
  induction whole with
  | ended => simp
  | reel some later ih =>
    refine List.forall_mem_cons.mpr ⟨?_, ih⟩
    simpa [Period.isEmpty] using (startBefore lasts).mpr some

theorem wholeContiguous (whole : WholeReels duration last start reels) :
    Period.contiguous reels = true := by
  induction whole with
  | ended => rfl
  | reel some later ih =>
    cases later with
    | ended => rfl
    | reel some later => simpa [Period.contiguous] using ih

theorem wholeLast (whole : WholeReels duration last start reels) (low : start < last) :
    reels.getLast?.map Period.stop = some (tickStart duration last) := by
  induction whole with
  | ended => omega
  | reel some later ih =>
    cases later with
    | ended => rfl
    | reel some' later => simpa using ih (Nat.lt_of_lt_of_le some' (wholeBound later))

theorem wholePartition (lasts : 0 < duration) (whole : WholeReels duration last 0 reels)
    (low : 0 < last) : Period.partition reels (tickStart duration last) = true := by
  have full := wholeFull lasts whole
  have joined := wholeContiguous whole
  have ended := wholeLast whole low
  cases whole with
  | ended => omega
  | reel some later =>
    simp only [Period.partition, joined, ended, Bool.and_true, decide_true, Bool.and_eq_true,
      decide_eq_true_eq, Bool.not_eq_true', List.any_eq_false, Bool.not_eq_true]
    exact ⟨by simp [tickStart, Time.zero], full⟩

end Whole

namespace Film

structure Fit (f : Film) : Prop where
  rate : f.rates.picture ≠ 0
  divides : 96000 % f.rates.picture = 0
  sound : f.rates.sound ≠ 0
  channels : 0 < f.soundChannels ∧ f.soundChannels ≤ maxSoundChannels
  length : 0 < f.lengthFrames

theorem validFit {f : Film} (valid : f.validate = .ok ()) : f.Fit := by
  unfold validate at valid
  simp only [bind, Except.bind, throw, throwThe, MonadExceptOf.throw] at valid
  repeat' split at valid
  all_goals try cases valid
  all_goals exact ⟨by tauto, by tauto, by tauto, by omega, by omega⟩

theorem pictureLasts {f : Film} (fit : f.Fit) : 0 < f.rates.pictureTicks :=
  Nat.div_pos (Nat.le_of_dvd (by decide) (Nat.dvd_of_mod_eq_zero fit.divides))
    (Nat.pos_of_ne_zero fit.rate)

theorem multiplesFit {step length : Int} (least : 1 ≤ step) (most : FitsInt64 step)
    (some : 0 < length) (fits : FitsInt64 (length * 2)) : ∃ cuts, multiples step length = .ok cuts := by
  have low : 0 ≤ (length - 1) / step := Int.ediv_nonneg (by omega) (by omega)
  have below : (length - 1) / step * step ≤ length - 1 := Int.ediv_mul_le _ (by omega)
  have one : (((length - 1) / step).toNat + 1 : Int) * step = (length - 1) / step * step + step := by
    rw [Int.toNat_of_nonneg low, Int.add_mul, Int.one_mul]
  have within : FitsInt64 ((((length - 1) / step).toNat + 1 : Int) * step) := by
    rw [one]
    rcases Int.lt_or_le (length - 1) step with short | long
    · rw [Int.ediv_eq_zero_of_lt (by omega) short]
      simpa using most
    · have still : 0 ≤ (length - 1) / step * step := Int.mul_nonneg low (by omega)
      unfold FitsInt64 at *
      omega
  simp only [multiples, int64_eq_ok_iff.mpr ⟨within, rfl⟩]
  exact ⟨_, rfl⟩

section Cuts
variable {f : Film}

theorem cutsWithin {cuts : List Int} (found : f.cuts = .ok cuts) :
    ∀ cut ∈ cuts, 0 < cut ∧ cut < f.lengthFrames := by
  intro cut member
  obtain ⟨above, below, _⟩ := (memCuts found).mp member
  exact ⟨above, below⟩

theorem cutsFound (fit : f.Fit) (fits : FitsInt64 (f.lengthFrames * 2)) : ∃ cuts, f.cuts = .ok cuts := by
  have proposed : ∃ all, f.proposedCuts = .ok all := by
    unfold proposedCuts
    split
    · exact ⟨_, rfl⟩
    · rename_i seconds _
      rw [reelFramesEven]
      obtain ⟨least, most⟩ := evenFramesFit f.rates.picture seconds
      exact multiplesFit least most fit.length fits
    · exact ⟨_, rfl⟩
  obtain ⟨all, proposed⟩ := proposed
  exact ⟨_, by rw [Film.cuts, proposed]; rfl⟩

theorem periodsWhole {rate last : Nat} (some : rate ≠ 0) (divides : 96000 % rate = 0)
    (fits : FitsInt64 (last * Time.ticksPerSecond)) {bounds : List Int}
    (inside : ∀ b ∈ bounds, 0 < b ∧ b < last) {start : Nat} (low : start < last)
    (done : List Period) :
    ∃ reels, periodsFrom rate start (bounds ++ [(last : Int)]) done = .ok (done.reverse ++ reels) ∧
      WholeReels (96000 / rate) last start reels := by
  have starts (n : Nat) (within : n ≤ last) :
      Time.ofFrames n rate = .ok (tickStart (96000 / rate) n) := by
    refine ofFramesWhole some divides ?_
    unfold FitsInt64 Time.ticksPerSecond at *
    omega
  induction bounds generalizing start done with
  | nil =>
    refine ⟨_, ?_, .reel low .ended⟩
    simp only [List.nil_append, periodsFrom, Int.ofNat_lt, low, if_true, starts start (by omega),
      starts last (Nat.le_refl _), bind, Except.bind]
    simp
  | cons b bounds ih =>
    obtain ⟨⟨above, below⟩, others⟩ := List.forall_mem_cons.mp inside
    obtain ⟨bound, rfl⟩ := Int.eq_ofNat_of_zero_le (Int.le_of_lt above)
    rw [List.cons_append, periodsFrom]
    by_cases later : (start : Int) < bound
    · obtain ⟨reels, same, whole⟩ := @ih others bound (by omega)
        (⟨tickStart (96000 / rate) start, tickStart (96000 / rate) bound⟩ :: done)
      refine ⟨_, ?_, .reel (by omega) whole⟩
      rw [if_pos later, starts start (by omega), starts bound (by omega)]
      simpa [bind, Except.bind] using same
    · rw [if_neg later]
      exact ih others low done

theorem reelsOfCuts (fit : f.Fit) {last : Nat} (length : f.lengthFrames = last)
    (fits : FitsInt64 (last * Time.ticksPerSecond)) {cuts : List Int} (found : f.cuts = .ok cuts) :
    ∃ reels, f.reels = .ok reels ∧ WholeReels f.rates.pictureTicks last 0 reels := by
  have some := fit.length
  have inside := cutsWithin found
  rw [length] at inside some
  obtain ⟨reels, same, whole⟩ := periodsWhole fit.rate fit.divides fits inside
    (show 0 < last by omega) []
  refine ⟨reels, ?_, whole⟩
  rw [Film.reels, found, length]
  exact same

theorem reelsWhole (fit : f.Fit) {last : Nat} (length : f.lengthFrames = last)
    (fits : FitsInt64 (last * Time.ticksPerSecond)) :
    ∃ reels, f.reels = .ok reels ∧ WholeReels f.rates.pictureTicks last 0 reels := by
  obtain ⟨cuts, found⟩ := cutsFound fit (by unfold FitsInt64 Time.ticksPerSecond at *; omega)
  exact reelsOfCuts fit length fits found

theorem reelsFound (fit : f.Fit) {last : Nat} (length : f.lengthFrames = last)
    (fits : FitsInt64 (last * Time.ticksPerSecond)) {reels : List Period}
    (found : f.reels = .ok reels) : WholeReels f.rates.pictureTicks last 0 reels := by
  obtain ⟨cuts, cut, _⟩ := checkedBound found
  obtain ⟨_, same, whole⟩ := reelsOfCuts fit length fits cut
  obtain rfl := Except.ok.inj (same.symm.trans found)
  exact whole

theorem periodsEnd {rate : Nat} {start last : Int} {bounds : List Int} {done reels : List Period}
    (inside : ∀ b ∈ bounds, b < last) (low : start < last)
    (found : periodsFrom rate start (bounds ++ [last]) done = .ok reels) :
    ∃ stop, Time.ofFrames last rate = .ok stop := by
  induction bounds generalizing start done with
  | nil =>
    rw [List.nil_append, periodsFrom, if_pos low] at found
    obtain ⟨_, _, found⟩ := checkedBound found
    obtain ⟨stop, ends, _⟩ := checkedBound found
    exact ⟨stop, ends⟩
  | cons bound bounds ih =>
    obtain ⟨below, others⟩ := List.forall_mem_cons.mp inside
    rw [List.cons_append, periodsFrom] at found
    split at found
    · obtain ⟨_, _, found⟩ := checkedBound found
      obtain ⟨_, _, found⟩ := checkedBound found
      exact ih others below found
    · exact ih others low found

theorem reelsFit {reels : List Period} (some : 0 < f.lengthFrames) (found : f.reels = .ok reels) :
    FitsInt64 (f.lengthFrames * Time.ticksPerSecond) := by
  obtain ⟨cuts, cut, found⟩ := checkedBound found
  obtain ⟨_, ends⟩ := periodsEnd (fun b member => (cutsWithin cut b member).2) some found
  exact (ofFramesOk ends).2

theorem reelsExactly (valid : f.validate = .ok ()) :
    (∃ reels, f.reels = .ok reels) ↔ FitsInt64 (f.lengthFrames * Time.ticksPerSecond) := by
  have fit := validFit valid
  constructor
  · rintro ⟨reels, found⟩
    exact reelsFit fit.length found
  · intro fits
    obtain ⟨last, length⟩ := Int.eq_ofNat_of_zero_le (Int.le_of_lt fit.length)
    rw [length] at fits
    obtain ⟨reels, found, _⟩ := reelsWhole fit length fits
    exact ⟨reels, found⟩

end Cuts
end Film
end Telecine
