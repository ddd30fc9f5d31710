import Mathlib.Tactic.Ring
import Telecine.Clock.FrameRates

/-! The start of each frame on the clock, where frames last a whole number of its ticks. -/
namespace Telecine

def tickStart (duration n : Nat) : Time := ⟨(n * duration : Nat)⟩

theorem startZero (duration : Nat) : Time.zero = tickStart duration 0 := by simp [tickStart, Time.zero]

theorem startNonneg (duration n : Nat) : 0 ≤ (tickStart duration n).ticks := Int.natCast_nonneg _

theorem tickNext {duration n : Nat} {next : Time} :
    (tickStart duration n).add ⟨duration⟩ = .ok next ↔
      FitsInt64 (tickStart duration (n + 1)).ticks ∧ next = tickStart duration (n + 1) := by
  have sum : (tickStart duration n).ticks + (duration : Int) = (tickStart duration (n + 1)).ticks := by
    simp [tickStart, Nat.succ_mul]
  unfold Time.add
  rw [sum]
  by_cases fits : FitsInt64 (tickStart duration (n + 1)).ticks
  · rw [int64_eq_ok_iff.mpr ⟨fits, rfl⟩]
    simp [fits, bind, Except.bind, pure, Except.pure, eq_comm]
  · rw [int64_eq_error_iff.mpr ⟨fits, rfl⟩]
    simp [fits, bind, Except.bind]

theorem startBefore {duration a b : Nat} (lasts : 0 < duration) :
    (tickStart duration a).ticks < (tickStart duration b).ticks ↔ a < b := by
  simp only [tickStart, Int.ofNat_lt]
  exact Nat.mul_lt_mul_right lasts

theorem ofFramesExact {frames : Int} {rate : Nat} (some : rate ≠ 0)
    (fits : FitsInt64 (frames * Time.ticksPerSecond)) :
    Time.ofFrames frames rate = .ok ⟨(frames * Time.ticksPerSecond).tdiv rate⟩ := by
  unfold Time.ofFrames
  rw [if_neg some, int64_eq_ok_iff.mpr ⟨fits, rfl⟩]
  rfl

theorem ofFramesWhole {frames rate : Nat} (some : rate ≠ 0) (divides : 96000 % rate = 0)
    (fits : FitsInt64 (frames * Time.ticksPerSecond)) :
    Time.ofFrames frames rate = .ok (tickStart (96000 / rate) frames) := by
  have product : (frames : Int) * Time.ticksPerSecond = (frames * (96000 / rate) : Nat) * rate := by
    have whole : 96000 / rate * rate = 96000 := Nat.div_mul_cancel (Nat.dvd_of_mod_eq_zero divides)
    rw [← Int.natCast_mul, Nat.mul_assoc, whole]
    rfl
  rw [ofFramesExact some fits, product, Int.mul_tdiv_cancel _ (by omega)]
  rfl

theorem roundFramesExact {t : Time} {rate : Nat} (product : FitsInt64 (t.ticks * rate))
    (doubled : FitsInt64 (t.ticks * rate * 2))
    (shifted : FitsInt64 (t.ticks * rate * 2 + Time.ticksPerSecond)) :
    t.roundFrames rate =
      .ok ((t.ticks * rate * 2 + Time.ticksPerSecond) / (Time.ticksPerSecond * 2)) := by
  unfold Time.roundFrames
  rw [int64_eq_ok_iff.mpr ⟨product, rfl⟩]
  simp only [bind, Except.bind]
  rw [int64_eq_ok_iff.mpr ⟨doubled, rfl⟩]
  simp only []
  rw [int64_eq_ok_iff.mpr ⟨shifted, rfl⟩]
  rfl

theorem checkedBound {ε α β : Type} {value : Except ε α} {next : α → Except ε β} {result : β}
    (ok : (value >>= next) = .ok result) : ∃ early, value = .ok early ∧ next early = .ok result := by
  cases value with
  | error fault => cases ok
  | ok early => exact ⟨early, rfl, ok⟩

theorem ofFramesOk {frames : Int} {rate : Nat} {time : Time} (ok : Time.ofFrames frames rate = .ok time) :
    rate ≠ 0 ∧ FitsInt64 (frames * Time.ticksPerSecond) := by
  unfold Time.ofFrames at ok
  by_cases none : rate = 0
  · rw [if_pos none] at ok
    cases ok
  · rw [if_neg none] at ok
    obtain ⟨_, scaled, _⟩ := checkedBound ok
    exact ⟨none, (int64_eq_ok_iff.mp scaled).1⟩

theorem roundFramesOk {t : Time} {rate : Nat} {frames : Int} (ok : t.roundFrames rate = .ok frames) :
    FitsInt64 (t.ticks * rate * 2 + Time.ticksPerSecond) ∧
      frames = (t.ticks * rate * 2 + Time.ticksPerSecond) / (Time.ticksPerSecond * 2) := by
  unfold Time.roundFrames at ok
  obtain ⟨_, product, ok⟩ := checkedBound ok
  obtain ⟨_, doubled, ok⟩ := checkedBound ok
  obtain ⟨_, shifted, ok⟩ := checkedBound ok
  obtain ⟨_, rfl⟩ := int64_eq_ok_iff.mp product
  obtain ⟨_, rfl⟩ := int64_eq_ok_iff.mp doubled
  obtain ⟨fits, rfl⟩ := int64_eq_ok_iff.mp shifted
  exact ⟨fits, (Except.ok.inj ok).symm⟩

namespace FrameRates

def pictureTicks (r : FrameRates) : Nat := 96000 / r.picture

theorem ticksWhole {r : FrameRates} (divides : 96000 % r.picture = 0) :
    r.pictureTicks * r.picture = 96000 := Nat.div_mul_cancel (Nat.dvd_of_mod_eq_zero divides)

theorem ticksLast {r : FrameRates} (divides : 96000 % r.picture = 0) : 0 < r.pictureTicks :=
  Nat.pos_of_ne_zero fun none => by simpa [none] using ticksWhole divides

theorem pictureDurationExact {r : FrameRates} (some : r.picture ≠ 0) :
    r.pictureDuration = .ok ⟨r.pictureTicks⟩ := by
  rw [pictureDuration, ofFramesExact some (by decide)]
  rfl

theorem picturesWhole {r : FrameRates} (divides : 96000 % r.picture = 0) {n : Nat} {count : Int} :
    (tickStart r.pictureTicks n).roundFrames r.picture = .ok count ↔
      FitsInt64 ((n : Int) * 192000 + 96000) ∧ count = n := by
  have scaled : (tickStart r.pictureTicks n).ticks * (r.picture : Int) = n * 96000 := by
    rw [tickStart, ← Int.natCast_mul, Nat.mul_assoc, ticksWhole divides]
    rfl
  constructor
  · intro ok
    obtain ⟨fits, rfl⟩ := roundFramesOk ok
    rw [scaled] at fits ⊢
    unfold FitsInt64 Time.ticksPerSecond at *
    omega
  · rintro ⟨fits, rfl⟩
    have rounded := @roundFramesExact (tickStart r.pictureTicks n) r.picture
    rw [scaled] at rounded
    unfold FitsInt64 Time.ticksPerSecond at *
    rw [rounded (by omega) (by omega) (by omega)]
    congr 1
    omega

theorem soundPerPictureExact {r : FrameRates} (some : r.picture ≠ 0) (rate : r.sound < 4294967296) :
    ∃ frames, r.soundPerPicture = .ok frames ∧ frames ≤ 4294967296 := by
  have lasts : r.pictureTicks * r.sound ≤ 96000 * 4294967295 :=
    Nat.mul_le_mul (Nat.div_le_self _ _) (by omega)
  have scaled : (r.pictureTicks : Int) * r.sound = (r.pictureTicks * r.sound : Nat) := by simp
  have rounded := @roundFramesExact ⟨r.pictureTicks⟩ r.sound
  simp only [scaled] at rounded
  have whole := rounded (by unfold FitsInt64; omega) (by unfold FitsInt64; omega)
    (by unfold FitsInt64 Time.ticksPerSecond; omega)
  refine ⟨(((r.pictureTicks * r.sound : Nat) * 2 + Time.ticksPerSecond) /
    (Time.ticksPerSecond * 2)).toNat, ?_, ?_⟩
  · rw [soundPerPicture, pictureDurationExact some]
    simp only [bind, Except.bind, whole]
    rfl
  · unfold Time.ticksPerSecond
    omega

end FrameRates
end Telecine
