import Mathlib.Order.Bounds.Basic
import Telecine.Proofs.Clock.Frames

/-! Times and the frame boundaries around them, before zero as after it: the last boundary up to a time,
the first one from it on and the nearest one. A frame number survives the way to its time and back at
every rate up to 48000, although most rates leave a part of a tick over. -/
namespace Telecine

theorem ofFramesComputed {frames : Int} {rate : Nat} {s : Time} : Time.ofFrames frames rate = .ok s ↔
    rate ≠ 0 ∧ FitsInt64 (frames * Time.ticksPerSecond) ∧
      s = ⟨(frames * Time.ticksPerSecond).tdiv rate⟩ := by
  constructor
  · intro ok
    obtain ⟨some, fits⟩ := ofFramesOk ok
    exact ⟨some, fits, Except.ok.inj (ok.symm.trans (ofFramesExact some fits))⟩
  · rintro ⟨some, fits, rfl⟩
    exact ofFramesExact some fits

theorem roundFramesWithin {t : Time} {rate : Nat} (doubled : FitsInt64 (t.ticks * rate * 2))
    (shifted : FitsInt64 (t.ticks * rate * 2 + Time.ticksPerSecond)) : t.roundFrames rate =
      .ok ((t.ticks * rate * 2 + Time.ticksPerSecond) / (Time.ticksPerSecond * 2)) := by
  refine roundFramesExact ?_ doubled shifted
  unfold FitsInt64 at *
  omega

/-! At rates that divide the clock's, a frame lasts `frame` ticks exactly. -/

section Whole
variable {rate frame : Nat} {t s : Time}

theorem wholePositive (whole : frame * rate = 96000) : 0 < frame ∧ 0 < rate := by
  constructor <;>
  · refine Nat.pos_of_ne_zero fun none => ?_
    simp [none] at whole

theorem frameScaled (whole : frame * rate = 96000) (n : Int) : n * frame * rate = n * 96000 := by
  rw [Int.mul_assoc, ← Int.natCast_mul, whole]
  rfl

theorem boundaryExact (whole : frame * rate = 96000) {n : Int} : Time.ofFrames n rate = .ok s ↔
    FitsInt64 (n * Time.ticksPerSecond) ∧ s = ⟨n * frame⟩ := by
  have some := (wholePositive whole).2
  have product : n * Time.ticksPerSecond = n * frame * rate := (frameScaled whole n).symm
  rw [ofFramesComputed, product, Int.mul_tdiv_cancel _ (by omega)]
  simp [Nat.ne_of_gt some]

theorem floorGreatest (whole : frame * rate = 96000) (fits : FitsInt64 (t.ticks * rate)) :
    ∃ n, t.floorFrames rate = .ok n ∧ (FitsInt64 (n * Time.ticksPerSecond) →
      IsGreatest {k | ∃ s, Time.ofFrames k rate = .ok s ∧ s.ticks ≤ t.ticks} n) := by
  have upTo (k : Int) : k * frame ≤ t.ticks ↔ k ≤ t.ticks * rate / Time.ticksPerSecond := by
    have some : 0 < (rate : Int) := Int.natCast_pos.mpr (wholePositive whole).2
    rw [Int.le_ediv_iff_mul_le (by decide), ← Int.mul_le_mul_iff_of_pos_right some, frameScaled whole]
    rfl
  refine ⟨t.ticks * rate / Time.ticksPerSecond, ?_, fun within => ⟨?_, ?_⟩⟩
  · rw [Time.floorFrames, int64_eq_ok_iff.mpr ⟨fits, rfl⟩]
    rfl
  · exact ⟨_, (boundaryExact whole).mpr ⟨within, rfl⟩, (upTo _).mpr (Int.le_refl _)⟩
  · rintro k ⟨s, starts, before⟩
    obtain ⟨_, rfl⟩ := (boundaryExact whole).mp starts
    exact (upTo k).mp before

theorem ceilExact (lasts : Time.ofFrames 1 rate = .ok ⟨frame⟩) (some : 0 < frame)
    (here : FitsInt64 t.ticks) (past : FitsInt64 (t.ticks + frame)) :
    t.ceil rate = .ok ⟨(t.ticks + frame - 1) / frame * frame⟩ := by
  have nonzero : (⟨frame⟩ : Time) ≠ Time.zero := by
    simp only [Time.zero, ne_eq, Time.mk.injEq]
    omega
  have most := Int.ediv_mul_le (t.ticks + frame - 1) (b := frame) (by omega)
  have least := Int.lt_ediv_add_one_mul_self (t.ticks + frame - 1) (b := frame) (by omega)
  rw [Int.add_mul, Int.one_mul] at least
  unfold FitsInt64 at here past
  simp only [Time.ceil, lasts, bind, Except.bind, if_neg nonzero]
  rw [int64_eq_ok_iff.mpr ⟨show FitsInt64 _ by unfold FitsInt64; omega, rfl⟩]
  simp only []
  rw [int64_eq_ok_iff.mpr ⟨show FitsInt64 _ by unfold FitsInt64; omega, rfl⟩]
  simp only []
  rw [int64_eq_ok_iff.mpr ⟨show FitsInt64 _ by unfold FitsInt64; omega, rfl⟩]
  rfl

theorem upFrom (some : 0 < frame) (n : Int) :
    t.ticks ≤ n * frame ↔ (t.ticks + frame - 1) / frame ≤ n := by
  rw [← Int.lt_add_one_iff (b := n), Int.ediv_lt_iff_lt_mul (by omega), Int.add_mul, Int.one_mul]
  omega

theorem ceilLeast (whole : frame * rate = 96000) (here : FitsInt64 t.ticks)
    (past : FitsInt64 (t.ticks + frame)) :
    ∃ c, t.ceil rate = .ok c ∧ (FitsInt64 (c.ticks * rate) →
      IsLeast {b | ∃ n, Time.ofFrames n rate = .ok ⟨b⟩ ∧ t.ticks ≤ b} c.ticks) := by
  have some := (wholePositive whole).1
  have lasts : Time.ofFrames 1 rate = .ok ⟨frame⟩ :=
    (boundaryExact whole).mpr ⟨by decide, by rw [Int.one_mul]⟩
  refine ⟨_, ceilExact lasts some here past, fun within => ⟨⟨_, (boundaryExact whole).mpr ⟨?_, rfl⟩, ?_⟩, ?_⟩⟩
  · rwa [frameScaled whole] at within
  · exact (upFrom some _).mpr (Int.le_refl _)
  · rintro b ⟨n, starts, after⟩
    obtain ⟨_, same⟩ := (boundaryExact whole).mp starts
    obtain rfl := congrArg Time.ticks same
    exact Int.mul_le_mul_of_nonneg_right ((upFrom some n).mp after) (Int.natCast_nonneg _)

def Time.gap (t s : Time) : Nat := (t.ticks - s.ticks).natAbs

theorem gapScaled (whole : frame * rate = 96000) (n : Int) :
    Time.gap ⟨n * frame⟩ t * rate = (n * 96000 - t.ticks * rate).natAbs := by
  rw [← frameScaled whole, ← Int.sub_mul, Int.natAbs_mul, Int.natAbs_natCast]
  rfl

theorem roundNearest (whole : frame * rate = 96000) (doubled : FitsInt64 (t.ticks * rate * 2))
    (shifted : FitsInt64 (t.ticks * rate * 2 + Time.ticksPerSecond)) :
    ∃ n, t.roundFrames rate = .ok n ∧ (FitsInt64 (n * Time.ticksPerSecond) →
      ∃ s, Time.ofFrames n rate = .ok s ∧ ∀ k s', Time.ofFrames k rate = .ok s' →
        s.gap t ≤ s'.gap t ∧ (s.gap t = s'.gap t → k ≤ n)) := by
  refine ⟨_, roundFramesWithin doubled shifted, fun within =>
    ⟨_, (boundaryExact whole).mpr ⟨within, rfl⟩, fun k s' starts => ?_⟩⟩
  obtain ⟨_, rfl⟩ := (boundaryExact whole).mp starts
  have some := (wholePositive whole).2
  have here := gapScaled (t := t) whole
    ((t.ticks * rate * 2 + Time.ticksPerSecond) / (Time.ticksPerSecond * 2))
  have there := gapScaled (t := t) whole k
  constructor
  · refine Nat.le_of_mul_le_mul_right ?_ some
    rw [here, there]
    unfold Time.ticksPerSecond
    omega
  · intro same
    rw [same, there] at here
    unfold Time.ticksPerSecond at *
    omega

end Whole

/-! Any rate: what the start of a frame drops of a tick is less than half a frame. -/

section RoundTrip
variable {rate : Nat} {n : Int} {s : Time}

theorem droppedPart (known : 96000 % rate = 0 ∨ rate ≤ 48000) (some : rate ≠ 0) (n : Int) :
    ((n * Time.ticksPerSecond).tmod rate).natAbs < 48000 := by
  rw [Int.natAbs_tmod, Int.natAbs_natCast, Int.natAbs_mul]
  rcases known with divides | slow
  · have whole : (n.natAbs * Time.ticksPerSecond.natAbs) % rate = 0 :=
      Nat.mod_eq_zero_of_dvd ((Nat.dvd_of_mod_eq_zero divides).mul_left _)
    omega
  · exact Nat.lt_of_lt_of_le (Nat.mod_lt _ (Nat.pos_of_ne_zero some)) slow

theorem roundTrip (known : 96000 % rate = 0 ∨ rate ≤ 48000) (starts : Time.ofFrames n rate = .ok s)
    (doubled : FitsInt64 (s.ticks * rate * 2))
    (shifted : FitsInt64 (s.ticks * rate * 2 + Time.ticksPerSecond)) : s.roundFrames rate = .ok n := by
  obtain ⟨some, _, rfl⟩ := ofFramesComputed.mp starts
  have less := droppedPart known some n
  have parts := Int.tdiv_mul_add_tmod (n * Time.ticksPerSecond) rate
  refine (roundFramesWithin doubled shifted).trans (congrArg Except.ok ?_)
  simp only [Time.ticksPerSecond] at *
  omega

end RoundTrip
end Telecine
