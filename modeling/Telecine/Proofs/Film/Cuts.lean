import Mathlib.Algebra.Order.Field.Basic
import Mathlib.Data.Rat.Floor
import Mathlib.Tactic.FieldSimp
import Mathlib.Tactic.Tauto
import Telecine.Film.Basic
import Telecine.Proofs.Clock.Frames

/-! The frames at which the reels of a film are divided: in order, each of them once, and none but those
that the layout asks for inside the film. -/
namespace Telecine.Film

def runs (first : Int) : List Int → List Int
  | [] => [first]
  | next :: rest => if first = next then runs first rest else first :: runs next rest

section Runs
variable {first cut : Int} {rest cuts : List Int}

theorem eraseRepsRuns : (first :: rest).eraseReps = runs first rest := by
  have loop (first : Int) (rest taken : List Int) :
      List.eraseRepsBy.loop (· == ·) first rest taken = taken.reverse ++ runs first rest := by
    induction rest generalizing first taken with
    | nil => simp [List.eraseRepsBy.loop, runs]
    | cons next rest ih =>
      simp only [List.eraseRepsBy.loop, runs]
      split
      · next same =>
        obtain rfl : first = next := by simpa using same
        rw [if_pos rfl]
        exact ih first taken
      · next apart =>
        rw [if_neg (by simpa using apart), ih next (first :: taken)]
        simp
  simpa [List.eraseReps, List.eraseRepsBy] using loop first rest []

theorem memRuns : cut ∈ runs first rest ↔ cut = first ∨ cut ∈ rest := by
  induction rest generalizing first with
  | nil => simp [runs]
  | cons next rest ih =>
    rw [runs]
    split
    · next same =>
      rw [ih, List.mem_cons, ← same]
      tauto
    · rw [List.mem_cons, ih, List.mem_cons]

theorem memEraseReps : cut ∈ cuts.eraseReps ↔ cut ∈ cuts := by
  cases cuts with
  | nil => simp [List.eraseReps, List.eraseRepsBy]
  | cons first rest => rw [eraseRepsRuns, memRuns, List.mem_cons]

theorem runsRising (sorted : (first :: rest).Pairwise (· ≤ ·)) :
    (runs first rest).Pairwise (· < ·) := by
  induction rest generalizing first with
  | nil => exact List.pairwise_singleton _ _
  | cons next rest ih =>
    obtain ⟨least, later⟩ := List.pairwise_cons.mp sorted
    have low := least next List.mem_cons_self
    rw [runs]
    split
    · next same => exact ih (same ▸ later)
    · next apart =>
      refine List.pairwise_cons.mpr ⟨fun cut member => ?_, ih later⟩
      rcases memRuns.mp member with rfl | member
      · omega
      · have beyond := (List.pairwise_cons.mp later).1 cut member
        omega

theorem eraseRepsRising (sorted : cuts.Pairwise (· ≤ ·)) : cuts.eraseReps.Pairwise (· < ·) := by
  cases cuts with
  | nil => simp [List.eraseReps, List.eraseRepsBy]
  | cons first rest =>
    rw [eraseRepsRuns]
    exact runsRising sorted

end Runs

/-- The frames of `seconds`: the nearest whole number, a half going up, but never none and never more
than 64 bits hold. -/
def evenFrames (rate : Nat) (seconds : Float) : Int :=
  match Decimal.Reading.ofFloat (seconds * rate.toUInt64.toFloat) with
  | .finite ⟨false, mantissa, exponent, _⟩ =>
    max 1 (min ⌊(mantissa : ℚ) * 2 ^ exponent + 1 / 2⌋ 9223372036854775807)
  | .infinite false => 9223372036854775807
  | _ => 1

section Even
variable (rate : Nat) (seconds : Float)

theorem roundedUp (mantissa : Nat) (exponent : Int) (narrow : Bool) :
    Decimal.Binary64.round ⟨false, mantissa, exponent, narrow⟩ =
      ⌊(mantissa : ℚ) * 2 ^ exponent + 1 / 2⌋ := by
  generalize above : exponent.toNat = up
  generalize below : (-exponent).toNat = down
  have parts : exponent = (up : Int) - down := by omega
  have power : (2 : ℚ) ^ exponent = 2 ^ up / 2 ^ down := by
    rw [parts, zpow_sub₀ two_ne_zero, zpow_natCast, zpow_natCast]
  have quotient : (mantissa : ℚ) * 2 ^ exponent + 1 / 2 =
      ((mantissa * 2 * 2 ^ up + 2 ^ down : Nat) : ℚ) / (2 * 2 ^ down : Nat) := by
    rw [power]
    push_cast
    field_simp
  rw [quotient, Rat.floor_natCast_div_natCast]
  simp only [Decimal.Binary64.round, Decimal.twoTo, above, below]
  rfl

theorem reelFramesEven : reelFrames rate seconds = evenFrames rate seconds := by
  unfold reelFrames evenFrames Decimal.nearestInt64
  generalize Decimal.Reading.ofFloat (seconds * rate.toUInt64.toFloat) = reading
  match reading with
  | .finite ⟨false, mantissa, exponent, narrow⟩ =>
    simp only [roundedUp]
    omega
  | .finite ⟨true, mantissa, exponent, narrow⟩ =>
    have below : Decimal.Binary64.round ⟨true, mantissa, exponent, narrow⟩ ≤ 0 :=
      Int.neg_nonpos_of_nonneg (Int.natCast_nonneg _)
    simp only
    omega
  | .infinite false => rfl
  | .infinite true => rfl
  | .notANumber => rfl

theorem evenFramesFit : 1 ≤ evenFrames rate seconds ∧ FitsInt64 (evenFrames rate seconds) := by
  unfold evenFrames FitsInt64
  split <;> omega

end Even

def Cut (f : Film) (frame : Int) : Prop :=
  0 < frame ∧ frame < f.lengthFrames ∧ match f.layout with
    | .single => False
    | .byLength seconds => evenFrames f.rates.picture seconds ∣ frame
    | .atFrames cuts => frame ∈ cuts

section Cuts
variable {f : Film} {cut step length : Int} {cuts all : List Int}

theorem memMultiples (some : 0 < step) (found : multiples step length = .ok all) :
    cut ∈ all ↔ 0 < cut ∧ cut < length ∧ step ∣ cut := by
  obtain ⟨_, _, same⟩ := checkedBound found
  obtain rfl := Except.ok.inj same
  simp only [List.mem_map, List.mem_range]
  constructor
  · rintro ⟨n, low, rfl⟩
    have whole : (n : Int) + 1 ≤ (length - 1) / step := by omega
    have below := (Int.le_ediv_iff_mul_le some).mp whole
    have above : 0 < ((n : Int) + 1) * step := Int.mul_pos (by omega) some
    exact ⟨above, by omega, Int.dvd_mul_left _ _⟩
  · rintro ⟨above, below, k, rfl⟩
    have count : 0 < k := Int.pos_of_mul_pos_left (Int.mul_comm step k ▸ above) some
    have whole : k ≤ (length - 1) / step :=
      (Int.le_ediv_iff_mul_le some).mpr (by rw [Int.mul_comm]; omega)
    refine ⟨(k - 1).toNat, by omega, ?_⟩
    rw [Int.toNat_of_nonneg (by omega), Int.mul_comm]
    congr 1
    omega

theorem memProposed (found : f.proposedCuts = .ok all) :
    (0 < cut ∧ cut < f.lengthFrames) ∧ cut ∈ all ↔ f.Cut cut := by
  unfold proposedCuts at found
  unfold Cut
  cases layout : f.layout with
  | single =>
    simp only [layout] at found
    cases found
    simp
  | byLength seconds =>
    simp only [layout, reelFramesEven] at found
    rw [memMultiples (evenFramesFit _ _).1 found]
    dsimp only
    tauto
  | atFrames cuts =>
    simp only [layout] at found
    cases found
    tauto

theorem cutsRising (found : f.cuts = .ok cuts) : cuts.Pairwise (· < ·) := by
  obtain ⟨all, proposed, same⟩ := checkedBound found
  obtain rfl := Except.ok.inj same
  refine eraseRepsRising (List.Pairwise.imp of_decide_eq_true (List.pairwise_mergeSort ?_ ?_ _))
  · intro a b c ab bc
    exact decide_eq_true (Int.le_trans (of_decide_eq_true ab) (of_decide_eq_true bc))
  · intro a b
    simpa using Int.le_total a b

theorem memCuts (found : f.cuts = .ok cuts) : cut ∈ cuts ↔ f.Cut cut := by
  obtain ⟨all, proposed, same⟩ := checkedBound found
  obtain rfl := Except.ok.inj same
  rw [memEraseReps, List.mem_mergeSort, List.mem_filter, ← memProposed proposed]
  simp [and_comm]

end Cuts
end Telecine.Film
