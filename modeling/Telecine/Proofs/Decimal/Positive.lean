import Mathlib

/-! Sums and quotients that stay above zero. What is kept through each operation is that the number has
53 binary places and how low its exponent may be, or that it is infinite. -/
namespace Telecine.Binary64
open Float.Model Float.Model.UnpackedFloat

/-- Above zero, with 53 binary places and an exponent of at least `low`. -/
inductive Normal (low : Int) : UnpackedFloat → Prop
  | finite {mantissa exponent some} (places : mantissa.log2 = 52) (above : low ≤ exponent) :
      Normal low (.finite .positive mantissa exponent some)
  | infinity : Normal low (.infinity .positive)

section Shifting
variable {mantissa : Nat} {exponent low : Int}

theorem targetExact (total : Int) : Format.binary64.targetExponent total = max (total - 53) (-1074) := rfl

theorem log2Shift (k : Nat) : (mantissa / 2 ^ k).log2 = mantissa.log2 - k := by
  rw [Nat.log2_eq_log_two, Nat.log2_eq_log_two, Nat.log_div_base_pow]

theorem shiftedMantissa (em : ExtendedMantissa) (k : Nat) : (em >>> k).mantissa = em.mantissa / 2 ^ k := by
  show (k.repeat ExtendedMantissa.shiftRightOne em).mantissa = _
  induction k with
  | zero => simp [Nat.repeat]
  | succ k ih =>
    rw [Nat.repeat, ExtendedMantissa.shiftRightOne, ih, Nat.div_div_eq_div_mul, ← Nat.pow_succ]

theorem mantissaGiven (accuracy : Accuracy) :
    (ExtendedMantissa.ofMantissaAndAccuracy mantissa accuracy).mantissa = mantissa := by
  rcases accuracy with _ | _ | _ | _ <;> rfl

theorem shiftWide (accuracy : Accuracy) (wide : 52 ≤ mantissa.log2) (above : -1074 ≤ exponent) :
    let shifted := shiftToTargetExponent .binary64 mantissa exponent accuracy
    shifted.1.mantissa.log2 = 52 ∧ exponent ≤ shifted.2 := by
  have target : (Format.binary64.targetExponent (totalExponent mantissa exponent) - exponent).toNat =
      mantissa.log2 - 52 := by
    rw [targetExact, totalExponent]
    omega
  simp only [shiftToTargetExponent, shiftToExponent, target, shiftedMantissa, mantissaGiven, log2Shift]
  omega

theorem roundedWide {em : ExtendedMantissa} (places : em.mantissa.log2 = 52) : 52 ≤ em.roundedMantissa.log2 := by
  have least : em.mantissa ≤ em.roundedMantissa := by
    rcases em with ⟨_, _ | _, _ | _⟩ <;>
      simp [ExtendedMantissa.roundedMantissa, ExtendedMantissa.accuracy, Accuracy.roundToNearestEven]
  rw [← places, Nat.log2_eq_log_two, Nat.log2_eq_log_two]
  exact Nat.log_mono_right least

theorem roundNormal (accuracy : Accuracy) (wide : 52 ≤ mantissa.log2) (above : low ≤ exponent)
    (low' : -1074 ≤ low) : Normal low (roundWithAccuracy .binary64 .positive mantissa exponent accuracy) := by
  obtain ⟨places, up⟩ := shiftWide accuracy wide (low'.trans above)
  obtain ⟨places', up'⟩ := shiftWide .exact (roundedWide places) ((low'.trans above).trans up)
  unfold roundWithAccuracy
  simp only []
  split
  · next none =>
    rw [none] at places'
    cases places'
  · exact .finite places' ((above.trans up).trans up')

theorem log2Raised (some : mantissa ≠ 0) (k : Nat) : (mantissa <<< k).log2 = mantissa.log2 + k := by
  rw [Nat.shiftLeft_eq, Nat.log2_eq_log_two, Nat.log2_eq_log_two]
  induction k with
  | zero => simp
  | succ k ih =>
    have nonzero : mantissa * 2 ^ k ≠ 0 := Nat.mul_ne_zero some (Nat.ne_of_gt (Nat.two_pow_pos k))
    rw [Nat.pow_succ, ← Nat.mul_assoc, Nat.log_mul_base (by decide) nonzero, ih, Nat.add_assoc]

theorem roundsNormal (some : mantissa ≠ 0) (above : low ≤ exponent) (still : low ≤ exponent + mantissa.log2 - 52)
    (low' : -1074 ≤ low) : Normal low (UnpackedFloat.round .binary64 .positive mantissa exponent) := by
  unfold UnpackedFloat.round decreaseExponent
  rw [targetExact, totalExponent]
  refine roundNormal _ ?_ ?_ low'
  · rw [log2Raised some]
    omega
  · omega

end Shifting

section Packing
variable {low : Int} {u v : UnpackedFloat}

theorem signKept {spec : Format} (sign : Sign) (exponent : BitVec spec.exponentBits)
    (mantissa : BitVec spec.mantissaBitsWithoutImplicit) :
    unpackSign (packComponents spec sign exponent mantissa) = sign.toBitVec := by
  ext i inside
  obtain rfl : i = 0 := by omega
  simp [unpackSign, packComponents, BitVec.getLsbD_append, BitVec.getElem_append]

theorem infinityKept : unpack .binary64 (pack .binary64 (.infinity .positive)) = .infinity .positive :=
  rfl

theorem leadingBit (mantissa : BitVec 52) : (1#1 ++ mantissa).toNat.log2 = 52 := by
  have whole : (1#1 ++ mantissa).toNat = 2 ^ 52 + mantissa.toNat := by
    rw [BitVec.toNat_append, ← Nat.shiftLeft_add_eq_or_of_lt mantissa.isLt]
    rfl
  have short := mantissa.isLt
  rw [whole, Nat.log2_eq_iff (by omega)]
  omega

theorem componentsNormal {biased : Nat} (some : 0 < biased) (most : biased < 2047) (mantissa : BitVec 52)
    (above : low ≤ biased - 1075) :
    Normal low (UnpackedFloat.unpack .binary64 (packComponents .binary64 .positive (.ofNat 11 biased) mantissa)) := by
  have whole : (BitVec.ofNat 11 biased).toNat = biased := Nat.mod_eq_of_lt (by omega)
  have full : BitVec.ofNat 11 biased ≠ -1#11 := by
    intro same
    have size : biased = 2047 := whole.symm.trans (congrArg BitVec.toNat same)
    omega
  have none : BitVec.ofNat 11 biased ≠ 0#11 := by
    intro same
    have size : biased = 0 := whole.symm.trans (congrArg BitVec.toNat same)
    omega
  have bias : (Format.binary64.exponentBias : Int) + Format.binary64.mantissaBitsWithoutImplicit = 1075 := rfl
  unfold UnpackedFloat.unpack
  simp only [unpackMantissa_packComponents, unpackExponent_packComponents, signKept, if_neg full, if_neg none,
    whole, bias]
  exact .finite (leadingBit mantissa) above

theorem packedNormal (normal : Normal low u) (low' : -1074 ≤ low) :
    Normal low (unpack .binary64 (pack .binary64 u)) := by
  cases normal with
  | infinity =>
    rw [infinityKept]
    exact .infinity
  | @finite mantissa exponent some places above =>
    obtain ⟨biased, same⟩ : ∃ biased : Nat, exponent = biased - 1075 :=
      ⟨(exponent + 1075).toNat, by omega⟩
    have bias : (Format.binary64.exponentBias : Int) = 1023 := rfl
    have whole : (exponent + Format.binary64.exponentBias + Format.binary64.mantissaBitsWithoutImplicit).toNat =
        biased := by
      rw [bias]
      show (exponent + 1023 + (52 : Nat)).toNat = biased
      omega
    have bits : mantissa.log2 + 1 = Format.binary64.mantissaBits := by rw [places]; rfl
    unfold UnpackedFloat.pack
    simp only [bits, if_true, whole]
    split
    · exact infinityKept ▸ .infinity
    · next fits =>
      exact componentsNormal (by omega) (by omega) _ (same ▸ above)

end Packing

section Operations
variable {low : Int} {u v : UnpackedFloat}

theorem normalizeNormal {n : Nat} {exponent : Int} (some : n ≠ 0) (above : low ≤ exponent)
    (still : low ≤ exponent + n.log2 - 52) (low' : -1074 ≤ low) :
    Normal low (UnpackedFloat.normalize .binary64 n exponent .positive) := by
  unfold UnpackedFloat.normalize
  rw [Int.compare_eq_gt.mpr (by omega)]
  exact roundsNormal some above still low'

theorem wholeNormal {n : Nat} (some : n ≠ 0) : Normal (-52) (UnpackedFloat.ofNat .binary64 n) :=
  normalizeNormal some (by decide) (by omega) (by decide)

theorem placesBound {n : Nat} (some : 0 < n) (places : n.log2 = 52) : 2 ^ 52 ≤ n ∧ n < 2 ^ 53 :=
  (Nat.log2_eq_iff (Nat.ne_of_gt some)).mp places

theorem quotientNormal (normal : Normal low u) {divisor : Nat} {exponent : Int} {some : 0 < divisor}
    (places : divisor.log2 = 52) (low' : -1074 ≤ low - exponent - 53) :
    Normal (low - exponent - 53) (UnpackedFloat.div .binary64 u (.finite .positive divisor exponent some)) := by
  cases normal with
  | infinity => exact .infinity
  | @finite mantissa first nonzero wide above =>
    have target : min (first - exponent) (Format.binary64.targetExponent
        (totalExponent mantissa first - totalExponent divisor exponent)) = first - exponent - 53 := by
      rw [targetExact, totalExponent, totalExponent, wide, places]
      omega
    have shift : (first - exponent - (first - exponent - 53)).toNat = 53 := by omega
    have least := (placesBound nonzero wide).1
    have most := (placesBound some places).2
    have quotient : 2 ^ 52 ≤ mantissa <<< 53 / divisor := by
      rw [Nat.le_div_iff_mul_le some, Nat.shiftLeft_eq]
      exact Nat.mul_le_mul least (Nat.le_of_lt most)
    unfold UnpackedFloat.div divCore
    simp only [target, shift]
    refine roundNormal _ ?_ (by omega) low'
    rw [Nat.le_log2 (by omega)]
    exact quotient

theorem sumNormal (first : Normal low u) (second : Normal low v) (low' : -1074 ≤ low) :
    Normal low (UnpackedFloat.add .binary64 u v) := by
  cases first with
  | infinity => cases second <;> exact .infinity
  | @finite mantissa exponent some wide above =>
    cases second with
    | infinity => exact .infinity
    | @finite mantissa' exponent' some' wide' above' =>
      have wider (k k' : Nat) : 2 ^ 52 ≤ mantissa <<< k + mantissa' <<< k' := by
        have least := (placesBound some wide).1
        have raised := Nat.le_mul_of_pos_right mantissa (Nat.two_pow_pos k)
        rw [Nat.shiftLeft_eq, Nat.shiftLeft_eq]
        omega
      unfold UnpackedFloat.add decreaseExponent
      simp only [Sign.apply, ← Int.natCast_add]
      have sum := wider (exponent - min exponent exponent').toNat (exponent' - min exponent exponent').toNat
      have long := (Nat.le_log2 (by omega)).mpr sum
      exact normalizeNormal (by omega) (by omega) (by omega) low'

theorem sumZero (normal : Normal low u) (sign : Sign) :
    UnpackedFloat.add .binary64 (.zero sign) u = u ∧ UnpackedFloat.add .binary64 u (.zero sign) = u := by
  cases normal <;> exact ⟨rfl, rfl⟩

theorem normalLower {lower : Int} (normal : Normal low u) (le : lower ≤ low) : Normal lower u := by
  cases normal with
  | infinity => exact .infinity
  | finite places above => exact .finite places (le.trans above)

theorem normalOrdered (normal : Normal low u) :
    UnpackedFloat.compare (.zero .positive) u = some .lt ∧
      UnpackedFloat.compare u (.zero .positive) = some .gt := by
  cases normal <;> exact ⟨rfl, rfl⟩

end Operations

def Large (low : Int) (x : Float) : Prop := Normal low x.toModel.unpack

def Nought (x : Float) : Prop := x.toModel.unpack = .zero .positive

section Floats
variable {low : Int} {x y : Float}

theorem largePositive (large : Large low x) : 0 < x ∧ ¬x ≤ 0 := by
  have zero : (0 : Float).toModel.unpack = .zero .positive := rfl
  obtain ⟨above, below⟩ := normalOrdered large
  constructor
  · show decide ((0 : Float).toModel < x.toModel) = true
    refine decide_eq_true ?_
    show UnpackedFloat.lt (0 : Float).toModel.unpack x.toModel.unpack = true
    rw [UnpackedFloat.lt, zero, above]
    rfl
  · show ¬decide (x.toModel ≤ (0 : Float).toModel) = true
    rw [decide_eq_true_iff]
    show ¬UnpackedFloat.le x.toModel.unpack (0 : Float).toModel.unpack = true
    rw [UnpackedFloat.le, zero, below]
    decide

theorem largeWhole {n : UInt64} (some : n ≠ 0) : Large (-52) n.toFloat := by
  have nonzero : n.toNat ≠ 0 := fun none => some (UInt64.toNat_inj.mp none)
  exact packedNormal (wholeNormal nonzero) (by decide)

theorem largeBillionth (large : Large low x) (low' : -1044 ≤ low) : Large (low - 30) (x / 1000000000) := by
  have billion : (1000000000 : Float).toModel.unpack = .finite .positive (1000000000 <<< 23) (-23) (by decide) := rfl
  have places : (1000000000 <<< 23).log2 = 52 := by decide +kernel
  have quotient := @quotientNormal _ _ large _ (-23) (by decide) places (by omega)
  show Normal _ (UnpackedFloat.unpack .binary64 (UnpackedFloat.pack .binary64
    (UnpackedFloat.div .binary64 x.toModel.unpack (1000000000 : Float).toModel.unpack)))
  rw [billion]
  have same : low - (-23) - 53 = low - 30 := by omega
  rw [same] at quotient
  exact packedNormal quotient (by omega)

theorem largeSum (first : Large low x) (second : Large low y) (low' : -1074 ≤ low) : Large low (x + y) :=
  packedNormal (sumNormal first second low') low'

theorem largeLater (zero : Nought x) (second : Large low y) (low' : -1074 ≤ low) : Large low (x + y) := by
  have sum : Normal low (UnpackedFloat.add .binary64 x.toModel.unpack y.toModel.unpack) := by
    rw [zero, (sumZero second .positive).1]
    exact second
  exact packedNormal sum low'

theorem largeEarlier (first : Large low x) (zero : Nought y) (low' : -1074 ≤ low) : Large low (x + y) := by
  have sum : Normal low (UnpackedFloat.add .binary64 x.toModel.unpack y.toModel.unpack) := by
    rw [zero, (sumZero first .positive).2]
    exact first
  exact packedNormal sum low'

end Floats
end Telecine.Binary64
