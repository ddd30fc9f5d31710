import Mathlib.Data.List.DropRight
import Telecine.Proofs.Decimal.Positive
import Telecine.Throughput

/-! The window of a history is the end of what was recorded, as long as the capacity, and the rate is the
rate of that window: never a division by zero, as the span of a window that ends later than it begins is
above zero once it is rounded as well. -/
namespace Telecine.Throughput
open Binary64

inductive Use
  | event (instant : Int)
  | rate
  | size

def used (t : Throughput) : Use → Throughput
  | .event instant => t.record instant
  | .rate => t
  | .size => t

def instants (uses : List Use) : List Int :=
  uses.filterMap fun
    | .event instant => some instant
    | _ => none

structure Holds (most : Nat) (recorded : List Int) (t : Throughput) : Prop where
  capacity : t.capacity = most
  window : t.window = recorded.rtake most
  count : t.count = t.window.length

section Windows
variable {capacity k : Nat} {recorded : List Int} {t : Throughput}

theorem lastLength (capacity : Nat) (recorded : List Int) :
    (recorded.rtake capacity).length = min recorded.length capacity := by
  rw [List.rtake, List.length_drop]
  omega

theorem lastMore (k : Nat) (recorded : List Int) :
    recorded.rtake k = if recorded.length ≤ k then recorded else (recorded.rtake (k + 1)).drop 1 := by
  unfold List.rtake
  split
  · next short => rw [Nat.sub_eq_zero_of_le short, List.drop_zero]
  · next long =>
    rw [List.drop_drop]
    congr 1
    omega

theorem recordHolds (holds : Holds (k + 1) recorded t) (instant : Int) :
    Holds (k + 1) (recorded ++ [instant]) (t.record instant) := by
  have length := lastLength (k + 1) recorded
  rw [← holds.window, ← holds.count] at length
  have window : (t.record instant).window = (recorded ++ [instant]).rtake (k + 1) := by
    rw [window_record, List.rtake_concat_succ, lastMore, holds.capacity, holds.window]
    by_cases full : recorded.length ≤ k
    · rw [if_pos full, if_neg (by omega), List.rtake, Nat.sub_eq_zero_of_le (by omega), List.drop_zero]
    · rw [if_neg full, if_pos (by omega)]
  have capacity : (t.record instant).capacity = t.capacity := by
    unfold record dropOldest
    split
    · split <;> rfl
    · rfl
  have count : (t.record instant).count = if t.count = t.capacity then t.count else t.count + 1 := by
    unfold record dropOldest
    split
    · split <;> rfl
    · rfl
  refine ⟨capacity.trans holds.capacity, window, ?_⟩
  have longer := congrArg List.length (window_record t instant)
  rw [List.length_append, List.length_singleton, apply_ite List.length, List.length_drop, ← holds.count] at longer
  rw [count, longer]
  have size := holds.capacity
  split <;> omega

theorem recordsHold (more : List Int) (holds : Holds (k + 1) recorded t) :
    Holds (k + 1) (recorded ++ more) (more.foldl record t) := by
  induction more generalizing recorded t with
  | nil => simpa using holds
  | cons instant more ih => simpa using ih (recordHolds holds instant)

theorem usedRecords (uses : List Use) (t : Throughput) :
    uses.foldl used t = (instants uses).foldl record t := by
  induction uses generalizing t with
  | nil => rfl
  | cons use uses ih => cases use <;> exact ih _

theorem emptyHolds (capacity : Nat) : Holds (max capacity 2) [] (empty capacity) :=
  ⟨rfl, by simp [List.rtake], rfl⟩

end Windows

section Rates
variable {t u : Throughput} {oldest newest : Int}

theorem rateSame (same : t.window = u.window) : t.rate = u.rate := by
  rw [rate, rate, same]

theorem rateShort (short : t.window.length < 2) : t.rate = 0 := by
  unfold rate
  split
  · simp [short]
  · rfl

theorem rateBack (first : t.window.head? = some oldest) (last : t.window.getLast? = some newest)
    (back : newest ≤ oldest) : t.rate = 0 := by
  have none : (newest - oldest).toNat = 0 := by omega
  have nothing : decide (span oldest newest ≤ 0) = true := by
    unfold span
    rw [none]
    rfl
  simp only [rate, first, last, nothing, Bool.or_true, if_true]

theorem wordNonzero {n : Nat} (some : n ≠ 0) (fits : n < 18446744073709551616) : n.toUInt64 ≠ 0 := by
  intro none
  have size := congrArg UInt64.toNat none
  rw [Nat.toUInt64_eq, UInt64.toNat_ofNat_of_lt' fits] at size
  exact some size

/-- Up to a span of 2 to the 64th seconds. -/
theorem spanPositive (later : oldest < newest) (near : newest - oldest < 18446744073709551616 * 1000000000) :
    0 < span oldest newest ∧ ¬span oldest newest ≤ 0 := by
  unfold span
  simp only []
  have whole := Nat.div_add_mod (newest - oldest).toNat 1000000000
  have under : (newest - oldest).toNat % 1000000000 < 1000000000 := Nat.mod_lt _ (by decide)
  have fits : (newest - oldest).toNat / 1000000000 < 18446744073709551616 := by omega
  have some : (newest - oldest).toNat ≠ 0 := by omega
  generalize (newest - oldest).toNat / 1000000000 = seconds at *
  generalize (newest - oldest).toNat % 1000000000 = nanos at *
  have sum : Large (-82) (seconds.toUInt64.toFloat + nanos.toUInt64.toFloat / 1000000000) := by
    by_cases none : nanos = 0
    · have nought : Nought (nanos.toUInt64.toFloat / 1000000000) := by rw [none]; rfl
      have first := largeWhole (wordNonzero (show seconds ≠ 0 by omega) fits)
      exact largeEarlier (normalLower first (by decide)) nought (by decide)
    · have second := largeBillionth (largeWhole (wordNonzero none (by omega))) (by decide)
      by_cases brief : seconds = 0
      · have nought : Nought seconds.toUInt64.toFloat := by rw [brief]; rfl
        exact largeLater nought second (by decide)
      · have first := largeWhole (wordNonzero brief fits)
        exact largeSum (normalLower first (by decide)) second (by decide)
  exact largePositive sum

theorem rateAhead (first : t.window.head? = some oldest) (last : t.window.getLast? = some newest)
    (later : oldest < newest) (near : newest - oldest < 18446744073709551616 * 1000000000) :
    t.rate = ((t.window.length - 1).toUInt64.toFloat / span oldest newest).toFloat32 := by
  have two : ¬t.window.length < 2 := by
    intro short
    have some : t.window ≠ [] := by
      intro none
      rw [none] at first
      cases first
    have one : t.window.length = 1 := by
      have := List.length_pos_iff.mpr some
      omega
    obtain ⟨instant, single⟩ := List.length_eq_one_iff.mp one
    rw [single] at first last
    cases first
    cases last
    exact absurd later (Int.lt_irrefl _)
  have above := (spanPositive later near).2
  simp only [rate, first, last, two, above, decide_false, Bool.or_false, Bool.false_eq_true, if_false]

end Rates

def Timely (instant : Int) : Prop :=
  -9223372036854775808 * 1000000000 ≤ instant ∧ instant < 9223372036854775808 * 1000000000

theorem recentRate (capacity : Nat) (room : max capacity 2 * instantSize ≤ maxBlock) (uses : List Use)
    (timely : ∀ instant ∈ instants uses, Timely instant) :
    ∃ fresh, create capacity = .ok fresh ∧
      let now := uses.foldl used fresh
      let held := (instants uses).rtake (max capacity 2)
      now.window = held ∧ now.count = held.length ∧
      held.length = min (instants uses).length (max capacity 2) ∧
      now.rate = (held.foldl record fresh).rate ∧
      (held.length < 2 → now.rate = 0) ∧
      ∀ oldest newest, held.head? = some oldest → held.getLast? = some newest →
        (newest ≤ oldest → now.rate = 0) ∧
        (oldest < newest → 0 < span oldest newest ∧
          now.rate = ((held.length - 1).toUInt64.toFloat / span oldest newest).toFloat32) := by
  obtain ⟨k, size⟩ : ∃ k, max capacity 2 = k + 1 := ⟨max capacity 2 - 1, by omega⟩
  have none := emptyHolds capacity
  rw [size] at none ⊢
  refine ⟨empty capacity, ?_, ?_⟩
  · rw [create, reserve_eq_ok_iff.mpr room]
    rfl
  rw [usedRecords]
  have now := recordsHold (instants uses) none
  have length := lastLength (k + 1) (instants uses)
  have again := recordsHold ((instants uses).rtake (k + 1)) none
  have whole : ((instants uses).rtake (k + 1)).rtake (k + 1) = (instants uses).rtake (k + 1) := by
    rw [List.rtake, Nat.sub_eq_zero_of_le (by omega), List.drop_zero]
  rw [List.nil_append] at now again
  have same := again.window.trans (whole.trans now.window.symm)
  have held := now.window
  refine ⟨held, held ▸ now.count, length, rateSame same.symm, fun short => rateShort (held ▸ short),
    fun oldest newest first last => ⟨fun back => rateBack (held ▸ first) (held ▸ last) back, fun later => ?_⟩⟩
  have first' := timely oldest (List.mem_of_mem_drop (List.mem_of_mem_head? first))
  have last' := timely newest (List.mem_of_mem_drop (List.mem_of_getLast? last))
  unfold Timely at first' last'
  have near : newest - oldest < 18446744073709551616 * 1000000000 := by omega
  refine ⟨(spanPositive later near).1, ?_⟩
  rw [rateAhead (held ▸ first) (held ▸ last) later near, held]

def threeEvents : List Use := [.event 0, .rate, .event 3000000000, .size, .event 3500000000]

theorem recentRateThree : ∃ fresh, max 0 2 * instantSize ≤ maxBlock ∧
    (∀ instant ∈ instants threeEvents, Timely instant) ∧ create 0 = .ok fresh ∧
    (threeEvents.foldl used fresh).window = [3000000000, 3500000000] ∧
    0 < span 3000000000 3500000000 ∧
    (threeEvents.foldl used fresh).rate = ((1 : Nat).toUInt64.toFloat / span 3000000000 3500000000).toFloat32 := by
  have room : max 0 2 * instantSize ≤ maxBlock := by decide
  have timely : ∀ instant ∈ instants threeEvents, Timely instant := by
    unfold Timely
    decide
  obtain ⟨fresh, made, window, _, _, _, _, rates⟩ := recentRate 0 room threeEvents timely
  obtain ⟨positive, rate⟩ := (rates 3000000000 3500000000 rfl rfl).2 (by decide)
  exact ⟨fresh, room, timely, made, window, positive, rate⟩

theorem capacityFails : create 18446744073709551615 = .error .overflow := rfl

end Telecine.Throughput
