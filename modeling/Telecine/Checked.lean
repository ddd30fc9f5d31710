/-! Exact arithmetic with a stated range. A computation that leaves the range, or is used where its
precondition does not hold, ends in a `Fault`: a condition the caller has to exclude, kept apart
from the failures a user is told about. -/
namespace Telecine

inductive Fault
  | overflow
  | outOfBounds
  | precondition
  deriving DecidableEq, Repr

abbrev Checked (α : Type) := Except Fault α

def FitsInt64 (n : Int) : Prop := -9223372036854775808 ≤ n ∧ n ≤ 9223372036854775807

instance (n : Int) : Decidable (FitsInt64 n) := by unfold FitsInt64; infer_instance

def int64 (n : Int) : Checked Int := if FitsInt64 n then .ok n else .error .overflow

def FitsWord64 (n : Nat) : Prop := n < 18446744073709551616

instance (n : Nat) : Decidable (FitsWord64 n) := by unfold FitsWord64; infer_instance

def word64 (n : Nat) : Checked Nat := if FitsWord64 n then .ok n else .error .overflow

def maxBlock : Nat := 9223372036854775807

def reserve (count size : Nat) : Checked Unit :=
  if count * size ≤ maxBlock then .ok () else .error .overflow

theorem int64_eq_ok_iff {n m : Int} : int64 n = .ok m ↔ FitsInt64 n ∧ m = n := by
  unfold int64
  split <;> simp_all [eq_comm]

theorem int64_eq_error_iff {n : Int} {f : Fault} :
    int64 n = .error f ↔ ¬ FitsInt64 n ∧ f = .overflow := by
  unfold int64
  split <;> simp_all [eq_comm]

theorem word64_eq_ok_iff {n m : Nat} : word64 n = .ok m ↔ FitsWord64 n ∧ m = n := by
  unfold word64
  split <;> simp_all [eq_comm]

theorem reserve_eq_ok_iff {count size : Nat} :
    reserve count size = .ok () ↔ count * size ≤ maxBlock := by
  unfold reserve
  split <;> simp_all

end Telecine
