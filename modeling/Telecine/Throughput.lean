import Telecine.Checked

/-! The recent rate of a stream of events: a window over the last instants recorded, at least two wide.
Instants are nanoseconds since some common moment and may go backwards. What came last is kept apart,
so that recording an instant does not pass over the whole window. -/
namespace Telecine

structure Throughput where
  capacity : Nat
  count : Nat
  older : List Int
  newer : List Int
  deriving DecidableEq, Repr

namespace Throughput

def defaultCapacity : Nat := 1000

def empty (capacity : Nat) : Throughput := ⟨max capacity 2, 0, [], []⟩

def instantSize : Nat := 16

def create (capacity : Nat) : Checked Throughput := do
  reserve (max capacity 2) instantSize
  return empty capacity

def window (t : Throughput) : List Int := t.older ++ t.newer.reverse

def dropOldest (t : Throughput) : Throughput :=
  match t.older with
  | _ :: rest => { t with older := rest }
  | [] => { t with older := t.newer.reverse.drop 1, newer := [] }

def record (t : Throughput) (instant : Int) : Throughput :=
  if t.count = t.capacity then
    let kept := t.dropOldest
    { kept with newer := instant :: kept.newer }
  else { t with count := t.count + 1, newer := instant :: t.newer }

@[simp] theorem window_empty (capacity : Nat) : (empty capacity).window = [] := rfl

@[simp] theorem window_dropOldest (t : Throughput) : t.dropOldest.window = t.window.drop 1 := by
  rcases t with ⟨_, _, _ | ⟨_, _⟩, _⟩ <;> simp [dropOldest, window]

theorem window_record (t : Throughput) (instant : Int) :
    (t.record instant).window =
      (if t.count = t.capacity then t.window.drop 1 else t.window) ++ [instant] := by
  unfold record
  split
  · simp only [← window_dropOldest]
    simp [window]
  · simp [window]

def span (oldest newest : Int) : Float :=
  let nanos := (newest - oldest).toNat
  (nanos / 1000000000).toUInt64.toFloat + (nanos % 1000000000).toUInt64.toFloat / 1000000000

def rate (t : Throughput) : Float32 :=
  match t.window.head?, t.window.getLast? with
  | some oldest, some newest =>
    let seconds := span oldest newest
    if t.window.length < 2 || seconds <= 0 then 0
    else ((t.window.length - 1).toUInt64.toFloat / seconds).toFloat32
  | _, _ => 0

end Throughput
end Telecine
