import Telecine.Checked
import Telecine.Decimal.Fixed

/-! Content time: an integer count of ticks, 96000 to the second, so that the frames of every common
picture rate and of the usual sound rates start on a whole tick. -/
namespace Telecine

structure Time where
  ticks : Int
  deriving DecidableEq, Repr, Inhabited

namespace Time

def ticksPerSecond : Int := 96000

def zero : Time := ⟨0⟩

def ofSeconds (seconds : Float) : Time := ⟨Decimal.nearestInt64 (seconds * 96000)⟩

def ofFrames (frames : Int) (rate : Nat) : Checked Time := do
  if rate = 0 then throw .precondition
  let scaled ← int64 (frames * ticksPerSecond)
  return ⟨scaled.tdiv rate⟩

def seconds (t : Time) : Float := (Int64.ofInt t.ticks).toFloat / 96000

def text (t : Time) : String := Decimal.fixed 3 t.seconds ++ "s"

def add (t u : Time) : Checked Time := return ⟨← int64 (t.ticks + u.ticks)⟩

def sub (t u : Time) : Checked Time := return ⟨← int64 (t.ticks - u.ticks)⟩

def roundFrames (t : Time) (rate : Nat) : Checked Int := do
  let scaled ← int64 (t.ticks * rate)
  let doubled ← int64 (scaled * 2)
  let shifted ← int64 (doubled + ticksPerSecond)
  return shifted / (ticksPerSecond * 2)

def floorFrames (t : Time) (rate : Nat) : Checked Int := do
  return (← int64 (t.ticks * rate)) / ticksPerSecond

/-- The first frame start at or after `t`; `t` itself where a frame lasts less than a tick. -/
def ceil (t : Time) (rate : Nat) : Checked Time := do
  let frame ← ofFrames 1 rate
  if frame = zero then return t
  let past ← int64 (t.ticks + frame.ticks)
  let last ← int64 (past - 1)
  return ⟨← int64 (last / frame.ticks * frame.ticks)⟩

end Time
end Telecine
