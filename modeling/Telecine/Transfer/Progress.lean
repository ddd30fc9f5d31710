import Telecine.Clock.Time

/-! How far a transfer has come: the counts it shows to others while it runs, and a board that keeps
the last fraction and stage it was told. -/
namespace Telecine

structure Status where
  pictureRate : Nat
  length : Time
  time : Time
  dropped : Nat
  damaged : Nat
  underruns : Nat
  finished : Bool
  deriving DecidableEq, Repr

namespace Status

def new (pictureRate : Nat) (length : Time) : Status :=
  ⟨pictureRate, length, Time.zero, 0, 0, 0, false⟩

def picturesDone (s : Status) : Checked Int := s.time.roundFrames s.pictureRate

def progress (s : Status) : Float32 :=
  if s.length.ticks ≤ 0 then 1
  else
    let share := (Int64.ofInt s.time.ticks).toFloat / (Int64.ofInt s.length.ticks).toFloat
    (if share < 0 then 0 else if share > 1 then 1 else share : Float).toFloat32

end Status

structure Board where
  fraction : Float32
  stage : String

namespace Board

def blank : Board := ⟨0, ""⟩

def setFraction (b : Board) (fraction : Float32) : Board :=
  { b with fraction := if fraction < 0 then 0 else if fraction > 1 then 1 else fraction }

def setStage (b : Board) (stage : String) : Board := { b with stage }

end Board
end Telecine
