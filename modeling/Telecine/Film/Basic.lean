import Telecine.Clock.FrameRates
import Telecine.Clock.Period
import Telecine.Decimal.Shortest

/-! A film as its description gives it, its reels, and what makes it fit to be exported. -/
namespace Telecine

inductive ReelLayout
  | single
  | byLength (seconds : Float)
  | atFrames (cuts : List Int)
  deriving BEq

structure Film where
  version : String
  name : String
  rates : FrameRates
  soundChannels : Nat
  stereoscopic : Bool
  width : Nat
  height : Nat
  lengthFrames : Int
  layout : ReelLayout
  deriving BEq

namespace Film

def titled (name : String) (pictureRate : Nat) (lengthFrames : Int) : Film :=
  ⟨"1.0", name, ⟨pictureRate, 48000⟩, 6, false, 1998, 1080, lengthFrames, .single⟩

def length (f : Film) : Checked Time := Time.ofFrames f.lengthFrames f.rates.picture

def reelFrames (rate : Nat) (seconds : Float) : Int :=
  max 1 (Decimal.nearestInt64 (seconds * rate.toUInt64.toFloat))

/-- The multiples of `step` below `length`. The one after them is formed too. -/
def multiples (step length : Int) : Checked (List Int) := do
  let count := ((length - 1) / step).toNat
  let _ ← int64 ((count + 1) * step)
  return (List.range count).map fun (n : Nat) => (n + 1) * step

def proposedCuts (f : Film) : Checked (List Int) :=
  match f.layout with
  | .single => .ok []
  | .byLength seconds => multiples (reelFrames f.rates.picture seconds) f.lengthFrames
  | .atFrames cuts => .ok cuts

def cuts (f : Film) : Checked (List Int) := do
  let inside := (← f.proposedCuts).filter fun cut => 0 < cut && cut < f.lengthFrames
  return (inside.mergeSort (· ≤ ·)).eraseReps

def periodsFrom (rate : Nat) : (start : Int) → (bounds : List Int) → List Period → Checked (List Period)
  | _, [], done => .ok done.reverse
  | start, bound :: rest, done =>
    if start < bound then do
      let reel : Period := ⟨← Time.ofFrames start rate, ← Time.ofFrames bound rate⟩
      periodsFrom rate bound rest (reel :: done)
    else periodsFrom rate start rest done

def reels (f : Film) : Checked (List Period) := do
  periodsFrom f.rates.picture 0 ((← f.cuts) ++ [f.lengthFrames]) []

def maxSoundChannels : Nat := 16

inductive Defect
  | pictureRate (rate : Nat)
  | noSoundRate
  | soundChannels (count : Nat)
  | noSize
  | oddSize (width height : Nat)
  | noLength
  | reelLength (seconds : Float)

def Defect.message : Defect → String
  | .pictureRate rate => "unsupported video frame rate " ++ toString rate
  | .noSoundRate => "audio frame rate must be non-zero"
  | .soundChannels count => "audio channel count " ++ toString count ++ " outside 1..=16"
  | .noSize => "frame size must be non-zero"
  | .oddSize width height =>
    "frame size " ++ toString width ++ "x" ++ toString height ++ " must be even"
  | .noLength => "film has no length"
  | .reelLength seconds => "reel length " ++ Decimal.plain.write seconds ++ "s must be positive"

def validate (f : Film) : Except Defect Unit := do
  if f.rates.picture = 0 ∨ 96000 % f.rates.picture ≠ 0 then throw (.pictureRate f.rates.picture)
  if f.rates.sound = 0 then throw .noSoundRate
  if f.soundChannels = 0 ∨ f.soundChannels > maxSoundChannels then
    throw (.soundChannels f.soundChannels)
  if f.width = 0 ∨ f.height = 0 then throw .noSize
  if f.width % 2 ≠ 0 ∨ f.height % 2 ≠ 0 then throw (.oddSize f.width f.height)
  if f.lengthFrames ≤ 0 then throw .noLength
  if let .byLength seconds := f.layout then
    unless seconds.isFinite && seconds > 0 do throw (.reelLength seconds)

end Film
end Telecine
