import Telecine.Clock.Time

/-! The picture and sound rates of one film, and the frame counts that follow from them. -/
namespace Telecine

structure FrameRates where
  picture : Nat
  sound : Nat
  deriving DecidableEq, Repr

namespace FrameRates

def pictureDuration (r : FrameRates) : Checked Time := Time.ofFrames 1 r.picture

def soundPerPicture (r : FrameRates) : Checked Nat := do
  let picture ← r.pictureDuration
  return (← picture.roundFrames r.sound).toNat

def pictures (r : FrameRates) (t : Time) : Checked Int := t.roundFrames r.picture

def picturesFor (r : FrameRates) (length : Time) : Checked Int := do
  (← length.ceil r.picture).roundFrames r.picture

end FrameRates
end Telecine
