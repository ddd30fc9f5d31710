import Telecine.Media.Sound

/-! How input channels are mixed into output channels: one gain for each pair. The stereo fold keeps
the sum of a side's gains at one, so that full-scale surround does not clip. -/
namespace Telecine

structure Mix where
  inputs : Nat
  outputs : Nat
  weight : Nat → Nat → Float32

namespace Mix

def gain (m : Mix) (input output : Nat) : Float32 :=
  if input < m.inputs ∧ output < m.outputs then m.weight input output else 0

def identity (channels : Nat) : Mix :=
  ⟨channels, channels, fun i o => if i = o then 1 else 0⟩

def foldGain : Float32 := 2 / (4 + Float32.ofBits 0x3fb504f3)

def centreGain : Float32 := foldGain * Float32.ofBits 0x3f3504f3

/-- Left, right, centre, low frequency, left and right surround, in this order, folded to left and
right; the low-frequency channel and what comes after the surrounds are dropped. -/
def stereoFold (channels : Nat) : Mix :=
  ⟨channels, 2, fun
    | 0, 0 | 1, 1 | 4, 0 | 5, 1 => foldGain
    | 2, _ => centreGain
    | _, _ => 0⟩

def held (m : Mix) : Checked Mix := do
  reserve (m.inputs * m.outputs) Sound.sampleSize
  return m

def ofSource (channels : Nat) (toStereo : Bool) : Checked Mix :=
  (if toStereo then stereoFold channels else identity channels).held

def addScaled (gain : Float32) (total samples : List Float32) : List Float32 :=
  List.zipWith (fun t s => t + s * gain) total samples ++ total.drop samples.length

def outputChannel (m : Mix) (s : Sound) (output : Nat) : List Float32 :=
  (s.channels.take m.inputs).zipIdx.foldl
    (fun total (samples, input) =>
      let gain := m.gain input output
      if gain == 0 then total else addScaled gain total samples)
    (List.replicate s.frames 0)

def apply (m : Mix) (s : Sound) : Sound :=
  ⟨s.frames, (List.range m.outputs).map (m.outputChannel s)⟩

end Mix
end Telecine
