import Telecine.Checked

/-! Blocks of sound, one list of samples a channel, and the interleaved form that goes frame by frame
through the channels. -/
namespace Telecine

structure Sound where
  frames : Nat
  channels : List (List Float32)

namespace Sound

def Uniform (s : Sound) : Prop := ∀ c ∈ s.channels, c.length = s.frames

def sampleSize : Nat := 4

def channelSize : Nat := 24

def silence (channels frames : Nat) : Checked Sound := do
  reserve frames sampleSize
  reserve channels channelSize
  return ⟨frames, (List.range channels).map fun _ => List.replicate frames 0⟩

def ofChannels? (channels : List (List Float32)) : Option Sound :=
  let frames := (channels.head?.map List.length).getD 0
  if channels.all (·.length = frames) then some ⟨frames, channels⟩ else none

def takeFrame : List (List Float32) → List Float32 → Checked (List Float32)
  | [], taken => .ok taken
  | [] :: _, _ => .error .outOfBounds
  | (sample :: _) :: rest, taken => takeFrame rest (sample :: taken)

def interleaveFrom : (frames : Nat) → List (List Float32) → List Float32 → Checked (List Float32)
  | 0, _, taken => .ok taken.reverse
  | frames + 1, channels, taken => do
    interleaveFrom frames (channels.map List.tail) (← takeFrame channels taken)

def interleave (s : Sound) : Checked (List Float32) :=
  match s.channels with
  | [] => .ok []
  | channels => interleaveFrom s.frames channels []

def interleaveOnto (s : Sound) (out : List Float32) : Checked (List Float32) :=
  match s.channels with
  | [] => .ok out
  | channels => interleaveFrom s.frames channels out.reverse

def every (step : Nat) : (skip : Nat) → List Float32 → List Float32 → List Float32
  | _, [], taken => taken.reverse
  | 0, sample :: rest, taken => every step (step - 1) rest (sample :: taken)
  | skip + 1, _ :: rest, taken => every step skip rest taken

def deinterleave (channels frames : Nat) (samples : List Float32) : Checked Sound := do
  if samples.length ≠ channels * frames ∨ channels = 0 then throw .precondition
  return ⟨frames, (List.range channels).map fun c => every channels c samples []⟩

def set (s : Sound) (channel frame : Nat) (sample : Float32) : Checked Sound := do
  let some samples := s.channels[channel]? | throw .outOfBounds
  if frame < samples.length then
    return { s with channels := s.channels.set channel (samples.set frame sample) }
  else throw .outOfBounds

def writeFrame (frame : Nat) : (channel : Nat) → List Float32 → Sound → Checked Sound
  | _, [], s => .ok s
  | channel, sample :: rest, s => do writeFrame frame (channel + 1) rest (← s.set channel frame sample)

def writeFrames (width : Nat) : (count frame : Nat) → List Float32 → Sound → Checked Sound
  | 0, _, _, s => .ok s
  | count + 1, frame, samples, s => do
    writeFrames width count (frame + 1) (samples.drop width)
      (← writeFrame frame 0 (samples.take width) s)

def overwrite (s : Sound) (samples : List Float32) : Checked Sound := do
  let width := s.channels.length
  if samples.length ≠ width * s.frames ∨ width = 0 then throw .precondition
  writeFrames width (samples.length / width) 0 samples s

def channel (s : Sound) (index : Nat) : Checked (List Float32) := do
  let some samples := s.channels[index]? | throw .outOfBounds
  return samples

end Sound
end Telecine
