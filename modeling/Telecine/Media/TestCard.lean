import Telecine.Film.Basic
import Telecine.Media.Feed

/-! Content for a film without a decoder: bars of colour that change every second and a sine tone on
each channel. Every picture, or pair of pictures, is followed by one picture's length of sound. A card
is asked for one item after the other and works out a frame at a time. -/
namespace Telecine

structure TestCard where
  film : Film
  soundFrames : Nat
  frame : Nat
  waiting : List Item

namespace TestCard

def bars : List Colour :=
  [⟨192, 192, 192⟩, ⟨192, 192, 0⟩, ⟨0, 192, 192⟩, ⟨0, 192, 0⟩, ⟨192, 0, 192⟩, ⟨192, 0, 0⟩,
    ⟨0, 0, 192⟩]

def colour (rate frame : Nat) : Colour := bars.getD (frame / max rate 1 % 7) ⟨0, 0, 0⟩

def toneHertz (channel : Nat) : Float32 := 440 * (channel + 1).toUInt64.toFloat32

/-- Sample `index` of a channel's tone. The phase is taken in double precision, so that it stays exact
in a long film. -/
def tone (soundRate channel index : Nat) : Float32 :=
  let turns := index.toUInt64.toFloat * (toneHertz channel).toFloat /
    soundRate.toUInt64.toFloat32.toFloat
  let phase := turns - turns.floor
  0.25 * (Float32.ofBits 0x40c90fdb * phase.toFloat32).sin

def block (soundRate channels first frames : Nat) : Sound :=
  ⟨if channels = 0 then 0 else frames, (List.range channels).map fun channel =>
    (List.range frames).map fun i => tone soundRate channel (first + i)⟩

def picture (film : Film) (frame : Nat) (eye : Eye) (colour : Colour) : Checked Item := do
  let time ← Time.ofFrames frame film.rates.picture
  return .picture ⟨← Image.plain film.width film.height colour, eye, time, false⟩

def pictures (film : Film) (frame : Nat) : Checked (List Item) := do
  let light := colour film.rates.picture frame
  if film.stereoscopic then
    return [← picture film frame .left light, ← picture film frame .right light.halved]
  else return [← picture film frame .both light]

def start (film : Film) : Checked TestCard := do
  return ⟨film, ← film.rates.soundPerPicture, 0, []⟩

def sound (card : TestCard) : Checked Item := do
  reserve card.film.soundChannels Sound.channelSize
  let _ ← word64 ((card.frame + 1) * card.soundFrames)
  return .sound (block card.film.rates.sound card.film.soundChannels
    (card.frame * card.soundFrames) card.soundFrames)

/-- Work out the next frame. Where only its sound breaks down its pictures wait all the same, and the
frame is still the next. -/
def workOut (card : TestCard) : Checked Unit × TestCard :=
  match pictures card.film card.frame with
  | .error fault => (.error fault, card)
  | .ok shown =>
    match card.sound with
    | .error fault => (.error fault, { card with waiting := shown })
    | .ok sound => (.ok (), { card with frame := card.frame + 1, waiting := shown ++ [sound] })

def pass (card : TestCard) : Checked (Option Item) × TestCard :=
  if card.waiting.isEmpty && (card.frame : Int) < card.film.lengthFrames then
    match card.workOut with
    | (.error fault, card) => (.error fault, card)
    | (.ok (), card) => give card
  else give card
where
  give (card : TestCard) : Checked (Option Item) × TestCard :=
    (.ok card.waiting.head?, { card with waiting := card.waiting.tail })

def feedWithin : (items : Nat) → TestCard → Feed
  | 0, _ => .ends
  | items + 1, card =>
    match card.pass with
    | (.error _, _) => .crashes
    | (.ok none, _) => .ends
    | (.ok (some item), card) => .gives item fun _ => feedWithin items card

def feed (card : TestCard) : Feed := feedWithin (card.film.lengthFrames.toNat * 3) card

end TestCard
end Telecine
