import Telecine.Media.Feed
import Telecine.Media.Mix
import Telecine.Media.Ring

/-! Decoding ahead of a consumer. A decoder reads a feed, puts pictures into a queue of bounded length
and mixed sound into a ring of samples; it waits while it holds a picture that the queue has no room
for. The consumer takes from both ends. `advance` is one step of the decoder and `runAhead` all the
steps it can take. -/
namespace Telecine

inductive Decoder
  | idle
  | holding (item : Item)
  | stopping (reason : Outage)
  | gone

structure Readahead where
  mix : Mix
  capacity : Nat
  feed : Feed
  decoder : Decoder
  queue : List Picture
  ring : Ring
  outcome : Option Outage
  failure : Option Failure

namespace Readahead

def start (feed : Feed) (mix : Mix) (capacity : Nat) : Readahead :=
  ⟨mix, max capacity 1, feed, .idle, [], .empty, none, none⟩

def placeSize : Nat := 32

def create (feed : Feed) (mix : Mix) (capacity : Nat) : Checked Readahead := do
  reserve (max capacity 1) placeSize
  return start feed mix capacity

def samples (mix : Mix) (sound : Sound) : List Float32 :=
  match (mix.apply sound).interleave with
  | .ok samples => samples
  | .error _ => []

def read (s : Readahead) : Readahead :=
  match s.feed with
  | .gives item rest => { s with decoder := .holding item, feed := rest () }
  | .ends => { s with decoder := .stopping .finished }
  | .fails failure => { s with decoder := .stopping .died, failure := some failure }
  | .crashes => { s with decoder := .gone }

def hasRoom (s : Readahead) : Bool := s.queue.length < s.capacity

def advance (s : Readahead) : Option Readahead :=
  match s.decoder with
  | .idle => some s.read
  | .holding (.sound sound) =>
    some { s with decoder := .idle, ring := s.ring.push (samples s.mix sound) }
  | .holding (.picture picture) =>
    if s.hasRoom then some { s with decoder := .idle, queue := s.queue ++ [picture] } else none
  | .stopping reason => some { s with decoder := .gone, outcome := some reason }
  | .gone => none

def readOn (s : Readahead) : Feed → Readahead
  | .gives (.sound sound) rest =>
    readOn { s with ring := s.ring.push (samples s.mix sound) } (rest ())
  | .gives (.picture picture) rest =>
    if s.hasRoom then readOn { s with queue := s.queue ++ [picture] } (rest ())
    else { s with decoder := .holding (.picture picture), feed := rest () }
  | .ends => { s with decoder := .gone, feed := .ends, outcome := some .finished }
  | .fails failure =>
    { s with
      decoder := .gone, feed := .fails failure, outcome := some .died, failure := some failure }
  | .crashes => { s with decoder := .gone, feed := .crashes }

def runAhead (s : Readahead) : Readahead :=
  match s.decoder with
  | .idle => readOn s s.feed
  | .holding (.sound sound) =>
    readOn { s with decoder := .idle, ring := s.ring.push (samples s.mix sound) } s.feed
  | .holding (.picture picture) =>
    if s.hasRoom then
      readOn { s with decoder := .idle, queue := s.queue ++ [picture] } s.feed
    else s
  | .stopping reason => { s with decoder := .gone, outcome := some reason }
  | .gone => s

def isGone (s : Readahead) : Bool := s.decoder matches .gone

/-- The next picture, without waiting. A decoder that is gone and gave no reason has died. -/
def takePicture (s : Readahead) : Except Outage Picture × Readahead :=
  match s.queue with
  | picture :: rest => (.ok picture, { s with queue := rest })
  | [] => (.error (if s.isGone then s.outcome.getD .died else .notYet), s)

def pictureWaits (s : Readahead) : Bool := s.queue.isEmpty && !s.isGone

def needed (s : Readahead) (frames size : Nat) : Checked Nat := do
  return min (← word64 (frames * s.mix.outputs)) size

def soundWaits (s : Readahead) (needed : Nat) : Bool :=
  s.ring.toList.length < needed && s.outcome.isNone && s.hasRoom

def padded (samples : List Float32) (size : Nat) (fits : samples.length ≤ size) :
    { samples : List Float32 // samples.length = size } :=
  ⟨samples ++ List.replicate (size - samples.length) 0, by
    simp only [List.length_append, List.length_replicate]; omega⟩

def takeSound (s : Readahead) (frames size : Nat) :
    Checked (({ samples : List Float32 // samples.length = size } × Bool) × Readahead) := do
  let needed ← s.needed frames size
  let (first, ring) := s.ring.take needed
  let taken := first.take size
  return ((padded taken size (List.length_take_le ..), taken.length < needed), { s with ring })

def takeFailure (s : Readahead) : Option Failure × Readahead :=
  (s.failure, { s with failure := none })

end Readahead
end Telecine
