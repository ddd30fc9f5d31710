import Telecine.Proofs.Export.Supplied
import Telecine.Proofs.Transfer.Astray
import Telecine.Proofs.Transfer.Orderly

/-! How a run ends on a decoder that is always ahead, where nothing else disturbs it. With too few
pictures it halts at the first that is missing; with enough of them every file is finished, and a failure
of the feed comes out only if the decoder has come to it by then. -/
namespace Telecine
open Transfer Lookahead Dialogue

def Feed.refusal (feed : Feed) : List Said := match feed.failure with
  | some failure => [⟨.picture, .error .died⟩, ⟨.trouble, some failure⟩]
  | none => [⟨.picture, .error .finished⟩]

namespace Transfer

section Said
variable {plan : Plan} {frames duration n : Nat} {fraction : Float32}

end Said

section Short
variable {t : Transfer} {feed : Feed} {mix : Mix} {capacity frames limit : Nat} {outcome : Outage}
  {stereoscopic : Bool} {before last said : List Said} {halt : Halt}

end Short

/-- What is left to tell of when all files are finished. -/
def putOff (plan : Plan) (feed : Feed) (capacity : Nat) : Option Failure :=
  if (pictures feed.items).length ≤ picturesPerTick plan * plan.tickCount + max capacity 1 then
    feed.failure
  else none

section Ends
variable {t : Transfer} {feed : Feed} {mix : Mix} {capacity frames limit : Nat} {outcome : Outage}
  {said : List Said} {halt : Halt} {ticks : List (Tick (t.plan.soundChannels * frames))}

end Ends

section Play
variable {t : Transfer} {feed : Feed} {mix : Mix} {capacity frames limit : Nat} {outcome : Outage}
  {said : List Said} {told : List Told} {before after : Status} {result : Except Halt Summary}
  {taken : Taken} {s : Readahead}

end Play

def onePicture (last : Feed) : Feed :=
  .gives (.picture ⟨⟨0, 0, .empty⟩, .both, ⟨0⟩, false⟩) fun _ => last

end Transfer
end Telecine
