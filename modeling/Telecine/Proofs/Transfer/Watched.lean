import Telecine.Proofs.Transfer.Ledger

/-! A flag that stops a run. Others set and clear it while the run goes on; the run looks once at the
start of each tick, before it asks the source for anything. At the first look that finds the flag set
the run ends, with the ticks before it in full and no file finished. A flag that no look finds set
changes nothing. -/
namespace Telecine.Transfer
open Dialogue

section Flag
variable {ω : Type}

namespace Surroundings

end Surroundings

variable {α : Type} {flag : Nat → Bool} {moment : Nat} {e : Told} {told before after : List Told}
  {s : Surroundings (StateM ω)} {world : ω}

end Flag

section Polls
variable {t : Transfer} {plan : Plan} {frames n : Nat} {stereoscopic : Bool} {halt : Halt}
  {said whole rest last : List Said} {result : Except Halt Summary}

end Polls

section Cancelled
variable {t : Transfer} {plan : Plan} {duration frames n : Nat} {stereoscopic : Bool} {halt : Halt}
  {said rest last before more tail : List Said} {e : Said} {result : Except Halt Summary}

end Cancelled

structure Cancelled (t : Transfer) (frames : Nat)
    (done : List (Tick (t.plan.soundChannels * frames))) (said : List Said)
    (result : Except Halt Summary) (after : Status) : Prop where
  rate : t.plan.rates.soundPerPicture = .ok frames
  within : done.length < t.plan.tickCount
  fits : ∀ (n : Nat) (tick : Tick (t.plan.soundChannels * frames)), done[n]? = some tick →
    tick.Fits t (tickStart t.plan.rates.pictureTicks n)
  course : said = ⟨.stage "Encoding", ()⟩ ::
    ticksSaid t.plan t.plan.rates.pictureTicks frames 0 done ++ [⟨.interrupted, true⟩]
  sent : said.filterMap Said.delivery? = done.flatMap (·.sent t.plan.soundChannels frames)
  unended : ∀ send ∈ said.filterMap Said.delivery?, send.2 ≠ .finish
  result : result = .error (.failed .cancelled)
  finished : after.finished = false

section Run
variable {t : Transfer} {frames : Nat} {ticks : List (Tick (t.plan.soundChannels * frames))}
  {told : List Told} {result : Except Halt Summary} {after : Status}

end Run

end Telecine.Transfer
