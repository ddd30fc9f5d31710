import Mathlib.Algebra.Order.Field.Basic
import Mathlib.Algebra.Order.Field.Rat
import Mathlib.Algebra.Order.Ring.Abs
import Mathlib.Tactic.FieldSimp
import Mathlib.Tactic.Linarith
import Telecine.Proofs.Export.Delivered
import Telecine.Proofs.Export.Heard

/-! The sound of each file of a completed export against the exact length of the part of the film that it
is for. The same rounded number of frames goes with every picture, so what the two differ by grows with the
pictures of the part. -/
namespace Telecine
open Transfer Dialogue

namespace FrameRates

section Rounding
variable {r : FrameRates} {frames : Nat}

end Rounding
end FrameRates

section Export
variable {film : Film} {job : Job} {feed : Unit → Feed} {ω : Type}

namespace Production
variable (p : Production) (observer : Observer (StateM ω))
  (deliver : Outlet → Delivery → StateM ω (Except Halt Unit)) (world : ω)

def calls : List (Outlet × Delivery) :=
  let answer := (Readahead.surroundings observer (return ()) deliver).answer
  (((p.transfer.dialogue p.transfer.enoughTicks).trace (paired answer) (p.source, world)).map
    Exchange.said).filterMap Said.delivery?

end Production

section Prepared
variable {make : Eye → Path → StateM ω (Except Halt Nat)} {before after : ω} {p : Production}
  (prepared : Production.prepare film job feed make before = (.ok p, after))
  (observer : Observer (StateM ω)) (deliver : Outlet → Delivery → StateM ω (Except Halt Unit)) (world : ω)
  {report : ExportReport} (ok : (p.run observer deliver world).1.1 = .ok report)
include prepared ok

end Prepared

def uneven (layout : ReelLayout) : Film := ⟨"1.0", "two", ⟨24, 44100⟩, 1, false, 2, 2, 2, layout⟩

end Export
end Telecine
