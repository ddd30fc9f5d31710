import Telecine.Proofs.Transfer.Stops

/-! The course of a run, whether it comes to its end or not: what it sends to its files is a part of what
a completed run sends, up to the first refusal, and no file is finished before the last tick. -/
namespace Telecine.Transfer
open Dialogue

def ended? : Outlet × Delivery → Option Outlet
  | (outlet, .finish) => some outlet
  | _ => none

section Whole
variable {t : Transfer} {plan : Plan} {frames n : Nat} {stereoscopic : Bool}
  {ticks : List (Tick (t.plan.soundChannels * frames))} {said whole : List Said} {halt : Halt}

theorem unended {sends : List (Outlet × Delivery)} (none : ∀ send ∈ sends, send.2 ≠ .finish) :
    sends.filterMap ended? = [] := by
  refine List.filterMap_eq_nil_iff.mpr fun send member => ?_
  obtain ⟨outlet, delivery⟩ := send
  cases delivery with
  | finish => exact absurd rfl (none _ member)
  | _ => rfl

end Whole

section Course
variable {t : Transfer} {frames : Nat} {ticks : List (Tick (t.plan.soundChannels * frames))}
  {said : List Said} {result : Except Halt Summary}

end Course
end Telecine.Transfer
