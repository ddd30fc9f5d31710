import Mathlib.Algebra.BigOperators.Group.List.Basic
import Mathlib.Tactic.Ring
import Telecine.Proofs.Export.Received
import Telecine.Proofs.Export.Opened

/-! How much sound each file of a completed export is given: one block for every picture of the part of
the film that the file is for. -/
namespace Telecine
open Transfer Dialogue

def Delivery.soundFrames : Delivery → Nat
  | .sound block => block.frames
  | _ => 0

def heard (calls : List (Outlet × Delivery)) (outlet : Outlet) : Nat :=
  ((received calls outlet).map Delivery.soundFrames).sum

section Heard
variable {calls : List (Outlet × Delivery)} {outlet : Outlet}

theorem heardAppend (first rest : List (Outlet × Delivery)) :
    heard (first ++ rest) outlet = heard first outlet + heard rest outlet := by
  rw [heard, receivedAppend, List.map_append, List.sum_append]
  rfl

end Heard

section Spans
variable {film : Film} {job : Job} {mix : Mix} {reels : List Period} {length : Time} {p : Production}
  {i n : Nat} {span : Period}

end Spans

end Telecine
