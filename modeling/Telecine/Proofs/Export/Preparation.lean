import Telecine.Proofs.Export.Files
import Telecine.Proofs.Export.Opened

/-! What a preparation asks for. A film or a job that is not in order is refused before any file is made;
then the files are made one after another, up to the first that cannot be made; and when all are made,
nothing is left that could refuse the transfer to them. -/
namespace Telecine
open TestCard Transfer

section Asked
variable {ω : Type} {make : Eye → Path → StateM ω (Except Halt Nat)}

def recorded (make : Eye → Path → StateM ω (Except Halt Nat)) :
    Eye → Path → StateM (ω × List (Eye × Path)) (Except Halt Nat) := fun eye path now =>
  ((make eye path now.1).1, (make eye path now.1).2, now.2 ++ [(eye, path)])

variable {world middle last : ω} {asks more calls later : List (Eye × Path)} {numbers : List Nat}
  {result : Except Halt (List Nat)} {halt : Halt}

end Asked

section Makes
variable {ω : Type} (make : Eye → Path → StateM ω (Except Halt Nat)) (film : Film) (extension : String)

end Makes

section Refused
variable {film : Film} {job : Job} {feed : Unit → Feed} {σ : Type}
  {make : Eye → Path → StateM σ (Except Halt Nat)} {state : σ}

end Refused

end Telecine
