import Telecine.Failure
import Telecine.Media.Picture
import Telecine.Media.Sound

/-! The files that one reel goes to: one, or one for each eye. A set decides which of its files take a
picture, a block of sound or the end of the reel, and in which order. -/
namespace Telecine

structure Outlet where
  number : Nat
  path : Path
  deriving DecidableEq, Repr

inductive Delivery
  | picture (picture : Picture)
  | sound (sound : Sound)
  | finish

inductive FileSet
  | flat (both : Outlet)
  | stereo (left right : Outlet)
  deriving DecidableEq, Repr

namespace FileSet

def isStereo : FileSet → Bool
  | .flat _ => false
  | .stereo _ _ => true

def outlets : FileSet → List Outlet
  | .flat both => [both]
  | .stereo left right => [left, right]

/-- The file for an eye. A single file takes what the left eye sees and nothing of the right. -/
def route (set : FileSet) (eye : Eye) : Except Failure (Option Outlet) :=
  match set, eye with
  | .flat both, .both | .flat both, .left => .ok (some both)
  | .flat _, .right => .ok none
  | .stereo left _, .left => .ok (some left)
  | .stereo _ right, .right => .ok (some right)
  | .stereo _ _, .both => .error (.internal "3D encoder set asked for a non-stereo frame")

def dispatch (set : FileSet) : Delivery → Except Failure (List (Outlet × Delivery))
  | .picture picture => do
    match ← set.route picture.eye with
    | none => return []
    | some outlet =>
      let eye := if set.isStereo then picture.eye else .both
      return [(outlet, .picture { picture with eye })]
  | delivery => return set.outlets.map (·, delivery)

def sendAll {m : Type → Type} [Monad m] {ε : Type}
    (send : Outlet → Delivery → m (Except ε Unit)) :
    List (Outlet × Delivery) → m (Except ε Unit)
  | [] => return .ok ()
  | (outlet, delivery) :: rest => do
    match ← send outlet delivery with
    | .ok () => sendAll send rest
    | .error e => return .error e

def create {m : Type → Type} [Monad m] {ε : Type}
    (make : Eye → Path → m (Except ε Nat)) (stereoscopic : Bool) (base : Path)
    (extension : String) : m (Except ε FileSet) := do
  let openFor (eye : Eye) : ExceptT ε m Outlet := do
    let path := eyePath base eye extension
    return ⟨← ExceptT.mk (make eye path), path⟩
  ExceptT.run do
    if stereoscopic then
      let left ← openFor .left
      return .stereo left (← openFor .right)
    else return .flat (← openFor .both)

def createAll {m : Type → Type} [Monad m] {ε : Type}
    (make : Eye → Path → m (Except ε Nat)) (stereoscopic : Bool) (extension : String) :
    List Path → m (Except ε (List FileSet))
  | [] => return .ok []
  | base :: rest => do
    match ← create make stereoscopic base extension with
    | .error e => return .error e
    | .ok set =>
      match ← createAll make stereoscopic extension rest with
      | .error e => return .error e
      | .ok sets => return .ok (set :: sets)

end FileSet
end Telecine
