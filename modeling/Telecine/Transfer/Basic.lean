import Telecine.Clock.FrameRates
import Telecine.Clock.Period
import Telecine.Dialogue
import Telecine.Transfer.FileSet
import Telecine.Transfer.Progress

/-! A transfer: a source of pictures and sound paced against a film's frames and sent to the files of
its reels. It talks to its surroundings by requests. -/
namespace Telecine

namespace Transfer

structure Plan where
  rates : FrameRates
  soundChannels : Nat
  stereoscopic : Bool
  length : Time
  reels : List Period
  deriving DecidableEq, Repr

inductive Request
  | interrupted
  | picture
  | sound (frames size : Nat)
  | trouble
  | deliver (outlet : Outlet) (delivery : Delivery)
  | stage (name : String)
  | progress (fraction : Float32)
  /-- A tick is nearly over: whoever sleeps may look. -/
  | nudge

abbrev Reply : Request → Type
  | .interrupted => Bool
  | .picture => Except Outage Picture
  | .sound _ size => Checked ({ samples : List Float32 // samples.length = size } × Bool)
  | .trouble => Option Failure
  | .deliver _ _ => Except Halt Unit
  | .stage _ | .progress _ | .nudge => Unit

structure Surroundings (m : Type → Type) where
  interrupted : m Bool
  picture : m (Except Outage Picture)
  sound : (frames size : Nat) →
    m (Checked ({ samples : List Float32 // samples.length = size } × Bool))
  trouble : m (Option Failure)
  deliver : Outlet → Delivery → m (Except Halt Unit)
  stage : String → m Unit
  progress : Float32 → m Unit
  nudge : m Unit

def Surroundings.answer {m : Type → Type} (s : Surroundings m) :
    (request : Request) → m (Reply request)
  | .interrupted => s.interrupted
  | .picture => s.picture
  | .sound frames size => s.sound frames size
  | .trouble => s.trouble
  | .deliver outlet delivery => s.deliver outlet delivery
  | .stage name => s.stage name
  | .progress fraction => s.progress fraction
  | .nudge => s.nudge

end Transfer

structure Transfer where
  plan : Transfer.Plan
  sets : List FileSet
  status : Status
  started : Bool
  deriving DecidableEq, Repr

namespace Transfer

def new (plan : Plan) (sets : List FileSet) : Except Failure Transfer := do
  if plan.rates.picture = 0 ∨ plan.rates.sound = 0 then
    throw (.config "frame rates must be non-zero")
  if plan.soundChannels = 0 then throw (.config "output needs at least one audio channel")
  unless Period.partition plan.reels plan.length do
    throw (.config "reel periods must cover the film without gaps or overlaps")
  if sets = [] then throw (.config "no file encoders to write to")
  if sets.length > 1 ∧ sets.length ≠ plan.reels.length then
    throw (.config (toString sets.length ++ " encoder sets for " ++ toString plan.reels.length ++
      " reels"))
  if sets.any (·.isStereo != plan.stereoscopic) then
    throw (.config "encoder set stereoscopy does not match the film")
  return ⟨plan, sets, Status.new plan.rates.picture plan.length, false⟩

def outputs (t : Transfer) : List Path := (t.sets.flatMap FileSet.outlets).map (·.path)

/-- A limit on ticks that stops no transfer whose pictures last at least a tick of the clock. -/
def enoughTicks (t : Transfer) : Nat := t.plan.length.ticks.toNat

end Transfer
end Telecine
