import Telecine.Export.Job
import Telecine.Film.Store
import Telecine.Readahead
import Telecine.Transfer.Run

/-! An export: a film's feed, decoded ahead, transferred to the files that a job names. -/
namespace Telecine

structure Production where
  transfer : Transfer
  source : Readahead

structure ExportReport where
  outputs : List Path
  frames : Nat
  reels : Nat
  dropped : Nat
  damaged : Nat
  underruns : Nat
  deriving DecidableEq, Repr

def ExportReport.ofTransfer (s : Transfer.Summary) : ExportReport :=
  ⟨s.outputs, s.ticks, s.reels, s.dropped, s.damaged, s.underruns⟩

structure Observer (m : Type → Type) where
  interrupted : m Bool
  stage : String → m Unit
  progress : Float32 → m Unit

def Observer.none {m : Type → Type} [Monad m] : Observer m :=
  ⟨return false, fun _ => return (), fun _ => return ()⟩

namespace Readahead

variable {m : Type → Type} [Monad m]

/-- A source that is always as far ahead as it can be when it is asked. -/
def surroundings (observer : Observer m) (nudge : m Unit)
    (deliver : Outlet → Delivery → m (Except Halt Unit)) :
    Transfer.Surroundings (StateT Readahead m) where
  interrupted := observer.interrupted
  picture := fun s => return s.runAhead.takePicture
  sound frames size := fun s =>
    let s := s.runAhead
    match s.takeSound frames size with
    | .ok (answer, s) => return (.ok answer, s)
    | .error fault => return (.error fault, s)
  trouble := fun s => return s.runAhead.takeFailure
  deliver outlet delivery := deliver outlet delivery
  stage name := observer.stage name
  progress fraction := observer.progress fraction
  nudge := nudge

end Readahead

namespace Production

variable {m : Type → Type} [Monad m]

def planOf (film : Film) (job : Job) (reels : List Period) : Checked Transfer.Plan := do
  return ⟨film.rates, ← job.channels film, film.stereoscopic, ← film.length, reels⟩

def setCount (job : Job) (reels : List Period) : Nat := if job.splitReels then reels.length else 1

/-- Check film and job, and open every file with `make`. The feed is not begun before that. -/
def prepare (film : Film) (job : Job) (feed : Unit → Feed)
    (make : Eye → Path → m (Except Halt Nat)) : m (Except Halt Production) := ExceptT.run do
  if let .error defect := film.validate then
    throw (.failed (FilmProblem.invalid defect).toFailure)
  if let .error failure := job.validate then throw (.failed failure)
  let reels ← ExceptT.mk (pure (Halt.ofChecked film.reels))
  let sets ← ExceptT.mk (FileSet.createAll make film.stereoscopic job.format.extension
    (job.bases (setCount job reels)))
  let mix ← ExceptT.mk (pure (Halt.ofChecked (job.mix film)))
  let source ← ExceptT.mk (pure (Halt.ofChecked (Readahead.create (feed ()) mix job.queueFrames)))
  let plan ← ExceptT.mk (pure (Halt.ofChecked (planOf film job reels)))
  return ⟨← ExceptT.mk (pure (Halt.ofFailure (Transfer.new plan sets))), source⟩

def outputs (p : Production) : List Path := p.transfer.outputs

def run (p : Production) (observer : Observer m)
    (deliver : Outlet → Delivery → m (Except Halt Unit)) :
    m (Except Halt ExportReport × Production) := do
  let surroundings := Readahead.surroundings observer (return ()) deliver
  let ((result, transfer), source) ←
    p.transfer.run p.transfer.enoughTicks surroundings p.source
  return (result.map .ofTransfer, ⟨transfer, source⟩)

end Production

end Telecine
