import Telecine.Export.Production
import Telecine.Export.Spool

/-! An export whose outputs are made by the encoding tool, each from a spool of its own. -/
namespace Telecine

abbrev SpoolRoom (OpenFile : Type) (m : Type → Type) := StateT (Array (Spool OpenFile)) m

namespace SpoolRoom

variable {OpenFile : Type} {m : Type → Type} [Monad m] [Host OpenFile m]

def make (streams : StreamFormat) (_ : Eye) (path : Path) :
    SpoolRoom OpenFile m (Except Halt Nat) := do
  match ← (Spool.create path streams : m _) with
  | .error failure => return .error (.failed failure)
  | .ok spool =>
    let number := (← get).size
    modify (·.push spool)
    return .ok number

def deliver (outlet : Outlet) (delivery : Delivery) : SpoolRoom OpenFile m (Except Halt Unit) := do
  let some spool := (← get)[outlet.number]? | return .error (.fault .outOfBounds)
  let (result, spool) ← (spool.take delivery : m _)
  modify (·.setIfInBounds outlet.number spool)
  return result

def dropAll (spools : Array (Spool OpenFile)) : m Unit := spools.toList.forM Spool.drop

end SpoolRoom

namespace Export

variable {OpenFile : Type} {m : Type → Type} [Monad m] [Host OpenFile m]

def streamsOf (film : Film) (job : Job) : Checked StreamFormat :=
  return ⟨job.format, job.quality, film.width, film.height, film.rates, ← job.channels film⟩

/-- An export through the encoding tool. `opened` is called once all files are open; what comes before
it fails on the outside, and the transfer on the inside. Files that were not finished leave nothing
behind. -/
def exportFilm (film : Film) (job : Job) (feed : Unit → Feed) (observer : Observer m)
    (opened : Production → m (Except Halt Unit)) :
    m (Except Halt (Except Halt ExportReport)) := do
  let streams ← match streamsOf film job with
    | .error fault => return .error (.fault fault)
    | .ok streams => pure streams
  let work : SpoolRoom OpenFile m (Except Halt (Except Halt ExportReport)) := do
    match ← Production.prepare film job feed (SpoolRoom.make streams) with
    | .error halt => return .error halt
    | .ok production =>
      match ← (opened production : m _) with
      | .error halt => return .error halt
      | .ok () =>
        let observer : Observer (SpoolRoom OpenFile m) :=
          ⟨observer.interrupted, fun name => observer.stage name,
            fun fraction => observer.progress fraction⟩
        return .ok (← production.run observer SpoolRoom.deliver).1
  let (result, spools) ← work #[]
  SpoolRoom.dropAll spools
  return result

end Export
end Telecine
