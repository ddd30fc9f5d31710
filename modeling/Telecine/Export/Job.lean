import Telecine.Film.Basic
import Telecine.Media.Mix
import Telecine.Settings
import Telecine.Text.Alphanumeric

/-! What is to be exported and how, and the names of the files it goes to. -/
namespace Telecine

structure Job where
  output : Path
  format : Format
  toStereo : Bool
  splitReels : Bool
  quality : Nat
  queueFrames : Nat
  deriving DecidableEq, Repr

namespace Job

def ofDefaults (output : Path) (d : Preferences) : Job :=
  ⟨output, d.format, d.toStereo, d.splitReels, d.quality, d.queueFrames⟩

def validate (job : Job) : Except Failure Unit := do
  if job.output.fileStem? = none then
    throw (.config ("output path " ++ job.output.text ++ " has no file name"))
  if job.quality > Format.maxQuality then
    throw (.config ("x264 CRF " ++ toString job.quality ++ " is above 51"))
  if job.queueFrames = 0 then throw (.config "video queue must hold at least one frame")

def bases (job : Job) (sets : Nat) : List Path :=
  let stem := job.output.fileStem?.getD ""
  if sets ≤ 1 then [job.output.withFileName stem]
  else (List.range sets).map fun n =>
    job.output.withFileName (stem ++ "_reel" ++ toString (n + 1))

def pathSize : Nat := 24

def listBases (job : Job) (sets : Nat) : Checked (List Path) := do
  if sets > 1 then reserve sets pathSize
  return job.bases sets

def mix (job : Job) (film : Film) : Checked Mix := Mix.ofSource film.soundChannels job.toStereo

def channels (job : Job) (film : Film) : Checked Nat := return (← job.mix film).outputs

def fileNameOf (title : String) : String :=
  let name := title.toList.map fun c => if Text.isAlphanumeric c || c = '-' then c else '_'
  if name = [] then "film" else String.ofList name

def outputFor (folder : Path) (film : Film) (format : Format) : Path :=
  folder.join (fileNameOf film.name ++ format.extension)

end Job
end Telecine
