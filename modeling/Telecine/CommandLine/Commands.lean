import Telecine.CommandLine.Arguments
import Telecine.Decimal.Fixed
import Telecine.Export.Workshop
import Telecine.Media.TestCard

/-! The program's commands, on any host: to describe a film, to show one, to export one and to see
whether exports can be made. A command ends well, in a message with the causes behind it, or in a
fault. -/
namespace Telecine.CommandLine

inductive Ending
  | message (text : String) (origins : List String)
  | fault (fault : Fault)

def Ending.ofFailure (f : Failure) : Ending := .message f.message f.origins

def Ending.ofHalt : Halt → Ending
  | .failed failure => .ofFailure failure
  | .fault cause => .fault cause
  | .limit => .fault .outOfBounds

def errorText (text : String) (origins : List String) : String :=
  let causes := match origins with
    | [] => ""
    | [cause] => "\n\nCaused by:\n    " ++ cause
    | causes =>
      "\n\nCaused by:" ++ String.join (causes.zipIdx.map fun (cause, n) =>
        "\n    " ++ toString n ++ ": " ++ cause)
  "Error: " ++ text ++ causes ++ "\n"

variable {OpenFile : Type} {m : Type → Type} [Monad m] [Host OpenFile m]

abbrev Work (m : Type → Type) := ExceptT Ending m

def say (line : String) : Work m Unit := ExceptT.lift (Host.printLine line)

def sure {α : Type} (value : Checked α) : Work m α := ExceptT.mk (pure (value.mapError .fault))

def orMessage {α : Type} (result : Except FilmProblem α) (before : String) : Work m α :=
  ExceptT.mk (pure (result.mapError fun problem => .message (before ++ problem.message) []))

def dimensions (film : Film) : String :=
  toString film.width ++ "x" ++ toString film.height ++ " @ " ++ toString film.rates.picture ++
    "fps" ++ if film.stereoscopic then " (3D)" else ""

def filmOf (a : NewFilm) : Checked Film := do
  let length ← int64 ((a.seconds : Int) * a.pictureRate)
  return { Film.titled a.name a.pictureRate length with
    soundChannels := a.soundChannels
    width := a.width
    height := a.height
    stereoscopic := a.stereoscopic
    layout := match a.reelSeconds with | some seconds => .byLength seconds | none => .single }

def init (a : NewFilm) : Work m Unit := do
  let film ← sure (filmOf a)
  orMessage (film.validate.mapError .invalid) "Refusing to write film: "
  orMessage (← ExceptT.lift (film.save a.output)) "Failed to write film: "
  say ("Created film '" ++ film.name ++ "' at " ++ a.output.text)
  say ("  " ++ dimensions film ++ ", " ++ toString a.seconds ++ "s")
  say ("  Audio: " ++ toString film.soundChannels ++ " channels @ " ++ toString film.rates.sound ++
    "Hz")
  say ("  Reels: " ++ toString (← sure film.reels).length)

def loadFilm (path : Path) : Work m Film := do
  orMessage (← ExceptT.lift (Film.load path)) "Failed to load film: "

def reelLine (rates : FrameRates) (number : Nat) (reel : Period) : Checked String := do
  let first ← rates.pictures reel.start
  let last ← rates.pictures reel.stop
  let duration ← reel.duration
  let frames ← rates.pictures duration
  return "  " ++ Decimal.padLeft 3 ' ' (toString number) ++ ": frames " ++
    Decimal.padLeft 6 ' ' (toString first) ++ " - " ++ Decimal.padLeft 6 ' ' (toString last) ++
    " (" ++ toString frames ++ " frames, " ++ duration.text ++ ")"

def info (path : Path) : Work m Unit := do
  let film ← loadFilm path
  say ("Film: " ++ film.name)
  say ("  Version: " ++ film.version)
  say ("  Picture: " ++ dimensions film)
  say ("  Audio: " ++ toString film.soundChannels ++ " channels @ " ++ toString film.rates.sound ++
    "Hz (" ++ toString (← sure film.rates.soundPerPicture) ++ " samples per frame)")
  say ("  Length: " ++ toString film.lengthFrames ++ " frames (" ++ (← sure film.length).text ++ ")")
  say ""
  let reels ← sure film.reels
  say ("Reels (" ++ toString reels.length ++ "):")
  for (reel, n) in reels.zipIdx do
    say (← sure (reelLine film.rates (n + 1) reel))

def summaryJson (summary : ExportReport) (timing : Timing) : Json :=
  .record [
    (some "outputs", .list (summary.outputs.map fun path => .ofString path.text)),
    (some "frames", .ofInt summary.frames),
    (some "reels", .ofInt summary.reels),
    (some "elapsed_secs", .ofFloat timing.elapsed),
    (some "frames_dropped", .ofInt summary.dropped),
    (some "error_frames", .ofInt summary.damaged),
    (some "audio_underruns", .ofInt summary.underruns),
    (some "finished_at", (timing.finishedAt.map Json.ofString).getD .null)]

def report (summary : ExportReport) (json : Bool) : Work m Unit := do
  let timing ← ExceptT.lift Host.timing
  if json then say (Json.write (summaryJson summary timing))
  else
    say ("Export complete: " ++ toString summary.frames ++ " frames in " ++
      Decimal.fixed 1 timing.elapsed ++ "s")
    for output in summary.outputs do say ("  " ++ output.text)
    if summary.dropped > 0 || summary.underruns > 0 then
      say ("  Dropped frames: " ++ toString summary.dropped ++ ", audio underruns: " ++
        toString summary.underruns)

def formatOf (settings : Settings) (name : Option String) : Except Ending Format :=
  match name with
  | none => .ok settings.defaults.format
  | some name =>
    match Format.parse name with
    | some format => .ok format
    | none => .error (.message ("Unknown format: " ++ name ++ ". Use: prores, h264") [])

def jobOf (settings : Settings) (a : ExportOrder) (film : Film) (format : Format) : Job :=
  let output := a.output.getD (Job.outputFor settings.outputFolder film format)
  let job := Job.ofDefaults output settings.defaults
  { job with
    format
    toStereo := job.toStereo || a.toStereo
    splitReels := job.splitReels || a.splitReels
    quality := a.quality.getD job.quality }

def exportFilm (settings : Settings) (a : ExportOrder) : Work m Unit := do
  let film ← loadFilm a.path
  let format ← ExceptT.mk (pure (formatOf settings a.format))
  let job := jobOf settings a film format
  say ("Exporting film: " ++ film.name)
  say ("  Format: " ++ format.title)
  let card ← sure (TestCard.start film)
  let opened (production : Production) : m (Except Halt Unit) := ExceptT.run do
    for output in production.outputs do
      ExceptT.lift (Host.printLine ("  Output: " ++ output.text))
    let length ← ExceptT.mk (pure (Halt.ofChecked film.length))
    let _ ← ExceptT.mk (pure (Halt.ofChecked (film.rates.picturesFor length)))
  match ← ExceptT.lift (Export.exportFilm film job (fun _ => card.feed)
    Observer.none opened) with
  | .error halt => throw (.ofHalt halt)
  | .ok outcome =>
    say ""
    match outcome with
    | .ok summary => report summary a.json
    | .error (.failed failure) =>
      say ("Export failed: " ++ failure.message)
      throw (.ofFailure failure)
    | .error halt => throw (.ofHalt halt)

def toolVersion : m (Option String) := do
  match ← Host.runTool ["-version"] with
  | .error _ => return none
  | .ok run =>
    if run.status ≠ 0 then return none
    let text := ((String.fromUTF8? run.output).getD "").toList
    return some (String.ofList (text.takeWhile fun c => c ≠ '\n' && c ≠ '\r'))

def check (settings : Settings) : Work m Unit := do
  say "Reelpack System Check"
  say (String.ofList (List.replicate 50 '='))
  let version ← ExceptT.lift (toolVersion : m (Option String))
  match version with
  | some version => say ("[OK] ffmpeg: " ++ version)
  | none => say "[FAIL] ffmpeg: not found on PATH"
  say ("[OK] Export directory: " ++ settings.outputFolder.text)
  say ("[OK] Default format: " ++ settings.defaults.format.title ++ " (" ++
    settings.defaults.format.extension ++ ")")
  say ""
  if version.isSome then
    say "All required capabilities are available. Reelpack is ready."
  else say "Install ffmpeg to export films."

def carryOut (settings : Settings) : Command → Work m Unit
  | .init arguments => init arguments
  | .info path => info path
  | .export arguments => exportFilm settings arguments
  | .check => check settings

def openLog (settings : LogSettings) : m Unit := do
  if let some path := settings.file then
    if let some folder := path.parent? then
      let _ ← Host.makeFolders folder
    if let .error cause ← Host.touchFile path then
      Host.complain ("Failed to open log file " ++ path.text ++ ": " ++ cause.message ++ "\n")

def versionText : String := "reelpack 0.1.0"

def usageText : String := "usage: reelpack [-v] [--json-logs] (init | info | export | check) ..."

def runProgram (environment : Environment) (arguments : List String) : m Nat := do
  match read arguments with
  | .error .version =>
    Host.printLine versionText
    return 0
  | .error .help =>
    Host.printLine usageText
    return 0
  | .error .usage =>
    Host.complain (usageText ++ "\n")
    return 2
  | .ok arguments =>
    let settings ← Settings.load environment
    openLog settings.logging
    match ← (carryOut settings arguments.command).run with
    | .ok () => return 0
    | .error (.message text origins) =>
      Host.complain (errorText text origins)
      return 1
    | .error (.fault _) => return 101

end Telecine.CommandLine
