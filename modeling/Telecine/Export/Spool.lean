import Telecine.Host.Basic
import Telecine.Settings
import Telecine.Text.Blank
import Telecine.Clock.FrameRates
import Telecine.Transfer.FileSet

/-! One output file. Pictures and sound are spooled to two hidden files beside the output; when the
file is finished the encoding tool makes the output of them, and they are removed. A spool's bytes go
through a buffer, so a failure to write may show only later. -/
namespace Telecine

structure StreamFormat where
  format : Format
  quality : Nat
  width : Nat
  height : Nat
  rates : FrameRates
  soundChannels : Nat
  deriving DecidableEq, Repr

structure Writer (OpenFile : Type) where
  file : OpenFile
  pending : ByteArray

structure Spool (OpenFile : Type) where
  streams : StreamFormat
  output : Path
  pictureFile : Path
  soundFile : Path
  pictures : Option (Writer OpenFile)
  sounds : Option (Writer OpenFile)
  count : Nat

variable {OpenFile : Type} {m : Type → Type} [Monad m] [Host OpenFile m]

namespace Writer

def capacity : Nat := 8192

def drain (w : Writer OpenFile) : m (Except Cause Unit × Writer OpenFile) := do
  if w.pending.size = 0 then return (.ok (), w)
  match ← Host.write w.file w.pending with
  | .ok file => return (.ok (), ⟨file, .empty⟩)
  | .error cause => return (.error cause, w)

def put (w : Writer OpenFile) (bytes : ByteArray) : m (Except Cause Unit × Writer OpenFile) := do
  if bytes.size < capacity then return (.ok (), { w with pending := w.pending ++ bytes })
  match ← Host.write w.file bytes with
  | .ok file => return (.ok (), { w with file })
  | .error cause => return (.error cause, w)

def append (w : Writer OpenFile) (bytes : ByteArray) :
    m (Except Cause Unit × Writer OpenFile) := do
  if w.pending.size + bytes.size ≤ capacity then w.put bytes
  else
    match ← w.drain with
    | (.ok (), w) => w.put bytes
    | failed => return failed

def close (w : Writer OpenFile) : m (Except Cause Unit) := do
  match ← w.drain with
  | (.ok (), w) => Host.sync w.file
  | (.error cause, _) => return .error cause

def abandon (w : Writer OpenFile) : m Unit := do
  let _ ← w.drain

end Writer

namespace Spool

def besideOutput (output : Path) (kind : String) : Path :=
  output.withFileName ("." ++ output.fileName?.getD "reelpack" ++ "." ++ kind)

def pictureFileFor (output : Path) : Path := besideOutput output "video.rgb24"

def soundFileFor (output : Path) : Path := besideOutput output "audio.f32le"

def makeParentFolder (output : Path) : m (Except Failure Unit) := do
  match output.parent? with
  | none => return .ok ()
  | some folder =>
    if folder.text = "" then return .ok ()
    match ← Host.makeFolders folder with
    | .ok () => return .ok ()
    | .error cause =>
      return .error (.other ("failed to create output directory '" ++ folder.text ++ "'")
        [cause.message])

def create (output : Path) (streams : StreamFormat) : m (Except Failure (Spool OpenFile)) := do
  if let .error failure ← makeParentFolder output then return .error failure
  let pictureFile := pictureFileFor output
  let soundFile := soundFileFor output
  match ← Host.createFile pictureFile with
  | .error cause => return .error (.io cause)
  | .ok pictures =>
    match ← Host.createFile soundFile with
    | .error cause => return .error (.io cause)
    | .ok sounds =>
      return .ok ⟨streams, output, pictureFile, soundFile, some ⟨pictures, .empty⟩,
        some ⟨sounds, .empty⟩, 0⟩

def arguments (s : Spool OpenFile) : List String :=
  ["-y", "-hide_banner", "-loglevel", "error",
    "-f", "rawvideo", "-pix_fmt", "rgb24",
    "-s", toString s.streams.width ++ "x" ++ toString s.streams.height,
    "-r", toString s.streams.rates.picture,
    "-i", s.pictureFile.text,
    "-f", "f32le", "-ar", toString s.streams.rates.sound,
    "-ac", toString s.streams.soundChannels,
    "-i", s.soundFile.text,
    "-map", "0:v:0", "-map", "1:a:0"] ++
  s.streams.format.encodingArguments s.streams.quality ++ [s.output.text]

def removeFiles (s : Spool OpenFile) : m Unit := do
  let _ ← Host.removeFile s.pictureFile
  let _ ← Host.removeFile s.soundFile

def accept (s : Spool OpenFile) (image : Image) : Except Halt Unit := do
  if image.width ≠ s.streams.width ∨ image.height ≠ s.streams.height then
    throw (.failed (.encode ("picture is " ++ toString image.width ++ "x" ++
      toString image.height ++ " but " ++ s.output.text ++ " expects " ++
      toString s.streams.width ++ "x" ++ toString s.streams.height)))
  let expected ← Halt.ofChecked image.expectedSize
  if image.pixels.size ≠ expected then
    throw (.failed (.encode ("picture buffer holds " ++ toString image.pixels.size ++
      " bytes, expected " ++ toString expected)))

def takePicture (s : Spool OpenFile) (picture : Picture) :
    m (Except Halt Unit × Spool OpenFile) := do
  if let .error halt := s.accept picture.image then return (.error halt, s)
  let some writer := s.pictures
    | return (.error (.failed (.internal "video written after flush")), s)
  match ← writer.append picture.image.pixels with
  | (.ok (), writer) => return (.ok (), { s with pictures := some writer, count := s.count + 1 })
  | (.error cause, writer) =>
    return (.error (.failed (.io cause)), { s with pictures := some writer })

def pushBits (bytes : ByteArray) (sample : Float32) : ByteArray :=
  let bits := sample.toBits
  (((bytes.push bits.toUInt8).push (bits >>> 8).toUInt8).push (bits >>> 16).toUInt8).push
    (bits >>> 24).toUInt8

def sampleBytes (samples : List Float32) : ByteArray := samples.foldl pushBits .empty

def takeSound (s : Spool OpenFile) (sound : Sound) : m (Except Halt Unit × Spool OpenFile) := do
  if sound.channels.length ≠ s.streams.soundChannels then
    return (.error (.failed (.encode (toString sound.channels.length ++ " audio channels for a " ++
      toString s.streams.soundChannels ++ "-channel file"))), s)
  let some writer := s.sounds
    | return (.error (.failed (.internal "audio written after flush")), s)
  match sound.interleave with
  | .error fault => return (.error (.fault fault), s)
  | .ok samples =>
    match ← writer.append (sampleBytes samples) with
    | (.ok (), writer) => return (.ok (), { s with sounds := some writer })
    | (.error cause, writer) =>
      return (.error (.failed (.io cause)), { s with sounds := some writer })

def closeWriters (pictures sounds : Writer OpenFile) : m (Except Cause Unit) := do
  match ← pictures.close with
  | .ok () => sounds.close
  | .error cause =>
    sounds.abandon
    return .error cause

def complaintText (bytes : ByteArray) : String :=
  match String.fromUTF8? bytes with
  | some text => text
  | none => "<failed to read ffmpeg stderr: " ++ Cause.notText.message ++ ">"

def encode (arguments : List String) : m (Except Failure Unit) := do
  match ← Host.runTool arguments with
  | .error cause => return .error (.encode ("Failed to start ffmpeg: " ++ cause.message))
  | .ok run =>
    if run.status = 0 then return .ok ()
    return .error (.encode ("ffmpeg failed (status exit status: " ++ toString run.status ++ "): " ++
      Text.trim (complaintText run.complaint)))

/-- Make the output of what was spooled. Whatever comes of it, the spools are gone then. -/
def finish (s : Spool OpenFile) : m (Except Halt Unit × Spool OpenFile) := do
  let finished := { s with pictures := none, sounds := none }
  let some pictures := s.pictures
    | return (.error (.failed (.internal "encoder flushed twice")), finished)
  let some sounds := s.sounds
    | return (.error (.failed (.internal "encoder flushed twice")), finished)
  let result : Except Failure Unit ← do
    match ← closeWriters pictures sounds with
    | .error cause => pure (.error (.io cause))
    | .ok () =>
      if s.count = 0 then
        pure (.error (.encode ("no pictures were written for " ++ s.output.text)))
      else encode s.arguments
  s.removeFiles
  return (Halt.ofFailure result, finished)

def take (s : Spool OpenFile) : Delivery → m (Except Halt Unit × Spool OpenFile)
  | .picture picture => s.takePicture picture
  | .sound sound => s.takeSound sound
  | .finish => s.finish

def drop (s : Spool OpenFile) : m Unit := do
  if s.pictures.isSome || s.sounds.isSome then
    if let some writer := s.pictures then writer.abandon
    if let some writer := s.sounds then writer.abandon
    s.removeFiles

end Spool
end Telecine
