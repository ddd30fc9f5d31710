import Telecine.CommandLine.Commands

/-! The program on the machine it is started on. Other programs cannot be started from it, so the
encoding tool counts as missing. -/
namespace Telecine

def causeOfNumber (number : UInt32) (text : String) : Cause :=
  let number := if number < 0x80000000 then number else 0 - number
  if number = 2 then .missing
  else if number = 13 then .denied
  else if number = 17 then .alreadyExists
  else if number = 20 then .notFolder
  else if number = 21 then .isFolder
  else if number = 22 then .invalid
  else if number = 28 then .full
  else if number = 36 then .nameTooLong
  else if number = 40 then .tooManyLinks
  else .other (text ++ " (os error " ++ toString number ++ ")")

def causeOf : IO.Error → Cause
  | .alreadyExists _ number text | .invalidArgument _ number text | .permissionDenied _ number text
  | .resourceExhausted _ number text | .inappropriateType _ number text
  | .noSuchThing _ number text | .noFileOrDirectory _ number text | .interrupted _ number text
  | .otherError number text | .resourceBusy number text | .resourceVanished number text
  | .unsupportedOperation number text | .hardwareFault number text
  | .unsatisfiedConstraints number text | .illegalOperation number text
  | .protocolError number text | .timeExpired number text => causeOfNumber number text
  | .unexpectedEof => .other "unexpected end of file"
  | .userError text => .other text

abbrev Program := ReaderT Nat IO

def attempt {α : Type} (act : IO α) : Program (Except Cause α) := fun _ => do
  try return .ok (← act) catch e => return .error (causeOf e)

def sayTo (stream : IO IO.FS.Stream) (text : String) : Program Unit := fun _ => do
  let stream ← stream
  stream.putStr text
  stream.flush

instance : Host IO.FS.Handle Program where
  readFile path := attempt (IO.FS.readBinFile path.text)
  isFolder path := fun _ => (System.mkFilePath [path.text]).isDir
  makeFolder path := attempt (IO.FS.createDir path.text)
  createFile path := attempt (IO.FS.Handle.mk path.text .write)
  touchFile path := attempt do let _ ← IO.FS.Handle.mk path.text .append
  write file bytes := attempt do
    file.write bytes
    file.flush
    return file
  sync file := attempt file.flush
  removeFile path := attempt (IO.FS.removeFile path.text)
  runTool _ := return .error .missing
  print text := sayTo IO.getStdout text
  complain text := sayTo IO.getStderr text
  timing := fun start => return ⟨((← IO.monoMsNow) - start).toUInt64.toFloat / 1000, none⟩

def environment : IO Environment :=
  return ⟨← IO.getEnv "HOME", ← IO.getEnv "XDG_CONFIG_HOME", ← IO.getEnv "XDG_VIDEOS_DIR"⟩

end Telecine

def main (arguments : List String) : IO UInt32 := do
  let status ← (Telecine.CommandLine.runProgram (← Telecine.environment) arguments :
    Telecine.Program Nat) (← IO.monoMsNow)
  return status.toUInt32
