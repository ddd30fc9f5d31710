import Telecine.Checked
import Telecine.Text.Path

/-! What can go wrong with an export, as causes, and the one text of each. A `Halt` is how a run that
does not finish stops: with a failure, because it left the range of its arithmetic, or at a limit set
from outside. -/
namespace Telecine

inductive Cause
  | missing
  | alreadyExists
  | notFolder
  | isFolder
  | tooManyLinks
  | nameTooLong
  | unusableName
  | full
  | invalid
  | denied
  | notText
  | other (text : String)
  deriving DecidableEq, Repr

def Cause.message : Cause → String
  | .missing => "No such file or directory (os error 2)"
  | .alreadyExists => "File exists (os error 17)"
  | .notFolder => "Not a directory (os error 20)"
  | .isFolder => "Is a directory (os error 21)"
  | .tooManyLinks => "Too many levels of symbolic links (os error 40)"
  | .nameTooLong => "File name too long (os error 36)"
  | .unusableName => "file name contained an unexpected NUL byte"
  | .full => "No space left on device (os error 28)"
  | .invalid => "Invalid argument (os error 22)"
  | .denied => "Permission denied (os error 13)"
  | .notText => "stream did not contain valid UTF-8"
  | .other text => text

inductive Outage
  | notYet
  | died
  | finished
  deriving DecidableEq, Repr

def Outage.code : Outage → Int
  | .notYet => 1
  | .died => 2
  | .finished => 3

def Outage.message : Outage → String
  | .notYet => "no frame buffered yet"
  | .died => "decoder died"
  | .finished => "decoder finished"

inductive Failure
  | noPicture (code : Int) (reason : String)
  /-- A broken promise inside the library, not bad input. -/
  | internal (message : String)
  | decode (message : String)
  | encode (message : String)
  | film (message : String)
  | config (message : String)
  | cancelled
  | fileNotFound (path : Path)
  | unsupported (message : String)
  | io (cause : Cause)
  | json
  | other (message : String) (origins : List String)
  deriving DecidableEq, Repr

def Failure.message : Failure → String
  | .noPicture code reason =>
    "Frame source returned no video; error was " ++ toString code ++ " (" ++ reason ++ ")"
  | .internal message => "Programming error: " ++ message
  | .decode message => "Decode error: " ++ message
  | .encode message => "Encode error: " ++ message
  | .film message => "Film error: " ++ message
  | .config message => "Configuration error: " ++ message
  | .cancelled => "Transcode cancelled"
  | .fileNotFound path => "File not found: " ++ path.text
  | .unsupported message => "Unsupported operation: " ++ message
  | .io cause => cause.message
  | .json => "malformed JSON"
  | .other message _ => message

def Failure.origins : Failure → List String
  | .other _ origins => origins
  | _ => []

def Failure.isInternal : Failure → Bool
  | .internal _ => true
  | _ => false

inductive Halt
  | failed (failure : Failure)
  | fault (fault : Fault)
  | limit
  deriving DecidableEq, Repr

def Halt.ofFailure {α : Type} : Except Failure α → Except Halt α :=
  Except.mapError .failed

def Halt.ofChecked {α : Type} : Checked α → Except Halt α :=
  Except.mapError .fault

@[simp] theorem Halt.ofFailure_ok {α : Type} (value : α) : ofFailure (.ok value) = .ok value := rfl

@[simp] theorem Halt.ofChecked_ok {α : Type} (value : α) : ofChecked (.ok value) = .ok value := rfl

@[simp] theorem Halt.ofChecked_error {α : Type} (fault : Fault) :
    (ofChecked (.error fault) : Except Halt α) = .error (.fault fault) := rfl

end Telecine
