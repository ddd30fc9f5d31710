import Telecine.Film.Description
import Telecine.Host.Basic

/-! Film descriptions in files. What is loaded is always a valid film. -/
namespace Telecine

inductive FilmProblem
  | io (path : Path) (cause : Cause)
  | malformed (path : Path)
  | invalid (defect : Film.Defect)

namespace FilmProblem

def message : FilmProblem → String
  | .io path cause => "I/O error at " ++ path.text ++ ": " ++ cause.message
  | .malformed path => "Parse error in " ++ path.text
  | .invalid defect => "Invalid film: " ++ defect.message

def toFailure : FilmProblem → Failure
  | .io _ .missing => .film ("film file not found: " ++ Cause.missing.message)
  | problem => .film problem.message

end FilmProblem

namespace Film

variable {OpenFile : Type} {m : Type → Type} [Monad m] [Host OpenFile m]

def parse (path : Path) (text : String) : Except FilmProblem Film := do
  let some film := Film.read text | throw (.malformed path)
  film.validate.mapError .invalid
  return film

def load (path : Path) : m (Except FilmProblem Film) := do
  match ← Host.readText path with
  | .error cause => return .error (.io path cause)
  | .ok text => return parse path text

def save (film : Film) (path : Path) : m (Except FilmProblem Unit) := do
  if let some folder := path.parent? then
    if let .error cause ← Host.makeFolders folder then return .error (.io folder cause)
  return (← Host.writeText path film.write).mapError (.io path)

end Film
end Telecine
