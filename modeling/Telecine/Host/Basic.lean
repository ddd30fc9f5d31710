import Telecine.Failure

/-! What the library asks of the machine it runs on: files, an encoding tool, two streams of text and
the time. `OpenFile` stands for a file open for writing; a write gives back the handle to go on with. -/
namespace Telecine

structure ToolRun where
  status : Nat
  output : ByteArray
  complaint : ByteArray

structure Timing where
  elapsed : Float
  finishedAt : Option String

class Host (OpenFile : outParam Type) (m : Type → Type) where
  readFile : Path → m (Except Cause ByteArray)
  isFolder : Path → m Bool
  makeFolder : Path → m (Except Cause Unit)
  createFile : Path → m (Except Cause OpenFile)
  touchFile : Path → m (Except Cause Unit)
  write : OpenFile → ByteArray → m (Except Cause OpenFile)
  sync : OpenFile → m (Except Cause Unit)
  removeFile : Path → m (Except Cause Unit)
  runTool : List String → m (Except Cause ToolRun)
  print : String → m Unit
  complain : String → m Unit
  timing : m Timing

namespace Host

variable {OpenFile : Type} {m : Type → Type} [Monad m] [Host OpenFile m]

def readText (path : Path) : m (Except Cause String) := do
  match ← readFile path with
  | .error cause => return .error cause
  | .ok bytes => return match String.fromUTF8? bytes with
    | some text => .ok text
    | none => .error .notText

def makeFoldersWithin : (depth : Nat) → Path → m (Except Cause Unit)
  | 0, _ => return .error .missing
  | depth + 1, path => do
    if path.text = "" then return .ok ()
    match ← makeFolder path with
    | .ok () => return .ok ()
    | .error .missing =>
      let some above := path.parent? | return .error .missing
      match ← makeFoldersWithin depth above with
      | .error cause => return .error cause
      | .ok () => settle path (← makeFolder path)
    | .error cause => settle path (.error cause)
where
  settle (path : Path) (made : Except Cause Unit) : m (Except Cause Unit) := do
    match made with
    | .ok () => return .ok ()
    | .error cause => if ← isFolder path then return .ok () else return .error cause

def makeFolders (path : Path) : m (Except Cause Unit) :=
  makeFoldersWithin (path.text.length + 1) path

def writeText (path : Path) (text : String) : m (Except Cause Unit) := do
  match ← createFile path with
  | .error cause => return .error cause
  | .ok file => return (← write file text.toUTF8).map fun _ => ()

def printLine (line : String) : m Unit := print (line ++ "\n")

end Host
end Telecine
