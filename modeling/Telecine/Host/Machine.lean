import Telecine.Host.Basic
import Telecine.Host.Disk

/-! A machine as a value: a disk, perhaps an encoding tool, what the tool was asked and found, and the
text written so far. Every request is a function of it. -/
namespace Telecine

structure Invocation where
  arguments : List String
  disk : Disk

structure Machine where
  disk : Disk
  tool : Option (List String → Disk → ToolRun × Disk)
  invocations : List Invocation
  output : String
  complaints : String
  timing : Timing

namespace Machine

def onDisk {α : Type} (act : Disk → Except Cause (α × Disk)) : StateM Machine (Except Cause α) :=
  fun machine =>
    match act machine.disk with
    | .error cause => (.error cause, machine)
    | .ok (value, disk) => (.ok value, { machine with disk })

def changing (act : Disk → Except Cause Disk) : StateM Machine (Except Cause Unit) :=
  onDisk fun disk => (act disk).map fun disk => ((), disk)

def asking {α : Type} (look : Disk → α) : StateM Machine α := return look (← get).disk

def runTool (arguments : List String) : StateM Machine (Except Cause ToolRun) := fun machine =>
  match machine.tool with
  | none => (.error .missing, machine)
  | some tool =>
    let (run, disk) := tool arguments machine.disk
    (.ok run, { machine with
      disk, invocations := ⟨arguments, machine.disk⟩ :: machine.invocations })

instance : Host OpenFile (StateM Machine) where
  readFile path := asking (·.bytesAt path)
  isFolder path := asking (·.isFolder path)
  makeFolder path := changing (·.makeFolder path)
  createFile path := onDisk (·.createFile path)
  touchFile path := changing (·.touchFile path)
  write file bytes := onDisk (·.write file bytes)
  sync file := return Disk.sync file
  removeFile path := changing (·.removeFile path)
  runTool := runTool
  print text := modify fun machine => { machine with output := machine.output ++ text }
  complain text := modify fun machine => { machine with complaints := machine.complaints ++ text }
  timing := return (← get).timing

end Machine
end Telecine
