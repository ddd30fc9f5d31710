import Telecine.Failure

/-! A file system: folders, files, links and devices. A folder and a file's bytes go by a number and a
name leads to them, so an open file goes on where its name is removed. -/
namespace Telecine

abbrev Place := Nat × String

inductive Entry
  | folder (number : Nat)
  | file (number : Nat)
  | link (target : String)
  /-- Keeps nothing and cannot be synchronised; a full one does not even take anything. -/
  | device (full : Bool)
  deriving DecidableEq, Repr

structure Disk where
  entries : List (Place × Entry)
  /-- The bytes of each file in pieces, the last first, so that to go on at its end copies nothing. -/
  contents : List (Nat × List ByteArray)
  fresh : Nat
  here : List Nat

inductive Spot
  | folder (folders : List Nat)
  | found (place : Place) (entry : Entry)
  | vacant (place : Place)
  deriving DecidableEq, Repr

inductive Purpose
  | use
  /-- A final link is followed, and a final slash names a folder. -/
  | create
  /-- A final link is what is meant. -/
  | entry
  deriving DecidableEq, Repr

inductive OpenFile
  | file (number offset : Nat)
  | device (full : Bool)
  deriving DecidableEq, Repr

namespace Disk

def bare : Disk := ⟨[], [], 1, [0]⟩

def entryAt (d : Disk) (place : Place) : Option Entry :=
  (d.entries.find? (·.1 = place)).map (·.2)

def piecesOf (d : Disk) (number : Nat) : List ByteArray :=
  ((d.contents.find? (·.1 = number)).map (·.2)).getD []

def joined (pieces : List ByteArray) : ByteArray := pieces.reverse.foldl (· ++ ·) .empty

def bytesOf (d : Disk) (number : Nat) : ByteArray := joined (d.piecesOf number)

def setEntry (d : Disk) (place : Place) (entry : Entry) : Disk :=
  { d with entries := (place, entry) :: d.entries.filter (·.1 ≠ place) }

def dropEntry (d : Disk) (place : Place) : Disk :=
  { d with entries := d.entries.filter (·.1 ≠ place) }

def setPieces (d : Disk) (number : Nat) (pieces : List ByteArray) : Disk :=
  { d with contents := (number, pieces) :: d.contents.filter (·.1 ≠ number) }

def names (text : String) : List String := (Path.pieces text.toList).map String.ofList

/-- The folder that holds all is its own parent. -/
def outwards : List Nat → List Nat
  | _ :: parent :: more => parent :: more
  | folders => folders

def startOf (text : String) (here : List Nat) : List Nat :=
  if text.toList.head? = some '/' then [0] else here

def maxName : Nat := 255

def maxPath : Nat := 4095

def walk (d : Disk) (purpose : Purpose) (links : Nat) (folders : List Nat) :
    List String → Except Cause Spot
  | [] => .ok (.folder folders)
  | name :: rest =>
    if name = "" ∨ name = "." then walk d purpose links folders rest
    else if name = ".." then walk d purpose links (outwards folders) rest
    else
      let last := rest.all (· = "")
      if purpose = .create ∧ last ∧ rest ≠ [] then .error .isFolder
      else if name.utf8ByteSize > maxName then .error .nameTooLong
      else
        let place := (folders.headD 0, name)
        match d.entryAt place with
        | none => if last then .ok (.vacant place) else .error .missing
        | some (.folder number) => walk d purpose links (number :: folders) rest
        | some (.link target) =>
          if rest = [] ∧ purpose = .entry then .ok (.found place (.link target))
          else match links with
            | 0 => .error .tooManyLinks
            | links + 1 =>
              walk d purpose links (startOf target folders) (names target ++ rest)
        | some entry => if rest = [] then .ok (.found place entry) else .error .notFolder
termination_by names => (links, names.length)

def maxLinks : Nat := 40

def resolve (d : Disk) (purpose : Purpose) (path : Path) : Except Cause Spot :=
  if path.text = "" then .error .missing
  else if path.text.toList.contains '\x00' then .error .unusableName
  else if path.text.utf8ByteSize > maxPath then .error .nameTooLong
  else d.walk purpose maxLinks (startOf path.text d.here) (names path.text)

def bytesAt (d : Disk) (path : Path) : Except Cause ByteArray :=
  match d.resolve .use path with
  | .error cause => .error cause
  | .ok (.found _ (.file number)) => .ok (d.bytesOf number)
  | .ok (.found _ _) => .ok .empty
  | .ok (.folder _) => .error .isFolder
  | .ok (.vacant _) => .error .missing

def isFolder (d : Disk) (path : Path) : Bool :=
  match d.resolve .use path with
  | .ok (.folder _) => true
  | _ => false

def enter (d : Disk) (path : Path) : Disk :=
  match d.resolve .use path with
  | .ok (.folder folders) => { d with here := folders }
  | _ => d

def dropSlashes (path : Path) : Path :=
  let kept := path.text.toList.reverse.dropWhile (· = '/')
  if kept = [] then path else ⟨String.ofList kept.reverse⟩

def addEntry (d : Disk) (path : Path) (entry : Entry) : Except Cause Disk :=
  match d.resolve .entry (dropSlashes path) with
  | .error cause => .error cause
  | .ok (.vacant place) => .ok (d.setEntry place entry)
  | .ok _ => .error .alreadyExists

def makeFolder (d : Disk) (path : Path) : Except Cause Disk :=
  { d with fresh := d.fresh + 1 }.addEntry path (.folder d.fresh)

def addFile (d : Disk) (place : Place) : Disk :=
  { (d.setEntry place (.file d.fresh)).setPieces d.fresh [] with fresh := d.fresh + 1 }

def createFile (d : Disk) (path : Path) : Except Cause (OpenFile × Disk) :=
  match d.resolve .create path with
  | .error cause => .error cause
  | .ok (.found _ (.file number)) => .ok (.file number 0, d.setPieces number [])
  | .ok (.found _ (.device full)) => .ok (.device full, d)
  | .ok (.vacant place) => .ok (.file d.fresh 0, d.addFile place)
  | .ok _ => .error .isFolder

def touchFile (d : Disk) (path : Path) : Except Cause Disk :=
  match d.resolve .create path with
  | .error cause => .error cause
  | .ok (.folder _) => .error .isFolder
  | .ok (.found _ _) => .ok d
  | .ok (.vacant place) => .ok (d.addFile place)

def zeroBytes (n : Nat) : ByteArray := ⟨Array.replicate n 0⟩

def overlay (old : ByteArray) (offset : Nat) (new : ByteArray) : ByteArray :=
  old.extract 0 offset ++ zeroBytes (offset - old.size) ++ new ++
    old.extract (offset + new.size) old.size

def written (pieces : List ByteArray) (offset : Nat) (new : ByteArray) : List ByteArray :=
  if pieces.foldl (fun size piece => size + piece.size) 0 = offset then new :: pieces
  else [overlay (joined pieces) offset new]

def write (d : Disk) (file : OpenFile) (bytes : ByteArray) : Except Cause (OpenFile × Disk) :=
  match file with
  | .device full => if full ∧ bytes.size ≠ 0 then .error .full else .ok (file, d)
  | .file number offset =>
    .ok (.file number (offset + bytes.size),
      d.setPieces number (written (d.piecesOf number) offset bytes))

def sync : OpenFile → Except Cause Unit
  | .file _ _ => .ok ()
  | .device _ => .error .invalid

def removeFile (d : Disk) (path : Path) : Except Cause Disk :=
  match d.resolve .entry path with
  | .error cause => .error cause
  | .ok (.found place _) => .ok (d.dropEntry place)
  | .ok (.folder _) => .error .isFolder
  | .ok (.vacant _) => .error .missing

end Disk
end Telecine
