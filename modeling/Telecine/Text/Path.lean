/-! Paths as text with slashes. Repeated slashes and `.` pieces mean nothing, except a `.` that the
path starts with; a trailing slash is ignored. `parent?` keeps the text it is given as it stands. -/
namespace Telecine

structure Path where
  text : String
  deriving DecidableEq, Repr, Inhabited

namespace Path

def pieces : List Char → List (List Char)
  | [] => [[]]
  | c :: rest =>
    if c = '/' then [] :: pieces rest
    else match pieces rest with
      | [] => [[c]]
      | piece :: more => (c :: piece) :: more

def glue (parts : List (List Char)) : List Char := ['/'].intercalate parts

def isBlankPiece (piece : List Char) : Bool := piece = [] || piece = ['.']

def split : List Char → List Char × List Char
  | '/' :: rest => (['/'], rest)
  | ['.'] => (['.'], [])
  | '.' :: '/' :: rest => (['.'], '/' :: rest)
  | chars => ([], chars)

def dropBlankEnd (parts : List (List Char)) : List (List Char) :=
  (parts.reverse.dropWhile isBlankPiece).reverse

inductive Component
  | root
  | current
  | parent
  | normal (name : String)
  deriving DecidableEq, Repr

def Component.ofPiece (piece : List Char) : Component :=
  if piece = ['.', '.'] then .parent else .normal (String.ofList piece)

def components (p : Path) : List Component :=
  let (lead, body) := split p.text.toList
  (if lead = ['/'] then [.root] else if lead = ['.'] then [.current] else []) ++
    ((pieces body).filter (!isBlankPiece ·)).map Component.ofPiece

def fileName? (p : Path) : Option String :=
  match (dropBlankEnd (pieces (split p.text.toList).2)).getLast? with
  | some piece => if piece = ['.', '.'] then none else some (String.ofList piece)
  | none => none

def parent? (p : Path) : Option Path :=
  let (lead, body) := split p.text.toList
  match dropBlankEnd (pieces body) with
  | [] => if lead = ['.'] then some ⟨""⟩ else none
  | parts => some ⟨String.ofList (lead ++ glue (dropBlankEnd parts.dropLast))⟩

def join (p : Path) (name : String) : Path :=
  let chars := p.text.toList
  if name.toList.head? = some '/' then ⟨name⟩
  else if chars = [] ∨ chars.getLast? = some '/' then ⟨p.text ++ name⟩
  else ⟨p.text ++ "/" ++ name⟩

def withFileName (p : Path) (name : String) : Path :=
  match p.fileName?, p.parent? with
  | some _, some folder => folder.join name
  | _, _ => p.join name

def stem (name : List Char) : List Char :=
  match name.reverse.dropWhile (· ≠ '.') with
  | [] => name
  | _ :: before => if before = [] then name else before.reverse

def fileStem? (p : Path) : Option String :=
  p.fileName?.map fun name => String.ofList (stem name.toList)

end Path
end Telecine
