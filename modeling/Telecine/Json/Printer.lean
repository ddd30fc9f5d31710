import Telecine.Json.Basic

/-! Writing JSON: on one line, or with every part on a line of its own, two blanks deeper than what
holds it. -/
namespace Telecine.Json

def hexDigit (n : Nat) : Char := (Nat.digitChar (n % 16))

def escaped (c : Char) : List Char :=
  if c = '"' then ['\\', '"']
  else if c = '\\' then ['\\', '\\']
  else if c = '\n' then ['\\', 'n']
  else if c = '\r' then ['\\', 'r']
  else if c = '\t' then ['\\', 't']
  else if c = '\x08' then ['\\', 'b']
  else if c = '\x0c' then ['\\', 'f']
  else if c.toNat < 0x20 then ['\\', 'u', '0', '0', hexDigit (c.toNat / 16), hexDigit c.toNat]
  else [c]

def quoted (s : String) : List Char := '"' :: s.toList.flatMap escaped ++ ['"']

def indent (depth : Nat) : List Char := '\n' :: List.replicate (2 * depth) ' '

mutual

def pretty (depth : Nat) : Json → List Char
  | .null => ['n', 'u', 'l', 'l']
  | .bool true => ['t', 'r', 'u', 'e']
  | .bool false => ['f', 'a', 'l', 's', 'e']
  | .number n => n.write
  | .text s => quoted (s.getD "")
  | .list [] => ['[', ']']
  | .list (item :: items) =>
    '[' :: indent (depth + 1) ++ pretty (depth + 1) item ++ prettyItems (depth + 1) items ++
      indent depth ++ [']']
  | .record [] => ['{', '}']
  | .record ((key, value) :: members) =>
    '{' :: indent (depth + 1) ++ quoted (key.getD "") ++ [':', ' '] ++ pretty (depth + 1) value ++
      prettyMembers (depth + 1) members ++ indent depth ++ ['}']

def prettyItems (depth : Nat) : List Json → List Char
  | [] => []
  | item :: items => ',' :: indent depth ++ pretty depth item ++ prettyItems depth items

def prettyMembers (depth : Nat) : List (Option String × Json) → List Char
  | [] => []
  | (key, value) :: members =>
    ',' :: indent depth ++ quoted (key.getD "") ++ [':', ' '] ++ pretty depth value ++
      prettyMembers depth members

end

def write (value : Json) : String := String.ofList (pretty 0 value)

end Telecine.Json
