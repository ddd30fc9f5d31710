import Telecine.Json.Basic

/-! Reading JSON. The text is cut into tokens by one pass over its characters, and the tokens are put
together by one pass with an explicit stack, so a value may nest to any depth. -/
namespace Telecine.Json

inductive Token
  | mark (c : Char)
  | word (letters : List Char)
  | number (value : Numeral)
  | text (value : Option String)

/-- Where the scan stands. Characters taken are in reverse; `high` is the first half of a surrogate
pair; `whole` is false once half a pair has been found alone. -/
inductive Scan
  | gap
  | word (taken : List Char)
  | number (taken : List Char)
  | text (taken : List Char) (high : Option Nat) (whole : Bool)
  | escape (taken : List Char) (high : Option Nat) (whole : Bool)
  | hex (taken : List Char) (high : Option Nat) (whole : Bool) (left : Nat) (code : Nat)

def isSpace (c : Char) : Bool := c = ' ' || c = '\n' || c = '\t' || c = '\r'

def isMark (c : Char) : Bool :=
  c = ',' || c = ':' || c = '[' || c = ']' || c = '{' || c = '}'

def isNumberPart (c : Char) : Bool :=
  c.isDigit || c = '-' || c = '+' || c = '.' || c = 'e' || c = 'E'

def hexValue? (c : Char) : Option Nat :=
  if c.isDigit then some (c.toNat - 48)
  else if 'a' ≤ c ∧ c ≤ 'f' then some (c.toNat - 87)
  else if 'A' ≤ c ∧ c ≤ 'F' then some (c.toNat - 55)
  else none

def shortEscape? : Char → Option Char
  | '"' => some '"'
  | '\\' => some '\\'
  | '/' => some '/'
  | 'b' => some '\x08'
  | 'f' => some '\x0c'
  | 'n' => some '\n'
  | 'r' => some '\r'
  | 't' => some '\t'
  | _ => none

def start (c : Char) (tokens : List Token) : Option (Scan × List Token) :=
  if isSpace c then some (.gap, tokens)
  else if isMark c then some (.gap, .mark c :: tokens)
  else if c = '"' then some (.text [] none true, tokens)
  else if c.isDigit || c = '-' then some (.number [c], tokens)
  else if c.isLower then some (.word [c], tokens)
  else none

def unit (taken : List Char) (high : Option Nat) (whole : Bool) (code : Nat) : Scan :=
  let isHigh := 0xd800 ≤ code ∧ code < 0xdc00
  let isLow := 0xdc00 ≤ code ∧ code < 0xe000
  match high with
  | some first =>
    if isLow then
      .text (Char.ofNat (0x10000 + (first - 0xd800) * 0x400 + (code - 0xdc00)) :: taken) none whole
    else .text taken none false
  | none =>
    if isHigh then .text taken (some code) whole
    else if isLow then .text taken none false
    else .text (Char.ofNat code :: taken) none whole

def scanStep (state : Scan) (c : Char) (tokens : List Token) : Option (Scan × List Token) :=
  match state with
  | .gap => start c tokens
  | .word taken =>
    if c.isLower then some (.word (c :: taken), tokens)
    else start c (.word taken.reverse :: tokens)
  | .number taken =>
    if isNumberPart c then some (.number (c :: taken), tokens)
    else do start c (.number (← Numeral.read taken.reverse) :: tokens)
  | .text taken high whole =>
    if c = '\\' then some (.escape taken high whole, tokens)
    else if c = '"' then
      let value := if whole ∧ high.isNone then some (String.ofList taken.reverse) else none
      some (.gap, .text value :: tokens)
    else if c.toNat < 0x20 then none
    else some (.text (c :: taken) none (whole && high.isNone), tokens)
  | .escape taken high whole =>
    if c = 'u' then some (.hex taken high whole 3 0, tokens)
    else do
      let plain ← shortEscape? c
      return (.text (plain :: taken) none (whole && high.isNone), tokens)
  | .hex taken high whole left code => do
    let code := code * 16 + (← hexValue? c)
    match left with
    | 0 => return (unit taken high whole code, tokens)
    | left + 1 => return (.hex taken high whole left code, tokens)

def scan : Scan → List Char → List Token → Option (List Token)
  | .gap, [], tokens => some tokens
  | .word taken, [], tokens => some (.word taken.reverse :: tokens)
  | .number taken, [], tokens => do return .number (← Numeral.read taken.reverse) :: tokens
  | _, [], _ => none
  | state, c :: rest, tokens => do
    let (state, tokens) ← scanStep state c tokens
    scan state rest tokens

inductive Frame
  | list (items : List Json)
  | record (members : List (Option String × Json))
  | member (members : List (Option String × Json)) (key : Option String)

inductive Wanted
  | value
  | valueOrEnd
  | key
  | keyOrEnd
  | colon
  | separator
  | nothing (value : Json)

structure Assembly where
  stack : List Frame
  wanted : Wanted

def complete (value : Json) : List Frame → Option Assembly
  | [] => some ⟨[], .nothing value⟩
  | .list items :: stack => some ⟨.list (value :: items) :: stack, .separator⟩
  | .member members key :: stack => some ⟨.record ((key, value) :: members) :: stack, .separator⟩
  | .record _ :: _ => none

def close (c : Char) : List Frame → Option Assembly
  | .list items :: stack => if c = ']' then complete (.list items.reverse) stack else none
  | .record members :: stack => if c = '}' then complete (.record members.reverse) stack else none
  | _ => none

def takeValue (stack : List Frame) : Token → Option Assembly
  | .mark '[' => some ⟨.list [] :: stack, .valueOrEnd⟩
  | .mark '{' => some ⟨.record [] :: stack, .keyOrEnd⟩
  | .mark _ => none
  | .number value => complete (.number value) stack
  | .text value => complete (.text value) stack
  | .word letters =>
    if letters = ['n', 'u', 'l', 'l'] then complete .null stack
    else if letters = ['t', 'r', 'u', 'e'] then complete (.bool true) stack
    else if letters = ['f', 'a', 'l', 's', 'e'] then complete (.bool false) stack
    else none

def takeKey : List Frame → Token → Option Assembly
  | .record members :: stack, .text key => some ⟨.member members key :: stack, .colon⟩
  | _, _ => none

def assembleStep (a : Assembly) (token : Token) : Option Assembly :=
  match a.wanted, token with
  | .value, token => takeValue a.stack token
  | .valueOrEnd, .mark ']' => close ']' a.stack
  | .valueOrEnd, token => takeValue a.stack token
  | .key, token => takeKey a.stack token
  | .keyOrEnd, .mark '}' => close '}' a.stack
  | .keyOrEnd, token => takeKey a.stack token
  | .colon, .mark ':' => some ⟨a.stack, .value⟩
  | .separator, .mark ',' =>
    match a.stack with
    | .list _ :: _ => some ⟨a.stack, .value⟩
    | _ => some ⟨a.stack, .key⟩
  | .separator, .mark c => close c a.stack
  | _, _ => none

def assemble : Assembly → List Token → Option Json
  | ⟨_, .nothing value⟩, [] => some value
  | _, [] => none
  | a, token :: rest => do assemble (← assembleStep a token) rest

def read (text : String) : Option Json := do
  assemble ⟨[], .value⟩ (← scan .gap text.toList []).reverse

end Telecine.Json
