import Telecine.Text.Path
import Telecine.Decimal.Reading

/-! The arguments of the program. An option is given as `--name value`, `--name=value`, `-n value`,
`-nvalue` or `-n=value`, at most once; a value that starts with a hyphen has to be attached. After
`--` nothing is an option. Every argument is judged where it stands, so what is wrong before a call
for help counts more than the call. -/
namespace Telecine.CommandLine

inductive Refusal
  | usage
  | help
  | version
  deriving DecidableEq, Repr

structure Named where
  long : String
  short : Option Char := none
  deriving DecidableEq, Repr

structure Valued extends Named where
  takes : String → Bool

structure Shape where
  flags : List Named
  options : List Valued
  words : List (String → Bool)
  commands : Bool

structure Given where
  flags : List String := []
  values : List (String × String) := []
  words : List String := []

namespace Given

def has (g : Given) (flag : String) : Bool := g.flags.contains flag

def value? (g : Given) (option : String) : Option String :=
  (g.values.find? (·.1 = option)).map (·.2)

def addFlag (g : Given) (flag : String) : Except Refusal Given :=
  if g.has flag then .error .usage else .ok { g with flags := flag :: g.flags }

def addValue (g : Given) (option : Valued) (value : String) : Except Refusal Given :=
  if option.takes value ∧ g.value? option.long = none then
    .ok { g with values := (option.long, value) :: g.values }
  else .error .usage

def addWord (shape : Shape) (g : Given) (word : String) : Except Refusal Given :=
  match shape.words[g.words.length]? with
  | some takes => if takes word then .ok { g with words := word :: g.words } else .error .usage
  | none => .error .usage

end Given

def Shape.longFlag? (shape : Shape) (name : String) : Option Named :=
  shape.flags.find? (·.long = name)

def Shape.longOption? (shape : Shape) (name : String) : Option Valued :=
  shape.options.find? (·.long = name)

def Shape.shortFlag? (shape : Shape) (letter : Char) : Option Named :=
  shape.flags.find? (·.short = some letter)

def Shape.shortOption? (shape : Shape) (letter : Char) : Option Valued :=
  shape.options.find? (·.short = some letter)

def looksLikeOption (argument : String) : Bool :=
  match argument.toList with
  | '-' :: _ :: _ => true
  | _ => false

abbrev Pending := Option Valued

def readLong (shape : Shape) (given : Given) (body : List Char) :
    Except Refusal (Given × Pending) := do
  let name := String.ofList (body.takeWhile (· ≠ '='))
  let attached := match body.dropWhile (· ≠ '=') with
    | [] => none
    | _ :: value => some (String.ofList value)
  match shape.longFlag? name, shape.longOption? name, attached with
  | some flag, _, none => return (← given.addFlag flag.long, none)
  | none, some option, some value => return (← given.addValue option value, none)
  | none, some option, none => return (given, some option)
  | none, none, none =>
    if name = "help" then throw .help
    else if name = "version" ∧ shape.commands then throw .version
    else throw .usage
  | _, _, _ => throw .usage

def readShort (shape : Shape) : Given → List Char → Except Refusal (Given × Pending)
  | given, [] => .ok (given, none)
  | given, letter :: rest =>
    match shape.shortFlag? letter with
    | some flag => do readShort shape (← given.addFlag flag.long) rest
    | none =>
      match shape.shortOption? letter with
      | some option =>
        match rest with
        | [] => .ok (given, some option)
        | '=' :: value => do return (← given.addValue option (String.ofList value), none)
        | value => do return (← given.addValue option (String.ofList value), none)
      | none =>
        if letter = 'h' then .error .help
        else if letter = 'V' ∧ shape.commands then .error .version
        else .error .usage

def readGiven (shape : Shape) : Given → Pending → List String → Except Refusal (Given × List String)
  | given, none, [] => .ok (given, [])
  | _, some _, [] => .error .usage
  | given, some option, argument :: rest => do
    if looksLikeOption argument then throw .usage
    readGiven shape (← given.addValue option argument) none rest
  | given, none, argument :: rest =>
    if argument = "--" then
      if shape.commands then .error .usage
      else return (← rest.foldlM (Given.addWord shape) given, [])
    else match argument.toList with
      | '-' :: '-' :: body => do
        let (given, pending) ← readLong shape given body
        readGiven shape given pending rest
      | '-' :: letter :: letters => do
        let (given, pending) ← readShort shape given (letter :: letters)
        readGiven shape given pending rest
      | _ =>
        if shape.commands then .ok (given, argument :: rest)
        else do readGiven shape (← given.addWord shape argument) none rest

structure NewFilm where
  name : String
  output : Path
  pictureRate : Nat
  seconds : Nat
  soundChannels : Nat
  width : Nat
  height : Nat
  stereoscopic : Bool
  reelSeconds : Option Float

structure ExportOrder where
  path : Path
  output : Option Path
  format : Option String
  toStereo : Bool
  splitReels : Bool
  quality : Option Nat
  json : Bool

inductive Command
  | init (arguments : NewFilm)
  | info (path : Path)
  | export (arguments : ExportOrder)
  | check

structure Arguments where
  verbose : Bool
  jsonLogs : Bool
  command : Command

def globalFlags : List Named := [⟨"verbose", some 'v'⟩, ⟨"json-logs", none⟩]

def path? (text : String) : Option Path := if text = "" then none else some ⟨text⟩

def small? (text : String) : Option Nat := do
  let value ← Decimal.int? text
  if 0 ≤ value ∧ value < 4294967296 then some value.toNat else none

def large? (text : String) : Option Nat := Decimal.nat? 18446744073709551616 text

def valued {α : Type} (long : String) (short : Option Char) (read : String → Option α) : Valued :=
  ⟨⟨long, short⟩, fun text => (read text).isSome⟩

def readOption {α : Type} (given : Given) (name : String) (read : String → Option α) : Option α :=
  given.value? name >>= read

def oneWord {α : Type} (given : Given) (read : String → Option α) : Except Refusal α :=
  match given.words.head? >>= read with
  | some value => .ok value
  | none => .error .usage

def readCommand (flags : List Named) (options : List Valued) (words : List (String → Bool))
    (rest : List String) : Except Refusal Given := do
  return (← readGiven ⟨globalFlags ++ flags, options, words, false⟩ {} none rest).1

def readInit (rest : List String) : Except Refusal (Given × Command) := do
  let given ← readCommand [⟨"three-d", none⟩]
    [valued "output" (some 'o') path?, valued "fps" none small?, valued "seconds" none small?,
      valued "channels" none large?, valued "width" none small?, valued "height" none small?,
      valued "reel-seconds" none Decimal.float?]
    [fun _ => true] rest
  return (given, .init {
    name := ← oneWord given some
    output := (readOption given "output" path?).getD ⟨"film.json"⟩
    pictureRate := (readOption given "fps" small?).getD 24
    seconds := (readOption given "seconds" small?).getD 10
    soundChannels := (readOption given "channels" large?).getD 6
    width := (readOption given "width" small?).getD 1998
    height := (readOption given "height" small?).getD 1080
    stereoscopic := given.has "three-d"
    reelSeconds := readOption given "reel-seconds" Decimal.float? })

def readInfo (rest : List String) : Except Refusal (Given × Command) := do
  let given ← readCommand [] [] [fun text => (path? text).isSome] rest
  return (given, .info (← oneWord given path?))

def readExport (rest : List String) : Except Refusal (Given × Command) := do
  let given ← readCommand [⟨"mixdown", none⟩, ⟨"split-reels", none⟩, ⟨"json", none⟩]
    [valued "output" (some 'o') path?, valued "format" none some, valued "crf" none small?]
    [fun text => (path? text).isSome] rest
  return (given, .export {
    path := ← oneWord given path?
    output := readOption given "output" path?
    format := given.value? "format"
    toStereo := given.has "mixdown"
    splitReels := given.has "split-reels"
    quality := readOption given "crf" small?
    json := given.has "json" })

def readCheck (rest : List String) : Except Refusal (Given × Command) := do
  return (← readCommand [] [] [] rest, .check)

def commandNames : List String := ["init", "info", "export", "check", "help"]

def readHelp : List String → Refusal
  | [] => .help
  | [name] => if commandNames.contains name then .help else .usage
  | _ => .usage

def read (arguments : List String) : Except Refusal Arguments := do
  let (before, rest) ← readGiven ⟨globalFlags, [], [], true⟩ {} none arguments
  let (given, command) ← match rest with
    | "init" :: rest => readInit rest
    | "info" :: rest => readInfo rest
    | "export" :: rest => readExport rest
    | "check" :: rest => readCheck rest
    | "help" :: rest => throw (readHelp rest)
    | _ => throw .usage
  return ⟨before.has "verbose" || given.has "verbose",
    before.has "json-logs" || given.has "json-logs", command⟩

end Telecine.CommandLine
