import Telecine.Film.Basic
import Telecine.Json.Fields
import Telecine.Json.Printer
import Telecine.Json.Reader

/-! The written description of a film, a JSON record. Stereoscopy and the reels may be left out; the
reels' layout names its kind in the field `type`. -/
namespace Telecine
open Json

namespace ReelLayout

def toJson : ReelLayout → Json
  | .single => .record [(some "type", .ofString "single")]
  | .byLength seconds =>
    .record [(some "type", .ofString "by_length"), (some "seconds", .ofFloat seconds)]
  | .atFrames cuts =>
    .record [(some "type", .ofString "at_frames"), (some "cuts", .list (cuts.map .ofInt))]

def toCuts? : Json → Option (List Int)
  | .list items => items.mapM toInt64?
  | _ => none

def ofKind? (kind : String) (rest : Json) : Option ReelLayout :=
  match kind with
  | "single" =>
    match rest with
    | .list (_ :: _) => none
    | _ => some .single
  | "by_length" => do
    let [seconds] ← fields ["seconds"] 1 rest | none
    return .byLength (← required toFloat? seconds)
  | "at_frames" => do
    let [cuts] ← fields ["cuts"] 1 rest | none
    return .atFrames (← required toCuts? cuts)
  | _ => none

def maxDepth : Nat := 126

/-- The kind stands at any position of a record, or first in a list. All of the value has to be sound,
also what is then ignored. -/
def ofJson? (value : Json) : Option ReelLayout := do
  if !holds maxDepth value then none
  match value with
  | .record members =>
    let kind ← (← lookUp "type" members).bind toText?
    ofKind? kind (.record (members.filter (·.1 ≠ some "type")))
  | .list (kind :: rest) => ofKind? (← toText? kind) (.list rest)
  | _ => none

end ReelLayout

namespace Film

def sizeToJson (width height : Nat) : Json :=
  .record [(some "width", .ofInt width), (some "height", .ofInt height)]

def sizeOfJson? (value : Json) : Option (Nat × Nat) := do
  let [width, height] ← fields ["width", "height"] 2 value | none
  return (← required (toNat? 4294967296) width, ← required (toNat? 4294967296) height)

def toJson (f : Film) : Json :=
  .record [
    (some "version", .ofString f.version),
    (some "name", .ofString f.name),
    (some "video_frame_rate", .ofInt f.rates.picture),
    (some "audio_frame_rate", .ofInt f.rates.sound),
    (some "audio_channels", .ofInt f.soundChannels),
    (some "three_d", .bool f.stereoscopic),
    (some "frame_size", sizeToJson f.width f.height),
    (some "length_frames", .ofInt f.lengthFrames),
    (some "reels", f.layout.toJson)]

def fieldNames : List String :=
  ["version", "name", "video_frame_rate", "audio_frame_rate", "audio_channels", "three_d",
    "frame_size", "length_frames", "reels"]

def ofJson? (value : Json) : Option Film := do
  let [version, name, picture, sound, channels, stereoscopic, size, length, layout] ←
    fields fieldNames 8 value | none
  let (width, height) ← required sizeOfJson? size
  return {
    version := ← required toText? version
    name := ← required toText? name
    rates := ⟨← required (toNat? 4294967296) picture, ← required (toNat? 4294967296) sound⟩
    soundChannels := ← required (toNat? 18446744073709551616) channels
    stereoscopic := ← orElse toBool? false stereoscopic
    width, height
    lengthFrames := ← required toInt64? length
    layout := ← orElse ReelLayout.ofJson? .single layout }

def write (f : Film) : String := Json.write f.toJson

def read (text : String) : Option Film := (Json.read text).bind ofJson?

end Film
end Telecine
