import Telecine.Host.Basic
import Telecine.Json.Fields
import Telecine.Json.Printer
import Telecine.Json.Reader

/-! The settings that hold for every run: where exports go, how they are made and what is logged. They
are read from one file; where it is missing or unusable the defaults hold. -/
namespace Telecine
open Json

inductive Format
  | proRes
  | h264
  deriving DecidableEq, Repr

namespace Format

def name : Format → String
  | .proRes => "prores"
  | .h264 => "h264"

def title : Format → String
  | .proRes => "ProRes"
  | .h264 => "H264"

def extension : Format → String
  | .proRes => ".mov"
  | .h264 => ".mp4"

def parse (name : String) : Option Format :=
  let name := String.ofList (name.toList.map Char.toLower)
  if name = "prores" ∨ name = "mov" then some .proRes
  else if name = "h264" ∨ name = "mp4" ∨ name = "mp4-h264" then some .h264
  else none

def ofName? (name : String) : Option Format :=
  if name = "prores" then some .proRes else if name = "h264" then some .h264 else none

def ofJson? : Json → Option Format
  | .record [(some name, .null)] => ofName? name
  | value => (toText? value).bind ofName?

def maxQuality : Nat := 51

def encodingArguments (format : Format) (quality : Nat) : List String :=
  match format with
  | .proRes =>
    ["-c:v", "prores_ks", "-profile:v", "3", "-pix_fmt", "yuv422p10le", "-vendor", "apl0",
      "-c:a", "pcm_s24le"]
  | .h264 =>
    ["-c:v", "libx264", "-preset", "medium", "-crf", toString (min quality maxQuality),
      "-pix_fmt", "yuv420p", "-c:a", "aac", "-b:a", "320k", "-movflags", "+faststart"]

end Format

structure Preferences where
  format : Format := .proRes
  quality : Nat := 23
  toStereo : Bool := false
  splitReels : Bool := false
  queueFrames : Nat := 48
  deriving DecidableEq, Repr

namespace Preferences

def toJson (d : Preferences) : Json :=
  .record [
    (some "format", .ofString d.format.name),
    (some "x264_crf", .ofInt d.quality),
    (some "mixdown_to_stereo", .bool d.toStereo),
    (some "split_reels", .bool d.splitReels),
    (some "video_queue_frames", .ofInt d.queueFrames)]

def fieldNames : List String :=
  ["format", "x264_crf", "mixdown_to_stereo", "split_reels", "video_queue_frames"]

def ofJson? (value : Json) : Option Preferences := do
  let [format, quality, toStereo, splitReels, queueFrames] ← fields fieldNames 0 value | none
  return {
    format := ← orElse Format.ofJson? .proRes format
    quality := ← orElse (toNat? 4294967296) 23 quality
    toStereo := ← orElse toBool? false toStereo
    splitReels := ← orElse toBool? false splitReels
    queueFrames := ← orElse (toNat? 18446744073709551616) 48 queueFrames }

def read (text : String) : Option Preferences := (Json.read text).bind ofJson?

end Preferences

structure LogSettings where
  level : String := "info"
  json : Bool := false
  file : Option Path := none
  deriving DecidableEq, Repr

namespace LogSettings

def toJson (l : LogSettings) : Json :=
  .record [
    (some "level", .ofString l.level),
    (some "json", .bool l.json),
    (some "file", match l.file with | some path => .ofString path.text | none => .null)]

def ofJson? (value : Json) : Option LogSettings := do
  let [level, json, file] ← fields ["level", "json", "file"] 3 value | none
  return {
    level := ← required toText? level
    json := ← required toBool? json
    file := (← orElse (optional toText?) none file).map Path.mk }

end LogSettings

structure Settings where
  outputFolder : Path
  defaults : Preferences
  logging : LogSettings
  deriving DecidableEq, Repr

structure Environment where
  home : Option String := none
  configHome : Option String := none
  videos : Option String := none
  deriving DecidableEq, Repr

namespace Environment

def homeFolder (e : Environment) : Path := ⟨e.home.getD "/tmp"⟩

def settingsFile (e : Environment) : Path :=
  let base : Path := match e.configHome with
    | some folder => ⟨folder⟩
    | none => e.homeFolder.join ".config"
  (base.join "reelpack").join "config.json"

def exportFolder (e : Environment) : Path :=
  let base : Path := match e.videos with
    | some folder => ⟨folder⟩
    | none => e.homeFolder.join "Videos"
  base.join "reelpack"

end Environment

namespace Settings

def default (e : Environment) : Settings := ⟨e.exportFolder, {}, {}⟩

def toJson (s : Settings) : Json :=
  .record [
    (some "output_dir", .ofString s.outputFolder.text),
    (some "export", s.defaults.toJson),
    (some "logging", s.logging.toJson)]

def ofJson? (value : Json) : Option Settings := do
  let [folder, defaults, logging] ← fields ["output_dir", "export", "logging"] 3 value | none
  return {
    outputFolder := ⟨← required toText? folder⟩
    defaults := ← required Preferences.ofJson? defaults
    logging := ← required LogSettings.ofJson? logging }

def read (text : String) : Option Settings := (Json.read text).bind ofJson?

variable {OpenFile : Type} {m : Type → Type} [Monad m] [Host OpenFile m]

def load (e : Environment) : m Settings := do
  match ← Host.readText e.settingsFile with
  | .ok content => return (read content).getD (default e)
  | .error _ => return default e

def save (s : Settings) (e : Environment) : m (Except Cause Unit) := do
  if let some folder := e.settingsFile.parent? then
    if let .error cause ← Host.makeFolders folder then return .error cause
  Host.writeText e.settingsFile (Json.write s.toJson)

end Settings
end Telecine
