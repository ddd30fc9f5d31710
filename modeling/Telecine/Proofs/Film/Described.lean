import Telecine.Film.Description
import Telecine.Proofs.Film.Reels
import Telecine.Proofs.Json.RoundTrip

/-! A film and its description. A film whose numbers fit is described by a record that is read as the same
film, also where what the film has by default is left out. -/
namespace Telecine
open Json

/-- The text that is printed for the number is read as the same number. -/
def Decimal.ReadsBack (x : Float) : Prop :=
  (Numeral.read (Decimal.interchange.write x).toList).bind Numeral.toFloat? = some x

namespace Json

theorem floatReadsBack {x : Float} (reads : Decimal.ReadsBack x) :
    ∃ n, ofFloat x = .number n ∧ n.Sound ∧ n.toFloat? = some x := by
  obtain ⟨n, read, same⟩ := Option.bind_eq_some_iff.mp reads
  exact ⟨n, by rw [ofFloat, read], Numeral.readSound read, same⟩

theorem soundInt (n : Int) : Sound (ofInt n) := .number (Numeral.ofIntSound n)

theorem soundString (s : String) : Sound (ofString s) := .text s

theorem soundRecord {members : List (Option String × Json)}
    (each : ∀ m ∈ members, m.1.isSome ∧ Sound m.2) : Sound (.record members) :=
  .record (fun m inside => (each m inside).1) fun m inside => (each m inside).2

end Json

namespace ReelLayout

def Readable : ReelLayout → Prop
  | .single => True
  | .byLength seconds => Decimal.ReadsBack seconds
  | .atFrames cuts => ∀ cut ∈ cuts, FitsInt64 cut

variable {layout : ReelLayout}

theorem layoutSound (readable : layout.Readable) : Json.Sound layout.toJson := by
  cases layout with
  | single => exact soundRecord (by simpa using soundString _)
  | byLength seconds =>
    obtain ⟨n, same, sound, _⟩ := floatReadsBack readable
    rw [toJson, same]
    exact soundRecord (by simpa using ⟨soundString _, Json.Sound.number sound⟩)
  | atFrames cuts =>
    have all : ∀ item ∈ cuts.map Json.ofInt, Json.Sound item := by
      simpa using fun cut _ => soundInt cut
    exact soundRecord (by simpa using ⟨soundString _, Json.Sound.list all⟩)

theorem cutsRead {cuts : List Int} (fit : ∀ cut ∈ cuts, FitsInt64 cut) :
    toCuts? (.list (cuts.map .ofInt)) = some cuts := by
  rw [toCuts?]
  induction cuts with
  | nil => rfl
  | cons cut cuts ih =>
    obtain ⟨first, others⟩ := List.forall_mem_cons.mp fit
    rw [List.map_cons, List.mapM_cons, toInt64Exact first, ih others]
    rfl

theorem layoutHolds (readable : layout.Readable) : holds maxDepth layout.toJson = true := by
  cases layout with
  | single => rfl
  | byLength seconds =>
    obtain ⟨n, same, _, value⟩ := floatReadsBack readable
    simp [toJson, same, maxDepth, holds, ofString, value]
  | atFrames cuts =>
    have each : ∀ cut ∈ cuts, holds 124 (ofInt cut) = true := by
      intro cut inside
      obtain ⟨low, high⟩ := readable cut inside
      rw [ofInt, holds, Numeral.toIntExact low (by omega)]
      rfl
    simpa [toJson, maxDepth, holds, ofString] using each

theorem layoutRead (readable : layout.Readable) : ofJson? layout.toJson = some layout := by
  have held := layoutHolds readable
  unfold ofJson?
  rw [held]
  cases layout with
  | single => rfl
  | byLength seconds =>
    obtain ⟨n, same, _, value⟩ := floatReadsBack readable
    simp [toJson, same, lookUp, ofString, toText?, ofKind?, fields, required, toFloat?, value]
  | atFrames cuts =>
    simp [toJson, lookUp, ofString, toText?, ofKind?, fields, required, cutsRead readable]

end ReelLayout

namespace Film

/-- Each number in the word that is read into it. -/
structure Describable (f : Film) : Prop where
  picture : f.rates.picture < 4294967296
  sound : f.rates.sound < 4294967296
  channels : f.soundChannels < 18446744073709551616
  width : f.width < 4294967296
  height : f.height < 4294967296
  length : FitsInt64 f.lengthFrames
  layout : f.layout.Readable

def members (f : Film) : List (Option String × Json) :=
  match f.toJson with
  | .record members => members
  | _ => []

def described (f : Film) (flat whole : Bool) : Json :=
  .record (f.members.filter fun m => !(flat && m.1 = some "three_d") && !(whole && m.1 = some "reels"))

def defaulted (f : Film) (flat whole : Bool) : Film :=
  { f with
    stereoscopic := !flat && f.stereoscopic
    layout := if whole then .single else f.layout }

section Descriptions
variable {f : Film} {flat whole : Bool}

theorem describedWhole (f : Film) : f.described false false = f.toJson := by
  simp [described, members, toJson]

theorem defaultedWhole (f : Film) : f.defaulted false false = f := by
  simp [defaulted]

theorem describedSound (fits : f.Describable) (flat whole : Bool) : Json.Sound (f.described flat whole) := by
  have size : Json.Sound (sizeToJson f.width f.height) :=
    soundRecord (by simpa using ⟨soundInt _, soundInt _⟩)
  have all : ∀ m ∈ f.members, m.1.isSome ∧ Json.Sound m.2 := by
    have layout := ReelLayout.layoutSound fits.layout
    simp [members, toJson, soundString, soundInt, size, layout, Json.Sound.bool]
  exact soundRecord fun m inside => all m (List.mem_of_mem_filter inside)

theorem sizeRead {width height : Nat} (wide : width < 4294967296) (high : height < 4294967296) :
    sizeOfJson? (sizeToJson width height) = some (width, height) := by
  simp [sizeOfJson?, sizeToJson, fields, lookUp, required, toNatExact wide (by decide),
    toNatExact high (by decide)]

theorem describedFields (f : Film) (flat whole : Bool) :
    fields fieldNames 8 (f.described flat whole) = some [
      some (ofString f.version), some (ofString f.name), some (ofInt f.rates.picture),
      some (ofInt f.rates.sound), some (ofInt f.soundChannels),
      if flat then none else some (.bool f.stereoscopic), some (sizeToJson f.width f.height),
      some (ofInt f.lengthFrames), if whole then none else some f.layout.toJson] := by
  cases flat <;> cases whole <;> rfl

theorem describedRead (fits : f.Describable) (flat whole : Bool) :
    ofJson? (f.described flat whole) = some (f.defaulted flat whole) := by
  have picture := toNatExact fits.picture (by decide)
  have sound := toNatExact fits.sound (by decide)
  have channels := toNatExact fits.channels (by decide)
  have size := sizeRead fits.width fits.height
  have length := toInt64Exact fits.length
  rw [ofJson?, describedFields]
  simp only [required, ofString, toText?, Option.bind_eq_bind, Option.bind_some, picture, sound, channels,
    size, length]
  cases flat <;> cases whole <;> simp [orElse, defaulted, toBool?, ReelLayout.layoutRead fits.layout]

theorem readDescribed (fits : f.Describable) (flat whole : Bool) :
    Film.read (Json.write (f.described flat whole)) = some (f.defaulted flat whole) := by
  rw [Film.read, readWrite (describedSound fits flat whole), Option.bind_some, describedRead fits]

end Descriptions
end Film
end Telecine
