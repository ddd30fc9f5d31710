import Telecine.Export.Spool
import Telecine.Proofs.Export.Names
import Telecine.Proofs.Text.Siblings

/-! All the files of an export: those it is to make, and the two that each of them is spooled to. They
stand beside the output that the job names, and no two of them are the same file. -/
namespace Telecine
open TestCard Telecine.Path

def Job.outs (job : Job) (film : Film) (sets : Nat) : List Path :=
  (job.bases sets).flatMap fun base => (eyes film).map (eyePath base · job.format.extension)

def Spool.filesFor (out : Path) : List Path :=
  [out, Spool.pictureFileFor out, Spool.soundFileFor out]

def reelMark (sets n : Nat) : String := if sets ≤ 1 then "" else "_reel" ++ toString (n + 1)

def outName (format : Format) (stem : String) (sets n : Nat) (eye : Eye) : String :=
  stem ++ reelMark sets n ++ eye.suffix ++ format.extension

def outNames (format : Format) (film : Film) (stem : String) (sets : Nat) : List String :=
  (List.range (max sets 1)).flatMap fun n => (eyes film).map (outName format stem sets n)

def hiddenName (name kind : String) : String := "." ++ name ++ "." ++ kind

def spoolNames (name : String) : List String :=
  [name, hiddenName name "video.rgb24", hiddenName name "audio.f32le"]

section Plain
variable {format : Format} {stem name kind : String} {sets n : Nat} {eye : Eye}

theorem markSingle (sets n : Nat) : '/' ∉ (reelMark sets n).toList := by
  have digits : '/' ∉ Nat.toDigits 10 (n + 1) := fun member =>
    absurd (Nat.isDigit_of_mem_toDigits (by omega) (by omega) member) (by decide)
  unfold reelMark
  split <;> simp [digits]

theorem outPlain (single : '/' ∉ stem.toList) : Plain (outName format stem sets n eye) := by
  have side : '/' ∉ eye.suffix.toList := by cases eye <;> decide
  have ending : '/' ∉ format.extension.toList ∧ 2 < format.extension.toList.length := by
    cases format <;> decide
  refine plainLong ?_ ?_
  · simp [outName, single, markSingle, side, ending.1]
  · have long := ending.2
    simp only [outName, String.toList_append, List.length_append]
    omega

theorem hiddenPlain (plain : Plain name) (single : '/' ∉ kind.toList) (long : 2 < kind.toList.length) :
    Plain (hiddenName name kind) := by
  refine plainLong ?_ ?_
  · simp [hiddenName, plain.single, single]
  · simp only [hiddenName, String.toList_append, List.length_append]
    omega

theorem spoolsPlain (plain : Plain name) : ∀ own ∈ spoolNames name, Plain own :=
  List.forall_mem_cons.mpr ⟨plain, List.forall_mem_cons.mpr
    ⟨hiddenPlain plain (by decide) (by decide),
      List.forall_mem_singleton.mpr (hiddenPlain plain (by decide) (by decide))⟩⟩

end Plain

section Apart
variable {format : Format} {a b kind kind' name : String}

theorem hiddenApart (even : kind.toList.length = kind'.toList.length)
    (same : hiddenName a kind = hiddenName b kind') : a = b ∧ kind = kind' := by
  have lists := congrArg String.toList same
  simp only [hiddenName, String.toList_append] at lists
  obtain ⟨front, back⟩ := List.append_inj' lists even
  exact ⟨String.toList_injective (List.append_cancel_left (List.append_cancel_right front)),
    String.toList_injective back⟩

theorem hiddenOut (ends : format.extension.toList <:+ name.toList)
    (spool : kind = "video.rgb24" ∨ kind = "audio.f32le") : name ≠ hiddenName b kind := by
  intro same
  have tail : kind.toList <:+ name.toList := by
    rw [same, hiddenName, String.toList_append]
    exact List.suffix_append _ _
  have short : format.extension.toList.length ≤ kind.toList.length := by
    rcases spool with rfl | rfl <;> cases format <;> decide
  have apart : ¬format.extension.toList <:+ kind.toList := by
    rcases spool with rfl | rfl <;> cases format <;> decide
  exact apart (List.suffix_of_suffix_length_le ends tail short)

theorem spoolCases {own : String} (member : own ∈ spoolNames name) : own = name ∨
    ∃ kind, (kind = "video.rgb24" ∨ kind = "audio.f32le") ∧ own = hiddenName name kind := by
  simp only [spoolNames, List.mem_cons, List.not_mem_nil, or_false] at member
  rcases member with rfl | rfl | rfl
  · exact .inl rfl
  · exact .inr ⟨_, .inl rfl, rfl⟩
  · exact .inr ⟨_, .inr rfl, rfl⟩

theorem spoolsApart {names : List String} (apart : names.Nodup)
    (ends : ∀ name ∈ names, format.extension.toList <:+ name.toList) :
    (names.flatMap spoolNames).Nodup := by
  refine List.nodup_flatMap.mpr ⟨fun name member => ?_, apart.imp_of_mem ?_⟩
  · have pictures : name ≠ _ := hiddenOut (b := name) (ends name member) (.inl rfl)
    have sounds : name ≠ _ := hiddenOut (b := name) (ends name member) (.inr rfl)
    have kinds : hiddenName name "video.rgb24" ≠ hiddenName name "audio.f32le" := fun same =>
      absurd (hiddenApart (by decide) same).2 (by decide)
    simp [spoolNames, pictures, sounds, kinds]
  · intro a b here there differ own inside inside'
    rcases spoolCases inside with rfl | ⟨kind, spool, rfl⟩
    · rcases spoolCases inside' with rfl | ⟨kind', spool', same⟩
      · exact differ rfl
      · exact hiddenOut (ends own here) spool' same
    · rcases spoolCases inside' with rfl | ⟨kind', spool', same⟩
      · exact hiddenOut (ends _ there) spool rfl
      · have even : kind.toList.length = kind'.toList.length := by
          rcases spool with rfl | rfl <;> rcases spool' with rfl | rfl <;> decide
        exact differ (hiddenApart even same).1

end Apart

section Job
variable {job : Job} {film : Film} {stem name : String} {folder : Path} {sets : Nat}

theorem validStem (valid : job.validate = .ok ()) :
    ∃ name stem folder, job.output.fileName? = some name ∧ job.output.fileStem? = some stem ∧
      job.output.parent? = some folder ∧ '/' ∉ stem.toList ∧ stem ≠ "" := by
  cases named : job.output.fileName? with
  | none =>
    have unnamed : job.output.fileStem? = none := by rw [fileStem?, named]; rfl
    simp [Job.validate, unnamed, throw, throwThe, MonadExceptOf.throw, bind, Except.bind] at valid
  | some name =>
    obtain ⟨lead, before, names⟩ := namesOpened named
    refine ⟨name, _, _, rfl, by rw [fileStem?, named]; rfl, names.parent, ?_, ?_⟩
    · rw [String.toList_ofList]
      exact fun slash => names.plain.single (stemWithin _ _ slash)
    · intro none
      have listed := congrArg String.toList none
      rw [String.toList_ofList] at listed
      refine stemSome (fun empty => ?_) listed
      have shown := names.plain.shown
      rw [empty] at shown
      cases shown

theorem basesListed (named : job.output.fileName? = some name) (ends : job.output.fileStem? = some stem)
    (within : job.output.parent? = some folder) : job.bases sets =
      (List.range (max sets 1)).map fun n => folder.join (stem ++ reelMark sets n) := by
  have sibling (other : String) : job.output.withFileName other = folder.join other := by
    simp [withFileName, named, within]
  unfold Job.bases
  rw [ends]
  by_cases single : sets ≤ 1
  · simp [single, reelMark, sibling]
  · have several : max sets 1 = sets := by omega
    simp [single, reelMark, sibling, several, String.append_assoc]

theorem outsListed (named : job.output.fileName? = some name) (ends : job.output.fileStem? = some stem)
    (within : job.output.parent? = some folder) (shown : stem ≠ "") :
    job.outs film sets = (outNames job.format film stem sets).map folder.join := by
  have each (n : Nat) (eye : Eye) : eyePath (folder.join (stem ++ reelMark sets n)) eye
      job.format.extension = folder.join (outName job.format stem sets n eye) := by
    have marked : stem ++ reelMark sets n ≠ "" := by simp [shown]
    rw [eyePath, String.append_assoc, joinMore folder marked, outName]
    simp only [String.append_assoc]
  simp only [Job.outs, basesListed named ends within, outNames, List.flatMap_map, List.map_flatMap,
    List.map_map, Function.comp_def, each]

theorem spooledBeside {p : Path} (named : p.fileName? = some name) (within : p.parent? = some folder)
    {own : String} (plain : Plain own) :
    Spool.filesFor (folder.join own) = (spoolNames own).map folder.join := by
  obtain ⟨here, beside, _⟩ := siblingFile named within plain
  simp [Spool.filesFor, Spool.pictureFileFor, Spool.soundFileFor, Spool.besideOutput, withFileName,
    here, beside, spoolNames, hiddenName]

theorem namesPlain (single : '/' ∉ stem.toList) : ∀ own ∈ outNames job.format film stem sets,
    Plain own ∧ job.format.extension.toList <:+ own.toList := by
  intro own member
  obtain ⟨n, _, eyed⟩ := List.mem_flatMap.mp member
  obtain ⟨eye, _, rfl⟩ := List.mem_map.mp eyed
  refine ⟨outPlain single, ?_⟩
  rw [outName, String.toList_append]
  exact List.suffix_append _ _

theorem filesListed (named : job.output.fileName? = some name) (ends : job.output.fileStem? = some stem)
    (within : job.output.parent? = some folder) (single : '/' ∉ stem.toList) (shown : stem ≠ "") :
    (job.outs film sets).flatMap Spool.filesFor =
      ((outNames job.format film stem sets).flatMap spoolNames).map folder.join := by
  rw [outsListed named ends within shown, List.flatMap_map, List.map_flatMap]
  exact List.flatMap_congr fun own member =>
    spooledBeside named within (namesPlain single own member).1

theorem namesApart (named : job.output.fileName? = some name) (ends : job.output.fileStem? = some stem)
    (within : job.output.parent? = some folder) (shown : stem ≠ "") :
    (outNames job.format film stem sets).Nodup := by
  refine List.Nodup.of_map folder.join ?_
  rw [← outsListed named ends within shown]
  exact pathsApart film (job.basesApart sets) job.format.extension

theorem outsNamed (named : job.output.fileName? = some name) (ends : job.output.fileStem? = some stem)
    (within : job.output.parent? = some folder) (single : '/' ∉ stem.toList) (shown : stem ≠ "") :
    (job.outs film sets).map Path.fileName? = (outNames job.format film stem sets).map some := by
  rw [outsListed named ends within shown, List.map_map]
  exact List.map_congr_left fun own member =>
    (siblingFile named within (namesPlain single own member).1).1

end Job

theorem filesApart {job : Job} (valid : job.validate = .ok ()) (film : Film) (sets : Nat) :
    let outs := job.outs film sets
    let files := outs.flatMap Spool.filesFor
    ∃ stem folder, job.output.fileStem? = some stem ∧ job.output.parent? = some folder ∧
      (files.map Path.components).Nodup ∧ (∀ file ∈ files, file.parent? = some folder) ∧
      outs.map Path.fileName? = (List.range (max sets 1)).flatMap fun n => (eyes film).map fun eye =>
        some (stem ++ reelMark sets n ++ eye.suffix ++ job.format.extension) := by
  intro outs files
  obtain ⟨name, stem, folder, named, ends, within, single, shown⟩ := validStem valid
  have listed : files = ((outNames job.format film stem sets).flatMap spoolNames).map folder.join :=
    filesListed named ends within single shown
  have plain : ∀ own ∈ (outNames job.format film stem sets).flatMap spoolNames, Plain own := by
    intro own member
    obtain ⟨out, there, spool⟩ := List.mem_flatMap.mp member
    exact spoolsPlain (namesPlain single out there).1 own spool
  have apart : ((outNames job.format film stem sets).flatMap spoolNames).Nodup :=
    spoolsApart (namesApart named ends within shown) fun own member => (namesPlain single own member).2
  refine ⟨stem, folder, ends, within, ?_, ?_, ?_⟩
  · rw [listed]
    exact siblingsDistinct named within plain apart
  · rw [listed]
    intro file member
    obtain ⟨own, there, rfl⟩ := List.mem_map.mp member
    exact (siblingFile named within (plain own there)).2.1
  · rw [outsNamed named ends within single shown, outNames, List.map_flatMap]
    simp only [List.map_map]
    rfl

def deepFilm : Film := ⟨"1.0", "deep", ⟨24, 48⟩, 1, true, 2, 2, 2, .atFrames [1]⟩

def oneTake : Job := ⟨⟨"out/take.avi"⟩, .proRes, false, false, 23, 1⟩

theorem filesTwoSets :
    oneTake.validate = .ok () ∧ (oneTake.outs deepFilm 2).length = 4 ∧
      (((oneTake.outs deepFilm 2).flatMap Spool.filesFor).map Path.components).Nodup ∧
      ∃ folder, oneTake.output.parent? = some folder ∧
        ∀ file ∈ (oneTake.outs deepFilm 2).flatMap Spool.filesFor, file.parent? = some folder := by
  have valid : oneTake.validate = .ok () := by decide
  obtain ⟨stem, folder, _, within, apart, beside, _⟩ := filesApart valid deepFilm 2
  exact ⟨valid, rfl, apart, folder, within, beside⟩

end Telecine
