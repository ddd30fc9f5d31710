import Telecine.Proofs.Export.Delivered
import Telecine.Proofs.Export.Files
import Telecine.Proofs.Export.Opened
import Telecine.Proofs.Text.Folders

/-! Outputs named for a film's title. Whatever the title is, the name made of it is one plain piece, so
the output lies in the folder asked for, and the name that an export takes apart and puts together again
is the same one. -/
namespace Telecine
open TestCard Telecine.Path

def TitleChar (c : Char) : Prop := Text.isAlphanumeric c ∨ c = '-' ∨ c = '_'

theorem asciiAlphanumeric {c : Char} (low : c.toNat < 128) :
    Text.isAlphanumeric c = c.isAlphanum := by
  have all : ∀ n < 128, Text.isAlphanumeric (Char.ofNat n) = (Char.ofNat n).isAlphanum := by
    decide +kernel
  simpa using all c.toNat low

section Titles
variable (title : String) (format : Format)

theorem charKept (c : Char) :
    TitleChar (if Text.isAlphanumeric c || c = '-' then c else '_') := by
  split
  · rename_i good
    rcases (Bool.or_eq_true _ _).mp good with letter | dash
    · exact .inl letter
    · exact .inr (.inl (of_decide_eq_true dash))
  · exact .inr (.inr rfl)

theorem titleNamed : (Job.fileNameOf title).toList ≠ [] ∧
    ∀ c ∈ (Job.fileNameOf title).toList, TitleChar c := by
  unfold Job.fileNameOf
  dsimp only
  split
  · have letters : ∀ c ∈ "film".toList, c.toNat < 128 ∧ c.isAlphanum := by simp
    refine ⟨by decide, fun c member => .inl ?_⟩
    obtain ⟨low, letter⟩ := letters c member
    rwa [asciiAlphanumeric low]
  · rename_i some
    rw [String.toList_ofList]
    refine ⟨some, fun c member => ?_⟩
    obtain ⟨own, _, rfl⟩ := List.mem_map.mp member
    exact charKept own

theorem titleShown : Job.fileNameOf title ≠ "" := fun none =>
  (titleNamed title).1 (String.toList_eq_nil_iff.mpr none)

theorem titleSingle : '/' ∉ (Job.fileNameOf title).toList := by
  intro slash
  have low : Text.isAlphanumeric '/' = false := asciiAlphanumeric (by decide)
  rcases (titleNamed title).2 _ slash with letter | dash | line
  · cases low.symm.trans letter
  · cases dash
  · cases line

theorem titlePlain : Plain (Job.fileNameOf title ++ format.extension) := by
  have single : outName format (Job.fileNameOf title) 1 0 .both =
      Job.fileNameOf title ++ format.extension := by simp [outName, reelMark, Eye.suffix]
  exact single ▸ outPlain (titleSingle title)

theorem titleStem :
    stem (Job.fileNameOf title ++ format.extension).toList = (Job.fileNameOf title).toList := by
  obtain ⟨letters, dot, dotless⟩ :
      ∃ letters, format.extension.toList = '.' :: letters ∧ '.' ∉ letters := by
    cases format <;> exact ⟨_, rfl, by decide⟩
  rw [String.toList_append, dot, stemExtended (titleNamed title).1 dotless]

end Titles

section Output
variable {folder : Path} {film : Film} {format : Format} {job : Job}

theorem outputNamed (output : job.output = Job.outputFor folder film format) :
    job.output.fileName? = some (Job.fileNameOf film.name ++ format.extension) ∧
      job.output.components =
        folder.components ++ [.normal (Job.fileNameOf film.name ++ format.extension)] := by
  rw [output]
  exact childFile folder (titlePlain film.name format)

theorem outputStem (output : job.output = Job.outputFor folder film format) :
    job.output.fileStem? = some (Job.fileNameOf film.name) := by
  rw [fileStem?, (outputNamed output).1, Option.map_some, titleStem, String.ofList_toList]

theorem outputParent (output : job.output = Job.outputFor folder film format) :
    ∃ parent, job.output.parent? = some parent ∧ parent.components = folder.components := by
  obtain ⟨named, child⟩ := outputNamed output
  obtain ⟨lead, before, names⟩ := namesOpened named
  refine ⟨_, names.parent, ?_⟩
  exact List.append_cancel_right ((parentComponents named names.parent).symm.trans child)

theorem outputReturns (output : job.output = Job.outputFor folder film format) :
    ∃ base, job.bases 1 = [base] ∧
      (eyePath base .both format.extension).components = job.output.components := by
  obtain ⟨named, child⟩ := outputNamed output
  obtain ⟨parent, within, same⟩ := outputParent output
  refine ⟨parent.join (Job.fileNameOf film.name), ?_, ?_⟩
  · simp [Job.bases, outputStem output, withFileName, named, within]
  · have path : eyePath (parent.join (Job.fileNameOf film.name)) .both format.extension =
        parent.join (Job.fileNameOf film.name ++ format.extension) := by
      rw [← joinMore parent (titleShown film.name), eyePath, Eye.suffix, String.append_empty]
    rw [path, (childFile parent (titlePlain film.name format)).2, same, child]

theorem filesInside (output : job.output = Job.outputFor folder film format) (sets : Nat) :
    ∀ file ∈ (job.outs film sets).flatMap Spool.filesFor,
      ∃ own, file.components = folder.components ++ [.normal own] := by
  intro file member
  obtain ⟨parent, within, same⟩ := outputParent output
  have single := titleSingle film.name
  rw [filesListed (outputNamed output).1 (outputStem output) within single (titleShown film.name)] at member
  obtain ⟨own, there, rfl⟩ := List.mem_map.mp member
  obtain ⟨out, here, spool⟩ := List.mem_flatMap.mp there
  have plain : Plain own := spoolsPlain (namesPlain single out here).1 own spool
  exact ⟨own, by rw [(childFile parent plain).2, same]⟩

theorem outputChecked (output : job.output = Job.outputFor folder film format) :
    job.validate = .ok () ↔ job.quality ≤ Format.maxQuality ∧ job.queueFrames ≠ 0 := by
  unfold Job.validate
  rw [outputStem output]
  by_cases high : job.quality > Format.maxQuality
  · simp [high, throw, throwThe, MonadExceptOf.throw, bind, Except.bind]
  · by_cases empty : job.queueFrames = 0
    · simp [high, empty, throw, throwThe, MonadExceptOf.throw]
    · simp [high, empty, Nat.le_of_not_lt high, pure, Except.pure]

theorem flatOuts (flat : film.stereoscopic = false) {base : Path} (only : job.bases 1 = [base]) :
    job.outs film 1 = [eyePath base .both job.format.extension] := by
  simp [Job.outs, only, eyes, flat]

theorem preparedOuts {ω : Type} {make : Eye → Path → StateM ω (Except Halt Nat)} {feed : Unit → Feed}
    {world last : ω} {p : Production}
    (ok : Production.prepare film job feed make world = (.ok p, last)) :
    ∃ reels, film.reels = .ok reels ∧ p.outputs = job.outs film (Production.setCount job reels) := by
  obtain ⟨_, _, reels, sets, _, _, _, _, cut, made, _, _, new⟩ := prepareSteps ok
  obtain ⟨_, begun⟩ := newOk new
  refine ⟨reels, cut, ?_⟩
  rw [Job.outs, ← (createAllNamed made).2, Production.outputs, begun]
  rfl

theorem titledOutput (output : job.output = Job.outputFor folder film format) :
    let name := Job.fileNameOf film.name
    (name ≠ "" ∧ ∀ c ∈ name.toList, TitleChar c) ∧
    job.output.fileName? = some (name ++ format.extension) ∧
    job.output.components = folder.components ++ [.normal (name ++ format.extension)] ∧
    (∃ parent, job.output.parent? = some parent ∧ parent.components = folder.components) ∧
    (∀ sets, ∀ file ∈ (job.outs film sets).flatMap Spool.filesFor,
      ∃ own, file.components = folder.components ++ [.normal own]) ∧
    job.output.fileStem? = some name ∧
    (job.validate = .ok () ↔ job.quality ≤ Format.maxQuality ∧ job.queueFrames ≠ 0) ∧
    (∃ base, job.bases 1 = [base] ∧
      (eyePath base .both format.extension).components = job.output.components) ∧
    (job.format = format → job.splitReels = false → film.stereoscopic = false →
      ∀ {ω : Type} (make : Eye → Path → StateM ω (Except Halt Nat)) (feed : Unit → Feed)
        (world last : ω) (p : Production),
        Production.prepare film job feed make world = (.ok p, last) →
          ∃ path, p.outputs = [path] ∧ path.components = job.output.components) := by
  intro name
  obtain ⟨named, child⟩ := outputNamed output
  obtain ⟨base, only, returns⟩ := outputReturns output
  refine ⟨⟨titleShown film.name, (titleNamed film.name).2⟩, named, child, outputParent output,
    filesInside output, outputStem output, outputChecked output, ⟨base, only, returns⟩, ?_⟩
  intro own unsplit flat ω make feed world last p ok
  obtain ⟨reels, _, outs⟩ := preparedOuts ok
  have single : Production.setCount job reels = 1 := by simp [Production.setCount, unsplit]
  refine ⟨eyePath base .both format.extension, ?_, returns⟩
  rw [outs, single, flatOuts flat only, own]

end Output

/-- Its title is a way up, out of any folder. -/
def climber : Film := ⟨"1.0", "../..", ⟨24, 48⟩, 1, false, 2, 2, 2, .single⟩

def climberJob : Job := ⟨Job.outputFor ⟨"out/."⟩ climber .h264, .h264, false, false, 23, 1⟩

theorem climberNamed : climberJob.output = Job.outputFor ⟨"out/."⟩ climber .h264 := by
  simp only [climberJob]

theorem climberAble : Exportable climber climberJob :=
  have rate : 48 < 4294967296 := by decide
  have sound : (FrameRates.mk 24 48).soundPerPicture = .ok 2 := rfl
  shortAble rfl ((outputChecked climberNamed).mpr ⟨by decide, by decide⟩) rfl rate sound (by decide)

theorem climberStays :
    climberJob.output = Job.outputFor ⟨"out/."⟩ climber .h264 ∧
      climberJob.output.components = [.normal "out", .normal "_____.mp4"] ∧
      climberJob.validate = .ok () ∧ ∃ p floor path,
        Production.prepare climber climberJob (fun _ => .ends) idle.hire ⟨(), 0, []⟩ =
          (.ok p, floor) ∧
        p.outputs = [path] ∧ path.components = [.normal "out", .normal "_____.mp4"] := by
  obtain ⟨_, _, child, _, _, _, checked, _, writes⟩ := titledOutput climberNamed
  have stays : climberJob.output.components = [.normal "out", .normal "_____.mp4"] :=
    child.trans (by decide +kernel)
  obtain ⟨_, _, _, _, _, _, _, _, _, _, prepared⟩ :=
    exportPrepares climberAble (by decide) (fun _ => .ends) idle ⟨(), 0, []⟩
  obtain ⟨path, outs, same⟩ := writes rfl rfl rfl _ _ _ _ _ prepared
  exact ⟨climberNamed, stays, checked.mpr ⟨by decide, by decide⟩, _, _, path, prepared, outs,
    same.trans stays⟩

end Telecine
