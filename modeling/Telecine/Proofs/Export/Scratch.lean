import Telecine.Export.Spool
import Telecine.Proofs.Host.Requests

/-! What an output's spools do to the disk while it takes pictures and sound, and that they are gone when
it is finished or given up. -/
namespace Telecine.Spool
open Machine Disk

def takeAll : List Delivery → Spool OpenFile → StateM Machine (Spool OpenFile)
  | [], s => return s
  | delivery :: rest, s => do takeAll rest (← s.take delivery).2

/-- The tool writes the file that is its last argument, and nothing else. -/
def WritesOnly (output : Path) (tool : List String → Disk → ToolRun × Disk) : Prop :=
  ∀ arguments disk, arguments.getLast? = some output.text →
    Confined (fun place => disk.placeFor output = some place) disk (tool arguments disk).2

structure Steady (scope : Place → Prop) (base now : Machine) : Prop where
  disk : Confined scope base.disk now.disk
  tool : now.tool = base.tool

variable {scope : Place → Prop} {base now : Machine}

section Writing
variable {w : Writer OpenFile} (handle : Handles scope base.disk w.file)
include handle

theorem writeKeeps (bytes : ByteArray) :
    Keeps (Steady scope base) (Host.write w.file bytes : StateM Machine _)
      fun result => ∀ file, result = .ok file → Handles scope base.disk file := by
  refine @keepsOnDisk _ _ _ (fun result => ∀ file, result = .ok file → Handles scope base.disk file)
    ?_ nofun
  intro machine file disk steady written
  obtain ⟨change, handle⟩ := writeConfined steady.disk handle written
  refine ⟨?_, change, steady.tool⟩
  intro next same
  cases same
  exact handle

theorem drainKeeps :
    Keeps (Steady scope base) (w.drain : StateM Machine _)
      fun result => Handles scope base.disk result.2.file := by
  rw [Writer.drain]
  split
  · exact keepsPure handle
  · refine keepsBind (writeKeeps handle w.pending) ?_
    intro written held
    split
    · next file => exact keepsPure (held file rfl)
    · exact keepsPure handle

theorem putKeeps (bytes : ByteArray) :
    Keeps (Steady scope base) (w.put bytes : StateM Machine _)
      fun result => Handles scope base.disk result.2.file := by
  rw [Writer.put]
  split
  · exact keepsPure handle
  · refine keepsBind (writeKeeps handle bytes) ?_
    intro written held
    split
    · next file => exact keepsPure (held file rfl)
    · exact keepsPure handle

theorem appendKeeps (bytes : ByteArray) :
    Keeps (Steady scope base) (w.append bytes : StateM Machine _)
      fun result => Handles scope base.disk result.2.file := by
  rw [Writer.append]
  split
  · exact putKeeps handle bytes
  · refine keepsBind (drainKeeps handle) ?_
    intro drained held
    split
    · exact putKeeps held bytes
    · exact keepsPure held

theorem closeKeeps : Keeps (Steady scope base) (w.close : StateM Machine _) fun _ => True := by
  refine keepsBind (drainKeeps handle) ?_
  intro drained held
  split <;> exact keepsPure trivial

theorem abandonKeeps : Keeps (Steady scope base) (w.abandon : StateM Machine _) fun _ => True :=
  keepsBind (drainKeeps handle) fun _ _ => keepsPure trivial

end Writing

def Gone (d : Disk) (file : Path) : Prop := ∃ place, d.resolve .entry file = .ok (.vacant place)

structure Laid (output : Path) (scope : Place → Prop) (base : Machine) : Prop where
  obeys : ∀ tool, base.tool = some tool → WritesOnly output tool
  written : ∀ place, base.disk.placeFor output = some place → scope place
  pictures : ∃ place, scope place ∧ Leads base.disk .entry (pictureFileFor output) place
  sounds : ∃ place, scope place ∧ Leads base.disk .entry (soundFileFor output) place

structure Working (output : Path) (scope : Place → Prop) (base : Machine) (s : Spool OpenFile) : Prop where
  names : s.output = output
  pictureFile : s.pictureFile = pictureFileFor output
  soundFile : s.soundFile = soundFileFor output
  pictures : ∃ writer, s.pictures = some writer ∧ Handles scope base.disk writer.file
  sounds : ∃ writer, s.sounds = some writer ∧ Handles scope base.disk writer.file

structure Cleared (output : Path) (scope : Place → Prop) (base now : Machine) : Prop where
  steady : Steady scope base now
  pictures : Gone now.disk (pictureFileFor output)
  sounds : Gone now.disk (soundFileFor output)

inductive Stage (output : Path) (scope : Place → Prop) (base : Machine) (s : Spool OpenFile)
    (now : Machine) : Prop
  | working (working : Working output scope base s) (steady : Steady scope base now)
  | closed (noPictures : s.pictures = none) (noSounds : s.sounds = none)
      (cleared : Cleared output scope base now)

def Stands (output : Path) (scope : Place → Prop) (base : Machine)
    (answered : (Except Halt Unit × Spool OpenFile) × Machine) : Prop :=
  Stage output scope base answered.1.2 answered.2

section Stages
variable {output : Path} {s : Spool OpenFile}

theorem removed (steady : Steady scope base now) {file : Path} {place : Place}
    (leads : Leads base.disk .entry file place) (inside : scope place) :
    Steady scope base ((Host.removeFile file : StateM Machine _) now).2 ∧
      ((Host.removeFile file : StateM Machine _) now).2.disk.entryAt place = none ∧
      ∀ other, now.disk.entryAt other = none →
        ((Host.removeFile file : StateM Machine _) now).2.disk.entryAt other = none := by
  have here := leads.solid steady.disk.toSolid
  have answer := removeAt here
  simp only [Host.removeFile, changing, onDisk]
  cases there : now.disk.entryAt place with
  | none =>
    simp only [there] at answer
    simp only [answer, Except.map]
    exact ⟨steady, there, fun _ none => none⟩
  | some entry =>
    simp only [there] at answer
    simp only [answer, Except.map]
    refine ⟨⟨steady.disk.dropped inside here.plain, steady.tool⟩, ?_, ?_⟩
    · simp
    · intro other none
      rw [dropEntryAt]
      split
      · rfl
      · exact none

theorem goneAt (steady : Steady scope base now) {file : Path} {place : Place}
    (leads : Leads base.disk .entry file place) (vacant : now.disk.entryAt place = none) :
    Gone now.disk file := by
  refine ⟨place, ?_⟩
  rw [(leads.solid steady.disk.toSolid).resolve, spotAt, vacant]

theorem filesRemoved (laid : Laid output scope base) (working : Working output scope base s)
    (steady : Steady scope base now) :
    Cleared output scope base ((s.removeFiles : StateM Machine Unit) now).2 := by
  obtain ⟨pictures, inPictures, toPictures⟩ := laid.pictures
  obtain ⟨sounds, inSounds, toSounds⟩ := laid.sounds
  rw [removeFiles, working.pictureFile, working.soundFile, bindRuns, bindRuns]
  obtain ⟨once, noPictures, _⟩ := removed steady toPictures inPictures
  obtain ⟨twice, noSounds, stays⟩ := removed once toSounds inSounds
  exact ⟨twice, goneAt twice toPictures (stays pictures noPictures), goneAt twice toSounds noSounds⟩

theorem pictureKeeps (working : Working output scope base s) (picture : Picture) :
    Keeps (Steady scope base) (s.takePicture picture : StateM Machine _)
      fun result => Working output scope base result.2 := by
  obtain ⟨writer, writing, handle⟩ := working.pictures
  rw [takePicture]
  split
  · exact keepsPure working
  · rw [writing]
    refine keepsBind (appendKeeps handle _) ?_
    intro appended held
    split
    · next writer =>
      exact keepsPure { working with pictures := ⟨writer, rfl, held⟩ }
    · next cause writer =>
      exact keepsPure { working with pictures := ⟨writer, rfl, held⟩ }

theorem soundKeeps (working : Working output scope base s) (sound : Sound) :
    Keeps (Steady scope base) (s.takeSound sound : StateM Machine _)
      fun result => Working output scope base result.2 := by
  obtain ⟨writer, writing, handle⟩ := working.sounds
  rw [takeSound]
  split
  · exact keepsPure working
  · rw [writing]
    dsimp only
    split
    · exact keepsPure working
    · refine keepsBind (appendKeeps handle _) ?_
      intro appended held
      split
      · next writer =>
        exact keepsPure { working with sounds := ⟨writer, rfl, held⟩ }
      · next cause writer =>
        exact keepsPure { working with sounds := ⟨writer, rfl, held⟩ }

theorem toolKeeps (laid : Laid output scope base) {arguments : List String}
    (last : arguments.getLast? = some output.text) :
    Keeps (Steady scope base) (Machine.runTool arguments) fun _ => True := by
  intro machine steady
  rw [Machine.runTool]
  split
  · exact ⟨trivial, steady⟩
  · next tool same =>
    have change := laid.obeys tool (steady.tool.symm.trans same) arguments machine.disk last
    refine ⟨trivial, steady.disk.trans (change.widen ?_), steady.tool⟩
    intro place found
    rw [steady.disk.toSolid.placeFor] at found
    exact laid.written place found

theorem encodeKeeps (laid : Laid output scope base) {arguments : List String}
    (last : arguments.getLast? = some output.text) :
    Keeps (Steady scope base) (encode arguments : StateM Machine _) fun _ => True := by
  refine keepsBind (toolKeeps laid last) ?_
  intro run _
  split
  · exact keepsPure trivial
  · split <;> exact keepsPure trivial

theorem closeWritersKeeps {pictures sounds : Writer OpenFile}
    (inPictures : Handles scope base.disk pictures.file) (inSounds : Handles scope base.disk sounds.file) :
    Keeps (Steady scope base) (closeWriters pictures sounds : StateM Machine _) fun _ => True := by
  refine keepsBind (closeKeeps inPictures) ?_
  intro closed _
  split
  · exact closeKeeps inSounds
  · exact keepsBind (abandonKeeps inSounds) fun _ _ => keepsPure trivial

theorem finishStands (laid : Laid output scope base) (working : Working output scope base s)
    (steady : Steady scope base now) :
    Stands output scope base ((s.finish : StateM Machine _) now) := by
  obtain ⟨pictures, picturing, inPictures⟩ := working.pictures
  obtain ⟨sounds, sounding, inSounds⟩ := working.sounds
  have last : s.arguments.getLast? = some output.text := by
    rw [arguments, List.getLast?_concat, working.names]
  have removes : ∀ (result : Except Failure Unit) (now : Machine), Steady scope base now →
      Stands output scope base ((do
        s.removeFiles
        return (Halt.ofFailure result, { s with pictures := none, sounds := none }) :
          StateM Machine (Except Halt Unit × Spool OpenFile)) now) :=
    fun _ _ steady => .closed rfl rfl (filesRemoved laid working steady)
  rw [finish, picturing, sounding]
  refine keepsThen (closeWritersKeeps inPictures inSounds) ?_ steady
  intro closed _ now steady
  split
  · exact removes _ now steady
  · split
    · exact removes _ now steady
    · exact keepsThen (encodeKeeps laid last) (fun result _ now steady => removes result now steady) steady

theorem takeStands (laid : Laid output scope base) (stage : Stage output scope base s now)
    (delivery : Delivery) : Stands output scope base ((s.take delivery : StateM Machine _) now) := by
  cases stage with
  | working working steady =>
    cases delivery with
    | picture picture =>
      obtain ⟨working, steady⟩ := pictureKeeps working picture now steady
      exact .working working steady
    | sound sound =>
      obtain ⟨working, steady⟩ := soundKeeps working sound now steady
      exact .working working steady
    | finish => exact finishStands laid working steady
  | closed noPictures noSounds cleared =>
    have still : Stage output scope base s now := .closed noPictures noSounds cleared
    cases delivery with
    | picture picture =>
      rw [take, takePicture, noPictures]
      cases s.accept picture.image <;> exact still
    | sound sound =>
      rw [take, takeSound, noSounds]
      split <;> exact still
    | finish =>
      rw [take, finish, noPictures]
      exact .closed rfl rfl cleared

theorem takeAllStands (laid : Laid output scope base) (deliveries : List Delivery)
    (stage : Stage output scope base s now) :
    Stage output scope base (takeAll deliveries s now).1 (takeAll deliveries s now).2 := by
  induction deliveries generalizing s now with
  | nil => exact stage
  | cons delivery rest ih =>
    rw [takeAll, bindRuns]
    exact ih (takeStands laid stage delivery)

theorem dropClears (laid : Laid output scope base) (stage : Stage output scope base s now) :
    Cleared output scope base ((s.drop : StateM Machine Unit) now).2 := by
  cases stage with
  | working working steady =>
    obtain ⟨pictures, picturing, inPictures⟩ := working.pictures
    obtain ⟨sounds, sounding, inSounds⟩ := working.sounds
    rw [drop, picturing, sounding]
    obtain ⟨_, steady⟩ := abandonKeeps inPictures now steady
    obtain ⟨_, steady⟩ := abandonKeeps inSounds _ steady
    exact filesRemoved laid working steady
  | closed noPictures noSounds cleared =>
    rw [drop, noPictures, noSounds]
    exact cleared

end Stages
end Telecine.Spool
