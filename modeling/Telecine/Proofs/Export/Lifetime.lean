import Telecine.Proofs.Export.Scratch

/-! The life of an output, from the opening of its two spools on, and what it leaves on the disk. -/
namespace Telecine.Spool
open Machine Disk

def lifetime (output : Path) (streams : StreamFormat) (deliveries : List Delivery) :
    StateM Machine (Except Failure Unit) := do
  match ← create output streams with
  | .error failure => return .error failure
  | .ok spool =>
    let spool ← takeAll deliveries spool
    spool.drop
    return .ok ()

def housed (output : Path) (machine : Machine) : Disk :=
  ((makeParentFolder output : StateM Machine (Except Failure Unit)) machine).2.disk

variable {base : Machine}

theorem createAfter {output : Path} {streams : StreamFormat} {machine : Machine}
    (folders : (makeParentFolder output : StateM Machine _) machine = (.ok (), base)) :
    (create output streams : StateM Machine _) machine =
      match base.disk.createFile (pictureFileFor output) with
      | .error cause => (.error (.io cause), base)
      | .ok (first, d) =>
        match d.createFile (soundFileFor output) with
        | .error cause => (.error (.io cause), { base with disk := d })
        | .ok (second, after) => (.ok ⟨streams, output, pictureFileFor output, soundFileFor output,
            some ⟨first, .empty⟩, some ⟨second, .empty⟩, 0⟩, { base with disk := after }) := by
  rw [create, bindRuns, folders]
  show (bind (onDisk (·.createFile (pictureFileFor output))) _ :
    StateM Machine (Except Failure (Spool OpenFile))) base = _
  rw [bindRuns]
  cases pictures : base.disk.createFile (pictureFileFor output) with
  | error cause =>
    rw [onDiskFailed pictures]
    rfl
  | ok opened =>
    obtain ⟨first, d⟩ := opened
    rw [onDiskWorked pictures]
    show (bind (onDisk (·.createFile (soundFileFor output))) _ :
      StateM Machine (Except Failure (Spool OpenFile))) { base with disk := d } = _
    rw [bindRuns]
    cases sounds : d.createFile (soundFileFor output) with
    | error cause =>
      rw [@onDiskFailed _ _ { base with disk := d } _ sounds]
      simp only [sounds]
      rfl
    | ok opened =>
      rw [@onDiskWorked _ _ { base with disk := d } _ _ sounds]
      simp only [sounds]
      rfl

inductive Begun (output : Path) (streams : StreamFormat) (base : Machine) :
    Except Failure (Spool OpenFile) × Machine → Prop
  | refused (failure : Failure) : Begun output streams base (.error failure, base)
  | half {file d cause} (pictures : base.disk.createFile (pictureFileFor output) = .ok (file, d))
      (sounds : d.createFile (soundFileFor output) = .error cause) :
      Begun output streams base (.error (.io cause), { base with disk := d })
  | whole {first second d after} (pictures : base.disk.createFile (pictureFileFor output) = .ok (first, d))
      (sounds : d.createFile (soundFileFor output) = .ok (second, after)) :
      Begun output streams base (.ok ⟨streams, output, pictureFileFor output, soundFileFor output,
        some ⟨first, .empty⟩, some ⟨second, .empty⟩, 0⟩, { base with disk := after })

theorem createBegins (output : Path) (streams : StreamFormat) (machine : Machine) :
    Begun output streams ((makeParentFolder output : StateM Machine _) machine).2
      ((create output streams : StateM Machine _) machine) := by
  cases folders : (makeParentFolder output : StateM Machine (Except Failure Unit)) machine with
  | mk made base =>
    cases made with
    | error failure =>
      rw [create, bindRuns, folders]
      exact .refused failure
    | ok =>
      rw [createAfter folders]
      split
      · next cause _ => exact .refused (.io cause)
      · next first d pictures =>
        split
        · next cause sounds => exact .half pictures sounds
        · next second after sounds => exact .whole pictures sounds

theorem parentFolderKeeps (output : Path) (first : Machine) :
    Keeps (Host.Housed output first) (makeParentFolder output : StateM Machine _) fun _ => True := by
  rw [makeParentFolder]
  split
  · exact keepsPure trivial
  · next folder found =>
    split
    · exact keepsPure trivial
    · refine keepsBind (Host.makeFoldersKeeps _ (.single found)) ?_
      intro made _
      split <;> exact keepsPure trivial

def places (output : Path) (d : Disk) (place : Place) : Prop :=
  d.placeFor (pictureFileFor output) = some place ∨
    d.placeFor (soundFileFor output) = some place ∨ d.placeFor output = some place

structure Unobstructed (output : Path) (d : Disk) : Prop where
  pictures : ∀ place target, d.resolve .entry (pictureFileFor output) ≠ .ok (.found place (.link target))
  sounds : ∀ place target, d.resolve .entry (soundFileFor output) ≠ .ok (.found place (.link target))
  together : (d.placeFor (pictureFileFor output)).isSome → (d.placeFor (soundFileFor output)).isSome

/-- Where an output was refused, folders above it may be new. Where it was opened, neither spool is left, and
apart from those folders only what was at their places and at the output's has changed. -/
inductive LeavesNothing (output : Path) (first last : Disk) : Except Failure Unit → Prop
  | refused {failure} (folders : Host.Made output first last) :
      LeavesNothing output first last (.error failure)
  | gone {d} (folders : Host.Made output first d) (others : Confined (places output d) d last)
      (pictures : Gone last (pictureFileFor output)) (sounds : Gone last (soundFileFor output)) :
      LeavesNothing output first last (.ok ())

section Lifetime
variable {output : Path} {streams : StreamFormat} {machine : Machine}

theorem wholeStands {first second : OpenFile} {d after : Disk}
    (obeys : ∀ tool, base.tool = some tool → WritesOnly output tool)
    (clear : Unobstructed output base.disk)
    (pictures : base.disk.createFile (pictureFileFor output) = .ok (first, d))
    (sounds : d.createFile (soundFileFor output) = .ok (second, after)) :
    Laid output (places output base.disk) base ∧
      Stage output (places output base.disk) base ⟨streams, output, pictureFileFor output,
        soundFileFor output, some ⟨first, .empty⟩, some ⟨second, .empty⟩, 0⟩ { base with disk := after } := by
  have start := Confined.refl (places output base.disk) base.disk
  obtain ⟨once, inPictures⟩ := createConfined start (fun _ => .inl) pictures
  have same := fun path => @Solid.placeFor _ _ path once.toSolid
  obtain ⟨twice, inSounds⟩ :=
    createConfined once (fun place found => .inr (.inl ((same _).symm.trans found))) sounds
  obtain ⟨inFirst, toFirst⟩ := createFound pictures
  obtain ⟨inSecond, toSecond⟩ := createFound sounds
  rw [same] at toSecond
  refine ⟨⟨obeys, fun _ found => .inr (.inr found), ?_, ?_⟩, ?_⟩
  · exact ⟨inFirst, .inl toFirst, (placeForIff.mp toFirst).entry clear.pictures⟩
  · exact ⟨inSecond, .inr (.inl toSecond), (placeForIff.mp toSecond).entry clear.sounds⟩
  · exact .working ⟨rfl, rfl, rfl, ⟨_, rfl, inPictures⟩, ⟨_, rfl, inSounds⟩⟩ ⟨twice, rfl⟩

theorem togetherOpened {d : Disk} {file : OpenFile} {after : Disk} {cause : Cause}
    (clear : Unobstructed output d)
    (pictures : d.createFile (pictureFileFor output) = .ok (file, after)) :
    after.createFile (soundFileFor output) ≠ .error cause := by
  intro refused
  obtain ⟨place, found⟩ := createFound pictures
  obtain ⟨there, beside⟩ := Option.isSome_iff_exists.mp (clear.together (by rw [found]; rfl))
  obtain ⟨once, _⟩ := createConfined (Confined.refl (fun _ => True) d) (fun _ _ => trivial) pictures
  obtain ⟨_, _, works⟩ := createWorks (once.toSolid.placeFor.trans beside)
  rw [works] at refused
  cases refused

theorem lifetimeEnds (streams : StreamFormat) (deliveries : List Delivery)
    (obeys : ∀ tool, machine.tool = some tool → WritesOnly output tool)
    (clear : Unobstructed output (housed output machine)) :
    LeavesNothing output machine.disk (lifetime output streams deliveries machine).2.disk
      (lifetime output streams deliveries machine).1 := by
  obtain ⟨_, folders⟩ := parentFolderKeeps output machine machine ⟨.same, rfl⟩
  have begun := createBegins output streams machine
  rw [housed] at clear
  rw [lifetime, bindRuns]
  generalize (makeParentFolder output : StateM Machine _) machine = housed at folders begun clear
  generalize (create output streams : StateM Machine _) machine = opened at begun
  cases begun with
  | refused failure => exact .refused folders.made
  -- This is the one end that leaves a spool behind.
  | half pictures sounds => exact (togetherOpened clear pictures sounds).elim
  | whole pictures sounds =>
    have obeys : ∀ tool, housed.2.tool = some tool → WritesOnly output tool :=
      fun tool same => obeys tool (folders.tool.symm.trans same)
    obtain ⟨laid, stage⟩ := @wholeStands _ output streams _ _ _ _ obeys clear pictures sounds
    have cleared := dropClears laid (takeAllStands laid deliveries stage)
    exact .gone folders.made cleared.steady.disk cleared.pictures cleared.sounds

theorem lifetimeOpens (streams : StreamFormat) (deliveries : List Delivery)
    (folders : (makeParentFolder output : StateM Machine _) machine = (.ok (), base)) {first second : Place}
    (pictures : base.disk.placeFor (pictureFileFor output) = some first)
    (sounds : base.disk.placeFor (soundFileFor output) = some second) :
    (lifetime output streams deliveries machine).1 = .ok () := by
  obtain ⟨_, d, opened⟩ := createWorks pictures
  obtain ⟨once, _⟩ := createConfined (.refl (fun _ => True) base.disk) (fun _ _ => trivial) opened
  obtain ⟨_, _, beside⟩ := createWorks (once.toSolid.placeFor.trans sounds)
  rw [lifetime, bindRuns, createAfter folders, opened]
  simp only [beside]
  rfl

theorem halfLeaves (streams : StreamFormat) (deliveries : List Delivery) {file : OpenFile} {d : Disk}
    {cause : Cause} (folders : (makeParentFolder output : StateM Machine _) machine = (.ok (), base))
    (pictures : base.disk.createFile (pictureFileFor output) = .ok (file, d))
    (sounds : d.createFile (soundFileFor output) = .error cause) :
    lifetime output streams deliveries machine = (.error (.io cause), { base with disk := d }) ∧
      ∃ place entry, d.resolve .create (pictureFileFor output) = .ok (.found place entry) := by
  refine ⟨?_, createLeaves pictures⟩
  rw [lifetime, bindRuns, createAfter folders, pictures]
  simp only [sounds]
  rfl

end Lifetime

def muxer (output : Path) (_ : List String) (disk : Disk) : ToolRun × Disk :=
  match disk.createFile output with
  | .error _ => (⟨1, .empty, .empty⟩, disk)
  | .ok (file, made) =>
    match made.write file "film".toUTF8 with
    | .error _ => (⟨1, .empty, .empty⟩, made)
    | .ok (_, written) => (⟨0, .empty, .empty⟩, written)

theorem muxerWritesOnly (output : Path) : WritesOnly output (muxer output) := by
  intro arguments disk _
  have still := Confined.refl (fun place => disk.placeFor output = some place) disk
  rw [muxer]
  split
  · exact still
  · next file made opened =>
    obtain ⟨change, handle⟩ := createConfined still (fun _ found => found) opened
    split
    · exact change
    · next next written wrote => exact (writeConfined change handle wrote).1

def film : Path := ⟨"film.mp4"⟩

def filmStreams : StreamFormat := ⟨.h264, 20, 1, 1, ⟨24, 48000⟩, 1⟩

def bench (disk : Disk) : Machine := ⟨disk, some (muxer film), [], "", "", ⟨0, none⟩⟩

theorem filmHoused (disk : Disk) :
    (makeParentFolder film : StateM Machine _) (bench disk) = (.ok (), bench disk) := by
  have above : film.parent? = some ⟨""⟩ := by decide +kernel
  rw [makeParentFolder, above]
  rfl

structure Simple (file : Path) (name : String) : Prop where
  named : file.text ≠ ""
  clean : ¬ file.text.toList.contains '\x00' = true
  short : ¬ file.text.utf8ByteSize > maxPath
  relative : startOf file.text [0] = [0]
  names : Disk.names file.text = [name]
  proper : Proper name

section Simple
variable {file : Path} {name : String} {d : Disk} {purpose : Purpose}

theorem Simple.leads (simple : Simple file name) (here : d.here = [0]) (vacant : d.entryAt (0, name) = none) :
    Leads d purpose file (0, name) := by
  refine ⟨simple.named, simple.clean, simple.short, ?_⟩
  rw [here, simple.relative, simple.names]
  exact .arrive simple.proper (vacant ▸ .nothing)

theorem Simple.folder {number : Nat} (simple : Simple file name) (here : d.here = [0])
    (there : d.entryAt (0, name) = some (.folder number)) :
    d.resolve purpose file = .ok (.folder [number, 0]) := by
  rw [resolve, if_neg simple.named, if_neg simple.clean, if_neg simple.short, here, simple.relative,
    simple.names, simple.proper.enters (.inl rfl) there, walk]

end Simple

theorem filmPictures : Simple (pictureFileFor film) ".film.mp4.video.rgb24" :=
  ⟨by decide +kernel, by decide +kernel, by decide +kernel, by decide +kernel, by decide +kernel,
    by decide, by decide, by decide⟩

theorem filmSounds : Simple (soundFileFor film) ".film.mp4.audio.f32le" :=
  ⟨by decide +kernel, by decide +kernel, by decide +kernel, by decide +kernel, by decide +kernel,
    by decide, by decide, by decide⟩

theorem filmClear : Unobstructed film bare where
  pictures place target found := by
    rw [(filmPictures.leads rfl rfl).resolve] at found
    cases found
  sounds place target found := by
    rw [(filmSounds.leads rfl rfl).resolve] at found
    cases found
  together _ := by
    rw [placeForIff.mpr (filmSounds.leads rfl rfl)]
    rfl

def oneFrame : List Delivery :=
  [.picture ⟨⟨1, 1, ⟨#[0, 0, 0]⟩⟩, .both, ⟨0⟩, false⟩, .sound ⟨1, [[0]]⟩, .finish]

theorem filmLeavesNothing :
    Unobstructed film (housed film (bench bare)) ∧ (∀ tool, (bench bare).tool = some tool →
      WritesOnly film tool) ∧
    (lifetime film filmStreams oneFrame (bench bare)).1 = .ok () ∧
    LeavesNothing film bare (lifetime film filmStreams oneFrame (bench bare)).2.disk
      (lifetime film filmStreams oneFrame (bench bare)).1 := by
  have clear : Unobstructed film (housed film (bench bare)) := by
    rw [housed, filmHoused]
    exact filmClear
  have obeys : ∀ tool, (bench bare).tool = some tool → WritesOnly film tool := by
    intro tool same
    cases same
    exact muxerWritesOnly film
  have opens : (lifetime film filmStreams oneFrame (bench bare)).1 = .ok () :=
    lifetimeOpens filmStreams oneFrame (filmHoused bare) (placeForIff.mpr (filmPictures.leads rfl rfl))
      (placeForIff.mpr (filmSounds.leads rfl rfl))
  exact ⟨clear, obeys, opens, lifetimeEnds filmStreams oneFrame obeys clear⟩

def obstructed : Disk := { bare with entries := [((0, ".film.mp4.audio.f32le"), .folder 1)], fresh := 2 }

theorem pictureSpoolLeft :
    obstructed.resolve .create (pictureFileFor film) = .ok (.vacant (0, ".film.mp4.video.rgb24")) ∧
    (lifetime film filmStreams [] (bench obstructed)).1 = .error (.io .isFolder) ∧
    ∃ place entry, (lifetime film filmStreams [] (bench obstructed)).2.disk.resolve .create
      (pictureFileFor film) = .ok (.found place entry) := by
  have vacant : Leads obstructed .create (pictureFileFor film) (0, ".film.mp4.video.rgb24") :=
    filmPictures.leads rfl rfl
  obtain ⟨file, d, opened⟩ := createWorks (placeForIff.mpr vacant)
  obtain ⟨change, _⟩ := createConfined (.refl (fun _ => True) obstructed) (fun _ _ => trivial) opened
  have folder : d.entryAt (0, ".film.mp4.audio.f32le") = some (.folder 1) :=
    change.toSolid.kept (by decide) nofun
  have refused : d.createFile (soundFileFor film) = .error .isFolder := by
    rw [createFile, filmSounds.folder change.here folder]
  obtain ⟨ended, left⟩ := halfLeaves filmStreams [] (filmHoused obstructed) opened refused
  refine ⟨vacant.resolve, ?_, ?_⟩
  · rw [ended]
  · rw [ended]
    exact left

end Telecine.Spool
