import Telecine.Proofs.Export.Lifetime
import Telecine.Proofs.Export.Spooled

/-! The course of an output from the opening of its spools on: what is taken goes to them, what is refused
changes nothing, and the first finish asks the encoding tool once, over what was taken. After that nothing
is taken and nothing changes. -/
namespace Telecine.Spool
open Machine Disk

structure Apart (s : Spool OpenFile) (a b : Nat) : Prop where
  pictures : s.pictures.map Writer.file = some (.file a 0)
  sounds : s.sounds.map Writer.file = some (.file b 0)
  apart : a ≠ b

inductive Answered (streams : StreamFormat) (a b : Nat) (taken : List Delivery) (delivery : Delivery)
    (s : Spool OpenFile) (now : Machine) : (Except Halt Unit × Spool OpenFile) × Machine → Prop
  | taken {s' after} (takes : streams.takes delivery = true)
      (spooling : Spooling streams a b (taken ++ [delivery]) s' after) (onward : Onward s s' now after) :
      Answered streams a b taken delivery s now ((.ok (), s'), after)
  | refused {message} (refuses : streams.takes delivery = false) :
      Answered streams a b taken delivery s now ((.error (.failed (.encode message)), s), now)

structure Spooled (taken : List Delivery) (s : Spool OpenFile) (d : Disk) : Prop where
  pictures : ∃ pixels, d.bytesAt s.pictureFile = .ok pixels ∧
    listed pixels = taken.flatMap Delivery.pixelBytes
  sounds : ∃ samples, d.bytesAt s.soundFile = .ok samples ∧
    listed samples = taken.flatMap Delivery.soundBytes

/-- What comes of the first finish: the tool is asked once, or not at all where there are no pictures. Whatever
is given later is refused, and nothing changes any more. -/
structure Finished (taken : List Delivery) (s : Spool OpenFile) (now : Machine)
    (ended : (Except Halt Unit × Spool OpenFile) × Machine) : Prop where
  asked : s.count ≠ 0 → ∀ tool, now.tool = some tool → ∃ d, Spooled taken s d ∧
    ended.2.invocations = ⟨s.arguments, d⟩ :: now.invocations
  unasked : s.count = 0 ∨ now.tool = none →
    ended.2.invocations = now.invocations ∧ ∃ message, ended.1.1 = .error (.failed (.encode message))
  later : ∀ more, takeAll more ended.1.2 ended.2 = (ended.1.2, ended.2)
  fails : ∀ delivery, ∃ failure, (ended.1.2.take delivery : StateM Machine _) ended.2 =
    ((.error (.failed failure), ended.1.2), ended.2)

structure Exactly (streams : StreamFormat) (a b : Nat) (taken : List Delivery) (first s : Spool OpenFile)
    (before now : Machine) : Prop where
  spooling : Spooling streams a b taken s now
  length : (taken.flatMap Delivery.pixelBytes).length = s.count * (streams.width * streams.height * 3)
  onward : Onward first s before now
  answers : ∀ delivery, delivery.isFinish = false → delivery.Even →
    Answered streams a b taken delivery s now ((s.take delivery : StateM Machine _) now)
  finishes : Finished taken s now ((s.finish : StateM Machine _) now)

section Course
variable {streams : StreamFormat} {a b : Nat} {taken : List Delivery} {s : Spool OpenFile}
  {now machine : Machine} {output : Path}

theorem createSpools (created : (create output streams : StateM Machine _) machine = (.ok s, now))
    (own : s.Apart a b) : Spooling streams a b [] s now := by
  have begun := createBegins output streams machine
  rw [created] at begun
  cases begun with
  | @whole first second d after pictures sounds =>
    obtain ⟨picturing, sounding, apart⟩ := own
    cases Option.some.inj picturing
    cases Option.some.inj sounding
    obtain ⟨_, noPictures, pictureName⟩ := createNames pictures
    obtain ⟨_, noSounds, soundName⟩ := createNames sounds
    have empty {number : Nat} (none : after.piecesOf number = []) :
        Writer.Holds ⟨.file number 0, .empty⟩ after number [] := by
      constructor <;> rw [bytesOf, none] <;> rfl
    exact ⟨rfl, ⟨_, rfl, empty ((createOthers sounds apart).trans noPictures)⟩,
      ⟨_, rfl, empty noSounds⟩, rfl, createStays sounds pictureName, soundName⟩

section Running
variable (apart : a ≠ b) (fits : FitsWord64 (streams.width * streams.height * 3))
include apart fits

theorem takeAnswers (spooling : Spooling streams a b taken s now) {delivery : Delivery}
    (unfinished : delivery.isFinish = false) (even : delivery.Even) :
    Answered streams a b taken delivery s now ((s.take delivery : StateM Machine _) now) := by
  cases delivery with
  | picture picture =>
    rw [take]
    cases takes : streams.takes (.picture picture) with
    | true =>
      obtain ⟨s', after, took, spooling, onward⟩ := pictureTaken spooling apart fits takes
      exact took ▸ .taken takes spooling onward
    | false =>
      obtain ⟨message, refused⟩ := pictureRefused spooling.streams fits takes
      exact refused ▸ .refused takes
  | sound sound =>
    rw [take]
    cases takes : streams.takes (.sound sound) with
    | true =>
      obtain ⟨s', after, took, spooling, onward⟩ := soundTaken spooling apart even takes
      exact took ▸ .taken takes spooling onward
    | false =>
      obtain ⟨message, refused⟩ := soundRefused spooling.streams takes
      exact refused ▸ .refused takes
  | finish => cases unfinished

theorem takeAllSpools {deliveries : List Delivery} (spooling : Spooling streams a b taken s now)
    (unfinished : ∀ d ∈ deliveries, d.isFinish = false) (even : ∀ d ∈ deliveries, d.Even) :
    Spooling streams a b (taken ++ deliveries.filter streams.takes)
        (takeAll deliveries s now).1 (takeAll deliveries s now).2 ∧
      Onward s (takeAll deliveries s now).1 now (takeAll deliveries s now).2 := by
  induction deliveries generalizing taken s now with
  | nil => exact ⟨(List.append_nil taken).symm ▸ spooling, .refl s now⟩
  | cons delivery rest ih =>
    obtain ⟨live, unfinished⟩ := List.forall_mem_cons.mp unfinished
    obtain ⟨first, even⟩ := List.forall_mem_cons.mp even
    have answered := takeAnswers apart fits spooling live first
    rw [takeAll, bindRuns]
    generalize (s.take delivery : StateM Machine _) now = answer at answered
    cases answered with
    | taken takes spooling onward =>
      obtain ⟨all, further⟩ := ih spooling unfinished even
      rw [List.filter_cons_of_pos takes, List.append_cons]
      exact ⟨all, onward.trans further⟩
    | refused refuses =>
      rw [List.filter_cons_of_neg (Bool.eq_false_iff.mp refuses)]
      exact ih spooling unfinished even

end Running

theorem closeSpools (spooling : Spooling streams a b taken s now) (apart : a ≠ b) : ∃ w v ready,
    s.pictures = some w ∧ s.sounds = some v ∧
      (closeWriters w v : StateM Machine _) now = (.ok (), ready) ∧ Spooled taken s ready.disk ∧
      ready.tool = now.tool ∧ ready.invocations = now.invocations := by
  obtain ⟨w, picturing, pictures⟩ := spooling.pictures
  obtain ⟨v, sounding, sounds⟩ := spooling.sounds
  obtain ⟨middle, closed, first, pixels⟩ := Writer.closeHolds pictures
  obtain ⟨ready, closed', second, samples⟩ :=
    Writer.closeHolds (Writer.holdsElsewhere sounds first apart.symm)
  have still : ready.disk.bytesOf a = middle.disk.bytesOf a :=
    congrArg joined (second.others a apart)
  refine ⟨w, v, ready, picturing, sounding, ?_, ⟨⟨_, ?_, still ▸ pixels⟩, ⟨_, ?_, samples⟩⟩,
    second.tool.trans first.tool, second.invocations.trans first.invocations⟩
  · rw [closeWriters, bindRuns, closed]
    exact closed'
  · exact namesBytes (second.names (first.names spooling.pictureName))
  · exact namesBytes (second.names (first.names spooling.soundName))

theorem removeFilesAsks (s : Spool OpenFile) (now : Machine) :
    ((s.removeFiles : StateM Machine Unit) now).2.invocations = now.invocations := by
  have keeps (file : Path) : Keeps (fun machine => machine.invocations = now.invocations)
      (Host.removeFile file : StateM Machine _) fun _ => True :=
    keepsChanging fun _ _ same _ => same
  have both : Keeps (fun machine => machine.invocations = now.invocations)
      (s.removeFiles : StateM Machine Unit) fun _ => True :=
    keepsBind (keeps _) fun _ _ => keepsBind (keeps _) fun _ _ => keepsPure trivial
  exact (both now rfl).2

def outcome (s : Spool OpenFile) : StateM Machine (Except Failure Unit) :=
  if s.count = 0 then return .error (.encode ("no pictures were written for " ++ s.output.text))
  else encode s.arguments

theorem outcomeAsks {tool : List String → Disk → ToolRun × Disk} (shot : s.count ≠ 0)
    (has : now.tool = some tool) :
    (s.outcome now).2.invocations = ⟨s.arguments, now.disk⟩ :: now.invocations := by
  rw [outcome, if_neg shot, encode, bindRuns]
  simp only [Host.runTool, Machine.runTool, has]
  split <;> rfl

theorem outcomeUnasked (unasked : s.count = 0 ∨ now.tool = none) :
    ∃ message, s.outcome now = (.error (.encode message), now) := by
  rw [outcome]
  split
  · exact ⟨_, rfl⟩
  · next shot =>
    rw [encode, bindRuns]
    simp only [Host.runTool, Machine.runTool, unasked.resolve_left shot]
    exact ⟨_, rfl⟩

theorem finishRuns {w v : Writer OpenFile} {ready : Machine} (picturing : s.pictures = some w)
    (sounding : s.sounds = some v)
    (closed : (closeWriters w v : StateM Machine _) now = (.ok (), ready)) :
    (s.finish : StateM Machine _) now =
      ((Halt.ofFailure (s.outcome ready).1, { s with pictures := none, sounds := none }),
        ((s.removeFiles : StateM Machine Unit) (s.outcome ready).2).2) := by
  rw [finish, picturing, sounding, outcome]
  simp only [bindRuns, closed]
  split <;> rfl

theorem closedFails (fits : FitsWord64 (streams.width * streams.height * 3))
    (streaming : s.streams = streams) (noPictures : s.pictures = none) (noSounds : s.sounds = none)
    (delivery : Delivery) : ∃ failure, (s.take delivery : StateM Machine _) now =
      ((.error (.failed failure), s), now) := by
  cases delivery with
  | picture picture =>
    cases takes : streams.takes (.picture picture) with
    | true =>
      rw [take, takePicture, acceptTaken (streaming ▸ fits) (streaming ▸ takes), noPictures]
      exact ⟨_, rfl⟩
    | false =>
      obtain ⟨message, refused⟩ := pictureRefused streaming fits takes
      exact ⟨_, refused⟩
  | sound sound =>
    rw [take, takeSound, noSounds]
    split <;> exact ⟨_, rfl⟩
  | finish =>
    obtain ⟨streams, output, pictureFile, soundFile, pictures, sounds, count⟩ := s
    cases noPictures
    cases noSounds
    exact ⟨_, rfl⟩

theorem closedStays (fails : ∀ delivery, ∃ failure, (s.take delivery : StateM Machine _) now =
    ((.error (.failed failure), s), now)) (more : List Delivery) : takeAll more s now = (s, now) := by
  induction more with
  | nil => rfl
  | cons delivery rest ih =>
    obtain ⟨failure, failed⟩ := fails delivery
    rw [takeAll, bindRuns, failed]
    exact ih

theorem finishEnds (spooling : Spooling streams a b taken s now) (apart : a ≠ b)
    (fits : FitsWord64 (streams.width * streams.height * 3)) :
    Finished taken s now ((s.finish : StateM Machine _) now) := by
  obtain ⟨w, v, ready, picturing, sounding, closed, spooled, sameTool, sameAsked⟩ :=
    closeSpools spooling apart
  rw [finishRuns picturing sounding closed]
  have fails := fun now => @closedFails _ { s with pictures := none, sounds := none } now fits
    spooling.streams rfl rfl
  refine ⟨?_, ?_, closedStays (fails _), fails _⟩
  · intro shot tool has
    refine ⟨ready.disk, spooled, (removeFilesAsks s _).trans ?_⟩
    rw [outcomeAsks shot (sameTool.trans has), sameAsked]
  · intro unasked
    obtain ⟨message, stops⟩ := outcomeUnasked (s := s) (sameTool ▸ unasked)
    rw [stops]
    exact ⟨(removeFilesAsks s ready).trans sameAsked, message, rfl⟩

theorem spoolsExactly {deliveries : List Delivery}
    (created : (create output streams : StateM Machine _) machine = (.ok s, now)) (own : s.Apart a b)
    (fits : FitsWord64 (streams.width * streams.height * 3))
    (unfinished : ∀ d ∈ deliveries, d.isFinish = false) (even : ∀ d ∈ deliveries, d.Even) :
    Exactly streams a b (deliveries.filter streams.takes) s (takeAll deliveries s now).1
      now (takeAll deliveries s now).2 := by
  obtain ⟨spooling, onward⟩ :=
    takeAllSpools own.apart fits (createSpools created own) unfinished even
  rw [List.nil_append] at spooling
  refine ⟨spooling, ?_, onward, fun _ => takeAnswers own.apart fits spooling,
    finishEnds spooling own.apart fits⟩
  rw [spooling.count]
  exact StreamFormat.takesSize fun _ member => (List.mem_filter.mp member).2

end Course

def openFilm (streams : StreamFormat) (first second : OpenFile) : Spool OpenFile :=
  ⟨streams, film, pictureFileFor film, soundFileFor film, some ⟨first, .empty⟩, some ⟨second, .empty⟩, 0⟩

theorem createFilm (streams : StreamFormat) {d pictured after : Disk} {first second : OpenFile}
    (pictures : d.createFile (pictureFileFor film) = .ok (first, pictured))
    (sounds : pictured.createFile (soundFileFor film) = .ok (second, after)) :
    (create film streams : StateM Machine _) (bench d) =
      (.ok (openFilm streams first second), bench after) := by
  rw [createAfter (filmHoused d), bench, pictures]
  simp only [sounds]
  rfl

def atPictures : Place := (0, ".film.mp4.video.rgb24")

def atSounds : Place := (0, ".film.mp4.audio.f32le")

theorem createPictures {d : Disk} (here : d.here = [0]) (vacant : d.entryAt atPictures = none) :
    d.createFile (pictureFileFor film) = .ok (.file d.fresh 0, d.addFile atPictures) :=
  createVacant (filmPictures.leads here vacant) vacant

theorem createBare (streams : StreamFormat) : (create film streams : StateM Machine _) (bench bare) =
    (.ok (openFilm streams (.file 1 0) (.file 2 0)), bench ((bare.addFile atPictures).addFile atSounds)) :=
  createFilm streams (createPictures rfl rfl)
    (createVacant (filmSounds.leads rfl (by decide)) (by decide))

def onePicture : Picture := ⟨⟨1, 1, ⟨#[1, 2, 3]⟩⟩, .both, ⟨0⟩, false⟩

def mixture : List Delivery :=
  [.picture onePicture, .picture ⟨⟨2, 1, ⟨#[1, 2, 3]⟩⟩, .both, ⟨0⟩, false⟩, .sound ⟨1, [[0]]⟩,
    .sound ⟨0, []⟩]

theorem mixtureSpooled : ∃ s now, (create film filmStreams : StateM Machine _) (bench bare) = (.ok s, now) ∧
    s.Apart 1 2 ∧ FitsWord64 (filmStreams.width * filmStreams.height * 3) ∧
    (∀ d ∈ mixture, d.isFinish = false) ∧ (∀ d ∈ mixture, d.Even) ∧
    (mixture.filter filmStreams.takes).length = 2 ∧
    Exactly filmStreams 1 2 (mixture.filter filmStreams.takes) s (takeAll mixture s now).1
      now (takeAll mixture s now).2 := by
  have own : (openFilm filmStreams (.file 1 0) (.file 2 0)).Apart 1 2 := ⟨rfl, rfl, by decide⟩
  have fits : FitsWord64 (filmStreams.width * filmStreams.height * 3) := by decide
  have unfinished : ∀ d ∈ mixture, d.isFinish = false := by simp [mixture, Delivery.isFinish]
  have even : ∀ d ∈ mixture, d.Even := by simp [mixture, Delivery.Even, Sound.Uniform]
  exact ⟨_, _, createBare filmStreams, own, fits, unfinished, even, rfl,
    spoolsExactly (createBare filmStreams) own fits unfinished even⟩

def vastStreams : StreamFormat := { filmStreams with width := 4294967294, height := 4294967294 }

def vastPicture : Picture := ⟨⟨4294967294, 4294967294, .empty⟩, .both, ⟨0⟩, false⟩

def linked : Disk := { bare with entries := [(atSounds, .link ".film.mp4.video.rgb24")] }

theorem createLinked : (create film filmStreams : StateM Machine _) (bench linked) =
    (.ok (openFilm filmStreams (.file 1 0) (.file 1 0)),
      bench ((linked.addFile atPictures).setPieces 1 [])) ∧
    Names ((linked.addFile atPictures).setPieces 1 []) (soundFileFor film) 1 := by
  have pictured : (linked.addFile atPictures).entryAt atPictures = some (.file 1) := by decide
  have link : (linked.addFile atPictures).entryAt atSounds = some (.link ".film.mp4.video.rgb24") := by
    decide
  have start : startOf ".film.mp4.video.rgb24" [0] = [0] := by decide +kernel
  have onwards : names ".film.mp4.video.rgb24" = [".film.mp4.video.rgb24"] := by decide +kernel
  have leads : Leads (linked.addFile atPictures) .create (soundFileFor film) atPictures := by
    refine ⟨filmSounds.named, filmSounds.clean, filmSounds.short, ?_⟩
    have relative : startOf (soundFileFor film).text (linked.addFile atPictures).here = [0] :=
      filmSounds.relative
    rw [relative, filmSounds.names]
    refine .follow filmSounds.proper (.inl rfl) link nofun ?_
    rw [start, onwards]
    exact .arrive filmPictures.proper (pictured ▸ .file 1)
  have again : (linked.addFile atPictures).createFile (soundFileFor film) =
      .ok (.file 1 0, (linked.addFile atPictures).setPieces 1 []) := by
    rw [createAt (placeForIff.mpr leads), pictured]
  exact ⟨createFilm filmStreams (createPictures rfl (by decide)) again, (createNames again).2.2⟩

/-- A picture whose size does not fit a word stops the program where it should be refused. And where the one
spool's name is a link to the other, the picture is encoded as sound, though no sound was given. -/
theorem spoolsAmiss :
    (∃ s now, (create film vastStreams : StateM Machine _) (bench bare) = (.ok s, now) ∧
      vastStreams.takes (.picture vastPicture) = false ∧
      (s.takePicture vastPicture : StateM Machine _) now = ((.error (.fault .overflow), s), now)) ∧
    ∃ s now s' after d samples,
      (create film filmStreams : StateM Machine _) (bench linked) = (.ok s, now) ∧
      (s.takePicture onePicture : StateM Machine _) now = ((.ok (), s'), after) ∧
      ((s'.finish : StateM Machine _) after).2.invocations = [⟨s.arguments, d⟩] ∧
      d.bytesAt s.soundFile = .ok samples ∧ listed samples = [1, 2, 3] := by
  refine ⟨⟨_, _, createBare vastStreams, by decide, rfl⟩, ?_⟩
  obtain ⟨created, names⟩ := createLinked
  have start : Writer.Holds ⟨.file 1 0, .empty⟩ (bench ((linked.addFile atPictures).setPieces 1 [])).disk
      1 [] := ⟨rfl, rfl⟩
  obtain ⟨w, after, appended, wrote, holds⟩ := Writer.appendHolds start onePicture.image.pixels
  obtain ⟨ready, closed, wrote', pixels⟩ := Writer.closeHolds holds
  have took : ((openFilm filmStreams (.file 1 0) (.file 1 0)).takePicture onePicture : StateM Machine _)
      (bench ((linked.addFile atPictures).setPieces 1 [])) = ((.ok (),
        { openFilm filmStreams (.file 1 0) (.file 1 0) with pictures := some w, count := 1 }), after) := by
    rw [takePicture]
    show (Writer.append ⟨.file 1 0, .empty⟩ onePicture.image.pixels >>= _ : StateM Machine _) _ = _
    rw [bindRuns, appended]
    rfl
  -- There is nothing to write as sound, but its name leads to what was written as pictures.
  have both : (closeWriters w ⟨.file 1 0, .empty⟩ : StateM Machine _) after = (.ok (), ready) := by
    rw [closeWriters, bindRuns, closed]
    rfl
  refine ⟨_, _, _, _, ready.disk, _, created, took, ?_,
    namesBytes (wrote'.names (wrote.names names)), pixels⟩
  rw [finishRuns rfl rfl both]
  refine (removeFilesAsks _ _).trans ((outcomeAsks Nat.one_ne_zero (wrote'.tool.trans wrote.tool)).trans ?_)
  rw [wrote'.invocations, wrote.invocations]
  rfl

end Telecine.Spool
