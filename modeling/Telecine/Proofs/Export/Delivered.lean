import Telecine.Proofs.Export.Prepared
import Telecine.Proofs.Export.Received
import Telecine.Proofs.Export.Session

/-! An export of a test card from one end to the other: every frame of the film reaches the files of its
reel, once and in order, and nothing else does. -/
namespace Telecine
open Transfer Lookahead TestCard

def Job.setNumber (job : Job) (reels : List Period) (time : Time) : Nat :=
  if job.splitReels then reels.findIdx (·.contains time) else 0

theorem reelOfNumber {t : Transfer} {last n : Nat} (film : WholeFilm t last) {job : Job}
    (count : t.sets.length = Production.setCount job t.plan.reels) (low : n < last) :
    t.reelOf (tickStart t.plan.rates.pictureTicks n) =
      job.setNumber t.plan.reels (tickStart t.plan.rates.pictureTicks n) := by
  obtain ⟨i, reel, there, inside⟩ := wholeCovers film.lasts film.whole (Nat.zero_le n) low
  have first := Period.firstContains film.accepted.parts there inside
  have within := (List.getElem?_eq_some_iff.mp there).1
  unfold reelOf Job.setNumber
  unfold Production.setCount at count
  cases apart : job.splitReels with
  | false =>
    rw [apart] at count
    have single : t.sets.length ≤ 1 := Nat.le_of_eq count
    rw [if_pos single]
    rfl
  | true =>
    rw [apart] at count
    rw [first, count, if_pos rfl, if_pos rfl]
    by_cases single : t.plan.reels.length ≤ 1
    · rw [if_pos single]
      omega
    · rw [if_neg single]

/-- Every frame of the film has a set, and every file is given the frames of its set in order, each as
the picture for its eye and the mixed sound, and then its end. Nothing else is given to anyone. -/
structure Delivered (film : Film) (job : Job) (reels : List Period) (mix : Mix) (frames : Nat)
    (sets : List FileSet) (calls : List (Outlet × Delivery)) : Prop where
  count : sets.length = Production.setCount job reels
  placed : ∀ n < film.lengthFrames.toNat,
    job.setNumber reels (tickStart film.rates.pictureTicks n) < sets.length
  inside : job.splitReels = true → ∀ n < film.lengthFrames.toNat, ∃ reel : Period,
    reels[job.setNumber reels (tickStart film.rates.pictureTicks n)]? = some reel ∧
      reel.contains (tickStart film.rates.pictureTicks n) = true
  given : ∀ (i : Nat) (set : FileSet), sets[i]? = some set → ∀ eye outlet, (eye, outlet) ∈ set.files →
    received calls outlet =
      ((List.range film.lengthFrames.toNat).filter fun n =>
          job.setNumber reels (tickStart film.rates.pictureTicks n) = i).flatMap (fun n =>
        [.picture (shownPicture film n eye), .sound (mix.apply (frameSound film frames n))]) ++
          [.finish]
  only : ∀ call ∈ calls, call.1 ∈ sets.flatMap FileSet.outlets
  shown : ∀ n < film.lengthFrames.toNat, ∀ eye, (shownPicture film n eye).eye = eye ∧
    Time.ofFrames n film.rates.picture = .ok (shownPicture film n eye).time

section Export
variable {film : Film} {job : Job} {ω : Type}

theorem framesDelivered {frames : Nat} (work : Workable film frames) {t : Transfer}
    (covered : WholeFilm t film.lengthFrames.toNat) (same : t.plan.rates = film.rates)
    (count : t.sets.length = Production.setCount job t.plan.reels)
    (apart : (t.sets.flatMap FileSet.outlets).Nodup) (mix : Mix) :
    Delivered film job t.plan.reels mix frames t.sets
      ((List.range film.lengthFrames.toNat).flatMap (fun n =>
          frameSent film (Studio.setFor t n) n (mix.apply (frameSound film frames n))) ++
        (t.sets.flatMap FileSet.outlets).map (·, .finish)) := by
  have number (n : Nat) (low : n < film.lengthFrames.toNat) :
      t.reelOf (tickStart film.rates.pictureTicks n) =
        job.setNumber t.plan.reels (tickStart film.rates.pictureTicks n) :=
    same ▸ reelOfNumber covered count low
  have there (n : Nat) (low : n ∈ List.range film.lengthFrames.toNat) :
      t.sets[job.setNumber t.plan.reels (tickStart film.rates.pictureTicks n)]? =
        some (Studio.setFor t n) := by
    have found := Studio.setForFound covered (List.mem_range.mp low)
    rwa [setAt, same, number n (List.mem_range.mp low)] at found
  refine ⟨count, fun n low => ?_, fun split n low => ?_, fun i set here eye outlet member => ?_,
    sentOnly there, fun n low eye => ⟨rfl, ?_⟩⟩
  · exact (List.getElem?_eq_some_iff.mp (there n (List.mem_range.mpr low))).1
  · obtain ⟨i, reel, found, inside⟩ := wholeCovers covered.lasts covered.whole (Nat.zero_le n) low
    have first := Period.firstContains covered.accepted.parts found inside
    rw [same] at first inside
    exact ⟨reel, by rwa [Job.setNumber, if_pos split, first], inside⟩
  · exact receivedWhole apart here member there
  · exact startExact work (by omega)

theorem runDelivered {frames : Nat} (work : Workable film frames)
    (rate : film.rates.soundPerPicture = .ok frames) (small : frames ≤ 4294967296) {mix : Mix}
    (most : mix.outputs ≤ Film.maxSoundChannels) {length : Time} {reels : List Period}
    {sets : List FileSet} (covered : WholeFilm (exported film mix length reels sets)
      film.lengthFrames.toNat)
    (count : sets.length = Production.setCount job reels)
    (apart : (sets.flatMap FileSet.outlets).Nodup) (capacity : Nat) (studio : Studio ω) (world : ω)
    (made : Nat) :
    let p : Production := ⟨exported film mix length reels sets,
      Readahead.start (TestCard.feed ⟨film, frames, 0, []⟩) mix capacity⟩
    let ran := p.run studio.observer studio.give ⟨world, made, []⟩
    ran.1.1 = .ok ⟨p.outputs, film.lengthFrames.toNat, sets.length, 0, 0, 0⟩ ∧
      Delivered film job reels mix frames sets ran.2.calls := by
  let t := exported film mix length reels sets
  have eyed : picturesPerTick t.plan = (eyes film).length := eyesCount t.plan rfl
  have form := eyed ▸ cardFramed work
  have stereo (n : Nat) (low : n < film.lengthFrames.toNat) :
      (Studio.setFor t n).isStereo = film.stereoscopic :=
    covered.accepted.stereo _ (List.mem_of_getElem? (Studio.setForFound covered low))
  have room : mix.outputs * frames ≤ 16 * 4294967296 := Nat.mul_le_mul most small
  unfold Film.maxSoundChannels at most
  obtain ⟨finished, calls⟩ := Studio.framedRun studio covered rfl rfl rate form capacity rfl
    (by simp only [exported, Sound.sampleSize, maxBlock]; omega)
    (by simp only [exported, Sound.channelSize, maxBlock]; omega)
    (fun n low => frameTaken (stereo n low)) ⟨world, made, []⟩
  have sends := @framesSent film mix _ _ _ _ _ form stereo
  have sent := calls.trans (congrArg (fun frames => [] ++ (frames ++ _)) sends)
  exact ⟨congrArg (Except.map ExportReport.ofTransfer) finished,
    sent ▸ framesDelivered work covered rfl count apart mix⟩

theorem cardWorks (able : Exportable film job) (image : film.width * film.height * 3 ≤ maxBlock) :
    ∃ frames, film.rates.soundPerPicture = .ok frames ∧ frames ≤ 4294967296 ∧ Workable film frames := by
  have fit := Film.validFit able.valid
  have length : FitsInt64 (film.lengthFrames * Time.ticksPerSecond) := by
    have ticks := able.ticks
    have some := fit.length
    unfold FitsInt64 Time.ticksPerSecond at *
    omega
  obtain ⟨frames, rate, small⟩ := FrameRates.soundPerPictureExact fit.rate able.rate
  exact ⟨frames, rate, small, fit, image, length, able.samples frames rate⟩

theorem exportDelivers (able : Exportable film job)
    (image : film.width * film.height * 3 ≤ maxBlock)
    (queue : job.queueFrames * Readahead.placeSize ≤ maxBlock) (studio : Studio ω) (world : ω) :
    ∃ card frames mix reels production floor,
      TestCard.start film = .ok card ∧ film.rates.soundPerPicture = .ok frames ∧
      card.feed.items = (List.range film.lengthFrames.toNat).flatMap (frameItems film frames) ∧
      job.mix film = .ok mix ∧ film.reels = .ok reels ∧
      Production.prepare film job (fun _ => card.feed) studio.hire ⟨world, 0, []⟩ =
        (.ok production, floor) ∧
      production.transfer.sets = FileSet.openedAll film.stereoscopic job.format.extension 0
        (job.bases (Production.setCount job reels)) ∧
      let ran := production.run studio.observer studio.give floor
      ran.1.1 = .ok ⟨production.outputs, film.lengthFrames.toNat, production.transfer.sets.length,
        0, 0, 0⟩ ∧
      Delivered film job reels mix frames production.transfer.sets ran.2.calls := by
  obtain ⟨frames, rate, small, work⟩ := cardWorks able image
  have started : TestCard.start film = .ok ⟨film, frames, 0, []⟩ := by
    simp only [TestCard.start, rate, bind, Except.bind]
    rfl
  obtain ⟨mix, reels, length, world', made, mixed, cut, most, count, covered, prepared⟩ :=
    exportPrepares able queue (fun _ => TestCard.feed ⟨film, frames, 0, []⟩) studio ⟨world, 0, []⟩
  exact ⟨_, frames, mix, reels, _, _, started, rate, (feedExact work).1, mixed, cut, prepared, rfl,
    runDelivered work rate small most covered count (FileSet.openedApart _ _ _ _) job.queueFrames
      studio world' made⟩

def twoFrames (width height : Nat) : Film :=
  ⟨"1.0", "two", ⟨24, 48⟩, 1, false, width, height, 2, .atFrames [1]⟩

def eachReel : Job := ⟨⟨"a"⟩, .proRes, false, true, 23, 1⟩

def idle : Studio Unit :=
  ⟨fun _ _ _ world => world, fun _ _ world => world, fun _ world => world, fun _ world => world⟩

theorem shortAble {film : Film} {job : Job} {each : Nat} (valid : film.validate = .ok ())
    (accepted : job.validate = .ok ()) (short : film.lengthFrames = 2)
    (rate : film.rates.sound < 4294967296) (sound : film.rates.soundPerPicture = .ok each)
    (few : each < 4294967296) : Exportable film job where
  valid := valid
  accepted := accepted
  rate := rate
  ticks := by
    rw [short]
    decide
  samples frames rate := by
    obtain rfl := Except.ok.inj (sound.symm.trans rate)
    rw [short]
    show 2 * each < 18446744073709551616
    omega

theorem twoFramesAble {width height : Nat} (valid : (twoFrames width height).validate = .ok ()) :
    Exportable (twoFrames width height) eachReel :=
  have sound : (FrameRates.mk 24 48).soundPerPicture = .ok 2 := rfl
  have rate : 48 < 4294967296 := by decide
  shortAble valid rfl rfl rate sound (by decide)

theorem twoFramesDelivered :
    ∃ card frames mix reels production floor,
      Production.prepare (twoFrames 2 2) eachReel (fun _ => TestCard.feed card) idle.hire ⟨(), 0, []⟩ =
        (.ok production, floor) ∧
      let ran := production.run idle.observer idle.give floor
      ran.1.1 = .ok ⟨production.outputs, 2, production.transfer.sets.length, 0, 0, 0⟩ ∧
      Delivered (twoFrames 2 2) eachReel reels mix frames production.transfer.sets ran.2.calls := by
  obtain ⟨card, frames, mix, reels, production, floor, _, _, _, _, _, prepared, _, finished⟩ :=
    exportDelivers (@twoFramesAble 2 2 rfl) (by decide) (by decide) idle ()
  exact ⟨card, frames, mix, reels, production, floor, prepared, finished⟩

theorem twoFramesReels (width height : Nat) :
    (twoFrames width height).reels = .ok [⟨⟨0⟩, ⟨4000⟩⟩, ⟨⟨4000⟩, ⟨8000⟩⟩] := by
  have cuts : (twoFrames width height).cuts = .ok [1] := by
    simp [Film.cuts, Film.proposedCuts, twoFrames, bind, Except.bind, pure, Except.pure,
      List.eraseReps, List.eraseRepsBy, List.eraseRepsBy.loop]
  rw [Film.reels, cuts]
  show Film.periodsFrom 24 0 ([1] ++ [2]) [] = _
  rfl

def vast : Film := twoFrames 2147483648 2147483648

theorem vastFails :
    Exportable vast eachReel ∧ TestCard.start vast = .ok ⟨vast, 2, 0, []⟩ ∧ ∃ production floor,
      Production.prepare vast eachReel (fun _ => TestCard.feed ⟨vast, 2, 0, []⟩) idle.hire
        ⟨(), 0, []⟩ = (.ok production, floor) ∧
      (production.run idle.observer idle.give floor).1.1 =
        .error (.failed (.noPicture 2 "decoder died")) := by
  have able : Exportable vast eachReel := twoFramesAble rfl
  have accepted : Accepted ⟨⟨24, 48⟩, 1, false, ⟨8000⟩, [⟨⟨0⟩, ⟨4000⟩⟩, ⟨⟨4000⟩, ⟨8000⟩⟩]⟩
      (FileSet.openedAll false ".mov" 0 (eachReel.bases 2)) :=
    ((newAccepted (t := ⟨_, _, _, _⟩)).mp rfl).1
  obtain ⟨world, made, prepared⟩ := prepareExact able.valid able.accepted (twoFramesReels _ _) rfl rfl
    (by decide) (fun _ => TestCard.feed ⟨vast, 2, 0, []⟩) idle ⟨(), 0, []⟩ accepted
  exact ⟨able, rfl, _, _, prepared, rfl⟩

end Export
end Telecine
