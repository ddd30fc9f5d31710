import Telecine.Proofs.Export.Studio
import Telecine.Proofs.Transfer.Whole

/-! What preparing an export comes to: the mix, the reels and the sets of a film and a job that are found
to be in order. -/
namespace Telecine
open Transfer

structure Exportable (film : Film) (job : Job) : Prop where
  valid : film.validate = .ok ()
  accepted : job.validate = .ok ()
  rate : film.rates.sound < 4294967296
  ticks : FitsInt64 (2 * Time.ticksPerSecond * (film.lengthFrames + 1))
  samples : ∀ frames, film.rates.soundPerPicture = .ok frames →
    FitsWord64 (film.lengthFrames.toNat * frames)

def exported (film : Film) (mix : Mix) (length : Time) (reels : List Period) (sets : List FileSet) :
    Transfer :=
  ⟨⟨film.rates, mix.outputs, film.stereoscopic, length, reels⟩, sets,
    Status.new film.rates.picture length, false⟩

section Preparing
variable {film : Film} {job : Job} {mix : Mix} {reels : List Period} {length : Time} {ω : Type}

theorem mixExact (fit : film.Fit) (job : Job) :
    ∃ mix, job.mix film = .ok mix ∧ 0 < mix.outputs ∧ mix.outputs ≤ Film.maxSoundChannels := by
  obtain ⟨some, most⟩ := fit.channels
  unfold Film.maxSoundChannels at most
  have held (m : Mix) (inputs : m.inputs ≤ 16) (outputs : m.outputs ≤ 16) : m.held = .ok m := by
    have room : m.inputs * m.outputs ≤ 16 * 16 := Nat.mul_le_mul inputs outputs
    have reserved : reserve (m.inputs * m.outputs) Sound.sampleSize = .ok () := by
      rw [reserve_eq_ok_iff]
      unfold Sound.sampleSize maxBlock
      omega
    simp only [Mix.held, reserved, bind, Except.bind]
    rfl
  unfold Job.mix Mix.ofSource
  cases job.toStereo with
  | true => exact ⟨_, held (.stereoFold _) most (show 2 ≤ 16 by decide),
    show 0 < 2 by decide, show 2 ≤ 16 by decide⟩
  | false => exact ⟨_, held (.identity _) most most, some, most⟩

section Made
variable {make : Eye → Path → StateM ω (Except Halt Nat)} {feed : Unit → Feed} {world later : ω}
  {sets : List FileSet}

theorem prepareMade (valid : film.validate = .ok ()) (accepted : job.validate = .ok ())
    (cut : film.reels = .ok reels) (mixed : job.mix film = .ok mix) (lasts : film.length = .ok length)
    (queue : job.queueFrames * Readahead.placeSize ≤ maxBlock)
    (opened : FileSet.createAll make film.stereoscopic job.format.extension
      (job.bases (Production.setCount job reels)) world = (.ok sets, later))
    (fits : Accepted (exported film mix length reels sets).plan sets) :
    Production.prepare film job feed make world =
      (.ok ⟨exported film mix length reels sets, Readahead.start (feed ()) mix job.queueFrames⟩,
        later) := by
  have started : Readahead.create (feed ()) mix job.queueFrames =
      .ok (Readahead.start (feed ()) mix job.queueFrames) := by
    have room : reserve (max job.queueFrames 1) Readahead.placeSize = .ok () := by
      rw [reserve_eq_ok_iff]
      unfold Readahead.placeSize maxBlock at *
      omega
    simp only [Readahead.create, room, bind, Except.bind]
    rfl
  have planned : Production.planOf film job reels = .ok (exported film mix length reels sets).plan := by
    simp only [Production.planOf, Job.channels, mixed, lasts, bind, Except.bind]
    rfl
  have new : Transfer.new (exported film mix length reels sets).plan sets =
      .ok (exported film mix length reels sets) := newAccepted.mpr ⟨fits, rfl⟩
  have stays {α σ : Type} (a : α) (s : σ) : (StateT.pure a : StateT σ Id α) s = (a, s) := rfl
  unfold Production.prepare
  simp only [valid, accepted, cut, mixed, started, planned, opened, new, stays, bind, pure, ExceptT.run,
    ExceptT.mk, ExceptT.bind, ExceptT.bindCont, ExceptT.pure, StateT.bind, Halt.ofChecked_ok,
    Halt.ofFailure_ok]

end Made

theorem prepareExact (valid : film.validate = .ok ()) (accepted : job.validate = .ok ())
    (cut : film.reels = .ok reels) (mixed : job.mix film = .ok mix) (lasts : film.length = .ok length)
    (queue : job.queueFrames * Readahead.placeSize ≤ maxBlock) (feed : Unit → Feed)
    (studio : Studio ω) (floor : Studio.Floor ω) :
    let t := exported film mix length reels (FileSet.openedAll film.stereoscopic job.format.extension
      floor.made (job.bases (Production.setCount job reels)))
    Accepted t.plan t.sets → ∃ world made, Production.prepare film job feed studio.hire floor =
      (.ok ⟨t, Readahead.start (feed ()) mix job.queueFrames⟩, ⟨world, made, floor.calls⟩) := by
  intro t fits
  obtain ⟨world, made, opened⟩ := FileSet.createAllOpens film.stereoscopic job.format.extension
    (job.bases (Production.setCount job reels)) studio floor
  exact ⟨world, made, prepareMade valid accepted cut mixed lasts queue opened fits⟩

theorem basesLength (job : Job) {sets : Nat} (some : 0 < sets) : (job.bases sets).length = sets := by
  unfold Job.bases
  by_cases single : sets ≤ 1
  · simp only [if_pos single, List.length_singleton]
    omega
  · simp [if_neg single]

theorem filmWhole (fit : film.Fit) {last : Nat} (fits : FitsInt64 (last * Time.ticksPerSecond))
    (reeled : WholeReels film.rates.pictureTicks last 0 reels) {sets : List FileSet} :
    let t := exported film mix (tickStart film.rates.pictureTicks last) reels sets
    Accepted t.plan t.sets → WholeFilm t last := by
  intro t accepted
  refine ⟨accepted, reeled, rfl, Film.pictureLasts fit, ?_⟩
  have most : last * film.rates.pictureTicks ≤ last * 96000 :=
    Nat.mul_le_mul_left _ (Nat.div_le_self _ _)
  unfold FitsInt64 Time.ticksPerSecond at *
  simp only [t, exported, tickStart]
  omega

theorem transferWhole (fit : film.Fit) (ticks : FitsInt64 (film.lengthFrames * Time.ticksPerSecond))
    (job : Job) : ∃ mix reels length, job.mix film = .ok mix ∧ film.reels = .ok reels ∧ film.length = .ok length ∧
      mix.outputs ≤ Film.maxSoundChannels ∧ 0 < Production.setCount job reels ∧
      ∀ sets : List FileSet, sets.length = Production.setCount job reels →
        (∀ set ∈ sets, set.isStereo = film.stereoscopic) →
        WholeFilm (exported film mix length reels sets) film.lengthFrames.toNat := by
  obtain ⟨last, whole⟩ := Int.eq_ofNat_of_zero_le (Int.le_of_lt fit.length)
  have some := fit.length
  have fits : FitsInt64 (last * Time.ticksPerSecond) := whole ▸ ticks
  have length : film.length = .ok (tickStart film.rates.pictureTicks last) := by
    rw [Film.length, whole]
    exact ofFramesWhole fit.rate fit.divides fits
  obtain ⟨mix, mixed, outputs, most⟩ := mixExact fit job
  obtain ⟨reels, cut, reeled⟩ := Film.reelsWhole fit whole fits
  have lasts := Film.pictureLasts fit
  have low : 0 < last := by omega
  have parts := wholePartition lasts reeled low
  have apart : 0 < Production.setCount job reels ∧
      (1 < Production.setCount job reels → Production.setCount job reels = reels.length) := by
    obtain ⟨reel, there, _⟩ := wholeFirst lasts reeled low
    have several : 0 < reels.length := (List.getElem?_eq_some_iff.mp there).1
    unfold Production.setCount
    cases job.splitReels <;> simp [several]
  refine ⟨mix, reels, _, mixed, cut, length, most, apart.1, fun sets count stereo => ?_⟩
  rw [← count] at apart
  rw [whole, Int.toNat_natCast]
  exact filmWhole fit fits reeled
    ⟨fit.rate, fit.sound, outputs, parts, List.length_pos_iff.mp apart.1, apart.2, stereo⟩

theorem exportPrepares (able : Exportable film job)
    (queue : job.queueFrames * Readahead.placeSize ≤ maxBlock) (feed : Unit → Feed)
    (studio : Studio ω) (floor : Studio.Floor ω) :
    ∃ mix reels length world made, job.mix film = .ok mix ∧ film.reels = .ok reels ∧
      mix.outputs ≤ Film.maxSoundChannels ∧
      let sets := FileSet.openedAll film.stereoscopic job.format.extension floor.made
        (job.bases (Production.setCount job reels))
      let t := exported film mix length reels sets
      sets.length = Production.setCount job reels ∧ WholeFilm t film.lengthFrames.toNat ∧
      Production.prepare film job feed studio.hire floor =
        (.ok ⟨t, Readahead.start (feed ()) mix job.queueFrames⟩, ⟨world, made, floor.calls⟩) := by
  have ticks := able.ticks
  obtain ⟨mix, reels, length, mixed, cut, lasts, most, some, whole⟩ := transferWhole
    (Film.validFit able.valid) (by unfold FitsInt64 Time.ticksPerSecond at *; omega) job
  have count := (FileSet.openedLength film.stereoscopic job.format.extension floor.made _).trans
    (basesLength job some)
  have covered := whole _ count (FileSet.openedStereo _ _ _ _)
  obtain ⟨world, made, prepared⟩ := prepareExact able.valid able.accepted cut mixed lasts queue feed
    studio floor covered.accepted
  exact ⟨mix, reels, length, world, made, mixed, cut, most, count, covered, prepared⟩

end Preparing
end Telecine
