import Telecine.Proofs.Export.Answers
import Telecine.Proofs.Transfer.Whole

/-! A run of a transfer with a decoder that is always ahead, where the feed goes frame by frame: it comes
to its end, and the encoders are given the frames one after the other. -/
namespace Telecine
open Transfer Lookahead Dialogue

namespace Studio

section Run
variable {ω : Type} (studio : Studio ω) {t : Transfer} {last frames perFrame : Nat} {mix : Mix}
  {feed : Feed} {sights : Nat → List Picture} {block : Nat → Sound}

def setFor (t : Transfer) (n : Nat) : FileSet :=
  (t.setAt (tickStart t.plan.rates.pictureTicks n)).getD (.flat ⟨0, ⟨""⟩⟩)

theorem setForFound (film : WholeFilm t last) {n : Nat} (low : n < last) :
    t.setAt (tickStart t.plan.rates.pictureTicks n) = some (setFor t n) := by
  have there := List.getElem?_eq_getElem (reelOfCovers film low).1
  rw [setFor, setAt, there]
  rfl

theorem framedGoes (film : WholeFilm t last) (fresh : t.started = false)
    (rate : t.plan.rates.soundPerPicture = .ok frames)
    (room : t.plan.soundChannels * frames * Sound.sampleSize ≤ maxBlock)
    (room' : t.plan.soundChannels * Sound.channelSize ≤ maxBlock)
    {ticks : List (Tick (t.plan.soundChannels * frames))} (count : ticks.length = last)
    (course : Course t t.plan.rates.pictureTicks frames 0 0 ticks)
    (clean : ∀ tick ∈ ticks, tick.Clean) :
    ∃ after, Goes (t.play t.enoughTicks) (Status.new t.plan.rates.picture t.plan.length)
      (⟨.stage "Encoding", ()⟩ ::
        (ticksSaid t.plan t.plan.rates.pictureTicks frames 0 ticks ++ finishSaid t.sets ++
          [⟨.trouble, none⟩]))
      (.ok ⟨last, t.sets.length, t.outputs, 0, 0, 0⟩) after := by
  let before := Status.new t.plan.rates.picture t.plan.length
  have enough : ticks.length ≤ t.enoughTicks := by
    have least : last * 1 ≤ last * t.plan.rates.pictureTicks := Nat.mul_le_mul_left _ film.lasts
    rw [enoughTicks, film.length, count]
    simp only [tickStart, Int.toNat_natCast]
    omega
  have ticking := (@goesTicks t _ frames t.enoughTicks 0 0 _ before _ _ film.accepted.channels rfl).mpr
    ⟨ticks, course, enough, rfl, rfl, rfl⟩
  obtain ⟨time, covered⟩ := courseClean clean before t.plan.rates.pictureTicks 0
  have zero := startZero t.plan.rates.pictureTicks
  refine ⟨_, (goesPlay fresh).mpr ⟨_, frames, _, _, _,
    FrameRates.pictureDurationExact film.accepted.picture, rate, room, room', zero ▸ ticking, rfl, ?_,
    rfl⟩⟩
  rw [covered, count, Nat.zero_add]
  rfl

theorem framedAnswered (form : Framed feed last perFrame frames sights block) (capacity : Nat)
    {t : Transfer} (sized : t.plan.soundChannels * frames = mix.outputs * frames)
    (fits : FitsWord64 (t.plan.soundChannels * frames)) (floor : Floor ω) :
    let ticks := (List.range last).map (frameTick form sized (setFor t))
    ∃ ended world,
      Answered studio.answers (Readahead.start feed mix capacity, floor)
        (⟨.stage "Encoding", ()⟩ ::
          (ticksSaid t.plan t.plan.rates.pictureTicks frames 0 ticks ++ finishSaid t.sets ++
            [⟨.trouble, none⟩]))
        (ended, ⟨world, floor.made, floor.calls ++ (ticks.flatMap (·.sent t.plan.soundChannels frames) ++
          (t.sets.flatMap FileSet.outlets).map (·, .finish))⟩) := by
  intro ticks
  obtain ⟨seen, _, _, world, ticked, reached⟩ := ticksAnswered studio form sized fits (setFor t)
    t.plan.rates.pictureTicks last (Nat.le_of_eq (Nat.zero_add last))
    (n := 0) (by simpa [Taken.none] using startReached feed mix capacity)
    { floor with world := studio.stage "Encoding" floor.world }
  obtain ⟨closed, finished⟩ := sendsAnswered studio seen
    ⟨world, floor.made, floor.calls ++ ticks.flatMap (·.sent t.plan.soundChannels frames)⟩
    ((t.sets.flatMap FileSet.outlets).map (·, .finish))
  rw [← List.range_eq_range'] at ticked
  rw [List.map_map, List.append_assoc] at finished
  exact ⟨_, _, answeredCons rfl (answeredAppend (answeredAppend ticked finished)
    (answeredCons (answersQuiet studio form reached _) (.nil _)))⟩

theorem framedRun (film : WholeFilm t last) (fresh : t.started = false)
    (status : t.status = Status.new t.plan.rates.picture t.plan.length)
    (rate : t.plan.rates.soundPerPicture = .ok frames)
    (form : Framed feed last (picturesPerTick t.plan) frames sights block) (capacity : Nat)
    (sized : t.plan.soundChannels * frames = mix.outputs * frames)
    (room : t.plan.soundChannels * frames * Sound.sampleSize ≤ maxBlock)
    (room' : t.plan.soundChannels * Sound.channelSize ≤ maxBlock)
    (taken : ∀ n < last, ∀ p ∈ sights n, (setFor t n).Takes p ∧ p.damaged = false ∧
      (setFor t n).shown p ≠ []) (floor : Floor ω) :
    let surroundings := Readahead.surroundings studio.observer (return ()) studio.give
    let ran := t.run t.enoughTicks surroundings (Readahead.start feed mix capacity) floor
    ran.1.1.1 = .ok ⟨last, t.sets.length, t.outputs, 0, 0, 0⟩ ∧
      ran.2.calls = floor.calls ++
        (((List.range last).map (frameTick form sized (setFor t))).flatMap
            (·.sent t.plan.soundChannels frames) ++
          (t.sets.flatMap FileSet.outlets).map (·, .finish)) := by
  intro surroundings ran
  let ticks := (List.range last).map (frameTick form sized (setFor t))
  have course : Course t t.plan.rates.pictureTicks frames 0 0 ticks :=
    courseWhole film fun n low => ⟨setForFound film low, form.sights n, fun p member =>
      (taken n low p member).1⟩
  have clean : ∀ tick ∈ ticks, tick.Clean := by
    intro tick member
    obtain ⟨n, low, rfl⟩ := List.mem_map.mp member
    exact ⟨fun p inside => (taken n (List.mem_range.mp low) p inside).2, rfl⟩
  have fits : FitsWord64 (t.plan.soundChannels * frames) := by
    unfold FitsWord64 Sound.sampleSize maxBlock at *
    omega
  obtain ⟨after, go⟩ := framedGoes film fresh rate room room' (by simp [ticks]) course clean
  obtain ⟨ended, world, answered⟩ :=
    framedAnswered studio form capacity sized fits floor
  rw [← status] at go
  have talk := runPaired surroundings.answer (t.dialogue t.enoughTicks)
    (Readahead.start feed mix capacity) floor
  have held : (t.dialogue t.enoughTicks).run (paired surroundings.answer)
      (Readahead.start feed mix capacity, floor) = _ := (saidRun go answered).1
  rw [held] at talk
  simp only [ran, Transfer.run, bind, StateT.bind, talk]
  exact ⟨rfl, rfl⟩

end Run
end Studio
end Telecine
