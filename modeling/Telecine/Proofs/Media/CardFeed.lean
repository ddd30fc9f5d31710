import Telecine.Media.TestCard
import Telecine.Proofs.Film.Reels

/-! What a test card gives: frame after frame, the pictures of the frame and then its sound, up to the
first frame that cannot be worked out, and all of them where each can. -/
namespace Telecine.TestCard

def eyes (film : Film) : List Eye := if film.stereoscopic then [.left, .right] else [.both]

def shownPicture (film : Film) (frame : Nat) (eye : Eye) : Picture :=
  let light := colour film.rates.picture frame
  let light := if eye = .right then light.halved else light
  ⟨⟨film.width, film.height, repeatBytes light.bytes (film.width * film.height)⟩, eye,
    tickStart film.rates.pictureTicks frame, false⟩

def frameSound (film : Film) (frames frame : Nat) : Sound :=
  block film.rates.sound film.soundChannels (frame * frames) frames

def frameItems (film : Film) (frames frame : Nat) : List Item :=
  (eyes film).map (fun eye => .picture (shownPicture film frame eye)) ++
    [.sound (frameSound film frames frame)]

def timedPicture (film : Film) (frame : Nat) (eye : Eye) : Picture :=
  { shownPicture film frame eye with
    time := ⟨((frame : Int) * Time.ticksPerSecond).tdiv film.rates.picture⟩ }

def timedItems (film : Film) (frames frame : Nat) : List Item :=
  (eyes film).map (fun eye => .picture (timedPicture film frame eye)) ++
    [.sound (frameSound film frames frame)]

/-- What working out a frame takes: room for a picture and for the channels, and numbers that do not get
too large. -/
structure Formed (film : Film) (frames frame : Nat) : Prop where
  rate : film.rates.picture ≠ 0
  time : FitsInt64 ((frame : Int) * Time.ticksPerSecond)
  image : film.width * film.height * 3 ≤ maxBlock
  channels : film.soundChannels * Sound.channelSize ≤ maxBlock
  samples : FitsWord64 ((frame + 1) * frames)

structure Workable (film : Film) (frames : Nat) : Prop where
  fit : film.Fit
  image : film.width * film.height * 3 ≤ maxBlock
  length : FitsInt64 (film.lengthFrames * Time.ticksPerSecond)
  samples : FitsWord64 (film.lengthFrames.toNat * frames)

theorem frameSoundWhole {film : Film} (some : 0 < film.soundChannels) (frames frame : Nat) :
    (frameSound film frames frame).Uniform ∧ (frameSound film frames frame).frames = frames := by
  have channels : film.soundChannels ≠ 0 := Nat.ne_of_gt some
  refine ⟨fun c member => ?_, by simp [frameSound, block, channels]⟩
  obtain ⟨channel, _, rfl⟩ := List.mem_map.mp member
  simp [frameSound, block, channels]

section Frames
variable {film : Film} {frames frame : Nat}

theorem plainExact (room : film.width * film.height * 3 ≤ maxBlock) (colour : Colour) :
    Image.plain film.width film.height colour =
      .ok ⟨film.width, film.height, repeatBytes colour.bytes (film.width * film.height)⟩ := by
  have count : Image.byteCount film.width film.height = .ok (film.width * film.height * 3) :=
    Image.byteCountExact (by unfold FitsWord64 maxBlock at *; omega)
  have reserved : reserve (film.width * film.height * 3) 1 = .ok () :=
    reserve_eq_ok_iff.mpr (by omega)
  simp only [Image.plain, count, reserved, bind, Except.bind]
  rfl

theorem plainRoom {colour : Colour} {image : Image}
    (ok : Image.plain film.width film.height colour = .ok image) :
    film.width * film.height * 3 ≤ maxBlock := by
  obtain ⟨_, count, ok⟩ := checkedBound ok
  obtain ⟨_, area, count⟩ := checkedBound count
  obtain ⟨⟨⟩, room, _⟩ := checkedBound ok
  obtain ⟨_, rfl⟩ := word64_eq_ok_iff.mp area
  obtain ⟨_, rfl⟩ := word64_eq_ok_iff.mp count
  simpa using reserve_eq_ok_iff.mp room

theorem startExact (work : Workable film frames) (low : (frame : Int) < film.lengthFrames) :
    Time.ofFrames frame film.rates.picture =
      .ok (tickStart film.rates.pictureTicks frame) := by
  have length := work.length
  exact ofFramesWhole work.fit.rate work.fit.divides
    (by unfold FitsInt64 Time.ticksPerSecond at *; omega)

theorem picturesExact (formed : Formed film frames frame) :
    TestCard.pictures film frame =
      .ok ((eyes film).map fun eye => .picture (timedPicture film frame eye)) := by
  unfold TestCard.pictures eyes
  simp only [picture, ofFramesExact formed.rate formed.time, plainExact formed.image, bind,
    Except.bind, pure, Except.pure]
  cases film.stereoscopic <;> rfl

theorem pictureFormed {eye : Eye} {colour : Colour} {item : Item}
    (ok : picture film frame eye colour = .ok item) :
    film.rates.picture ≠ 0 ∧ FitsInt64 ((frame : Int) * Time.ticksPerSecond) ∧
      film.width * film.height * 3 ≤ maxBlock := by
  obtain ⟨_, time, ok⟩ := checkedBound ok
  obtain ⟨_, image, _⟩ := checkedBound ok
  obtain ⟨some, fits⟩ := ofFramesOk time
  exact ⟨some, fits, plainRoom image⟩

theorem soundExact (formed : Formed film frames frame) (waiting : List Item) :
    sound ⟨film, frames, frame, waiting⟩ = .ok (.sound (frameSound film frames frame)) := by
  simp only [TestCard.sound, reserve_eq_ok_iff.mpr formed.channels,
    word64_eq_ok_iff.mpr ⟨formed.samples, rfl⟩, bind, Except.bind]
  rfl

theorem workOutFormed (formed : Formed film frames frame) (waiting : List Item) :
    workOut ⟨film, frames, frame, waiting⟩ =
      (.ok (), ⟨film, frames, frame + 1, timedItems film frames frame⟩) := by
  simp only [workOut, picturesExact formed, soundExact formed]
  rfl

theorem formedWorkOut {card next : TestCard} (worked : card.workOut = (.ok (), next)) :
    Formed card.film card.soundFrames card.frame := by
  unfold workOut at worked
  split at worked
  · cases worked
  · rename_i shown pictures
    split at worked
    · cases worked
    · rename_i block sound
      obtain ⟨⟨⟩, room, sound⟩ := checkedBound sound
      obtain ⟨_, counted, _⟩ := checkedBound sound
      have image : ∃ eye colour item, picture card.film card.frame eye colour = .ok item := by
        unfold TestCard.pictures at pictures
        split at pictures <;>
          obtain ⟨item, made, _⟩ := checkedBound pictures <;> exact ⟨_, _, item, made⟩
      obtain ⟨_, _, _, made⟩ := image
      obtain ⟨some, time, image⟩ := pictureFormed made
      exact ⟨some, time, image, reserve_eq_ok_iff.mp room, (word64_eq_ok_iff.mp counted).1⟩

end Frames

section Feeding
variable (film : Film) (frames : Nat) {frame : Nat}

theorem feedWaiting (frame : Nat) (waiting : List Item) (fuel : Nat) :
    let rest := feedWithin fuel ⟨film, frames, frame, []⟩
    (feedWithin (waiting.length + fuel) ⟨film, frames, frame, waiting⟩).items = waiting ++ rest.items ∧
      (feedWithin (waiting.length + fuel) ⟨film, frames, frame, waiting⟩).ending = rest.ending := by
  intro rest
  induction waiting with
  | nil => simp [rest]
  | cons item waiting ih =>
    rw [List.length_cons, Nat.succ_add_eq_add_succ, Nat.add_succ]
    simp [feedWithin, pass, pass.give, Feed.items, Feed.ending, ih]

theorem feedDone (done : ¬(frame : Int) < film.lengthFrames) (fuel : Nat) :
    feedWithin fuel ⟨film, frames, frame, []⟩ = .ends := by
  cases fuel <;> simp [feedWithin, pass, pass.give, done]

theorem feedFormed (formed : Formed film frames frame) (low : (frame : Int) < film.lengthFrames)
    (fuel : Nat) :
    feedWithin (fuel + 1) ⟨film, frames, frame, []⟩ =
      feedWithin (fuel + 1) ⟨film, frames, frame + 1, timedItems film frames frame⟩ := by
  have some : timedItems film frames frame ≠ [] := by simp [timedItems]
  have same : pass ⟨film, frames, frame, []⟩ =
      pass ⟨film, frames, frame + 1, timedItems film frames frame⟩ := by
    simp [pass, low, workOutFormed formed, some]
  simp only [feedWithin, same]

theorem feedFails (formless : ¬Formed film frames frame) (low : (frame : Int) < film.lengthFrames)
    (fuel : Nat) : feedWithin (fuel + 1) ⟨film, frames, frame, []⟩ = .crashes := by
  cases worked : workOut ⟨film, frames, frame, []⟩ with
  | mk result next =>
    cases result with
    | ok => exact absurd (formedWorkOut worked) formless
    | error fault => simp [feedWithin, pass, low, worked]

theorem framesShort (frame : Nat) : (timedItems film frames frame).length ≤ 3 := by
  unfold timedItems eyes
  cases film.stereoscopic <;> simp

theorem feedFrames (frame : Nat) {left fuel : Nat} (all : left = film.lengthFrames.toNat - frame)
    (enough : left * 3 ≤ fuel) :
    ∃ count ≤ left, (∀ n < count, Formed film frames (frame + n)) ∧
      (feedWithin fuel ⟨film, frames, frame, []⟩).items =
        (List.range' frame count).flatMap (timedItems film frames) ∧
      let ending := (feedWithin fuel ⟨film, frames, frame, []⟩).ending
      (count = left ∧ ending = .ends ∨
        count < left ∧ ending = .crashes ∧ ¬Formed film frames (frame + count)) := by
  induction left generalizing frame fuel with
  | zero =>
    have done := feedDone film frames (show ¬(frame : Int) < film.lengthFrames by omega) fuel
    exact ⟨0, Nat.le_refl _, by simp, by simp [done, Feed.items], .inl ⟨rfl, by rw [done]; rfl⟩⟩
  | succ left ih =>
    have low : (frame : Int) < film.lengthFrames := by omega
    obtain ⟨fuel, rfl⟩ := Nat.exists_eq_succ_of_ne_zero (n := fuel) (by omega)
    by_cases formed : Formed film frames frame
    · have short := framesShort film frames frame
      obtain ⟨rest, fuelled⟩ := Nat.exists_eq_add_of_le
        (show (timedItems film frames frame).length ≤ fuel + 1 by omega)
      obtain ⟨count, within, earlier, items, ending⟩ := ih
        (frame + 1) (by omega) (show left * 3 ≤ rest by omega)
      obtain ⟨given, last⟩ := feedWaiting film frames (frame + 1)
        (timedItems film frames frame) rest
      rw [← fuelled, ← feedFormed film frames formed low] at given last
      refine ⟨count + 1, by omega, fun n inside => ?_, ?_, ?_⟩
      · cases n with
        | zero => exact formed
        | succ n => simpa [Nat.add_comm, Nat.add_left_comm] using earlier n (by omega)
      · rw [given, items, List.range'_succ, List.flatMap_cons]
      · rw [last]
        simpa [Nat.add_comm, Nat.add_left_comm] using ending
    · rw [feedFails film frames formed low]
      exact ⟨0, Nat.zero_le _, by simp, by simp [Feed.items], .inr ⟨Nat.succ_pos _, rfl, formed⟩⟩

end Feeding

theorem workableFormed {film : Film} {frames frame : Nat} (work : Workable film frames)
    (low : frame < film.lengthFrames.toNat) : Formed film frames frame := by
  have length := work.length
  have samples := work.samples
  have channels := work.fit.channels.2
  have fewer : (frame + 1) * frames ≤ film.lengthFrames.toNat * frames :=
    Nat.mul_le_mul_right _ low
  refine ⟨work.fit.rate, ?_, work.image, ?_, ?_⟩
  · unfold FitsInt64 Time.ticksPerSecond at *
    omega
  · unfold Film.maxSoundChannels at channels
    unfold Sound.channelSize maxBlock
    omega
  · unfold FitsWord64 at *
    omega

theorem timedWhole {film : Film} {frames frame : Nat} (work : Workable film frames)
    (low : frame < film.lengthFrames.toNat) : timedItems film frames frame = frameItems film frames frame := by
  have formed := workableFormed work low
  have time : (⟨((frame : Int) * Time.ticksPerSecond).tdiv film.rates.picture⟩ : Time) =
      tickStart film.rates.pictureTicks frame :=
    Except.ok.inj ((ofFramesExact formed.rate formed.time).symm.trans (startExact work (by omega)))
  simp only [timedItems, frameItems, timedPicture, time]
  rfl

theorem feedExact {film : Film} {frames : Nat} (work : Workable film frames) :
    let card : TestCard := ⟨film, frames, 0, []⟩
    card.feed.items = (List.range film.lengthFrames.toNat).flatMap (frameItems film frames) ∧
      card.feed.ending = .ends := by
  intro card
  obtain ⟨count, within, _, items, ended | ⟨short, _, formless⟩⟩ :=
    feedFrames film frames 0 rfl (Nat.le_refl _)
  · obtain ⟨rfl, ending⟩ := ended
    refine ⟨items.trans ?_, ending⟩
    rw [Nat.sub_zero, ← List.range_eq_range']
    exact List.flatMap_congr fun n low => timedWhole work (List.mem_range.mp low)
  · exact absurd (workableFormed work (by omega)) formless

end Telecine.TestCard
