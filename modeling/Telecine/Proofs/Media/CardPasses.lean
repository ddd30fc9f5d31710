import Telecine.Proofs.Lookahead.Blocks
import Telecine.Proofs.Media.CardFeed

/-! What a test card gives, pass after pass: of every frame its pictures and the sound behind them, and
nothing more once the film is over. The sound is that of one block cut at the frames. -/
namespace Telecine

theorem repeatedBytes (unit : ByteArray) (count : Nat) :
    (repeatBytes unit count).data.toList = (List.replicate count unit.data.toList).flatten := by
  induction count using Nat.strongRecOn with
  | ind count ih =>
    rw [repeatBytes]
    split
    · next none => simp [none]
    · next some =>
      have half := ih (count / 2) (by omega)
      have parts : count = count / 2 + count / 2 + count % 2 := by omega
      simp only []
      split
      · next even =>
        conv_rhs => rw [parts, even]
        simp only [ByteArray.data_append, Array.toList_append, half, Nat.add_zero, List.replicate_add,
          List.flatten_append]
      · next odd =>
        conv_rhs => rw [parts, show count % 2 = 1 by omega]
        simp only [ByteArray.data_append, Array.toList_append, half, List.replicate_add, List.flatten_append,
          List.replicate_one, List.flatten_singleton]

theorem repeatedPixels (light : Colour) (count : Nat) : repeatBytes light.bytes count =
    ⟨(List.replicate count [light.red, light.green, light.blue]).flatten.toArray⟩ := by
  have listed := repeatedBytes light.bytes count
  exact ByteArray.ext (Array.toList_inj.mp listed)

theorem repeatedSize (unit : ByteArray) (count : Nat) : (repeatBytes unit count).size = count * unit.size := by
  rw [ByteArray.size, ← Array.length_toList, repeatedBytes]
  simp

namespace TestCard
open Lookahead (sounds)
open Sound (joined)

def left (card : TestCard) : List Item :=
  card.waiting ++ (List.range' card.frame (card.film.lengthFrames.toNat - card.frame)).flatMap
    (timedItems card.film card.soundFrames)

def passed (n : Nat) (card : TestCard) : TestCard := (fun card => card.pass.2)^[n] card

section Passes
variable {film : Film} {frames : Nat}

theorem passLeft (formed : ∀ n < film.lengthFrames.toNat, Formed film frames n) (frame : Nat)
    (waiting : List Item) :
    let card : TestCard := ⟨film, frames, frame, waiting⟩
    ∃ frame waiting, card.pass = (.ok card.left.head?, ⟨film, frames, frame, waiting⟩) ∧
      left ⟨film, frames, frame, waiting⟩ = card.left.tail := by
  intro card
  cases waiting with
  | cons item waiting => exact ⟨frame, waiting, rfl, rfl⟩
  | nil =>
    by_cases low : (frame : Int) < film.lengthFrames
    · have worked := workOutFormed (formed frame (by omega)) []
      have all : card.left = timedItems film frames frame ++
          (List.range' (frame + 1) (film.lengthFrames.toNat - (frame + 1))).flatMap (timedItems film frames) := by
        have count : film.lengthFrames.toNat - frame = film.lengthFrames.toNat - (frame + 1) + 1 := by omega
        simp only [card, left, count, List.range'_succ, List.flatMap_cons, List.nil_append]
      have some : timedItems film frames frame ≠ [] := by simp [timedItems]
      refine ⟨frame + 1, (timedItems film frames frame).tail, ?_, ?_⟩
      · simp [card, pass, low, worked, pass.give, all, List.head?_append_of_ne_nil _ some]
      · rw [all, List.tail_append_of_ne_nil some]
        rfl
    · have done : film.lengthFrames.toNat - frame = 0 := by omega
      exact ⟨frame, [], by simp [card, pass, low, pass.give, left, done], by simp [card, left, done]⟩

theorem passedLeft (formed : ∀ n < film.lengthFrames.toNat, Formed film frames n) (n frame : Nat)
    (waiting : List Item) :
    let card : TestCard := ⟨film, frames, frame, waiting⟩
    ((passed n card).pass).1 = .ok card.left[n]? := by
  induction n generalizing frame waiting with
  | zero =>
    obtain ⟨_, _, given, _⟩ := passLeft formed frame waiting
    simp [passed, given, List.head?_eq_getElem?]
  | succ n ih =>
    obtain ⟨frame', waiting', given, rest⟩ := passLeft formed frame waiting
    have later := ih frame' waiting'
    simp only [rest, List.getElem?_tail] at later
    simpa only [passed, Function.iterate_succ_apply, given] using later

end Passes

section Tones
variable {film : Film} {rate channels frames : Nat}

theorem blockAppend (some : 0 < channels) (first before after : Nat) :
    (block rate channels first before).append (block rate channels (first + before) after) =
      block rate channels first (before + after) := by
  have channels : channels ≠ 0 := Nat.ne_of_gt some
  simp [block, Sound.append, channels, List.zipWith_map_left, List.zipWith_map_right, List.range_add,
    Nat.add_assoc]

theorem soundsFrames (frame count : Nat) :
    sounds ((List.range' frame count).flatMap (timedItems film frames)) =
      (List.range' frame count).map (frameSound film frames) := by
  induction count generalizing frame with
  | zero => rfl
  | succ count ih =>
    have own : sounds (timedItems film frames frame) = [frameSound film frames frame] := by
      simp [sounds, timedItems, List.filterMap_map]
    have more := ih (frame + 1)
    unfold sounds at own more ⊢
    rw [List.range'_succ, List.flatMap_cons, List.filterMap_append, own, more]
    rfl

theorem framesJoined (some : 0 < film.soundChannels) (frame count : Nat) :
    joined film.soundChannels ((List.range' frame count).map (frameSound film frames)) =
      block film.rates.sound film.soundChannels (frame * frames) (count * frames) := by
  induction count generalizing frame with
  | zero => simp [joined, block, List.map_const']
  | succ count ih =>
    have whole := @blockAppend film.rates.sound _ some (frame * frames) frames (count * frames)
    rw [List.range'_succ, List.map_cons, joined, List.foldr_cons, ← joined, ih, Nat.succ_mul, frameSound,
      whole, Nat.succ_mul, Nat.add_comm]

end Tones

def filled (film : Film) (red green blue : UInt8) (eye : Eye) (time : Time) : Picture :=
  ⟨⟨film.width, film.height,
      ⟨(List.replicate (film.width * film.height) [red, green, blue]).flatten.toArray⟩⟩, eye, time, false⟩

def ShowsFrame (film : Film) (frames n : Nat) (items : List Item) : Prop :=
  ∃ red green blue time, bars[n / film.rates.picture % 7]? = some ⟨red, green, blue⟩ ∧
    Time.ofFrames n film.rates.picture = .ok time ∧
    items = (if film.stereoscopic then
        [.picture (filled film red green blue .left time),
          .picture (filled film (red / 2) (green / 2) (blue / 2) .right time)]
      else [.picture (filled film red green blue .both time)]) ++
      [.sound ⟨frames, (List.range film.soundChannels).map fun channel =>
        (List.range frames).map fun i => tone film.rates.sound channel (n * frames + i)⟩]

theorem timedShows {film : Film} {frames n : Nat} (some : 0 < film.soundChannels)
    (formed : Formed film frames n) : ShowsFrame film frames n (timedItems film frames n) := by
  have inside : n / film.rates.picture % 7 < bars.length := Nat.mod_lt _ (by decide)
  have rate : max film.rates.picture 1 = film.rates.picture := by
    have := formed.rate
    omega
  obtain ⟨⟨red, green, blue⟩, light⟩ : ∃ light, colour film.rates.picture n = light := ⟨_, rfl⟩
  refine ⟨red, green, blue, _, ?_, ofFramesExact formed.rate formed.time, ?_⟩
  · rw [← light, colour, rate, List.getD_eq_getElem _ _ inside, List.getElem?_eq_getElem inside]
  · have channels : film.soundChannels ≠ 0 := Nat.ne_of_gt some
    unfold timedItems eyes
    simp only [frameSound, block, if_neg channels, timedPicture, shownPicture, light, filled,
      repeatedPixels]
    cases film.stereoscopic <;> rfl

theorem cardPasses (film : Film) (rate : film.rates.picture ≠ 0) (heard : film.rates.sound < 4294967296)
    (some : 0 < film.soundChannels) (length : FitsInt64 (film.lengthFrames * Time.ticksPerSecond))
    (samples : ∀ frames, film.rates.soundPerPicture = .ok frames →
      FitsWord64 (film.lengthFrames.toNat * frames))
    (image : film.width * film.height * 3 ≤ maxBlock)
    (room : film.soundChannels * Sound.channelSize ≤ maxBlock) :
    ∃ card frames, TestCard.start film = .ok card ∧ film.rates.soundPerPicture = .ok frames ∧
      ∃ shown : Nat → List Item,
        (∀ n < film.lengthFrames.toNat, ShowsFrame film frames n (shown n)) ∧
        let items := (List.range film.lengthFrames.toNat).flatMap shown
        (∀ n, (card.passed n).pass.1 = .ok items[n]?) ∧
        (∀ picture, .picture picture ∈ items →
          picture.image.width = film.width ∧ picture.image.height = film.height ∧
            picture.image.pixels.size = film.width * film.height * 3) ∧
        joined film.soundChannels (sounds items) =
          block film.rates.sound film.soundChannels 0 (film.lengthFrames.toNat * frames) := by
  obtain ⟨frames, counted, _⟩ := FrameRates.soundPerPictureExact rate heard
  have fits := samples frames counted
  have formed : ∀ n < film.lengthFrames.toNat, Formed film frames n := by
    intro n low
    have fewer := Nat.mul_le_mul_right frames (show n + 1 ≤ film.lengthFrames.toNat from low)
    refine ⟨rate, ?_, image, room, ?_⟩
    · unfold FitsInt64 Time.ticksPerSecond at *
      omega
    · unfold FitsWord64 at *
      omega
  refine ⟨⟨film, frames, 0, []⟩, frames, by rw [start, counted]; rfl, counted, timedItems film frames,
    fun n low => timedShows some (formed n low), fun n => ?_, fun picture given => ?_, ?_⟩
  · rw [passedLeft formed]
    simp [left, List.range_eq_range']
  · obtain ⟨n, _, given⟩ := List.mem_flatMap.mp given
    obtain ⟨eye, _, rfl⟩ : ∃ eye ∈ eyes film, timedPicture film n eye = picture := by
      simpa [timedItems] using given
    exact ⟨rfl, rfl, repeatedSize _ _⟩
  · rw [List.range_eq_range', soundsFrames, framesJoined some, Nat.zero_mul]

def inDepth : Film := ⟨"1.0", "in depth", ⟨24, 48⟩, 1, true, 2, 2, 2, .single⟩

theorem cardPassesInDepth : ∃ card,
    inDepth.rates.picture ≠ 0 ∧ inDepth.rates.sound < 4294967296 ∧ 0 < inDepth.soundChannels ∧
    FitsInt64 (inDepth.lengthFrames * Time.ticksPerSecond) ∧
    (∀ frames, inDepth.rates.soundPerPicture = .ok frames →
      FitsWord64 (inDepth.lengthFrames.toNat * frames)) ∧
    inDepth.width * inDepth.height * 3 ≤ maxBlock ∧ inDepth.soundChannels * Sound.channelSize ≤ maxBlock ∧
    TestCard.start inDepth = .ok card ∧ (card.passed 6).pass.1 = .ok none ∧
    ∃ picture, (card.passed 4).pass.1 = .ok (some (.picture picture)) ∧ picture.eye = .right ∧
      picture.time = ⟨4000⟩ ∧ picture.image.pixels.data.toList = List.replicate 12 96 ∧
      picture.image.pixels.size = 12 := by
  have counted : inDepth.rates.soundPerPicture = .ok 2 := rfl
  have samples (frames : Nat) (same : inDepth.rates.soundPerPicture = .ok frames) :
      FitsWord64 (inDepth.lengthFrames.toNat * frames) := by
    obtain rfl := Except.ok.inj (counted.symm.trans same)
    decide
  obtain ⟨card, frames, started, _, shown, shows, passes, sizes, _⟩ :=
    cardPasses inDepth (by decide) (by decide) (by decide) (by decide) samples (by decide) (by decide)
  obtain ⟨_, _, _, _, _, _, first⟩ := shows 0 (by decide)
  obtain ⟨red, green, blue, time, light, starts, second⟩ := shows 1 (by decide)
  have white : bars[1 / inDepth.rates.picture % 7]? = some ⟨192, 192, 192⟩ := rfl
  have later : Time.ofFrames 1 inDepth.rates.picture = .ok ⟨4000⟩ := rfl
  cases Option.some.inj (white.symm.trans light)
  cases Except.ok.inj (later.symm.trans starts)
  have items : (List.range inDepth.lengthFrames.toNat).flatMap shown = shown 0 ++ shown 1 := by
    simp [inDepth, List.range_succ]
  rw [items, first, second] at passes sizes
  refine ⟨card, by decide, by decide, by decide, by decide, samples, by decide, by decide, started,
    passes 6, _, passes 4, rfl, rfl, by decide, (sizes _ ?_).2.2⟩
  simp [inDepth]

def wall : Film := ⟨"1.0", "wall", ⟨24, 48⟩, 1, false, 2147483648, 2147483648, 1, .single⟩

theorem wallFails : ∃ card, wall.validate = .ok () ∧ wall.rates.soundPerPicture = .ok 2 ∧
    FitsInt64 (wall.lengthFrames * Time.ticksPerSecond) ∧ FitsWord64 (wall.lengthFrames.toNat * 2) ∧
    TestCard.start wall = .ok card ∧ card.pass.1 = .error .overflow :=
  ⟨⟨wall, 2, 0, []⟩, rfl, rfl, by decide, by decide, rfl, rfl⟩

end TestCard
end Telecine
