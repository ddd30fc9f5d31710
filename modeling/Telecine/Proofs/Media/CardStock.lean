import Telecine.Proofs.Lookahead.Framed
import Telecine.Proofs.Lookahead.Stocked
import Telecine.Proofs.Media.CardFeed

/-! A test card gives the sound of a picture right behind it, so a consumer that takes pictures and sound
in turns is never left short. Without a channel there are no frames of sound, and a card crashes where a
frame cannot be worked out. -/
namespace Telecine.Lookahead
open Readahead TestCard

section Framed
variable {sights : Nat → List Picture} {block : Nat → Sound} {group frames count : Nat}

theorem framedHeard (long : ∀ n, (block n).frames = frames) (ns : List Nat) :
    heardFrames (ns.flatMap (framed sights block)) = ns.length * frames := by
  induction ns with
  | nil => simp [heardFrames]
  | cons n ns ih =>
    have own : heardFrames (framed sights block n) = frames := by
      simp [heardFrames, framed, List.map_map, Function.comp_def, long]
    rw [List.flatMap_cons, heardAppend, own, ih, List.length_cons, Nat.succ_mul, Nat.add_comm]

theorem framedStocked (some : 0 < group) (even : ∀ n, (sights n).length = group)
    (long : ∀ n, (block n).frames = frames) :
    Stocked ((List.range count).flatMap (framed sights block)) group frames := by
  intro n there
  rw [framedPictures, rowsLength even] at there
  have low : n + 1 ≤ count := Nat.le_of_mul_le_mul_right there some
  have front := prefixOfLead (framedFront sights block low) (n := (n + 1) * group)
    (by rw [framedPictures, rowsLength even])
  have enough := heardPrefix front
  rwa [framedHeard long, List.length_range] at enough

end Framed

section Cards
variable {film : Film} {card : TestCard}

theorem startedCard (started : TestCard.start film = .ok card) :
    card = ⟨film, card.soundFrames, 0, []⟩ := by
  obtain ⟨frames, _, started⟩ := checkedBound started
  cases started
  rfl

theorem timedFramed (film : Film) (frames : Nat) :
    timedItems film frames =
      framed (fun n => (eyes film).map (timedPicture film n)) (frameSound film frames) := by
  funext n
  simp [timedItems, framed, List.map_map, Function.comp_def]

theorem cardFrames (started : TestCard.start film = .ok card) :
    (∃ count ≤ film.lengthFrames.toNat,
        card.feed.items = (List.range count).flatMap (timedItems film card.soundFrames)) ∧
      (card.feed.outcome ≠ none ↔
        ∀ n < film.lengthFrames.toNat, Formed film card.soundFrames n) := by
  obtain ⟨count, within, formed, items, ended⟩ :=
    feedFrames film card.soundFrames 0 rfl (Nat.le_refl _)
  rw [Nat.sub_zero] at within ended items
  have same : card.feed =
      feedWithin (film.lengthFrames.toNat * 3) ⟨film, card.soundFrames, 0, []⟩ := by
    conv_lhs => rw [startedCard started]
    rfl
  rw [same]
  refine ⟨⟨count, within, by rw [items, List.range_eq_range']⟩, ?_⟩
  rcases ended with ⟨rfl, ending⟩ | ⟨short, ending, formless⟩
  · simp only [Feed.outcome, ending]
    simpa using formed
  · simp only [Feed.outcome, ending]
    simp only [ne_eq, not_true_eq_false, false_iff]
    exact fun all => formless (by simpa using all count short)

theorem cardStocked (started : TestCard.start film = .ok card) (some : 0 < film.soundChannels) :
    Stocked card.feed.items (eyes film).length card.soundFrames ∧
      ∀ sound, .sound sound ∈ card.feed.items → sound.Uniform := by
  obtain ⟨⟨count, _, items⟩, _⟩ := cardFrames started
  rw [items]
  constructor
  · rw [timedFramed]
    refine framedStocked ?_ (fun n => List.length_map _) fun n => (frameSoundWhole some _ n).2
    unfold eyes
    split <;> decide
  · intro sound given
    obtain ⟨n, _, given⟩ := List.mem_flatMap.mp given
    have last : sound = frameSound film card.soundFrames n := by
      simpa [timedItems] using given
    exact last ▸ (frameSoundWhole some _ n).1

end Cards

/-- A feed whose sound keeps up leaves no request for sound short, in any order of the steps. The feed of
a test card with a channel keeps up, and it is told of its end unless a frame cannot be worked out. -/
theorem keepsUp :
    (∀ (feed : Feed) (mix : Mix) (capacity group frames : Nat) (sounds : List Answer) (asked : Nat)
        (now : Readahead),
      feed.outcome ≠ none → FitsWord64 (frames * mix.outputs) → Stocked feed.items group frames →
      Turns group frames (frames * mix.outputs) (start feed mix capacity) sounds asked now →
      NeverShort feed mix group frames sounds asked now) ∧
    ∀ (film : Film) (card : TestCard),
      TestCard.start film = .ok card → 0 < film.soundChannels →
      (∃ count ≤ film.lengthFrames.toNat,
        card.feed.items = (List.range count).flatMap (timedItems film card.soundFrames)) ∧
      Stocked card.feed.items (eyes film).length card.soundFrames ∧
      (∀ sound, .sound sound ∈ card.feed.items → sound.Uniform) ∧
      (card.feed.outcome ≠ none ↔
        ∀ n < film.lengthFrames.toNat, Formed film card.soundFrames n) := by
  refine ⟨fun feed mix capacity group frames sounds asked now tells fits stocked run => ?_,
    fun film card started some => ?_⟩
  · obtain ⟨outcome, tells⟩ := Option.ne_none_iff_exists'.mp tells
    exact neverShort tells stocked fits run
  · obtain ⟨items, outcome⟩ := cardFrames started
    obtain ⟨stocked, uniform⟩ := cardStocked started some
    exact ⟨items, stocked, uniform, outcome⟩

def threeFrames : Film := ⟨"1.0", "three", ⟨24, 48⟩, 1, true, 4, 2, 3, .single⟩

theorem threeFramesKeepUp :
    let card : TestCard := ⟨threeFrames, 2, 0, []⟩
    TestCard.start threeFrames = .ok card ∧ (pictures card.feed.items).length = 6 ∧
      Stocked card.feed.items 2 2 ∧ ∃ blocks now, blocks.length = 3 ∧
        Turns 2 2 (2 * 1) (start card.feed (.identity 1) 1) blocks 0 now ∧
        NeverShort card.feed (.identity 1) 2 2 blocks 0 now := by
  have started : TestCard.start threeFrames = .ok ⟨threeFrames, 2, 0, []⟩ := rfl
  obtain ⟨_, stocked, _, _⟩ := keepsUp.2 _ _ started Nat.one_pos
  obtain ⟨blocks, now, three, run⟩ := turnsLast (n := 3) (.identity 1)
    (show Feed.outcome _ = some .finished from rfl) stocked (by decide) 1 (Nat.le_refl 6)
  exact ⟨started, rfl, stocked, blocks, now, three, run,
    keepsUp.1 _ _ 1 2 2 _ _ _ (by decide) (by decide) stocked run⟩

def oneFrame (channels width height : Nat) : Film :=
  ⟨"1.0", "one", ⟨24, 48⟩, channels, false, width, height, 1, .single⟩

/-- A film without a channel has blocks of no frames; a film that is fit to be exported can have pictures
that no block of memory has room for. -/
theorem fallsBehind :
    let silent : TestCard := ⟨oneFrame 0 4 2, 2, 0, []⟩
    let huge : TestCard := ⟨oneFrame 1 2147483648 2147483648, 2, 0, []⟩
    (TestCard.start silent.film = .ok silent ∧ ¬Stocked silent.feed.items 1 2) ∧
      huge.film.validate = .ok () ∧ TestCard.start huge.film = .ok huge ∧ huge.feed.outcome = none := by
  refine ⟨⟨rfl, fun stocked => ?_⟩, rfl, rfl, rfl⟩
  have enough : 2 ≤ 0 := stocked 0 (Nat.le_refl 1)
  omega

end Telecine.Lookahead
