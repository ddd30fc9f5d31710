import Mathlib.Algebra.BigOperators.Group.List.Basic
import Mathlib.Algebra.GroupWithZero.Nat
import Telecine.Proofs.Lookahead.Faithful

/-! A consumer that takes turns: so many pictures, then one block of sound, as long as there are pictures.
A queue that is full lets a request for sound come back early, but what the feed has in front of the next
picture was handed over by then. So a feed whose sound keeps up with its pictures leaves no request short,
however long the queue and whatever the order of the steps. -/
namespace Telecine.Lookahead
open Readahead

def heardFrames (items : List Item) : Nat :=
  (items.map fun
    | .picture _ => 0
    | .sound sound => sound.frames).sum

def Stocked (items : List Item) (group frames : Nat) : Prop :=
  ∀ n, (n + 1) * group ≤ (pictures items).length →
    (n + 1) * frames ≤ heardFrames (lead ((n + 1) * group) items)

def played (mix : Mix) (items : List Item) (frames n : Nat) : List (List Float32) :=
  ((instants mix items).drop (n * frames)).take frames

inductive Turns (group frames size : Nat) (s : Readahead) : List Answer → Nat → Readahead → Prop where
  | start : Turns group frames size s [] 0 s
  | decoder {sounds asked now next} (before : Turns group frames size s sounds asked now)
      (step : now.advance = some next) : Turns group frames size s sounds asked next
  | picture {sounds asked now picture} (before : Turns group frames size s sounds asked now)
      (more : asked < group) (ready : waits now .picture = false)
      (given : (call now .picture).1 = .picture (.ok picture)) :
      Turns group frames size s sounds (asked + 1) (call now .picture).2
  | sound {sounds now} (before : Turns group frames size s sounds group now)
      (ready : waits now (.sound frames size) = false) :
      Turns group frames size s (sounds ++ [(call now (.sound frames size)).1]) 0
        (call now (.sound frames size)).2

/-- The blocks are the mixed sound of the feed, in order and complete. No request waits for ever, and a
consumer that is told of the end has had every picture. -/
structure NeverShort (feed : Feed) (mix : Mix) (group frames : Nat) (sounds : List Answer) (asked : Nat)
    (now : Readahead) : Prop where
  full : ∀ n < sounds.length, (played mix feed.items frames n).length = frames
  blocks : sounds = (List.range sounds.length).map fun n =>
    .sound (.ok ((played mix feed.items frames n).flatten, false)) (frames * mix.outputs)
  returns : ∃ later, Advances now later ∧ ∀ c, waits later c = false
  lasts : ∀ reason, waits now .picture = false → (call now .picture).1 = .picture (.error reason) →
    sounds.length * group + asked = (pictures feed.items).length ∧ feed.outcome = some reason

section Blocks
variable {mix : Mix} {items : List Item} {group frames n : Nat}

theorem heardAppend (items more : List Item) :
    heardFrames (items ++ more) = heardFrames items + heardFrames more := by
  simp [heardFrames]

theorem heardPrefix {front items : List Item} (h : front <+: items) :
    heardFrames front ≤ heardFrames items := by
  obtain ⟨rest, rfl⟩ := h
  rw [heardAppend]
  exact Nat.le_add_right ..

theorem instantsLength (mix : Mix) (items : List Item) :
    (instants mix items).length = heardFrames items := by
  induction items with
  | nil => rfl
  | cons item items ih =>
    cases item <;> simpa [instants, heardFrames, Mix.applyFrames] using ih

theorem flattenPart {α : Type} {rows : List (List α)} {width first count : Nat}
    (even : ∀ row ∈ rows, row.length = width) (within : first + count ≤ rows.length) :
    (rows.flatten.drop (first * width)).take (count * width) =
      ((rows.drop first).take count).flatten := by
  have front {rows : List (List α)} (even : ∀ row ∈ rows, row.length = width) {n : Nat}
      (within : n ≤ rows.length) : ((rows.map List.length).take n).sum = n * width := by
    rw [List.map_eq_replicate_iff.mpr even, List.take_replicate, Nat.min_eq_left within,
      List.sum_replicate_nat]
  have rest : ∀ row ∈ rows.drop first, row.length = width :=
    fun row member => even row (List.mem_of_mem_drop member)
  rw [← front even (Nat.le_of_add_right_le within), List.drop_sum_flatten,
    ← front rest (by rw [List.length_drop]; omega), List.take_sum_flatten]

theorem playedLength (within : (n + 1) * frames ≤ heardFrames items) :
    (played mix items frames n).length = frames := by
  rw [Nat.succ_mul] at within
  rw [played, List.length_take, List.length_drop, instantsLength]
  omega

theorem playedSamples (mix : Mix)
    (within : (n + 1) * frames ≤ heardFrames items) :
    ((samples mix items).drop (n * (frames * mix.outputs))).take (frames * mix.outputs) =
      (played mix items frames n).flatten := by
  rw [samplesInstants, ← Nat.mul_assoc, flattenPart instantWidth, played]
  rw [instantsLength, ← Nat.succ_mul]
  exact within

theorem stockedSamples (mix : Mix) (stocked : Stocked items group frames)
    (there : (n + 1) * group ≤ (pictures items).length) {m : Nat} (more : (n + 1) * group ≤ m) :
    (n + 1) * (frames * mix.outputs) ≤ (samples mix (lead m items)).length := by
  have enough := Nat.mul_le_mul_right mix.outputs (stocked n there)
  have early := (samplesPrefix mix (leadMono more items)).length_le
  have own := samplesLength mix (lead ((n + 1) * group) items)
  rw [instantsLength] at own
  rw [← Nat.mul_assoc]
  omega

theorem stockedFrames (stocked : Stocked items group frames)
    (there : (n + 1) * group ≤ (pictures items).length) : (n + 1) * frames ≤ heardFrames items :=
  (stocked n there).trans (heardPrefix (leadPrefix _ _))

end Blocks

section Turns
variable {feed : Feed} {mix : Mix} {capacity group frames n asked : Nat} {handed : List Item}
  {sounds : List Answer} {now : Readahead}

theorem soundTurn (stocked : Stocked feed.items group frames)
    (fits : FitsWord64 (frames * mix.outputs))
    (h : Reached feed mix capacity ⟨(n + 1) * group, n * (frames * mix.outputs), false⟩ handed now)
    (ready : waits now (.sound frames (frames * mix.outputs)) = false) :
    (n + 1) * group ≤ (pictures feed.items).length ∧
      (call now (.sound frames (frames * mix.outputs))).1 =
        .sound (.ok ((played mix feed.items frames n).flatten, false)) (frames * mix.outputs) := by
  have there : (n + 1) * group ≤ (pictures feed.items).length :=
    h.shown.trans (picturesPrefix (handedPrefix h)).length_le
  -- Whatever let the request come back, the sound in front of the picture that fills the queue is there.
  have least := readySound h ready
  have enough := stockedSamples mix stocked there
    (m := (n + 1) * group + max capacity 1 - 1) (by omega)
  have long : frames * mix.outputs ≤ now.ring.toList.length := by
    simp only [wanted, if_pos fits, Nat.min_self, stock] at least
    rw [Nat.succ_mul n] at enough
    omega
  have front : now.ring.toList.take (frames * mix.outputs) =
      (played mix feed.items frames n).flatten := by
    obtain ⟨rest, same⟩ := samplesPrefix mix (handedPrefix h)
    rw [← playedSamples mix (stockedFrames stocked there), ← same,
      List.drop_append_of_le_length h.heard, ← h.ring, List.take_append_of_le_length long]
  refine ⟨there, ?_⟩
  rw [soundCall (neededExact h _ fits), Nat.min_self, silenced, front, Nat.min_eq_left long]
  simp [Nat.not_lt.mpr long]

theorem turnsReached (stocked : Stocked feed.items group frames)
    (fits : FitsWord64 (frames * mix.outputs))
    (run : Turns group frames (frames * mix.outputs) (start feed mix capacity) sounds asked now) :
    (∃ handed, Reached feed mix capacity
        ⟨sounds.length * group + asked, sounds.length * (frames * mix.outputs), false⟩ handed now) ∧
      sounds.length * group ≤ (pictures feed.items).length ∧
      sounds = (List.range sounds.length).map fun n =>
        .sound (.ok ((played mix feed.items frames n).flatten, false)) (frames * mix.outputs) := by
  induction run with
  | start => exact ⟨⟨[], by simpa [Taken.none] using startReached feed mix capacity⟩, by simp, rfl⟩
  | decoder _ step ih =>
    obtain ⟨⟨handed, reached⟩, rest⟩ := ih
    obtain ⟨more, _, reached⟩ := advanceReached reached step
    exact ⟨⟨handed ++ more, reached⟩, rest⟩
  | picture _ _ _ given ih =>
    obtain ⟨⟨handed, reached⟩, rest⟩ := ih
    have next := pictureReached reached
    rw [given] at next
    exact ⟨⟨handed, next⟩, rest⟩
  | @sound sounds now _ ready ih =>
    obtain ⟨⟨handed, reached⟩, _, blocks⟩ := ih
    rw [← Nat.succ_mul] at reached
    obtain ⟨there, answer⟩ := soundTurn stocked fits reached ready
    have next := soundReached reached frames (frames * mix.outputs)
    rw [answer] at next
    refine ⟨⟨handed, ?_⟩, ?_, ?_⟩
    · rw [List.length_append, List.length_singleton, Nat.succ_mul _ (frames * mix.outputs)]
      exact next
    · rwa [List.length_append]
    · rw [answer, List.length_append, List.length_singleton, List.range_succ, List.map_append,
        ← blocks]
      rfl

theorem neverShort {outcome : Outage} (tells : feed.outcome = some outcome)
    (stocked : Stocked feed.items group frames)
    (fits : FitsWord64 (frames * mix.outputs))
    (run : Turns group frames (frames * mix.outputs) (start feed mix capacity) sounds asked now) :
    NeverShort feed mix group frames sounds asked now := by
  obtain ⟨⟨handed, reached⟩, there, blocks⟩ := turnsReached stocked fits run
  refine ⟨fun n low => playedLength (stockedFrames stocked ?_), blocks,
    ⟨now.runAhead, runAheadAdvances now,
      stuckAtOnce tells (runAheadReached reached) (runAheadStuck now)⟩,
    fun reason ready told => ?_⟩
  · exact (Nat.mul_le_mul_right group low).trans there
  · rw [readyPicture tells reached ready, Answer.picture.injEq, closedPicture] at told
    split at told
    · cases told
    · rename_i missing
      cases told
      have shown := reached.shown.trans (picturesPrefix (handedPrefix reached)).length_le
      exact ⟨Nat.le_antisymm shown (List.getElem?_eq_none_iff.mp missing), tells⟩

theorem turnsAdvances {size : Nat} {s later : Readahead} (run : Turns group frames size s sounds asked now)
    (steps : Advances now later) : Turns group frames size s sounds asked later := by
  induction steps with
  | refl => exact run
  | step first _ ih => exact ih (run.decoder first)

theorem turnsPictures {outcome : Outage} (tells : feed.outcome = some outcome)
    (stocked : Stocked feed.items group frames)
    (fits : FitsWord64 (frames * mix.outputs))
    (run : Turns group frames (frames * mix.outputs) (start feed mix capacity) sounds 0 now)
    (turn : asked ≤ group) (there : sounds.length * group + asked ≤ (pictures feed.items).length) :
    ∃ next, Turns group frames (frames * mix.outputs) (start feed mix capacity) sounds asked next := by
  induction asked with
  | zero => exact ⟨now, run⟩
  | succ asked ih =>
    obtain ⟨before, run⟩ := ih (by omega) (by omega)
    obtain ⟨later, steps, ready⟩ := (neverShort tells stocked fits run).returns
    have run := turnsAdvances run steps
    have served := neverShort tells stocked fits run
    cases told : later.takePicture.1 with
    | ok picture => exact ⟨_, run.picture turn (ready .picture) (congrArg Answer.picture told)⟩
    | error reason =>
      have all := (served.lasts reason (ready .picture) (congrArg Answer.picture told)).1
      omega

theorem turnsLast (mix : Mix) {outcome : Outage} (tells : feed.outcome = some outcome)
    (stocked : Stocked feed.items group frames)
    (fits : FitsWord64 (frames * mix.outputs)) (capacity : Nat)
    (there : n * group ≤ (pictures feed.items).length) :
    ∃ sounds now, sounds.length = n ∧
      Turns group frames (frames * mix.outputs) (start feed mix capacity) sounds 0 now := by
  induction n with
  | zero => exact ⟨[], _, rfl, .start⟩
  | succ n ih =>
    rw [Nat.succ_mul] at there
    obtain ⟨sounds, now, rfl, run⟩ := ih (Nat.le_of_add_right_le there)
    obtain ⟨shown, run⟩ := turnsPictures tells stocked fits run (Nat.le_refl _) there
    obtain ⟨later, steps, ready⟩ := (neverShort tells stocked fits run).returns
    exact ⟨_, _, by simp, (turnsAdvances run steps).sound (ready _)⟩

end Turns
end Telecine.Lookahead
