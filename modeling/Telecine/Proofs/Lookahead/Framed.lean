import Telecine.Proofs.Lookahead.Timing

/-! A feed that goes frame by frame, the pictures of a frame and then its sound. A consumer that takes it
frame by frame gets every picture and every sample of it, and never has to make do with silence. -/
namespace Telecine.Lookahead
open Readahead

def framed (sights : Nat → List Picture) (block : Nat → Sound) (n : Nat) : List Item :=
  (sights n).map .picture ++ [.sound (block n)]

structure Framed (feed : Feed) (count perFrame frames : Nat) (sights : Nat → List Picture)
    (block : Nat → Sound) : Prop where
  items : feed.items = (List.range count).flatMap (framed sights block)
  ending : feed.ending = .ends
  sights : ∀ n, (sights n).length = perFrame
  frames : ∀ n, (block n).frames = frames

section Items
variable (mix : Mix) (sights : Nat → List Picture) (block : Nat → Sound)

theorem framedPictures (ns : List Nat) :
    pictures (ns.flatMap (framed sights block)) = ns.flatMap sights := by
  induction ns with
  | nil => rfl
  | cons n ns ih =>
    have own : pictures (framed sights block n) = sights n := by
      simp [framed, pictures, List.filterMap_map]
    rw [List.flatMap_cons, List.flatMap_cons, picturesAppend, own, ih]

theorem framedSamples (ns : List Nat) :
    samples mix (ns.flatMap (framed sights block)) =
      ns.flatMap fun n => (mix.apply (block n)).interleaved := by
  induction ns with
  | nil => rfl
  | cons n ns ih =>
    have silent : samples mix ((sights n).map Item.picture) = [] := by
      simp [samples, List.flatMap_map]
    rw [List.flatMap_cons, List.flatMap_cons, samplesAppend, ih, framed, samplesAppend, silent]
    simp

theorem framedFront {n count : Nat} (low : n ≤ count) :
    (List.range n).flatMap (framed sights block) <+: (List.range count).flatMap (framed sights block) := by
  obtain ⟨more, rfl⟩ := Nat.exists_eq_add_of_le low
  have parts : List.range (n + more) = List.range n ++ (List.range more).map (n + ·) := List.range_add
  exact ⟨_, by rw [parts, List.flatMap_append]⟩

end Items

section Serving
variable {feed : Feed} {mix : Mix} {capacity count perFrame frames n : Nat}
  {sights : Nat → List Picture} {block : Nat → Sound} {handed : List Item} {s : Readahead}

theorem framedOutcome (form : Framed feed count perFrame frames sights block) :
    feed.outcome = some .finished ∧ feed.failure = none := by
  simp [Feed.outcome, Feed.failure, form.ending]

theorem framedBlock (form : Framed feed count perFrame frames sights block) (mix : Mix) (n : Nat) :
    (mix.apply (block n)).interleaved.length = mix.outputs * frames := by
  rw [Sound.interleavedLength, Mix.applyFrames, Mix.applyChannels, form.frames, Nat.mul_comm]

theorem framedPicture (form : Framed feed count perFrame frames sights block) {k taken : Nat}
    (h : Reached feed mix capacity ⟨n * perFrame + k, taken, false⟩ handed s) (low : n < count)
    {picture : Picture} (found : (sights n)[k]? = some picture) :
    s.runAhead.takePicture.1 = .ok picture ∧ ∃ handed,
      Reached feed mix capacity ⟨n * perFrame + (k + 1), taken, false⟩ handed
        s.runAhead.takePicture.2 := by
  have index : (pictures feed.items)[n * perFrame + k]? = some picture := by
    have inside : k < perFrame := by
      rw [← form.sights n]
      exact (List.getElem?_eq_some_iff.mp found).1
    rw [form.items, framedPictures, rowsAt form.sights low inside, found]
  have answer := aheadPicture (framedOutcome form).1 h
  rw [closedPicture, index] at answer
  have reached := pictureReached (runAheadReached h)
  rw [answer] at reached
  exact ⟨Answer.picture.inj answer, _, reached⟩

theorem framedReach (form : Framed feed count perFrame frames sights block) (low : n < count)
    (capacity : Nat) :
    (List.range (n + 1)).flatMap (framed sights block) <+:
      lead ((n + 1) * perFrame + max capacity 1) feed.items := by
  refine prefixOfLead ?_ ?_
  · rw [form.items]
    exact framedFront sights block low
  · rw [framedPictures, rowsLength form.sights]
    omega

theorem framedSound (form : Framed feed count perFrame frames sights block) {size : Nat}
    (sized : size = mix.outputs * frames) (fits : FitsWord64 size)
    (h : Reached feed mix capacity ⟨(n + 1) * perFrame, n * size, false⟩ handed s) (low : n < count) :
    ∃ next, s.runAhead.takeSound frames size =
        .ok ((⟨(mix.apply (block n)).interleaved, (framedBlock form mix n).trans sized.symm⟩, false),
          next) ∧
      ∃ handed, Reached feed mix capacity ⟨(n + 1) * perFrame, (n + 1) * size, false⟩ handed next := by
  subst sized
  have reached := runAheadReached h
  obtain ⟨more, beginning⟩ := framedReach form low capacity
  obtain ⟨rest, own⟩ := rowsDrop (framedBlock form mix) (Nat.lt_succ_self n)
  have ring : s.runAhead.ring.toList = (mix.apply (block n)).interleaved ++ (rest ++ samples mix more) := by
    rw [reached.ring, ← beginning, samplesAppend, framedSamples mix sights block,
      List.drop_append_of_le_length, own, List.append_assoc]
    rw [rowsLength (framedBlock form mix)]
    exact Nat.mul_le_mul_right _ (Nat.le_succ n)
  have needed : s.runAhead.needed frames (mix.outputs * frames) = .ok (mix.outputs * frames) := by
    rw [neededExact reached _ (by rwa [Nat.mul_comm]), Nat.mul_comm, Nat.min_self]
  have kept := soundReached reached frames (mix.outputs * frames)
  have length := framedBlock form mix n
  rw [soundCall needed] at kept
  have whole : silenced s.runAhead.ring.toList (mix.outputs * frames) (mix.outputs * frames) =
      (mix.apply (block n)).interleaved := by
    rw [silenced, ring, ← length, List.take_left]
    simp
  have long : mix.outputs * frames ≤ s.runAhead.ring.toList.length := by
    rw [ring, List.length_append, length]
    omega
  refine ⟨{ s.runAhead with ring := (s.runAhead.ring.take (mix.outputs * frames)).2 },
    (takeSoundExact needed).trans ?_, lead ((n + 1) * perFrame + max capacity 1) feed.items, ?_⟩
  · simp only [whole, Nat.not_lt.mpr long, decide_false]
  · rw [Nat.succ_mul n (mix.outputs * frames)]
    simpa [Taken.add, Nat.min_eq_left long] using kept

theorem framedTrouble (form : Framed feed count perFrame frames sights block) {taken : Taken}
    (h : Reached feed mix capacity taken handed s) : s.runAhead.takeFailure.1 = none := by
  rw [stuckTrouble (runAheadReached h) (runAheadStuck s), (framedOutcome form).2]
  split <;> rfl

end Serving
end Telecine.Lookahead
