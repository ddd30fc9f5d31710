import Telecine.Proofs.Lookahead.Reached

/-! The consumer's side: its calls, what they answer, and how they fall between the decoder's steps.
A call is answered in a state in which it need not wait. `ahead` is the one schedule in which the
decoder has done all it can before each call. -/
namespace Telecine.Lookahead
open Readahead

inductive Call
  | picture
  | sound (frames size : Nat)
  | trouble
  deriving DecidableEq, Repr

/-- `real` counts the samples of a buffer that came from the ring; what follows them is silence. -/
inductive Answer
  | picture (answer : Except Outage Picture)
  | sound (answer : Checked (List Float32 × Bool)) (real : Nat)
  | trouble (failure : Option Failure)

def waits (s : Readahead) : Call → Bool
  | .picture => s.pictureWaits
  | .sound frames size => match s.needed frames size with
    | .ok needed => s.soundWaits needed
    | .error _ => false
  | .trouble => false

def call (s : Readahead) : Call → Answer × Readahead
  | .picture => (.picture s.takePicture.1, s.takePicture.2)
  | .sound frames size => match s.takeSound frames size with
    | .ok ((buffer, short), next) =>
      (.sound (.ok (buffer.val, short)) (s.ring.toList.length - next.ring.toList.length), next)
    | .error fault => (.sound (.error fault) 0, s)
  | .trouble => (.trouble s.takeFailure.1, s.takeFailure.2)

def Taken.add (taken : Taken) : Answer → Taken
  | .picture (.ok _) => { taken with pictures := taken.pictures + 1 }
  | .picture (.error _) => taken
  | .sound _ real => { taken with samples := taken.samples + real }
  | .trouble failure => { taken with failure := taken.failure || failure.isSome }

inductive Interleaved : Readahead → List Call → List Answer → Prop where
  | done (s) : Interleaved s [] []
  | decoder {s next calls answers} (step : s.advance = some next)
      (rest : Interleaved next calls answers) : Interleaved s calls answers
  | consumer {s c calls answers} (ready : waits s c = false)
      (rest : Interleaved (call s c).2 calls answers) :
      Interleaved s (c :: calls) ((call s c).1 :: answers)

def ahead (s : Readahead) : List Call → List Answer
  | [] => []
  | c :: calls => (call s.runAhead c).1 :: ahead (call s.runAhead c).2 calls

def silenced (samples : List Float32) (needed size : Nat) : List Float32 :=
  samples.take needed ++ List.replicate (size - min needed samples.length) 0

theorem neededWithin {s : Readahead} {frames size needed : Nat}
    (h : s.needed frames size = .ok needed) : needed ≤ size := by
  unfold Readahead.needed word64 at h
  split at h
  · cases h
    exact Nat.min_le_right ..
  · cases h

theorem silencedLength (samples : List Float32) {needed size : Nat} (within : needed ≤ size) :
    (silenced samples needed size).length = size := by
  simp only [silenced, List.length_append, List.length_take, List.length_replicate]
  omega

theorem takeSoundExact {s : Readahead} {frames size needed : Nat}
    (h : s.needed frames size = .ok needed) :
    s.takeSound frames size =
      .ok ((⟨silenced s.ring.toList needed size, silencedLength _ (neededWithin h)⟩,
        decide (s.ring.toList.length < needed)), { s with ring := (s.ring.take needed).2 }) := by
  have fits : min size needed = needed := Nat.min_eq_right (neededWithin h)
  have short : min needed s.ring.toList.length < needed ↔ s.ring.toList.length < needed := by omega
  simp [takeSound, h, bind, Except.bind, pure, Except.pure, padded, silenced, List.take_take, fits,
    short]

theorem soundCall {s : Readahead} {frames size needed : Nat}
    (h : s.needed frames size = .ok needed) :
    call s (.sound frames size) =
      (.sound (.ok (silenced s.ring.toList needed size, decide (s.ring.toList.length < needed)))
        (min needed s.ring.toList.length), { s with ring := (s.ring.take needed).2 }) := by
  have left : s.ring.toList.length - (s.ring.toList.length - needed) =
      min needed s.ring.toList.length := by omega
  simp [call, takeSoundExact h, left]

theorem takeSoundFault {s : Readahead} {frames size : Nat} {fault : Fault}
    (h : s.needed frames size = .error fault) : s.takeSound frames size = .error fault := by
  rw [takeSound, h]
  rfl

theorem soundFault {s : Readahead} {frames size : Nat} {fault : Fault}
    (h : s.needed frames size = .error fault) :
    call s (.sound frames size) = (.sound (.error fault) 0, s) := by
  rw [call, takeSoundFault h]

section Invariant
variable {feed : Feed} {mix : Mix} {capacity : Nat} {taken : Taken} {handed : List Item}
  {s : Readahead}

theorem neededExact (h : Reached feed mix capacity taken handed s) {frames : Nat} (size : Nat)
    (fits : FitsWord64 (frames * mix.outputs)) :
    s.needed frames size = .ok (min (frames * mix.outputs) size) := by
  rw [Readahead.needed, h.mixed, word64_eq_ok_iff.mpr ⟨fits, rfl⟩]
  rfl

theorem neededFault (h : Reached feed mix capacity taken handed s) {frames : Nat} (size : Nat)
    (large : ¬FitsWord64 (frames * mix.outputs)) : s.needed frames size = .error .overflow := by
  rw [Readahead.needed, h.mixed, word64, if_neg large]
  rfl

theorem nextPicture (h : Reached feed mix capacity taken handed s) {picture : Picture}
    {rest : List Picture} (queue : s.queue = picture :: rest) :
    (pictures feed.items)[taken.pictures]? = some picture := by
  have found : (pictures handed)[taken.pictures]? = some picture := by
    rw [h.queue] at queue
    rw [← List.head?_drop, queue, List.head?_cons]
  obtain ⟨later, same⟩ := picturesPrefix (handedPrefix h)
  rw [← same, List.getElem?_append_left (List.getElem?_eq_some_iff.mp found).1]
  exact found

theorem noPictureLeft (h : Reached feed mix capacity taken handed s) (queue : s.queue = [])
    (gone : s.decoder = .gone) : (pictures feed.items)[taken.pictures]? = none := by
  rw [h.queue, goneHanded h gone] at queue
  exact List.getElem?_eq_none (List.drop_eq_nil_iff.mp queue)

theorem pictureReached (h : Reached feed mix capacity taken handed s) :
    Reached feed mix capacity (taken.add (call s .picture).1) handed (call s .picture).2 := by
  cases hq : s.queue with
  | nil => simpa [call, takePicture, hq, Taken.add] using h
  | cons picture rest =>
    obtain ⟨mixed, room, read, ending, queue, shown, bounded, ring, heard, stage⟩ := h
    have tail : rest = (pictures handed).drop (taken.pictures + 1) := by
      rw [← List.drop_drop, ← queue, hq, List.drop_one, List.tail_cons]
    have more : taken.pictures < (pictures handed).length := by
      have length := congrArg List.length (hq.symm.trans queue)
      simp only [List.length_cons, List.length_drop] at length
      omega
    simp only [call, takePicture, hq, Taken.add]
    exact ⟨mixed, room, read, ending, tail, more, by simpa only using by omega, ring, heard, stage⟩

theorem soundReached (h : Reached feed mix capacity taken handed s) (frames size : Nat) :
    Reached feed mix capacity (taken.add (call s (.sound frames size)).1) handed
      (call s (.sound frames size)).2 := by
  cases hn : s.needed frames size with
  | error fault => simpa [soundFault hn, Taken.add] using h
  | ok needed =>
    obtain ⟨mixed, room, read, ending, queue, shown, bounded, ring, heard, stage⟩ := h
    have length : s.ring.toList.length = (samples mix handed).length - taken.samples := by
      rw [ring, List.length_drop]
    rw [soundCall hn]
    refine ⟨mixed, room, read, ending, queue, shown, bounded, ?_, ?_, stage⟩
    · simp only [Ring.toList_take_snd, Taken.add]
      rw [List.drop_eq_drop_min, ring, List.drop_drop, ← ring]
    · simp only [Taken.add]
      omega

theorem toldOnce {failure left : Option Failure} {told : Bool}
    (h : left = if told then none else failure) :
    none = if told || left.isSome then none else failure := by
  subst h
  cases told <;> cases failure <;> rfl

theorem troubleReached (h : Reached feed mix capacity taken handed s) :
    Reached feed mix capacity (taken.add (call s .trouble).1) handed (call s .trouble).2 := by
  obtain ⟨mixed, room, read, ending, queue, shown, bounded, ring, heard, stage⟩ := h
  refine ⟨mixed, room, read, ending, queue, shown, bounded, ring, heard, ?_⟩
  simp only [Stage, call, takeFailure, Taken.add] at stage ⊢
  cases hd : s.decoder with
  | idle | holding item =>
    simp only [hd] at stage ⊢
    simp [stage]
  | stopping reason =>
    simp only [hd] at stage ⊢
    exact ⟨stage.1, stage.2.1, stage.2.2.1, toldOnce stage.2.2.2⟩
  | gone =>
    simp only [hd] at stage ⊢
    exact ⟨stage.1, stage.2.1, toldOnce stage.2.2⟩

theorem callReached (h : Reached feed mix capacity taken handed s) (c : Call) :
    Reached feed mix capacity (taken.add (call s c).1) handed (call s c).2 := by
  cases c with
  | picture => exact pictureReached h
  | sound frames size => exact soundReached h frames size
  | trouble => exact troubleReached h

end Invariant
end Telecine.Lookahead
