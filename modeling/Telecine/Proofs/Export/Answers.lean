import Telecine.Proofs.Export.Studio
import Telecine.Proofs.Lookahead.Framed
import Telecine.Proofs.Transfer.Completed

/-! How a decoder that is always ahead answers the ticks of a transfer, where its feed goes frame by
frame, and what the encoders of a studio have been given afterwards. -/
namespace Telecine.Studio
open Transfer Lookahead Dialogue

variable {ω : Type} (studio : Studio ω)

def answers (request : Request) : StateM (Readahead × Floor ω) (Reply request) :=
  paired (Readahead.surroundings studio.observer (return ()) studio.give).answer request

section Steps
variable (s : Readahead) (floor : Floor ω)

theorem answersDeliver (outlet : Outlet) (delivery : Delivery) :
    studio.answers (.deliver outlet delivery) (s, floor) =
      (.ok (), s, ⟨studio.deliver outlet delivery floor.world, floor.made,
        floor.calls ++ [(outlet, delivery)]⟩) := rfl

theorem answersPicture : studio.answers .picture (s, floor) =
    (s.runAhead.takePicture.1, s.runAhead.takePicture.2, floor) := rfl

theorem answersSound {frames size : Nat}
    {answer : { samples : List Float32 // samples.length = size } × Bool} {next : Readahead}
    (taken : s.runAhead.takeSound frames size = .ok (answer, next)) :
    studio.answers (.sound frames size) (s, floor) = (.ok answer, next, floor) := by
  simp only [answers, paired, Surroundings.answer, Readahead.surroundings, taken]
  rfl

theorem sendsAnswered (sends : List (Outlet × Delivery)) :
    ∃ world, Answered studio.answers (s, floor) (sends.map accepted)
      (s, ⟨world, floor.made, floor.calls ++ sends⟩) := by
  induction sends generalizing floor with
  | nil => exact ⟨floor.world, by simpa using Answered.nil (s, floor)⟩
  | cons send sends ih =>
    obtain ⟨world, later⟩ := ih ⟨studio.deliver send.1 send.2 floor.world, floor.made,
      floor.calls ++ [send]⟩
    rw [List.append_assoc] at later
    exact ⟨world, answeredCons (answersDeliver studio s floor send.1 send.2) later⟩

end Steps

section Ticks
variable {feed : Feed} {mix : Mix} {capacity count perFrame frames n : Nat}
  {sights : Nat → List Picture} {block : Nat → Sound} {handed : List Item} {s : Readahead}

theorem picturesAnswered (form : Framed feed count perFrame frames sights block) (low : n < count)
    (set : FileSet) {k taken : Nat} {rest : List Picture} (left : (sights n).drop k = rest)
    (within : k ≤ perFrame)
    (h : Reached feed mix capacity ⟨n * perFrame + k, taken, false⟩ handed s) (floor : Floor ω) :
    ∃ next handed world,
      Answered studio.answers (s, floor) (rest.flatMap (pictureSaid set))
        (next, ⟨world, floor.made, floor.calls ++ rest.flatMap set.shown⟩) ∧
      Reached feed mix capacity ⟨(n + 1) * perFrame, taken, false⟩ handed next := by
  induction rest generalizing k handed s floor with
  | nil =>
    have ended : k = perFrame := by
      have length := congrArg List.length left
      rw [List.length_drop, form.sights] at length
      simp at length
      omega
    refine ⟨s, handed, floor.world, by simpa using Answered.nil (s, floor), ?_⟩
    subst ended
    rwa [Nat.succ_mul]
  | cons picture rest ih =>
    have found : (sights n)[k]? = some picture := by
      rw [← List.head?_drop, left, List.head?_cons]
    have inside : k < perFrame := by
      rw [← form.sights n]
      exact (List.getElem?_eq_some_iff.mp found).1
    have later : (sights n).drop (k + 1) = rest := by
      rw [← List.drop_drop, left]
      rfl
    obtain ⟨shown, _, reached⟩ := framedPicture form h low found
    obtain ⟨between, sent⟩ := sendsAnswered studio s.runAhead.takePicture.2 floor (set.shown picture)
    obtain ⟨next, handed, world, answered, last⟩ :=
      ih later inside reached ⟨between, floor.made, floor.calls ++ set.shown picture⟩
    refine ⟨next, handed, world, ?_, last⟩
    rw [List.append_assoc] at answered
    refine answeredCons ?_ (answeredAppend sent answered)
    rw [answersPicture, shown]

theorem tickAnswered (form : Framed feed count perFrame frames sights block) (low : n < count)
    {plan : Plan} (sized : plan.soundChannels * frames = mix.outputs * frames)
    (fits : FitsWord64 (plan.soundChannels * frames)) (set : FileSet) (fraction : Float32)
    (h : Reached feed mix capacity ⟨n * perFrame, n * (plan.soundChannels * frames), false⟩ handed s)
    (floor : Floor ω) :
    let tick : Tick (plan.soundChannels * frames) := ⟨set, sights n,
      ⟨(mix.apply (block n)).interleaved, (framedBlock form mix n).trans sized.symm⟩, false⟩
    ∃ next handed world,
      Answered studio.answers (s, floor) (tickSaid plan frames fraction tick)
        (next, ⟨world, floor.made, floor.calls ++ tick.sent plan.soundChannels frames⟩) ∧
      Reached feed mix capacity
        ⟨(n + 1) * perFrame, (n + 1) * (plan.soundChannels * frames), false⟩ handed next := by
  intro tick
  obtain ⟨seen, _, world, sights', reached⟩ :=
    picturesAnswered studio form low set List.drop_zero (Nat.zero_le _) h floor
  obtain ⟨next, heard, handed, last⟩ :=
    framedSound form sized fits reached low
  let floor' : Floor ω := ⟨studio.progress fraction world, floor.made,
    floor.calls ++ (sights n).flatMap set.shown⟩
  obtain ⟨world, sent⟩ := sendsAnswered studio next floor' (set.outlets.map
    (·, .sound (Sound.laidOut plan.soundChannels frames (mix.apply (block n)).interleaved)))
  refine ⟨next, handed, world, ?_, last⟩
  refine answeredCons rfl (answeredAppend sights' (answeredCons rfl (answeredCons rfl
    (answeredCons (answersSound studio seen floor' heard) ?_))))
  rw [List.map_map] at sent
  simp only [floor', List.append_assoc] at sent
  exact sent

def frameTick {size : Nat} (form : Framed feed count perFrame frames sights block)
    (sized : size = mix.outputs * frames) (sets : Nat → FileSet) (n : Nat) : Tick size :=
  ⟨sets n, sights n, ⟨(mix.apply (block n)).interleaved, (framedBlock form mix n).trans sized.symm⟩,
    false⟩

theorem ticksAnswered (form : Framed feed count perFrame frames sights block) {plan : Plan}
    (sized : plan.soundChannels * frames = mix.outputs * frames)
    (fits : FitsWord64 (plan.soundChannels * frames)) (sets : Nat → FileSet) (duration more : Nat)
    {n : Nat} (within : n + more ≤ count) {handed : List Item} {s : Readahead}
    (h : Reached feed mix capacity ⟨n * perFrame, n * (plan.soundChannels * frames), false⟩ handed s)
    (floor : Floor ω) :
    let ticks := (List.range' n more).map (frameTick form sized sets)
    ∃ next taken handed world,
      Answered studio.answers (s, floor) (ticksSaid plan duration frames n ticks)
        (next, ⟨world, floor.made,
          floor.calls ++ ticks.flatMap (·.sent plan.soundChannels frames)⟩) ∧
      Reached feed mix capacity taken handed next := by
  induction more generalizing n handed s floor with
  | zero => exact ⟨s, _, handed, floor.world, by simpa [ticksSaid] using Answered.nil (s, floor), h⟩
  | succ more ih =>
    obtain ⟨next, _, between, first, reached⟩ := tickAnswered studio form (by omega) sized fits
      (sets n) (fractionAt plan.length (tickStart duration (n + 1))) h floor
    obtain ⟨last, taken, handed, world, others, ended⟩ := ih (by omega) reached
      ⟨between, floor.made, floor.calls ++ (frameTick form sized sets n).sent plan.soundChannels frames⟩
    refine ⟨last, taken, handed, world, ?_, ended⟩
    have both := answeredAppend first others
    rw [List.append_assoc] at both
    exact both

theorem answersQuiet (form : Framed feed count perFrame frames sights block) {taken : Taken}
    (h : Reached feed mix capacity taken handed s) (floor : Floor ω) :
    studio.answers .trouble (s, floor) = (none, s.runAhead.takeFailure.2, floor) := by
  rw [← framedTrouble form h]
  rfl

end Ticks
end Telecine.Studio
