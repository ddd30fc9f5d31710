import Telecine.Proofs.Clock.Frames
import Telecine.Proofs.Clock.Partition
import Telecine.Proofs.Transfer.Ticks

/-! The ticks of a run that comes to its end: how many there are, which set each is for, and all that is
said. -/
namespace Telecine

theorem tickedLength {size : Nat} (s : Status) (next : Time) (tick : Tick size) :
    (s.ticked next tick).length = s.length := by
  unfold Status.ticked Status.heard
  split <;> exact sentLength tick.set tick.pictures s

def Status.course {size : Nat} (s : Status) (duration n : Nat) (ticks : List (Tick size)) : Status :=
  (ticks.zipIdx n).foldl (fun s (tick, k) => s.ticked (tickStart duration (k + 1)) tick) s

theorem courseClean {size : Nat} {ticks : List (Tick size)} (clean : ∀ tick ∈ ticks, tick.Clean)
    (s : Status) (duration n : Nat) :
    ∃ time, s.course duration n ticks = { s with time } := by
  induction ticks generalizing s n with
  | nil => exact ⟨s.time, rfl⟩
  | cons tick ticks ih =>
    obtain ⟨first, rest⟩ := List.forall_mem_cons.mp clean
    obtain ⟨time, same⟩ := ih rest (s.ticked (tickStart duration (n + 1)) tick) (n + 1)
    refine ⟨time, same.trans ?_⟩
    rw [tickedClean first]

namespace Transfer

inductive Course (t : Transfer) (duration frames : Nat) :
    (reel n : Nat) → List (Tick (t.plan.soundChannels * frames)) → Prop where
  | ended {reel n} (covered : t.plan.length.ticks ≤ (tickStart duration n).ticks) :
      Course t duration frames reel n []
  | tick {reel later n tick ticks} (more : (tickStart duration n).ticks < t.plan.length.ticks)
      (fits : FitsInt64 (tickStart duration (n + 1)).ticks)
      (found : t.reelAt reel (tickStart duration n) = .ok later)
      (selected : t.sets[later]? = some tick.set)
      (count : tick.pictures.length = picturesPerTick t.plan)
      (taken : ∀ p ∈ tick.pictures, tick.set.Takes p)
      (rest : Course t duration frames later (n + 1) ticks) :
      Course t duration frames reel n (tick :: ticks)

def ticksSaid (plan : Plan) (duration frames n : Nat)
    (ticks : List (Tick (plan.soundChannels * frames))) : List Said :=
  (ticks.zipIdx n).flatMap fun (tick, k) =>
    tickSaid plan frames (fractionAt plan.length (tickStart duration (k + 1))) tick

theorem courseOver {t : Transfer} {duration frames reel n : Nat}
    {ticks : List (Tick (t.plan.soundChannels * frames))}
    (ended : ¬(tickStart duration n).ticks < t.plan.length.ticks) :
    Course t duration frames reel n ticks ↔ ticks = [] := by
  constructor
  · intro course
    cases course with
    | ended => rfl
    | tick more => exact absurd more ended
  · intro h
    subst h
    exact .ended (by omega)

section Run
variable {t : Transfer} {duration frames limit reel n total : Nat} {before after : Status}
  {said : List Said}

theorem goesTicksOver (ended : ¬(tickStart duration n).ticks < t.plan.length.ticks) :
    Goes (t.ticks ⟨duration⟩ frames limit reel (tickStart duration n) n) before said (.ok total)
        after ↔
      ∃ ticks, Course t duration frames reel n ticks ∧ ticks.length ≤ limit ∧
        total = n + ticks.length ∧ said = ticksSaid t.plan duration frames n ticks ∧
        after = before.course duration n ticks := by
  unfold Transfer.ticks
  rw [if_neg ended, goesPure]
  simp only [courseOver ended, exists_eq_left, Except.ok.injEq]
  simp [ticksSaid, Status.course]
  tauto

theorem goesTicks (channels : 0 < t.plan.soundChannels) (length : before.length = t.plan.length) :
    Goes (t.ticks ⟨duration⟩ frames limit reel (tickStart duration n) n) before said (.ok total)
        after ↔
      ∃ ticks, Course t duration frames reel n ticks ∧ ticks.length ≤ limit ∧
        total = n + ticks.length ∧ said = ticksSaid t.plan duration frames n ticks ∧
        after = before.course duration n ticks := by
  induction limit generalizing reel n before said with
  | zero =>
    by_cases more : (tickStart duration n).ticks < t.plan.length.ticks
    · unfold Transfer.ticks
      rw [if_pos more]
      simp only [goesThrow, reduceCtorEq, false_and, and_false, false_iff]
      intro h
      obtain ⟨_, course, few, _⟩ := h
      obtain rfl := List.length_eq_zero_iff.mp (Nat.le_zero.mp few)
      cases course with
      | ended covered => omega
    · exact goesTicksOver more
  | succ limit ih =>
    by_cases more : (tickStart duration n).ticks < t.plan.length.ticks
    · unfold Transfer.ticks
      rw [if_pos more, goesOn]
      constructor
      · intro h
        obtain ⟨first, ⟨later, next⟩, middle, rest, rfl, one, others⟩ := h
        obtain ⟨found, added, tick, selected, count, taken, rfl, rfl⟩ := (goesTick channels).mp one
        obtain ⟨fits, rfl⟩ := tickNext.mp added
        obtain ⟨ticks, course, few, rfl, rfl, rfl⟩ := (ih (by rw [tickedLength, length])).mp others
        refine ⟨tick :: ticks, .tick more fits found selected count taken course,
          Nat.succ_le_succ few, by simp only [List.length_cons]; omega, ?_, rfl⟩
        simp [ticksSaid, length]
      · intro h
        obtain ⟨ticks, course, few, rfl, rfl, rfl⟩ := h
        cases course with
        | ended covered => omega
        | @tick _ later _ tick ticks _ fits found selected count taken course =>
          refine ⟨_, (later, _), _, ticksSaid t.plan duration frames (n + 1) ticks, ?_,
            (goesTick channels).mpr ⟨found, tickNext.mpr ⟨fits, rfl⟩, tick, selected, count, taken,
              rfl, rfl⟩, (ih (by rw [tickedLength, length])).mpr ⟨ticks, course,
                Nat.le_of_succ_le_succ few, by simp only [List.length_cons]; omega, rfl, rfl⟩⟩
          simp [ticksSaid, length]
    · exact goesTicksOver more

theorem dispatchFinish (set : FileSet) :
    dispatch set .finish = pure (set.outlets.map (·, .finish)) := rfl

def finishSaid (sets : List FileSet) : List Said :=
  (sets.flatMap FileSet.outlets).map fun outlet => accepted (outlet, .finish)

theorem goesFinish {sets : List FileSet} {done : Unit} :
    Goes (finishAll sets) before said (.ok done) after ↔ said = finishSaid sets ∧ after = before := by
  induction sets generalizing before said with
  | nil => simp [finishAll, finishSaid]
  | cons set rest ih =>
    rw [finishAll, dispatchFinish, goesPureOn]
    simp only [goesOn, goesSendAll, ih]
    constructor
    · intro h
      obtain ⟨_, _, _, _, rfl, ⟨rfl, rfl⟩, rfl, rfl⟩ := h
      exact ⟨by simp [finishSaid], rfl⟩
    · intro h
      obtain ⟨rfl, rfl⟩ := h
      exact ⟨_, (), _, _, by simp [finishSaid], ⟨rfl, rfl⟩, rfl, rfl⟩

theorem goesPlay {summary : Summary} (fresh : t.started = false) :
    Goes (t.play limit) before said (.ok summary) after ↔
      ∃ duration frames count course middle, t.plan.rates.pictureDuration = .ok duration ∧
        t.plan.rates.soundPerPicture = .ok frames ∧
        t.plan.soundChannels * frames * Sound.sampleSize ≤ maxBlock ∧
        t.plan.soundChannels * Sound.channelSize ≤ maxBlock ∧
        Goes (t.ticks duration frames limit 0 Time.zero 0) before course (.ok count) middle ∧
        said = ⟨.stage "Encoding", ()⟩ :: (course ++ finishSaid t.sets ++ [⟨.trouble, none⟩]) ∧
        summary = ⟨count, t.sets.length, t.outputs, middle.dropped, middle.damaged,
          middle.underruns⟩ ∧
        after = { middle with finished := true } := by
  unfold play
  simp only [fresh, Bool.false_eq_true, ↓reduceIte, goesCheckedOn, goesAskOn (.stage _)]
  constructor
  · intro h
    obtain ⟨duration, lasts, frames, sound, _, roomy, _, roomy', _, _, rfl, go⟩ := h
    obtain ⟨course, count, middle, _, rfl, run, rest⟩ := goesOn.mp go
    obtain ⟨_, _, _, _, rfl, finish, last⟩ := goesOn.mp rest
    obtain ⟨rfl, rfl⟩ := goesFinish.mp finish
    simp only [goesChangeOn, goesAskOn .trouble] at last
    obtain ⟨putOff, _, rfl, shown⟩ := last
    cases putOff with
    | some failure => simp at shown
    | none =>
      simp only [goesLookOn, goesPure] at shown
      obtain ⟨rfl, same, rfl⟩ := shown
      cases same
      exact ⟨duration, frames, count, course, _, lasts, sound, reserve_eq_ok_iff.mp roomy,
        reserve_eq_ok_iff.mp roomy', run, by simp, rfl, rfl⟩
  · intro h
    obtain ⟨duration, frames, count, course, middle, lasts, sound, roomy, roomy', run, rfl, rfl, rfl⟩ := h
    refine ⟨duration, lasts, frames, sound, (), reserve_eq_ok_iff.mpr roomy, (),
      reserve_eq_ok_iff.mpr roomy', (), _, rfl, goesOn.mpr
      ⟨course, count, middle, _, List.append_assoc .., run, goesOn.mpr
        ⟨_, (), middle, [⟨.trouble, none⟩], rfl, goesFinish.mpr ⟨rfl, rfl⟩, ?_⟩⟩⟩
    rw [goesChangeOn, goesAskOn .trouble]
    exact ⟨none, [], rfl, goesLookOn.mpr (goesPure.mpr ⟨rfl, rfl, rfl⟩)⟩

end Run
end Transfer
end Telecine
