import Telecine.Proofs.Transfer.Course

/-! Runs that come to their end: as many ticks as cover the film, each for the set of the reel that it
starts in, and nothing said beyond what the ticks and the ends of the files come to. -/
namespace Telecine
namespace Transfer

def reelOf (t : Transfer) (time : Time) : Nat :=
  if t.sets.length ≤ 1 then 0 else t.plan.reels.findIdx (·.contains time)

def setAt (t : Transfer) (time : Time) : Option FileSet := t.sets[t.reelOf time]?

def Plan.tickCount (plan : Plan) : Nat :=
  (plan.length.ticks.toNat + (plan.rates.pictureTicks - 1)) / plan.rates.pictureTicks

structure Accepted (plan : Plan) (sets : List FileSet) : Prop where
  picture : plan.rates.picture ≠ 0
  sound : plan.rates.sound ≠ 0
  channels : 0 < plan.soundChannels
  parts : Period.partition plan.reels plan.length = true
  some : sets ≠ []
  each : 1 < sets.length → sets.length = plan.reels.length
  stereo : ∀ set ∈ sets, set.isStereo = plan.stereoscopic

theorem newAccepted {plan : Plan} {sets : List FileSet} {t : Transfer} :
    Transfer.new plan sets = .ok t ↔ Accepted plan sets ∧
      t = ⟨plan, sets, Status.new plan.rates.picture plan.length, false⟩ := by
  unfold Transfer.new
  constructor
  · intro made
    simp only [bind, Except.bind, throw, throwThe, MonadExceptOf.throw, pure, Except.pure] at made
    repeat' split at made
    all_goals try cases made
    rename_i rates channels parts some each stereo
    refine ⟨⟨by tauto, by tauto, by omega, parts, some, ?_, ?_⟩, rfl⟩
    · intro several
      by_contra other
      exact each ⟨several, other⟩
    · simpa using stereo
  · intro h
    obtain ⟨⟨picture, sound, channels, parts, some, each, stereo⟩, rfl⟩ := h
    have counted : ¬(sets.length > 1 ∧ sets.length ≠ plan.reels.length) :=
      fun differ => differ.2 (each differ.1)
    have even : (sets.any fun set => set.isStereo != plan.stereoscopic) = false := by
      simpa using stereo
    have silent : plan.soundChannels ≠ 0 := by omega
    simp only [picture, sound, silent, parts, some, counted, even, or_self, if_true, if_false,
      Bool.false_eq_true]
    rfl

end Transfer

structure Tick.Fits {size : Nat} (t : Transfer) (time : Time) (tick : Tick size) : Prop where
  selected : t.setAt time = some tick.set
  count : tick.pictures.length = if t.plan.stereoscopic then 2 else 1
  taken : ∀ p ∈ tick.pictures, tick.set.Takes p

namespace Transfer

theorem reelAtFound {t : Transfer} {reel later : Nat} {time : Time}
    (found : t.reelAt reel time = .ok later) :
    (t.sets.length ≤ 1 ∧ later = reel) ∨
      (1 < t.sets.length ∧ ∃ period, t.plan.reels[later]? = some period ∧
        period.contains time = true) := by
  unfold reelAt reelAt.broken at found
  split at found
  · rename_i single
    exact .inl ⟨single, (Except.ok.inj found).symm⟩
  · rename_i several
    refine .inr ⟨by omega, ?_⟩
    split at found
    · cases found
    · rename_i period here
      split at found
      · rename_i inside
        cases found
        exact ⟨period, here, inside⟩
      · split at found
        · cases found
        · rename_i next there
          split at found
          · cases found
          · split at found
            · rename_i inside
              cases found
              exact ⟨next, there, inside⟩
            · cases found

theorem reelAtSet {t : Transfer} (parts : Period.partition t.plan.reels t.plan.length = true)
    {reel later : Nat} {time : Time} (first : t.sets.length ≤ 1 → reel = 0)
    (found : t.reelAt reel time = .ok later) :
    t.reelOf time = later ∧ (t.sets.length ≤ 1 → later = 0) := by
  unfold reelOf
  rcases reelAtFound found with ⟨single, rfl⟩ | ⟨several, period, there, inside⟩
  · rw [if_pos single, first single]
    exact ⟨rfl, fun _ => rfl⟩
  · rw [if_neg (by omega), Period.firstContains parts there inside]
    exact ⟨rfl, fun single => by omega⟩

theorem courseFits {t : Transfer} (parts : Period.partition t.plan.reels t.plan.length = true)
    {duration frames reel n : Nat} {ticks : List (Tick (t.plan.soundChannels * frames))}
    (course : Course t duration frames reel n ticks) (first : t.sets.length ≤ 1 → reel = 0) :
    ∀ (k : Nat) (tick : Tick (t.plan.soundChannels * frames)), ticks[k]? = some tick →
      tick.Fits t (tickStart duration (n + k)) := by
  induction course with
  | ended => simp
  | tick more fits found selected count taken rest ih =>
    obtain ⟨same, later⟩ := reelAtSet parts first found
    intro k tick there
    cases k with
    | zero =>
      cases Option.some.inj there
      exact ⟨(congrArg (t.sets[·]?) same).trans selected, count, taken⟩
    | succ k =>
      rw [Nat.add_comm k, ← Nat.add_assoc]
      exact ih later k tick there

theorem courseCovers {t : Transfer} {duration frames reel n : Nat}
    {ticks : List (Tick (t.plan.soundChannels * frames))}
    (course : Course t duration frames reel n ticks) :
    t.plan.length.ticks ≤ (tickStart duration (n + ticks.length)).ticks ∧
      ∀ k < ticks.length, (tickStart duration (n + k)).ticks < t.plan.length.ticks := by
  induction course with
  | ended covered => exact ⟨covered, by simp⟩
  | @tick reel later n tick ticks more _ _ _ _ _ _ ih =>
    have shift (k : Nat) : n + (k + 1) = n + 1 + k := by omega
    refine ⟨by rw [List.length_cons, shift]; exact ih.1, ?_⟩
    intro k low
    cases k with
    | zero => exact more
    | succ k =>
      rw [shift]
      exact ih.2 k (Nat.lt_of_succ_lt_succ low)

theorem courseCount {t : Transfer} {frames : Nat}
    {ticks : List (Tick (t.plan.soundChannels * frames))}
    (course : Course t t.plan.rates.pictureTicks frames 0 0 ticks) :
    ticks.length = t.plan.tickCount := by
  obtain ⟨covered, more⟩ := courseCovers course
  unfold Plan.tickCount
  generalize t.plan.rates.pictureTicks = duration at *
  simp only [tickStart, Nat.zero_add] at covered more
  cases count : ticks.length with
  | zero =>
    rw [count] at covered
    have none : t.plan.length.ticks.toNat = 0 := by omega
    rw [none]
    rcases Nat.eq_zero_or_pos duration with rfl | lasts
    · simp
    · exact (Nat.div_eq_of_lt (by omega)).symm
  | succ k =>
    rw [count] at covered
    have last := more k (by omega)
    refine (Nat.div_eq_of_lt_le ?_ ?_).symm
    · rw [Nat.succ_mul] at covered ⊢
      omega
    · rw [Nat.succ_mul (k + 1), Nat.succ_mul]
      rw [Nat.succ_mul] at covered
      omega

end Transfer

def Tick.sent {size : Nat} (channels frames : Nat) (tick : Tick size) : List (Outlet × Delivery) :=
  tick.pictures.flatMap tick.set.shown ++
    tick.set.outlets.map (·, .sound (Sound.laidOut channels frames tick.sound.val))

namespace Transfer

def Said.delivery? : Said → Option (Outlet × Delivery)
  | ⟨.deliver outlet delivery, _⟩ => some (outlet, delivery)
  | _ => none

section Projections
variable {plan : Plan} {duration frames n : Nat}

end Projections

theorem playCourse {t : Transfer} (accepted : Accepted t.plan t.sets) (fresh : t.started = false)
    {before after : Status} (length : before.length = t.plan.length) {limit : Nat}
    {said : List Said} {summary : Summary}
    (go : Goes (t.play limit) before said (.ok summary) after) :
    ∃ frames ticks, t.plan.rates.soundPerPicture = .ok frames ∧
      Course t t.plan.rates.pictureTicks frames 0 0 ticks ∧ summary.ticks = ticks.length ∧
      said = ⟨.stage "Encoding", ()⟩ :: (ticksSaid t.plan t.plan.rates.pictureTicks frames 0 ticks ++
        finishSaid t.sets ++ [⟨.trouble, none⟩]) := by
  obtain ⟨duration, frames, count, run, middle, lasts, rate, _, _, ticking, whole, rfl, _⟩ :=
    (goesPlay fresh).mp go
  obtain rfl := Except.ok.inj ((FrameRates.pictureDurationExact accepted.picture).symm.trans lasts)
  rw [startZero t.plan.rates.pictureTicks] at ticking
  obtain ⟨ticks, course, _, rfl, rfl, _⟩ := (goesTicks accepted.channels length).mp ticking
  exact ⟨frames, ticks, rate, course, Nat.zero_add _, whole⟩

def twoReels : Plan := ⟨⟨24, 48⟩, 1, false, ⟨8000⟩, [⟨⟨0⟩, ⟨4000⟩⟩, ⟨⟨4000⟩, ⟨8000⟩⟩]⟩

def twoFiles : List FileSet := [.flat ⟨0, ⟨"a"⟩⟩, .flat ⟨1, ⟨"b"⟩⟩]

def alternating : Surroundings (StateM Nat) where
  interrupted := return false
  picture := fun n =>
    (.ok ⟨⟨0, 0, .empty⟩, if n % 2 = 0 then .left else .right, ⟨0⟩, false⟩, n + 1)
  sound _ size := return .ok (⟨List.replicate size 0, List.length_replicate⟩, false)
  trouble := return none
  deliver _ _ := return .ok ()
  stage _ := return ()
  progress _ := return ()
  nudge := return ()

end Transfer
end Telecine
