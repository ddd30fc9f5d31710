import Telecine.Proofs.Transfer.Astray
import Telecine.Proofs.Transfer.Shown

/-! That a run comes to an end by itself where a picture lasts at least a tick of the clock: every tick
starts later than the one before, and no limit on ticks makes a difference. A picture that lasts less
takes no time at all, and then nothing ends the run from inside. -/
namespace Telecine.Transfer
open Dialogue

def startShown? : Told → Option Time
  | ⟨shown, .interrupted, _⟩ => some shown.time
  | _ => none

section Starts
variable {t : Transfer} {duration frames limit reel n : Nat} {told : List Told} {before after : Status}

theorem quietSteady : Steady (fun _ request => request ≠ .interrupted) (fun _ => True) :=
  ⟨fun _ _ _ other => other, fun _ _ _ _ _ => trivial, fun _ _ _ => trivial⟩

theorem quietStarts (quiet : ∀ e ∈ told, e.question ≠ .interrupted) :
    told.filterMap startShown? = [] := by
  refine List.filterMap_eq_nil_iff.mpr fun e member => ?_
  obtain ⟨shown, question, reply⟩ := e
  cases question with
  | interrupted => exact absurd rfl (quiet _ member)
  | _ => rfl

theorem tickStarts {time : Time} {result : Except Halt (Nat × Time)}
    (telling : Tells ((t.tick ⟨duration⟩ frames reel time).run before) told result after) :
    told.filterMap startShown? = [before.time] := by
  rw [tickParts] at telling
  obtain ⟨stop, rest, rfl, onward⟩ := tellsAskOn .interrupted telling
  have quiet : ∀ e ∈ rest, e.question ≠ .interrupted := by
    cases stop with
    | true =>
      obtain ⟨rfl, _⟩ := tellsDone onward
      simp
    | false => exact (tellsHolds (keepsPass quietSteady t _ frames reel time before trivial) onward).1
  exact congrArg (before.time :: ·) (quietStarts quiet)

theorem tickedTime {size : Nat} (s : Status) (next : Time) (tick : Tick size) :
    (s.ticked next tick).time = next := by
  unfold Status.ticked Status.heard
  split <;> rfl

theorem ticksStarts (channels : 0 < t.plan.soundChannels) {result : Except Halt Nat}
    (time : before.time = tickStart duration n)
    (telling : Tells ((t.ticks ⟨duration⟩ frames limit reel (tickStart duration n) n).run before) told
      result after) :
    ∃ count, told.filterMap startShown? = (List.range' n count).map (tickStart duration) ∧
      ∀ k < count, (tickStart duration (n + k)).ticks < t.plan.length.ticks := by
  induction limit generalizing n reel before told with
  | zero =>
    unfold Transfer.ticks at telling
    split at telling <;>
    · obtain ⟨rfl, _⟩ := tellsDone telling
      exact ⟨0, rfl, by simp⟩
  | succ limit ih =>
    unfold Transfer.ticks at telling
    split at telling
    · rename_i inside
      rcases tellsBind telling with ⟨_, _, stops⟩ | ⟨first, ⟨later, next⟩, middle, rest, rfl, run, onward⟩
      · refine ⟨1, by rw [tickStarts stops, time]; rfl, fun k low => ?_⟩
        obtain rfl : k = 0 := by omega
        exact inside
      · obtain ⟨_, added, tick, _, _, _, _, rfl⟩ := (goesTick channels).mp (tellsSays run)
        obtain ⟨_, rfl⟩ := tickNext.mp added
        obtain ⟨count, starts, within⟩ := ih (tickedTime _ _ _) onward
        refine ⟨count + 1, ?_, fun k low => ?_⟩
        · rw [List.filterMap_append, tickStarts run, starts, time]
          rfl
        · cases k with
          | zero => exact inside
          | succ k =>
            rw [Nat.add_comm k, ← Nat.add_assoc]
            exact within k (by omega)
    · obtain ⟨rfl, _⟩ := tellsDone telling
      exact ⟨0, rfl, by simp⟩

theorem playStarts (accepted : Accepted t.plan t.sets) (fresh : t.started = false)
    (time : before.time = Time.zero) {result : Except Halt Summary}
    (telling : Tells ((t.play limit).run before) told result after) : ∃ count,
      told.filterMap startShown? = (List.range count).map (tickStart t.plan.rates.pictureTicks) ∧
        ∀ k < count, (tickStart t.plan.rates.pictureTicks k).ticks < t.plan.length.ticks := by
  have zero := startZero t.plan.rates.pictureTicks
  cases opens : t.opening with
  | error fault =>
    rw [playCrowded fresh opens] at telling
    obtain ⟨rfl, _⟩ := tellsDone telling
    exact ⟨0, rfl, by simp⟩
  | ok opened =>
    obtain ⟨duration, frames⟩ := opened
    obtain ⟨rfl, _⟩ := openingExact accepted.picture opens
    rw [playBegun fresh opens] at telling
    obtain ⟨⟨⟩, rest, rfl, onward⟩ := tellsAskOn _ telling
    rw [zero] at time
    rw [proceed, zero] at onward
    rw [List.filterMap_cons_none rfl]
    rcases tellsBind onward with ⟨_, _, stops⟩ | ⟨first, number, middle, more, rfl, run, last⟩
    · obtain ⟨count, starts, within⟩ := ticksStarts accepted.channels time stops
      simp only [Nat.zero_add] at within
      exact ⟨count, List.range_eq_range' ▸ starts, within⟩
    · obtain ⟨count, starts, within⟩ := ticksStarts accepted.channels time run
      have quiet : ∀ e ∈ more, e.question ≠ .interrupted := by
        rcases tellsBind last with ⟨_, _, stops⟩ | ⟨second, _, _, final, rfl, finish, ended⟩
        · exact (tellsHolds (keepsFinish quietSteady t.sets middle trivial) stops).1
        · have before' := (tellsHolds (keepsFinish quietSteady t.sets middle trivial) finish).1
          obtain ⟨putOff, rfl, _⟩ := tellsConclude ended
          exact List.forall_mem_append.mpr ⟨before', by simp⟩
      simp only [Nat.zero_add] at within
      rw [List.filterMap_append, quietStarts quiet, List.append_nil]
      exact ⟨count, List.range_eq_range' ▸ starts, within⟩

end Starts

section Limit
variable {t : Transfer} {frames limit other reel n : Nat} {said : List Said} {before after : Status}

theorem ticksLimit (channels : 0 < t.plan.soundChannels) (lasts : 0 < t.plan.rates.pictureTicks)
    (enough : t.plan.tickCount ≤ n + limit) (enough' : t.plan.tickCount ≤ n + other)
    {result : Except Halt Nat}
    (go : Goes (t.ticks ⟨t.plan.rates.pictureTicks⟩ frames limit reel
      (tickStart t.plan.rates.pictureTicks n) n) before said result after) :
    Goes (t.ticks ⟨t.plan.rates.pictureTicks⟩ frames other reel
      (tickStart t.plan.rates.pictureTicks n) n) before said result after := by
  -- Both limits last as long as there are ticks; what is over of them does not show.
  induction limit generalizing n other reel before said with
  | zero =>
    have ended : ¬(tickStart t.plan.rates.pictureTicks n).ticks < t.plan.length.ticks :=
      fun inside => by have := (startInside lasts).mp inside; omega
    unfold Transfer.ticks at go ⊢
    rw [if_neg ended] at go ⊢
    exact go
  | succ limit ih =>
    by_cases inside : (tickStart t.plan.rates.pictureTicks n).ticks < t.plan.length.ticks
    · obtain ⟨other, rfl⟩ : ∃ more, other = more + 1 :=
        Nat.exists_eq_succ_of_ne_zero (by have := (startInside lasts).mp inside; omega)
      unfold Transfer.ticks at go ⊢
      rw [if_pos inside] at go ⊢
      rcases goesBind.mp go with ⟨halt, rfl, stops⟩ | ⟨first, ⟨later, next⟩, middle, rest, rfl, run, on⟩
      · exact goesBind.mpr (.inl ⟨halt, rfl, stops⟩)
      · obtain ⟨_, added, _⟩ := (goesTick channels).mp run
        obtain ⟨_, rfl⟩ := tickNext.mp added
        exact goesBind.mpr (.inr ⟨first, _, middle, rest, rfl, run, ih (by omega) (by omega) on⟩)
    · unfold Transfer.ticks at go ⊢
      rw [if_neg inside] at go ⊢
      exact go

theorem playLimit (accepted : Accepted t.plan t.sets) (fresh : t.started = false)
    (lasts : 0 < t.plan.rates.pictureTicks) (enough : t.plan.tickCount ≤ limit)
    (enough' : t.plan.tickCount ≤ other) {result : Except Halt Summary}
    (go : Goes (t.play limit) before said result after) :
    Goes (t.play other) before said result after := by
  have zero := startZero t.plan.rates.pictureTicks
  cases opens : t.opening with
  | error fault =>
    rw [playCrowded fresh opens] at go ⊢
    exact go
  | ok opened =>
    obtain ⟨duration, frames⟩ := opened
    obtain ⟨rfl, _⟩ := openingExact accepted.picture opens
    rw [playBegun fresh opens] at go ⊢
    obtain ⟨reply, rest, rfl, onward⟩ := (goesAskOn (.stage _)).mp go
    refine (goesAskOn (.stage _)).mpr ⟨reply, rest, rfl, ?_⟩
    rw [proceed, zero] at onward ⊢
    rcases goesBind.mp onward with ⟨halt, rfl, stops⟩ | ⟨first, number, middle, more, rfl, run, last⟩
    · exact goesBind.mpr (.inl ⟨halt, rfl,
        ticksLimit accepted.channels lasts (by omega) (by omega) stops⟩)
    · exact goesBind.mpr (.inr ⟨first, number, middle, more, rfl,
        ticksLimit accepted.channels lasts (by omega) (by omega) run, last⟩)

theorem runLimit (accepted : Accepted t.plan t.sets) (fresh : t.started = false)
    (lasts : 0 < t.plan.rates.pictureTicks) (enough : t.plan.tickCount ≤ limit)
    (enough' : t.plan.tickCount ≤ other) {ω : Type} (surroundings : Surroundings (StateM ω))
    (world : ω) : t.run other surroundings world = t.run limit surroundings world ∧
      ((t.dialogue other).trace surroundings.answer world).map Exchange.said =
        ((t.dialogue limit).trace surroundings.answer world).map Exchange.said := by
  have go := playLimit accepted fresh lasts enough enough'
    (traceSays surroundings.answer (t.dialogue limit) world)
  obtain ⟨same, said⟩ := saidRun go (answeredTrace surroundings.answer (t.dialogue limit) world)
  let later (status : Status) : Transfer := { t with status, started := true }
  exact ⟨congrArg (fun ran : (Except Halt Summary × Status) × ω =>
    ((ran.1.1, later ran.1.2), ran.2)) same, said⟩

end Limit

theorem startsIncrease {duration : Nat} (lasts : 0 < duration) (count : Nat) :
    ((List.range count).map (tickStart duration)).Pairwise fun time next => time.ticks < next.ticks :=
  List.pairwise_map.mpr (List.pairwise_lt_range.imp fun before => (startBefore lasts).mpr before)

theorem runEnds {plan : Plan} {sets : List FileSet} {t : Transfer}
    (made : Transfer.new plan sets = .ok t) (slow : plan.rates.picture ≤ 96000)
    {ω : Type} (surroundings : Surroundings (StateM ω)) (world : ω) {limit : Nat}
    (enough : t.enoughTicks ≤ limit) :
    let told := (t.dialogue limit).trace surroundings.answer world
    t.run limit surroundings world = t.run t.enoughTicks surroundings world ∧
      told.map Exchange.said = ((t.dialogue t.enoughTicks).trace surroundings.answer world).map
        Exchange.said ∧
      ((told.filterMap startShown?).Pairwise fun time next => time.ticks < next.ticks) ∧
      (told.filterMap startShown?).length ≤ plan.length.ticks.toNat := by
  obtain ⟨accepted, rfl⟩ := newAccepted.mp made
  have lasts : 0 < plan.rates.pictureTicks :=
    Nat.div_pos slow (Nat.pos_of_ne_zero accepted.picture)
  have least := countEnough lasts
  intro told
  have most : plan.tickCount ≤ limit := Nat.le_trans least enough
  obtain ⟨same, said⟩ := runLimit
    (t := ⟨plan, sets, Status.new plan.rates.picture plan.length, false⟩) accepted rfl lasts least most
    surroundings world
  obtain ⟨count, starts, within⟩ := playStarts accepted rfl rfl (traceTells surroundings.answer
    (dialogue ⟨plan, sets, Status.new plan.rates.picture plan.length, false⟩ limit) world)
  refine ⟨same, said, ?_⟩
  rw [starts]
  refine ⟨startsIncrease lasts count, ?_⟩
  rw [List.length_map, List.length_range]
  refine Nat.le_trans (Nat.le_of_not_lt fun more => ?_) least
  exact absurd ((startInside lasts).mp (within _ more)) (Nat.lt_irrefl _)

theorem runEndsTwoReels :
    let t : Transfer := ⟨twoReels, twoFiles, Status.new 24 ⟨8000⟩, false⟩
    let told := (t.dialogue 9000).trace alternating.answer 0
    Transfer.new twoReels twoFiles = .ok t ∧ twoReels.rates.picture ≤ 96000 ∧
      t.enoughTicks ≤ 9000 ∧ t.run 9000 alternating 0 = t.run t.enoughTicks alternating 0 ∧
      told.filterMap startShown? = [⟨0⟩, ⟨4000⟩] ∧
      ((told.filterMap startShown?).Pairwise fun time next => time.ticks < next.ticks) ∧
      (told.filterMap startShown?).length ≤ twoReels.length.ticks.toNat := by
  have ends := @runEnds twoReels twoFiles _ rfl (by decide) _ alternating 0 9000 (by decide)
  exact ⟨rfl, by decide, by decide, ends.1, rfl, ends.2.2⟩

section Endless
variable {t : Transfer} {limit : Nat} {said : List Said} {before after : Status}

theorem skipsLasting {plan : Plan} {i n : Nat} (parts : Period.partition plan.reels plan.length = true)
    : ¬Skips plan 0 i n := by
  intro skips
  obtain ⟨reel, there, _, past, _⟩ := skips.reel
  have member := List.mem_of_getElem? there
  have begun := Period.partitionStart parts member
  have full := Period.partitionFull parts reel member
  simp only [Period.isEmpty, decide_eq_false_iff_not, tickStart, Nat.mul_zero] at full past
  omega

theorem playEndless (accepted : Accepted t.plan t.sets) (fresh : t.started = false)
    (fast : 96000 < t.plan.rates.picture) (some : 0 < t.plan.length.ticks)
    (fits : FitsInt64 t.plan.length.ticks) (length : before.length = t.plan.length)
    (undisturbed : Undisturbed t.plan said) {result : Except Halt Summary}
    (go : Goes (t.play limit) before said result after) : result = .error .limit := by
  have none : t.plan.rates.pictureTicks = 0 := Nat.div_eq_of_lt fast
  cases result with
  | error halt =>
    obtain ⟨frames, _, stopped⟩ := playHalts accepted fresh (by rw [none]; simpa using fits) length go
    rcases stopsUndisturbed stopped undisturbed with ⟨rfl, _⟩ | ⟨_, i, n, ticks, strays⟩
    · rfl
    · exact absurd (none ▸ strays.skips) (skipsLasting accepted.parts)
  | ok summary =>
    obtain ⟨frames, ticks, _, course, _⟩ := playCourse accepted fresh length go
    have covered := (courseCovers course).1
    rw [none] at covered
    simp only [tickStart, Nat.mul_zero] at covered
    omega

theorem runEndless (accepted : Accepted t.plan t.sets) (fresh : t.started = false)
    (fast : 96000 < t.plan.rates.picture) (some : 0 < t.plan.length.ticks)
    (fits : FitsInt64 t.plan.length.ticks) (length : t.status.length = t.plan.length)
    {opened : Time × Nat} (room : t.opening = .ok opened) {ω : Type}
    {surroundings : Surroundings (StateM ω)} (willing : ∀ request world,
      Willing t.plan.stereoscopic ⟨request, (surroundings.answer request world).1⟩) (world : ω) :
    (t.run limit surroundings world).1.1 = .error .limit := by
  have go : Goes (t.play limit) t.status _ (t.run limit surroundings world).1.1 _ :=
    traceSays surroundings.answer (t.dialogue limit) world
  refine playEndless accepted fresh fast some fits length ⟨?_, traceAnswered willing _ world⟩ go
  obtain ⟨duration, frames⟩ := opened
  rw [playBegun fresh room] at go
  obtain ⟨reply, rest, said, _⟩ := (goesAskOn (.stage _)).mp go
  rw [said]
  exact List.cons_ne_nil _ _

end Endless

def fastPicture : Plan := ⟨⟨96001, 48000⟩, 1, false, ⟨1⟩, [⟨⟨0⟩, ⟨1⟩⟩]⟩

def oneFile : List FileSet := [.flat ⟨0, ⟨"a"⟩⟩]

theorem fastPictureEndless :
    let t : Transfer := ⟨fastPicture, oneFile, Status.new 96001 ⟨1⟩, false⟩
    Transfer.new fastPicture oneFile = .ok t ∧
      FitsInt64 (fastPicture.length.ticks + fastPicture.rates.pictureTicks) ∧
      (∀ limit, (t.run limit alternating 0).1.1 = .error .limit) ∧
      ((t.dialogue 2).trace alternating.answer 0).filterMap startShown? = [⟨0⟩, ⟨0⟩] := by
  have accepted : Accepted fastPicture oneFile := (newAccepted (t := ⟨_, _, _, _⟩)).mp rfl |>.1
  have room : opening ⟨fastPicture, oneFile, Status.new 96001 ⟨1⟩, false⟩ = .ok (⟨0⟩, 0) := by
    have duration : fastPicture.rates.pictureDuration = .ok ⟨0⟩ := rfl
    have sound : fastPicture.rates.soundPerPicture = .ok 0 := rfl
    simp only [opening, duration, sound, bind, Except.bind]
    rfl
  exact ⟨rfl, by decide, fun limit => runEndless accepted rfl (by decide) (by decide) (by decide) rfl
    room alternatingWilling 0, rfl⟩

end Telecine.Transfer
