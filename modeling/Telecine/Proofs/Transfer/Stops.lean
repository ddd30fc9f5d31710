import Telecine.Proofs.Transfer.Cursor
import Telecine.Proofs.Transfer.Departure
import Telecine.Proofs.Transfer.Parts

/-! Where a run stops that does not come to its end: before its first tick, in one of its ticks, at the
end of a file, or with a failure that the source put off. -/
namespace Telecine.Transfer
open Dialogue

def Fitting (t : Transfer) {size : Nat} (n : Nat) (ticks : List (Tick size)) : Prop :=
  ∀ (k : Nat) (tick : Tick size), ticks[k]? = some tick →
    tick.Fits t (tickStart t.plan.rates.pictureTicks (n + k))

section Fitting
variable {t : Transfer} {size n : Nat} {tick : Tick size} {ticks more : List (Tick size)}

theorem fittingNone : Fitting t n ([] : List (Tick size)) := by simp [Fitting]

theorem fittingCons : Fitting t n (tick :: ticks) ↔
    tick.Fits t (tickStart t.plan.rates.pictureTicks n) ∧ Fitting t (n + 1) ticks := by
  constructor
  · intro fitting
    refine ⟨fitting 0 tick rfl, fun k other there => ?_⟩
    have later := fitting (k + 1) other there
    rwa [Nat.add_comm k, ← Nat.add_assoc] at later
  · rintro ⟨first, rest⟩ k other there
    cases k with
    | zero =>
      cases Option.some.inj there
      exact first
    | succ k =>
      rw [Nat.add_comm k, ← Nat.add_assoc]
      exact rest k other there

theorem startInside {plan : Plan} (lasts : 0 < plan.rates.pictureTicks) :
    (tickStart plan.rates.pictureTicks n).ticks < plan.length.ticks ↔ n < plan.tickCount := by
  unfold Plan.tickCount
  rw [← Nat.succ_le_iff, Nat.le_div_iff_mul_le lasts, Nat.succ_mul]
  simp only [tickStart]
  omega

theorem fillerFits (size : Nat) (accepted : Accepted t.plan t.sets)
    (inside : (tickStart t.plan.rates.pictureTicks n).ticks < t.plan.length.ticks) :
    ∃ tick : Tick size, tick.Fits t (tickStart t.plan.rates.pictureTicks n) := by
  have found : ∃ set, t.setAt (tickStart t.plan.rates.pictureTicks n) = some set := by
    refine ⟨_, List.getElem?_eq_getElem ?_⟩
    unfold reelOf
    by_cases single : t.sets.length ≤ 1
    · rw [if_pos single]
      exact List.length_pos_iff.mpr accepted.some
    · obtain ⟨i, p, there, within⟩ :=
        Period.partitionCovers accepted.parts (startNonneg _ n) inside
      rw [if_neg single, Period.firstContains accepted.parts there within,
        accepted.each (by omega)]
      exact (List.getElem?_eq_some_iff.mp there).1
  obtain ⟨set, selected⟩ := found
  refine ⟨⟨set, List.replicate (picturesPerTick t.plan) blankPicture,
    ⟨List.replicate size 0, List.length_replicate⟩, false⟩, selected, List.length_replicate, ?_⟩
  intro p member
  rw [List.eq_of_mem_replicate member]
  exact blankTaken set

end Fitting

inductive TickStops (t : Transfer) (frames n : Nat) : List Said → Halt → Prop where
  | astray {i} (several : 1 < t.sets.length) (skips : Skips t.plan t.plan.rates.pictureTicks i n) :
      TickStops t frames n [⟨.interrupted, false⟩] (.failed (.internal
        ("no reel contains " ++ (tickStart t.plan.rates.pictureTicks n).text)))
  | departs {said halt} (tick : Tick (t.plan.soundChannels * frames))
      (fits : tick.Fits t (tickStart t.plan.rates.pictureTicks n))
      (left : Departs t.plan.stereoscopic (tickSaid t.plan frames
        (fractionAt t.plan.length (tickStart t.plan.rates.pictureTicks (n + 1))) tick) said halt) :
      TickStops t frames n said halt

inductive TicksStop (t : Transfer) (frames limit n : Nat) : List Said → Halt → Prop where
  | limit {done : List (Tick (t.plan.soundChannels * frames))} (fitting : Fitting t n done)
      (count : done.length = limit)
      (inside : (tickStart t.plan.rates.pictureTicks (n + done.length)).ticks < t.plan.length.ticks) :
      TicksStop t frames limit n (ticksSaid t.plan t.plan.rates.pictureTicks frames n done) .limit
  | tick {done : List (Tick (t.plan.soundChannels * frames))} {said halt} (fitting : Fitting t n done)
      (inside : (tickStart t.plan.rates.pictureTicks (n + done.length)).ticks < t.plan.length.ticks)
      (stops : TickStops t frames (n + done.length) said halt) :
      TicksStop t frames limit n
        (ticksSaid t.plan t.plan.rates.pictureTicks frames n done ++ said) halt

inductive Stopped (t : Transfer) (frames limit : Nat) : List Said → Halt → Prop where
  | crowded {fault} : Stopped t frames limit [] (.fault fault)
  | ticks {said halt} (stops : TicksStop t frames limit 0 said halt) :
      Stopped t frames limit (⟨.stage "Encoding", ()⟩ :: said) halt
  | finish {ticks : List (Tick (t.plan.soundChannels * frames))} {said halt}
      (fitting : Fitting t 0 ticks) (count : ticks.length = t.plan.tickCount)
      (left : Departs t.plan.stereoscopic (finishSaid t.sets) said halt) :
      Stopped t frames limit (⟨.stage "Encoding", ()⟩ ::
        (ticksSaid t.plan t.plan.rates.pictureTicks frames 0 ticks ++ said)) halt
  | putOff {ticks : List (Tick (t.plan.soundChannels * frames))} {failure}
      (fitting : Fitting t 0 ticks) (count : ticks.length = t.plan.tickCount) :
      Stopped t frames limit (⟨.stage "Encoding", ()⟩ ::
        (ticksSaid t.plan t.plan.rates.pictureTicks frames 0 ticks ++ finishSaid t.sets ++
          [⟨.trouble, some failure⟩])) (.failed failure)

section Stops
variable {t : Transfer} {frames n reel limit : Nat} {before after : Status} {said : List Said}
  {halt : Halt}

theorem startFits {plan : Plan} (fits : FitsInt64 (plan.length.ticks + plan.rates.pictureTicks))
    (inside : (tickStart plan.rates.pictureTicks n).ticks < plan.length.ticks) :
    FitsInt64 (tickStart plan.rates.pictureTicks (n + 1)).ticks := by
  have next : (tickStart plan.rates.pictureTicks (n + 1)).ticks =
      (tickStart plan.rates.pictureTicks n).ticks + plan.rates.pictureTicks := by
    simp [tickStart, Nat.succ_mul]
  have low := startNonneg plan.rates.pictureTicks n
  rw [next]
  unfold FitsInt64 at *
  omega

theorem tickHalts (accepted : Accepted t.plan t.sets)
    (fits : FitsInt64 (t.plan.length.ticks + t.plan.rates.pictureTicks))
    (inside : (tickStart t.plan.rates.pictureTicks n).ticks < t.plan.length.ticks)
    (length : before.length = t.plan.length) (cursor : Cursor t t.plan.rates.pictureTicks n reel)
    (go : Goes (t.tick ⟨t.plan.rates.pictureTicks⟩ frames reel
      (tickStart t.plan.rates.pictureTicks n)) before said (.error halt) after) :
    TickStops t frames n said halt := by
  obtain ⟨filler, fitting⟩ := fillerFits (t.plan.soundChannels * frames) accepted inside
  rw [tickParts] at go
  obtain ⟨stop, rest, rfl, onward⟩ := (goesAskOn .interrupted).mp go
  cases stop with
  | true =>
    obtain ⟨rfl, same, _⟩ := goesFail.mp onward
    cases same
    exact .departs filler fitting (departsHere .interrupted)
  | false =>
    simp only [Bool.false_eq_true, ↓reduceIte, pass] at onward
    rcases reelAtCursor accepted cursor inside with ⟨later, found, cursor'⟩ | ⟨several, skips, lost⟩
    · obtain ⟨set, selected⟩ := cursorSet accepted cursor'
      have same := (reelAtSet accepted.parts cursor.single found).1
      rw [found, goesKnownOk, setOfFound.mpr selected, goesKnownOk] at onward
      have chosen : t.setAt (tickStart t.plan.rates.pictureTicks n) = some set :=
        (congrArg (t.sets[·]?) same).trans selected
      rcases goesBind.mp onward with ⟨_, same, stops⟩ | ⟨_, _, middle, _, rfl, sights, later⟩
      · cases same
        obtain ⟨pictures, count, taken, departs⟩ := picturesDepart
          (accepted.stereo set (List.mem_of_getElem? selected)) stops
        exact .departs ⟨set, pictures, filler.sound, false⟩ ⟨chosen, count, taken⟩
          (departsAfter [⟨.interrupted, false⟩] (departsMore departs))
      · obtain ⟨pictures, count, taken, rfl, rfl⟩ := goesPictures.mp sights
        simp only [tickNext.mpr ⟨startFits fits inside, rfl⟩, checked, Halt.ofChecked_ok, goesKnownOk,
          goesChangeOn, goesLookOn, goesAskOn (.progress _), goesAskOn .nudge] at later
        obtain ⟨⟨⟩, _, rfl, ⟨⟩, _, rfl, last⟩ := later
        rcases goesBind.mp last with ⟨_, same, stops⟩ | ⟨_, _, _, _, rfl, _, ended⟩
        · cases same
          obtain ⟨sound, short, departs⟩ := soundDeparts accepted.channels stops
          refine .departs ⟨set, pictures, sound, short⟩ ⟨chosen, count, taken⟩ ?_
          rw [← length, ← sentLength set pictures before]
          exact departsAfter [⟨.interrupted, false⟩] (departsAfter _
            (departsAfter [⟨.progress _, ()⟩, ⟨.nudge, ()⟩] departs))
        · simp at ended
    · rw [lost] at onward
      obtain ⟨rfl, same, _⟩ := goesKnownError.mp onward
      cases same
      exact .astray several skips

theorem tickPasses (accepted : Accepted t.plan t.sets)
    (inside : (tickStart t.plan.rates.pictureTicks n).ticks < t.plan.length.ticks)
    (length : before.length = t.plan.length) (cursor : Cursor t t.plan.rates.pictureTicks n reel)
    {later : Nat} {next : Time} (go : Goes (t.tick ⟨t.plan.rates.pictureTicks⟩ frames reel
      (tickStart t.plan.rates.pictureTicks n)) before said (.ok (later, next)) after) :
    next = tickStart t.plan.rates.pictureTicks (n + 1) ∧
      Cursor t t.plan.rates.pictureTicks (n + 1) later ∧ after.length = t.plan.length ∧
      ∃ tick : Tick (t.plan.soundChannels * frames),
        tick.Fits t (tickStart t.plan.rates.pictureTicks n) ∧
        said = tickSaid t.plan frames
          (fractionAt t.plan.length (tickStart t.plan.rates.pictureTicks (n + 1))) tick := by
  obtain ⟨found, added, tick, selected, count, taken, rfl, rfl⟩ := (goesTick accepted.channels).mp go
  obtain ⟨_, rfl⟩ := tickNext.mp added
  have same := (reelAtSet accepted.parts cursor.single found).1
  refine ⟨rfl, ?_, by rw [tickedLength, length], tick,
    ⟨(congrArg (t.sets[·]?) same).trans selected, count, taken⟩, by rw [length]⟩
  rcases reelAtCursor accepted cursor inside with ⟨other, found', cursor'⟩ | ⟨_, _, lost⟩
  · rw [found] at found'
    cases found'
    exact cursor'
  · rw [found] at lost
    cases lost

theorem ticksStopLater {tick : Tick (t.plan.soundChannels * frames)}
    (fits : tick.Fits t (tickStart t.plan.rates.pictureTicks n))
    (later : TicksStop t frames limit (n + 1) said halt) :
    TicksStop t frames (limit + 1) n (tickSaid t.plan frames
      (fractionAt t.plan.length (tickStart t.plan.rates.pictureTicks (n + 1))) tick ++ said) halt := by
  have shift (done : List (Tick (t.plan.soundChannels * frames))) :
      n + 1 + done.length = n + (tick :: done).length := by simp only [List.length_cons]; omega
  cases later with
  | limit fitting count inside =>
    rw [shift] at inside
    exact .limit (fittingCons.mpr ⟨fits, fitting⟩) (congrArg (· + 1) count) inside
  | tick fitting inside stops =>
    rw [shift] at inside stops
    rw [← List.append_assoc]
    exact .tick (fittingCons.mpr ⟨fits, fitting⟩) inside stops

theorem ticksHalt (accepted : Accepted t.plan t.sets)
    (fits : FitsInt64 (t.plan.length.ticks + t.plan.rates.pictureTicks))
    (length : before.length = t.plan.length) (cursor : 0 < t.plan.length.ticks →
      Cursor t t.plan.rates.pictureTicks n reel)
    (go : Goes (t.ticks ⟨t.plan.rates.pictureTicks⟩ frames limit reel
      (tickStart t.plan.rates.pictureTicks n) n) before said (.error halt) after) :
    TicksStop t frames limit n said halt := by
  induction limit generalizing n reel before said with
  | zero =>
    unfold Transfer.ticks at go
    split at go
    · rename_i inside
      obtain ⟨rfl, same, _⟩ := goesThrow.mp go
      cases same
      exact .limit fittingNone rfl inside
    · simp at go
  | succ limit ih =>
    unfold Transfer.ticks at go
    split at go
    · rename_i inside
      have cursor := cursor (Int.lt_of_le_of_lt (startNonneg _ n) inside)
      rcases goesBind.mp go with ⟨_, same, stops⟩ | ⟨_, ⟨later, next⟩, _, _, rfl, passes, onward⟩
      · cases same
        exact .tick fittingNone inside (tickHalts accepted fits inside length cursor stops)
      · obtain ⟨rfl, cursor', length', tick, suits, rfl⟩ :=
          tickPasses accepted inside length cursor passes
        exact ticksStopLater suits (ih length' (fun _ => cursor') onward)
    · simp at go

theorem courseFitting (accepted : Accepted t.plan t.sets)
    {ticks : List (Tick (t.plan.soundChannels * frames))}
    (course : Course t t.plan.rates.pictureTicks frames 0 0 ticks) :
    Fitting t 0 ticks ∧ ticks.length = t.plan.tickCount :=
  ⟨courseFits accepted.parts course fun _ => rfl, courseCount course⟩

theorem playHalts (accepted : Accepted t.plan t.sets) (fresh : t.started = false)
    (fits : FitsInt64 (t.plan.length.ticks + t.plan.rates.pictureTicks))
    (length : before.length = t.plan.length)
    (go : Goes (t.play limit) before said (.error halt) after) :
    ∃ frames, (said ≠ [] → t.plan.rates.soundPerPicture = .ok frames) ∧
      Stopped t frames limit said halt := by
  have zero := startZero t.plan.rates.pictureTicks
  cases opens : t.opening with
  | error fault =>
    rw [playCrowded fresh opens] at go
    obtain ⟨rfl, same, _⟩ := goesThrow.mp go
    cases same
    exact ⟨0, fun some => absurd rfl some, .crowded⟩
  | ok opened =>
    obtain ⟨duration, frames⟩ := opened
    obtain ⟨rfl, rate⟩ := openingExact accepted.picture opens
    refine ⟨frames, fun _ => rate, ?_⟩
    rw [playBegun fresh opens] at go
    obtain ⟨⟨⟩, _, rfl, onward⟩ := (goesAskOn (.stage _)).mp go
    rw [proceed, zero] at onward
    rcases goesBind.mp onward with ⟨_, same, stops⟩ | ⟨_, _, middle, _, rfl, run, last⟩
    · cases same
      exact .ticks (ticksHalt accepted fits length (cursorStart accepted) stops)
    · obtain ⟨ticks, course, _, rfl, rfl, rfl⟩ := (goesTicks accepted.channels length).mp run
      obtain ⟨fitting, count⟩ := courseFitting accepted course
      rcases goesBind.mp last with ⟨_, same, stops⟩ | ⟨_, _, _, _, rfl, finished, ended⟩
      · cases same
        exact .finish fitting count (finishDeparts stops)
      · obtain ⟨rfl, rfl⟩ := goesFinish.mp finished
        obtain ⟨putOff, rfl, _, same⟩ := goesConclude.mp ended
        cases putOff with
        | none => cases same
        | some failure =>
          cases same
          rw [← List.append_assoc]
          exact .putOff fitting count

end Stops
end Telecine.Transfer
