import Telecine.Proofs.Clock.Boundaries
import Telecine.Proofs.Clock.Tiling
import Telecine.Proofs.Transfer.Accounts
import Telecine.Proofs.Transfer.Ends

/-! The clock's count of a film against the ticks of its transfer. Both move up to the first boundary that
the film does not reach past, the one by a division and the other tick by tick; where a frame lasts a whole
number of ticks of the clock they agree, on films that end inside a frame too. -/
namespace Telecine

/-- The rounds of a loop that moves a time on by `frame` while it lies before `length`: how many there are
from a time on, and the time that they end at. -/
inductive Elapses (frame length : Time) : Time → Nat → Time → Prop
  | ended {time : Time} (reached : length.ticks ≤ time.ticks) : Elapses frame length time 0 time
  | round {time next stop : Time} {count : Nat} (before : time.ticks < length.ticks)
      (moved : time.add frame = .ok next) (rest : Elapses frame length next count stop) :
      Elapses frame length time (count + 1) stop

section Elapses
variable {frame length time stop stop' : Time} {count count' duration n : Nat}

theorem elapsesUnique (one : Elapses frame length time count stop)
    (other : Elapses frame length time count' stop') : count = count' ∧ stop = stop' := by
  induction one generalizing count' with
  | ended reached =>
    cases other with
    | ended => exact ⟨rfl, rfl⟩
    | round before => omega
  | round before moved rest ih =>
    cases other with
    | ended reached => omega
    | round _ moved' rest' =>
      obtain rfl := Except.ok.inj (moved.symm.trans moved')
      obtain ⟨same, ends⟩ := ih rest'
      exact ⟨congrArg (· + 1) same, ends⟩

theorem elapsesStarts (elapses : Elapses ⟨duration⟩ length (tickStart duration n) count stop) :
    stop = tickStart duration (n + count) ∧ length.ticks ≤ stop.ticks ∧
      ∀ k < count, (tickStart duration (n + k)).ticks < length.ticks := by
  generalize start : tickStart duration n = time at elapses
  induction elapses generalizing n with
  | ended reached => exact ⟨start.symm, reached, by simp⟩
  | @round time next stop count before moved rest ih =>
    subst start
    obtain ⟨_, rfl⟩ := tickNext.mp moved
    obtain ⟨ends, reached, within⟩ := ih rfl
    have shift (k : Nat) : n + 1 + k = n + (k + 1) := by omega
    refine ⟨shift count ▸ ends, reached, fun k low => ?_⟩
    cases k with
    | zero => exact before
    | succ k => exact shift k ▸ within k (by omega)

theorem elapsesEnds (lasts : 0 < duration) (fits : FitsInt64 (length.ticks + duration)) :
    ∃ count stop, Elapses ⟨duration⟩ length (tickStart duration n) count stop := by
  generalize left : (length.ticks - (tickStart duration n).ticks).toNat = rest
  induction rest using Nat.strong_induction_on generalizing n with
  | _ rest ih =>
    by_cases before : (tickStart duration n).ticks < length.ticks
    · have later : (tickStart duration (n + 1)).ticks = (tickStart duration n).ticks + duration := by
        simp [tickStart, Nat.succ_mul]
      have low := startNonneg duration (n + 1)
      obtain ⟨count, stop, rounds⟩ := ih _ (by omega) (n := n + 1) rfl
      refine ⟨count + 1, stop, .round before (tickNext.mpr ⟨?_, rfl⟩) rounds⟩
      unfold FitsInt64 at *
      omega
    · exact ⟨0, _, .ended (by omega)⟩

end Elapses

section Counted
variable {r : FrameRates} {length stop : Time} {count : Nat}

/-- A frame may start up to one tick early, and the clock's count bears with half a frame of that. -/
theorem roundRounds (fits : FitsInt64 ((tickStart r.pictureTicks count).ticks * r.picture * 2 +
      Time.ticksPerSecond)) :
    r.pictures (tickStart r.pictureTicks count) = .ok count ↔
      2 * (count * (96000 % r.picture)) ≤ 96000 := by
  have parts : r.pictureTicks * r.picture + 96000 % r.picture = 96000 := by
    rw [Nat.mul_comm]
    exact Nat.div_add_mod 96000 r.picture
  have scaled : (tickStart r.pictureTicks count).ticks * r.picture + (count * (96000 % r.picture) : Nat) =
      count * 96000 := by
    rw [tickStart, ← Int.natCast_mul, ← Int.natCast_add, Nat.mul_assoc, ← Nat.mul_add, parts]
    rfl
  have low : 0 ≤ (tickStart r.pictureTicks count).ticks * r.picture :=
    Int.mul_nonneg (startNonneg _ _) (Int.natCast_nonneg _)
  rw [FrameRates.pictures, roundFramesWithin (by unfold FitsInt64 Time.ticksPerSecond at *; omega) fits,
    Except.ok.injEq]
  unfold Time.ticksPerSecond
  omega

theorem ceilRounds (some : r.picture ≠ 0) (lasts : 0 < r.pictureTicks) (begun : 0 ≤ length.ticks)
    (past : FitsInt64 (length.ticks + r.pictureTicks))
    (elapses : Elapses ⟨r.pictureTicks⟩ length Time.zero count stop) : length.ceil r.picture = .ok stop := by
  rw [startZero r.pictureTicks] at elapses
  obtain ⟨rfl, reached, within⟩ := elapsesStarts elapses
  simp only [Nat.zero_add] at reached within ⊢
  have here : FitsInt64 length.ticks := by
    unfold FitsInt64 at *
    omega
  have last : (length.ticks + r.pictureTicks - 1) / r.pictureTicks = count := by
    have most := (upFrom lasts count).mp (by simpa [tickStart] using reached)
    refine Int.le_antisymm most ?_
    cases count with
    | zero => exact Int.ediv_nonneg (by omega) (by omega)
    | succ count =>
      have before := within count (by omega)
      by_contra less
      have early := (upFrom (t := length) lasts count).mpr (by omega)
      simp only [tickStart] at before
      omega
  rw [ceilExact (FrameRates.pictureDurationExact some) lasts here past, last]
  rfl

theorem picturesRounds (some : r.picture ≠ 0) (lasts : 0 < r.pictureTicks) (begun : 0 ≤ length.ticks)
    (past : FitsInt64 (length.ticks + r.pictureTicks))
    (elapses : Elapses ⟨r.pictureTicks⟩ length Time.zero count stop) :
    r.picturesFor length = r.pictures stop := by
  rw [FrameRates.picturesFor, ceilRounds some lasts begun past elapses]
  rfl

theorem wholeRounds (divides : 96000 % r.picture = 0)
    (elapses : Elapses ⟨r.pictureTicks⟩ length Time.zero count stop)
    (fits : FitsInt64 (stop.ticks * r.picture * 2 + Time.ticksPerSecond)) :
    r.pictures stop = .ok count := by
  rw [startZero r.pictureTicks] at elapses
  obtain ⟨rfl, _⟩ := elapsesStarts elapses
  rw [Nat.zero_add] at fits ⊢
  exact (roundRounds fits).mpr (by simp [divides])

end Counted

theorem courseTime {size duration n : Nat} {ticks : List (Tick size)} {s : Status}
    (time : s.time = tickStart duration n) :
    (s.course duration n ticks).time = tickStart duration (n + ticks.length) := by
  induction ticks generalizing s n with
  | nil => exact time
  | cons tick ticks ih =>
    rw [List.length_cons, ← Nat.add_assoc, Nat.add_right_comm]
    exact ih (Transfer.tickedTime _ _ _)

namespace Transfer
open Dialogue

variable {t : Transfer} {duration frames reel n limit : Nat} {before after : Status}

theorem courseElapses {ticks : List (Tick (t.plan.soundChannels * frames))}
    (course : Course t duration frames reel n ticks) :
    Elapses ⟨duration⟩ t.plan.length (tickStart duration n) ticks.length
      (tickStart duration (n + ticks.length)) := by
  induction course with
  | ended covered => exact .ended covered
  | @tick reel later n tick ticks more fits _ _ _ _ _ ih =>
    rw [List.length_cons, ← Nat.add_assoc, Nat.add_right_comm]
    exact .round more (tickNext.mpr ⟨fits, rfl⟩) ih

theorem playElapses (accepted : Accepted t.plan t.sets) (fresh : t.started = false)
    (length : before.length = t.plan.length) (time : before.time = Time.zero) {said : List Said}
    {summary : Summary} (go : Goes (t.play limit) before said (.ok summary) after) :
    Elapses ⟨t.plan.rates.pictureTicks⟩ t.plan.length Time.zero summary.ticks after.time := by
  obtain ⟨_, frames, count, run, middle, lasts, _, _, _, ticking, _, rfl, rfl⟩ := (goesPlay fresh).mp go
  obtain rfl := Except.ok.inj ((FrameRates.pictureDurationExact accepted.picture).symm.trans lasts)
  rw [startZero t.plan.rates.pictureTicks] at ticking time ⊢
  obtain ⟨ticks, course, _, rfl, _, rfl⟩ := (goesTicks accepted.channels length).mp ticking
  have stood : (before.course t.plan.rates.pictureTicks 0 ticks).time =
      tickStart t.plan.rates.pictureTicks (0 + ticks.length) := courseTime time
  have elapses := courseElapses course
  rw [← stood] at elapses
  simpa only [Nat.zero_add] using elapses

end Transfer

/-- What the clock says at a rate whose frames last a whole number of its ticks, wherever the products that
it forms on the way have room. -/
structure FrameRates.KeepsTime (r : FrameRates) : Prop where
  frame : r.pictureDuration = .ok ⟨r.pictureTicks⟩
  floor : ∀ t : Time, FitsInt64 (t.ticks * r.picture) → ∃ n, t.floorFrames r.picture = .ok n ∧
    (FitsInt64 (n * Time.ticksPerSecond) →
      IsGreatest {k | ∃ s, Time.ofFrames k r.picture = .ok s ∧ s.ticks ≤ t.ticks} n)
  ceil : ∀ t : Time, FitsInt64 t.ticks → FitsInt64 (t.ticks + r.pictureTicks) →
    ∃ c, t.ceil r.picture = .ok c ∧ (FitsInt64 (c.ticks * r.picture) →
      IsLeast {b | ∃ n, Time.ofFrames n r.picture = .ok ⟨b⟩ ∧ t.ticks ≤ b} c.ticks)
  round : ∀ t : Time, FitsInt64 (t.ticks * r.picture * 2) →
    FitsInt64 (t.ticks * r.picture * 2 + Time.ticksPerSecond) → ∃ n, t.roundFrames r.picture = .ok n ∧
      (FitsInt64 (n * Time.ticksPerSecond) → ∃ s, Time.ofFrames n r.picture = .ok s ∧
        ∀ k s', Time.ofFrames k r.picture = .ok s' →
          s.gap t ≤ s'.gap t ∧ (s.gap t = s'.gap t → k ≤ n))
  loop : ∀ length : Time, 0 ≤ length.ticks → FitsInt64 (length.ticks + r.pictureTicks) →
    ∃ count stop, Elapses ⟨r.pictureTicks⟩ length Time.zero count stop ∧
      (FitsInt64 (stop.ticks * r.picture * 2 + Time.ticksPerSecond) →
        r.picturesFor length = .ok count ∧ r.pictures stop = .ok count)
  run : ∀ (plan : Transfer.Plan) (sets : List FileSet) (t : Transfer), plan.rates = r →
    Transfer.new plan sets = .ok t →
    ∀ (ω : Type) (surroundings : Transfer.Surroundings (StateM ω)) (world : ω) (limit : Nat)
      (summary : Transfer.Summary), (t.run limit surroundings world).1.1 = .ok summary →
    let status := (t.run limit surroundings world).1.2.status
    Elapses ⟨r.pictureTicks⟩ plan.length Time.zero summary.ticks status.time ∧
      (FitsInt64 (plan.length.ticks + r.pictureTicks) →
        FitsInt64 (status.time.ticks * r.picture * 2 + Time.ticksPerSecond) →
        r.picturesFor plan.length = .ok summary.ticks ∧ status.picturesDone = .ok summary.ticks)

namespace Transfer
open Dialogue

theorem runElapses {plan : Plan} {sets : List FileSet} {t : Transfer}
    (made : Transfer.new plan sets = .ok t) {ω : Type} (surroundings : Surroundings (StateM ω))
    (world : ω) (limit : Nat) {summary : Summary}
    (ok : (t.run limit surroundings world).1.1 = .ok summary) :
    let status := (t.run limit surroundings world).1.2.status
    Elapses ⟨plan.rates.pictureTicks⟩ plan.length Time.zero summary.ticks status.time ∧
      status.pictureRate = plan.rates.picture := by
  obtain ⟨accepted, rfl⟩ := newAccepted.mp made
  have telling := traceTells surroundings.answer
    (dialogue ⟨plan, sets, Status.new plan.rates.picture plan.length, false⟩ limit) world
  obtain ⟨booked, _⟩ := playEnds accepted rfl (levelNew plan) telling
  have go : Goes (play ⟨plan, sets, Status.new plan.rates.picture plan.length, false⟩ limit) _ _
    (.ok summary) _ := ok ▸ tellsSays telling
  exact ⟨playElapses accepted rfl rfl rfl go, booked.rate⟩

end Transfer

theorem keepsTime {r : FrameRates} (divides : 96000 % r.picture = 0) : r.KeepsTime where
  frame := FrameRates.pictureDurationExact (by rintro none; simp [none] at divides)
  floor _ fits := floorGreatest (FrameRates.ticksWhole divides) fits
  ceil _ here past := ceilLeast (FrameRates.ticksWhole divides) here past
  round _ doubled shifted := roundNearest (FrameRates.ticksWhole divides) doubled shifted
  loop length begun past := by
    obtain ⟨lasts, some⟩ := wholePositive (FrameRates.ticksWhole divides)
    obtain ⟨count, stop, elapses⟩ := elapsesEnds (n := 0) lasts past
    rw [← startZero] at elapses
    refine ⟨count, stop, elapses, fun fits => ?_⟩
    have whole := wholeRounds divides elapses fits
    exact ⟨(picturesRounds (Nat.ne_of_gt some) lasts begun past elapses).trans whole, whole⟩
  run plan sets t rates made ω surroundings world limit summary ok := by
    subst rates
    obtain ⟨lasts, some⟩ := wholePositive (FrameRates.ticksWhole divides)
    obtain ⟨elapses, rate⟩ := Transfer.runElapses made surroundings world limit ok
    refine ⟨elapses, fun past fits => ?_⟩
    have begun := Period.tilesForward (Period.partitionTiles.mp (Transfer.newAccepted.mp made).1.parts)
    have whole := wholeRounds divides elapses fits
    refine ⟨(picturesRounds (Nat.ne_of_gt some) lasts begun past elapses).trans whole, ?_⟩
    rw [Status.picturesDone, rate]
    exact whole

theorem timeKept (r : FrameRates) :
    (96000 % r.picture = 0 → r.KeepsTime) ∧
      (r.picture ≠ 0 → ∀ n : Int, FitsInt64 (n * Time.ticksPerSecond) →
        ∃ s, Time.ofFrames n r.picture = .ok s) ∧
      (96000 % r.picture = 0 ∨ r.picture ≤ 48000 → ∀ (n : Int) (s : Time),
        Time.ofFrames n r.picture = .ok s → FitsInt64 (s.ticks * r.picture * 2) →
        FitsInt64 (s.ticks * r.picture * 2 + Time.ticksPerSecond) → s.roundFrames r.picture = .ok n) :=
  ⟨keepsTime, fun some _ fits => ⟨_, ofFramesExact some fits⟩,
    fun known _ _ starts doubled shifted => roundTrip known starts doubled shifted⟩

theorem timeKeptTwoReels :
    let rates := Transfer.twoReels.rates
    let t : Transfer := ⟨Transfer.twoReels, Transfer.twoFiles, Status.new 24 ⟨8000⟩, false⟩
    let ran := t.run 2 Transfer.alternating 0
    IsGreatest {k | ∃ s, Time.ofFrames k 24 = .ok s ∧ s.ticks ≤ -1} (-1) ∧
      IsLeast {b | ∃ n, Time.ofFrames n 24 = .ok ⟨b⟩ ∧ 1 ≤ b} 4000 ∧
      (⟨-2000⟩ : Time).roundFrames 24 = .ok 0 ∧
      (∀ k s, Time.ofFrames k 24 = .ok s → 2000 ≤ s.gap ⟨-2000⟩ ∧ (2000 = s.gap ⟨-2000⟩ → k ≤ 0)) ∧
      Elapses ⟨4000⟩ ⟨8001⟩ Time.zero 3 ⟨12000⟩ ∧ rates.picturesFor ⟨8001⟩ = .ok 3 ∧
      rates.pictures ⟨12000⟩ = .ok 3 ∧ Elapses ⟨4000⟩ ⟨8000⟩ Time.zero 2 ran.1.2.status.time ∧
      ran.1.2.status.picturesDone = .ok 2 ∧
      Time.ofFrames (-3) 7 = .ok ⟨-41142⟩ ∧ (⟨-41142⟩ : Time).roundFrames 7 = .ok (-3) := by
  have keeps := (timeKept Transfer.twoReels.rates).1 (by decide)
  obtain ⟨n, floors, greatest⟩ := keeps.floor ⟨-1⟩ (by decide)
  obtain rfl : -1 = n := Except.ok.inj floors
  obtain ⟨c, ceils, least⟩ := keeps.ceil ⟨1⟩ (by decide) (by decide)
  obtain rfl : ⟨4000⟩ = c := Except.ok.inj ceils
  obtain ⟨k, rounds, nearest⟩ := keeps.round ⟨-2000⟩ (by decide) (by decide)
  obtain rfl : 0 = k := Except.ok.inj rounds
  obtain ⟨s, starts, nearest⟩ := nearest (by decide)
  obtain rfl : ⟨0⟩ = s := Except.ok.inj starts
  obtain ⟨count, stop, elapses, counted⟩ := keeps.loop ⟨8001⟩ (by decide) (by decide)
  have three : Elapses ⟨4000⟩ ⟨8001⟩ Time.zero 3 ⟨12000⟩ :=
    .round (by decide) rfl (.round (by decide) rfl (.round (by decide) rfl (.ended (by decide))))
  obtain ⟨rfl, rfl⟩ := elapsesUnique elapses three
  obtain ⟨film, loop⟩ := counted (by decide)
  obtain ⟨two, done⟩ := keeps.run Transfer.twoReels Transfer.twoFiles _ rfl rfl Nat Transfer.alternating 0 2 _ rfl
  refine ⟨greatest (by decide), least (by decide), rounds, nearest, three, film, loop, two,
    (done (by decide) (by decide)).2, rfl, ?_⟩
  exact (timeKept ⟨7, 48⟩).2.2 (.inr (by decide)) (-3) _ rfl (by decide) (by decide)

end Telecine
