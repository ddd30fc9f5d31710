import Telecine.Proofs.Transfer.Accounts
import Telecine.Proofs.Transfer.Whole

/-! Which films the arithmetic has room for. Up to a length of 48038396025284 pictures no computation
of a film or of its transfer leaves its range; nothing bounds the length of a film that is fit to be
exported. -/
namespace Telecine

section Whole
variable {r : FrameRates} {n : Nat}

theorem ceilUp {duration : Nat} (lasts : 0 < duration) :
    ((tickStart duration n).ticks + duration - 1) / duration * duration = (tickStart duration n).ticks := by
  have rounded : ((tickStart duration n).ticks + duration - 1) / duration = n := by
    refine (Int.ediv_eq_iff_of_pos (by omega)).mpr ⟨?_, ?_⟩ <;> simp only [tickStart] <;> push_cast <;>
      omega
  rw [rounded, tickStart, Int.natCast_mul]

theorem ceilParts (some : r.picture ≠ 0) (divides : 96000 % r.picture = 0) :
    (tickStart r.pictureTicks n).ceil r.picture = (do
      let past ← int64 ((tickStart r.pictureTicks n).ticks + r.pictureTicks)
      let last ← int64 (past - 1)
      return ⟨← int64 (last / r.pictureTicks * r.pictureTicks)⟩) := by
  have lasts := FrameRates.ticksLast divides
  have frame : Time.ofFrames 1 r.picture = .ok ⟨r.pictureTicks⟩ := FrameRates.pictureDurationExact some
  have nonzero : (⟨r.pictureTicks⟩ : Time) ≠ Time.zero := by
    simp only [Time.zero, ne_eq, Time.mk.injEq]
    omega
  simp only [Time.ceil, frame, bind, Except.bind, if_neg nonzero]

theorem ceilWhole (some : r.picture ≠ 0) (divides : 96000 % r.picture = 0)
    (fits : FitsInt64 ((n : Int) * 192000 + 96000)) :
    (tickStart r.pictureTicks n).ceil r.picture = .ok (tickStart r.pictureTicks n) := by
  have lasts := FrameRates.ticksLast divides
  have short : r.pictureTicks ≤ 96000 := Nat.div_le_self _ _
  have bound := Nat.mul_le_mul_left n short
  have low := startNonneg r.pictureTicks n
  have high : (tickStart r.pictureTicks n).ticks ≤ (n : Int) * 96000 := by
    simp only [tickStart]
    omega
  unfold FitsInt64 at fits
  rw [ceilParts some divides]
  simp only [bind, Except.bind]
  rw [int64_eq_ok_iff.mpr ⟨show FitsInt64 _ by unfold FitsInt64; omega, rfl⟩]
  simp only []
  rw [int64_eq_ok_iff.mpr ⟨show FitsInt64 _ by unfold FitsInt64; omega, rfl⟩]
  simp only [ceilUp lasts]
  rw [int64_eq_ok_iff.mpr ⟨show FitsInt64 _ by unfold FitsInt64; omega, rfl⟩]
  rfl

theorem ceilOk (some : r.picture ≠ 0) (divides : 96000 % r.picture = 0) {up : Time}
    (ok : (tickStart r.pictureTicks n).ceil r.picture = .ok up) : up = tickStart r.pictureTicks n := by
  rw [ceilParts some divides] at ok
  obtain ⟨_, past, ok⟩ := checkedBound ok
  obtain ⟨_, last, ok⟩ := checkedBound ok
  obtain ⟨_, whole, ok⟩ := checkedBound ok
  obtain ⟨_, rfl⟩ := int64_eq_ok_iff.mp past
  obtain ⟨_, rfl⟩ := int64_eq_ok_iff.mp last
  obtain ⟨_, rfl⟩ := int64_eq_ok_iff.mp whole
  rw [ceilUp (FrameRates.ticksLast divides)] at ok
  exact (Except.ok.inj ok).symm

theorem picturesForFits (some : r.picture ≠ 0) (divides : 96000 % r.picture = 0) {count : Int} :
    r.picturesFor (tickStart r.pictureTicks n) = .ok count ↔
      FitsInt64 ((n : Int) * 192000 + 96000) ∧ count = n := by
  constructor
  · intro ok
    obtain ⟨up, same, ok⟩ := checkedBound ok
    obtain rfl := ceilOk some divides same
    exact (FrameRates.picturesWhole divides).mp ok
  · intro h
    simp only [FrameRates.picturesFor, ceilWhole some divides h.1, bind, Except.bind]
    exact (FrameRates.picturesWhole divides).mpr h

end Whole

namespace Transfer
open Dialogue

def Said.Faults (fault : Fault) : Said → Prop
  | ⟨.sound _ _, answer⟩ => answer = .error fault
  | ⟨.deliver _ _, answer⟩ => answer = .error (.fault fault)
  | _ => False

def Faulted (fault : Fault) (said : List Said) : Prop :=
  ∃ first e, said = first ++ [e] ∧ Said.Faults fault e

section Faults
variable {t : Transfer} {stereoscopic : Bool} {whole rest said : List Said} {fault : Fault}
  {frames limit : Nat} {before after : Status}

theorem faultedAfter (first : List Said) (faulted : Faulted fault said) :
    Faulted fault (first ++ said) := by
  obtain ⟨earlier, e, rfl, faults⟩ := faulted
  exact ⟨first ++ earlier, e, (List.append_assoc ..).symm, faults⟩

theorem departsFaults (departs : Departs stereoscopic whole said (.fault fault)) :
    Faulted fault said := by
  obtain ⟨common, rest, last, _, rfl, leaves⟩ := departs
  cases leaves with
  | unheard => exact ⟨common, _, rfl, rfl⟩
  | unfiled => exact ⟨common, _, rfl, rfl⟩

theorem stopsFaults (stopped : Stopped t frames limit said (.fault fault)) (some : said ≠ []) :
    Faulted fault said := by
  cases stopped with
  | crowded => exact absurd rfl some
  | ticks stops =>
    cases stops with
    | tick fitting inside stops =>
      cases stops with
      | departs tick fits left => exact faultedAfter [_] (faultedAfter _ (departsFaults left))
  | finish fitting count left => exact faultedAfter [_] (faultedAfter _ (departsFaults left))

theorem openingCrowded (some : t.plan.rates.picture ≠ 0) (rate : t.plan.rates.soundPerPicture = .ok frames)
    (opens : t.opening = .error fault) : maxBlock < t.plan.soundChannels * frames * Sound.sampleSize ∨
      maxBlock < t.plan.soundChannels * Sound.channelSize := by
  by_contra room
  rw [not_or, Nat.not_lt, Nat.not_lt, ← reserve_eq_ok_iff, ← reserve_eq_ok_iff] at room
  obtain ⟨samples, channels⟩ := room
  simp only [opening, FrameRates.pictureDurationExact some, rate, samples, channels, bind,
    Except.bind] at opens
  cases opens

theorem playFaults (accepted : Accepted t.plan t.sets) (fresh : t.started = false)
    (fits : FitsInt64 (t.plan.length.ticks + t.plan.rates.pictureTicks))
    (length : before.length = t.plan.length) (rate : t.plan.rates.soundPerPicture = .ok frames)
    (go : Goes (t.play limit) before said (.error (.fault fault)) after) :
    (said = [] ∧ (maxBlock < t.plan.soundChannels * frames * Sound.sampleSize ∨
        maxBlock < t.plan.soundChannels * Sound.channelSize)) ∨
      Faulted fault said := by
  -- What a transfer computes itself can fail in its opening only; later faults are those of an answer.
  cases opens : t.opening with
  | error other =>
    rw [playCrowded fresh opens] at go
    exact .inl ⟨(goesThrow.mp go).1, openingCrowded accepted.picture rate opens⟩
  | ok opened =>
    obtain ⟨_, _, stopped⟩ := playHalts accepted fresh fits length go
    rw [playBegun fresh opens] at go
    obtain ⟨reply, rest, rfl, _⟩ := (goesAskOn (.stage _)).mp go
    exact .inr (stopsFaults stopped (List.cons_ne_nil _ _))

end Faults

theorem runInRange {plan : Plan} {sets : List FileSet} {t : Transfer}
    (made : Transfer.new plan sets = .ok t) (divides : 96000 % plan.rates.picture = 0) {last : Nat}
    (length : plan.length = tickStart plan.rates.pictureTicks last)
    (fits : FitsInt64 ((last : Int) * 192000 + 96000)) {frames : Nat}
    (rate : plan.rates.soundPerPicture = .ok frames) {ω : Type}
    (surroundings : Surroundings (StateM ω)) (world : ω) (limit : Nat) (limits : List Nat) :
    let ran := t.run limit surroundings world
    let told := traceRuns surroundings (limit :: limits) t world
    (∀ fault, ran.1.1 = .error (.fault fault) →
      (told = [] ∧ (maxBlock < plan.soundChannels * frames * Sound.sampleSize ∨
        maxBlock < plan.soundChannels * Sound.channelSize)) ∨
      Faulted fault (told.map Exchange.said)) ∧
    ∀ first rest, told = first ++ rest → ∃ n ≤ last,
      (statusNext rest ran.1.2.status).picturesDone = .ok n := by
  obtain ⟨accepted, rfl⟩ := newAccepted.mp made
  intro ran told
  have telling := traceTells surroundings.answer
    (dialogue ⟨plan, sets, Status.new plan.rates.picture plan.length, false⟩ limit) world
  rw [← tracesOnce surroundings world limit limits] at telling
  have count := tickCountWhole (FrameRates.ticksLast divides) length
  have short : plan.rates.pictureTicks ≤ 96000 := Nat.div_le_self _ _
  have within := Nat.mul_le_mul_left last short
  refine ⟨fun fault stops => ?_, fun first rest split => ?_⟩
  · have go : Goes (play ⟨plan, sets, Status.new plan.rates.picture plan.length, false⟩ limit) _ _
        (.error (.fault fault)) _ := stops ▸ tellsSays telling
    have room : FitsInt64 (plan.length.ticks + plan.rates.pictureTicks) := by
      simp only [length, FitsInt64, tickStart] at fits ⊢
      omega
    rcases playFaults accepted rfl room rfl rate go with ⟨none, crowded⟩ | faulted
    · exact .inl ⟨List.map_eq_nil_iff.mp none, crowded⟩
    · exact .inr faulted
  · obtain ⟨shown, timed⟩ := playShows accepted rfl (levelNew plan) telling split
    obtain ⟨done, within⟩ := doneWhole divides (by rw [count]; exact fits) shown timed
    exact ⟨_, count ▸ within, done⟩

end Transfer

namespace Film
open Transfer Dialogue

theorem lengthWhole {f : Film} (fit : f.Fit) {last : Nat} (length : f.lengthFrames = last) {time : Time}
    (lasts : f.length = .ok time) : time = tickStart f.rates.pictureTicks last := by
  have fits : FitsInt64 (last * Time.ticksPerSecond) := by
    rw [Film.length, Time.ofFrames, if_neg fit.rate, length] at lasts
    obtain ⟨_, scaled, _⟩ := checkedBound lasts
    exact (int64_eq_ok_iff.mp scaled).1
  rw [Film.length, length, ofFramesWhole fit.rate fit.divides fits] at lasts
  exact (Except.ok.inj lasts).symm

/-- Of a film that is fit to be exported, the length alone decides whether its pictures can be counted. -/
theorem countedExactly {f : Film} (valid : f.validate = .ok ()) {time : Time}
    (lasts : f.length = .ok time) :
    (∃ count, f.rates.picturesFor time = .ok count) ↔ FitsInt64 (f.lengthFrames * 192000 + 96000) := by
  have fit := validFit valid
  obtain ⟨last, length⟩ := Int.eq_ofNat_of_zero_le (Int.le_of_lt fit.length)
  obtain rfl := lengthWhole fit length lasts
  rw [length]
  exact ⟨fun ⟨_, counted⟩ => ((picturesForFits fit.rate fit.divides).mp counted).1,
    fun fits => ⟨last, (picturesForFits fit.rate fit.divides).mpr ⟨fits, rfl⟩⟩⟩

theorem arithmeticFits {f : Film} (valid : f.validate = .ok ()) (rate : f.rates.sound < 4294967296)
    (fits : FitsInt64 (f.lengthFrames * 192000 + 96000)) :
    ∃ length reels frames, f.length = .ok length ∧ f.reels = .ok reels ∧
      f.rates.picturesFor length = .ok f.lengthFrames ∧ f.rates.soundPerPicture = .ok frames ∧
      ∀ (plan : Plan) (sets : List FileSet) (t : Transfer), plan.rates = f.rates →
        plan.length = length → Transfer.new plan sets = .ok t →
        ∀ (ω : Type) (surroundings : Surroundings (StateM ω)) (world : ω) (limit : Nat)
          (limits : List Nat),
        let ran := t.run limit surroundings world
        let told := traceRuns surroundings (limit :: limits) t world
        (∀ fault, ran.1.1 = .error (.fault fault) →
          (told = [] ∧ (maxBlock < plan.soundChannels * frames * Sound.sampleSize ∨
            maxBlock < plan.soundChannels * Sound.channelSize)) ∨
          Faulted fault (told.map Exchange.said)) ∧
        ∀ first rest, told = first ++ rest → ∃ n : Nat, n ≤ f.lengthFrames ∧
          (statusNext rest ran.1.2.status).picturesDone = .ok n := by
  have fit := validFit valid
  obtain ⟨last, length⟩ := Int.eq_ofNat_of_zero_le (Int.le_of_lt fit.length)
  rw [length] at fits
  have lasts : f.length = .ok (tickStart f.rates.pictureTicks last) := by
    rw [Film.length, length, ofFramesWhole fit.rate fit.divides
      (by unfold FitsInt64 Time.ticksPerSecond at *; omega)]
    rfl
  obtain ⟨reels, found, _⟩ := reelsWhole fit length
    (by unfold FitsInt64 Time.ticksPerSecond at *; omega)
  obtain ⟨frames, heard, _⟩ := FrameRates.soundPerPictureExact fit.rate rate
  have counted := (picturesForFits fit.rate fit.divides).mpr ⟨fits, rfl⟩
  refine ⟨_, reels, frames, lasts, found, length ▸ counted, heard, ?_⟩
  intro plan sets t rates lasting made ω surroundings world limit limits
  rw [← rates] at lasting heard
  obtain ⟨faults, done⟩ := runInRange made (rates ▸ fit.divides) lasting fits heard surroundings world
    limit limits
  refine ⟨faults, fun first rest split => ?_⟩
  obtain ⟨n, within, same⟩ := done first rest split
  exact ⟨n, by rw [length]; omega, same⟩

def shortFilm : Film := ⟨"1.0", "short", ⟨24, 48⟩, 1, false, 2, 2, 2, .atFrames [1]⟩

theorem arithmeticFitsShort :
    let t : Transfer := ⟨twoReels, twoFiles, Status.new 24 ⟨8000⟩, false⟩
    let ran := t.run 2 alternating 0
    let told := traceRuns alternating [2] t 0
    shortFilm.validate = .ok () ∧ shortFilm.rates.sound < 4294967296 ∧
      FitsInt64 (shortFilm.lengthFrames * 192000 + 96000) ∧ shortFilm.length = .ok twoReels.length ∧
      (∃ reels, shortFilm.reels = .ok reels) ∧ Transfer.new twoReels twoFiles = .ok t ∧
      shortFilm.rates.picturesFor twoReels.length = .ok 2 ∧
      ∀ first rest, told = first ++ rest → ∃ n : Nat, n ≤ 2 ∧
        (statusNext rest ran.1.2.status).picturesDone = .ok n := by
  obtain ⟨length, reels, frames, lasts, found, counted, heard, ranges⟩ :=
    @arithmeticFits shortFilm rfl (by decide) (by decide)
  have exact' : shortFilm.length = .ok twoReels.length := rfl
  obtain rfl := Except.ok.inj (exact'.symm.trans lasts)
  have run := (ranges twoReels twoFiles _ rfl rfl rfl Nat alternating 0 2 []).2
  refine ⟨rfl, by decide, by decide, rfl, ⟨reels, found⟩, rfl, counted, fun first rest split => ?_⟩
  obtain ⟨n, within, same⟩ := run first rest split
  exact ⟨n, Int.ofNat_le.mp within, same⟩

theorem arithmeticOverflows :
    let f := Film.titled "long" 24 48038396025285
    f.validate = .ok () ∧ f.length = .ok ⟨192153584101140000⟩ ∧
      f.rates.picturesFor ⟨192153584101140000⟩ = .error .overflow ∧
      Status.picturesDone ⟨24, ⟨192153584101140000⟩, ⟨192153584101140000⟩, 0, 0, 0, true⟩ =
        .error .overflow ∧
      (Film.titled "long" 24 48038396025284).lengthFrames + 1 = f.lengthFrames ∧
      FitsInt64 ((Film.titled "long" 24 48038396025284).lengthFrames * 192000 + 96000) :=
  ⟨rfl, rfl, rfl, rfl, rfl, by decide⟩

end Film
end Telecine
