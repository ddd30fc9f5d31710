import Telecine.Proofs.Transfer.Contracts
import Telecine.Proofs.Transfer.Orderly

/-! That a run accounts for every picture. The books are kept by what was said: the pictures obtained
from the source and those handed to a file, the sound that fell short, and the ticks whose pictures are
all done with. What a run shows agrees with them at every question and in the end. -/
namespace Telecine

def Picture.unwanted (stereoscopic : Bool) (picture : Picture) : Bool :=
  !stereoscopic && decide (picture.eye = .right)

def Picture.stray (stereoscopic : Bool) (picture : Picture) : Bool :=
  stereoscopic && decide (picture.eye = .both)

def Picture.handedAs (stereoscopic : Bool) (picture : Picture) : Option Picture :=
  if picture.unwanted stereoscopic || picture.stray stereoscopic then none
  else some { picture with eye := if stereoscopic then picture.eye else .both }

section Handed
variable {stereoscopic : Bool} {picture : Picture} {pictures : List Picture}

theorem handedUnwanted (unwanted : picture.unwanted stereoscopic = true) :
    picture.handedAs stereoscopic = none := by
  simp [Picture.handedAs, unwanted]

theorem handedWanted (proper : picture.stray stereoscopic = false)
    (wanted : picture.unwanted stereoscopic = false) : picture.handedAs stereoscopic =
      some { picture with eye := if stereoscopic then picture.eye else .both } := by
  simp [Picture.handedAs, wanted, proper]

theorem handedCount (proper : ∀ p ∈ pictures, p.stray stereoscopic = false) :
    pictures.length = (pictures.filterMap (Picture.handedAs stereoscopic)).length +
      pictures.countP (Picture.unwanted stereoscopic) := by
  induction pictures with
  | nil => rfl
  | cons picture rest ih =>
    obtain ⟨here, later⟩ := List.forall_mem_cons.mp proper
    have counted := ih later
    cases unwanted : picture.unwanted stereoscopic with
    | true =>
      rw [List.filterMap_cons_none (handedUnwanted unwanted), List.countP_cons_of_pos unwanted,
        List.length_cons]
      omega
    | false =>
      rw [List.filterMap_cons_some (handedWanted here unwanted),
        List.countP_cons_of_neg (by simp [unwanted]), List.length_cons, List.length_cons]
      omega

end Handed

namespace FileSet

variable {set : FileSet} {picture : Picture}

theorem takesProper : set.Takes picture ↔ picture.stray set.isStereo = false := by
  simp [Takes, Picture.stray]

theorem shownUnwanted (takes : set.Takes picture) :
    set.shown picture = [] ↔ picture.unwanted set.isStereo = true := by
  obtain ⟨image, eye, time, damaged⟩ := picture
  cases set <;> cases eye <;> simp_all [shown, Picture.unwanted, Takes, isStereo]

theorem shownHanded (takes : set.Takes picture) (wanted : picture.unwanted set.isStereo = false) :
    ∃ outlet, set.shown picture =
      [(outlet, .picture { picture with eye := if set.isStereo then picture.eye else .both })] := by
  obtain ⟨image, eye, time, damaged⟩ := picture
  cases set <;> cases eye <;> simp_all [shown, Picture.unwanted, Takes, isStereo]

end FileSet

namespace Transfer
open Dialogue

namespace Said

def obtained? : Said → Option Picture
  | ⟨.picture, .ok picture⟩ => some picture
  | _ => none

def handed? : Said → Option Picture
  | ⟨.deliver _ (.picture picture), _⟩ => some picture
  | _ => none

def short : Said → Bool
  | ⟨.sound _ _, .ok (_, short)⟩ => short
  | _ => false

def starts : Said → Bool
  | ⟨.interrupted, _⟩ => true
  | _ => false

def settles (stereoscopic : Bool) : Said → Bool
  | ⟨.picture, .ok picture⟩ => picture.unwanted stereoscopic
  | ⟨.deliver _ (.picture _), .ok ()⟩ => true
  | _ => false

end Said

def obtained (said : List Said) : List Picture := said.filterMap Said.obtained?

def handed (said : List Said) : List Picture := said.filterMap Said.handed?

structure Tally where
  settled : Nat
  whole : Nat

def Tally.after (plan : Plan) (tally : Tally) (e : Said) : Tally :=
  if e.starts then { tally with settled := 0 }
  else if e.settles plan.stereoscopic then
    let each := if plan.stereoscopic then 2 else 1
    ⟨tally.settled + 1, if tally.settled + 1 = each then tally.whole + 1 else tally.whole⟩
  else tally

def tally (plan : Plan) (said : List Said) : Tally := said.foldl (Tally.after plan) ⟨0, 0⟩

structure Booked (plan : Plan) (said : List Said) (s : Status) : Prop where
  rate : s.pictureRate = plan.rates.picture
  damaged : s.damaged = (obtained said).countP Picture.damaged
  dropped : s.dropped = (obtained said).countP (Picture.unwanted plan.stereoscopic)
  underruns : s.underruns = said.countP Said.short

structure Even (stereoscopic : Bool) (said : List Said) : Prop where
  proper : ∀ p ∈ obtained said, p.stray stereoscopic = false
  handed : handed said = (obtained said).filterMap (Picture.handedAs stereoscopic)

def Timely (plan : Plan) : Prop :=
  0 < plan.rates.pictureTicks ∧ FitsInt64 (tickStart plan.rates.pictureTicks plan.tickCount).ticks

def Timed (plan : Plan) (said : List Said) (s : Status) : Prop :=
  Timely plan → s.time = tickStart plan.rates.pictureTicks (tally plan said).whole ∧
    (tally plan said).whole ≤ plan.tickCount

def Strayed (stereoscopic : Bool) (said : List Said) (halt : Halt) : Prop :=
  ∃ earlier picture, said = earlier ++ [⟨.picture, .ok picture⟩] ∧ Even stereoscopic earlier ∧
    picture.stray stereoscopic = true ∧
    halt = .failed (.internal "3D encoder set asked for a non-stereo frame")

def accounts (plan : Plan) : Terms where
  asks said s request := Booked plan said s ∧ Timed plan said s ∧
    ((∀ outlet picture, request ≠ .deliver outlet (.picture picture)) → Even plan.stereoscopic said)
  halts said s halt := Booked plan said s ∧ Timed plan said s ∧
    (Even plan.stereoscopic said ∨ Strayed plan.stereoscopic said halt)

section Books
variable {plan : Plan} {stereoscopic : Bool} {said : List Said} {s : Status} {e : Said}
  {picture : Picture}

theorem obtainedOn : obtained (said ++ [e]) = obtained said ++ e.obtained?.toList := by
  cases seen : e.obtained? <;> simp [obtained, seen]

theorem handedOn : handed (said ++ [e]) = handed said ++ e.handed?.toList := by
  cases given : e.handed? <;> simp [handed, given]

theorem tallyOn : tally plan (said ++ [e]) = (tally plan said).after plan e := by
  simp [tally]

theorem bookedAside (booked : Booked plan said s) (unseen : e.obtained? = none)
    (full : e.short = false) : Booked plan (said ++ [e]) s := by
  obtain ⟨rate, damaged, dropped, underruns⟩ := booked
  refine ⟨rate, ?_, ?_, ?_⟩ <;> simp [obtainedOn, unseen, full, damaged, dropped, underruns]

theorem bookedPicture (picture : Picture) (booked : Booked plan said s) :
    Booked plan (said ++ [⟨.picture, .ok picture⟩])
      { s with
        damaged := if picture.damaged then s.damaged + 1 else s.damaged
        dropped := if picture.unwanted plan.stereoscopic then s.dropped + 1 else s.dropped } := by
  obtain ⟨rate, damaged, dropped, underruns⟩ := booked
  refine ⟨rate, ?_, ?_, ?_⟩
  · cases hurt : picture.damaged <;> simp [obtainedOn, Said.obtained?, hurt, damaged]
  · cases unwanted : picture.unwanted plan.stereoscopic <;>
      simp [obtainedOn, Said.obtained?, unwanted, dropped]
  · simp [Said.short, underruns]

theorem bookedSound {frames size : Nat} {samples : { samples : List Float32 // samples.length = size }}
    {short : Bool} (booked : Booked plan said s) :
    Booked plan (said ++ [⟨.sound frames size, .ok (samples, short)⟩]) (s.heard short) := by
  obtain ⟨rate, damaged, dropped, underruns⟩ := booked
  cases short <;> refine ⟨rate, ?_, ?_, ?_⟩ <;>
    simp [obtainedOn, Said.obtained?, Said.short, Status.heard, damaged, dropped, underruns]

theorem evenAside (even : Even stereoscopic said) (unseen : e.obtained? = none)
    (kept : e.handed? = none) : Even stereoscopic (said ++ [e]) := by
  obtain ⟨proper, handed⟩ := even
  refine ⟨?_, ?_⟩ <;> simpa [obtainedOn, handedOn, unseen, kept]

theorem evenUnwanted (even : Even stereoscopic said) (unwanted : picture.unwanted stereoscopic = true)
    (proper : picture.stray stereoscopic = false) :
    Even stereoscopic (said ++ [⟨.picture, .ok picture⟩]) := by
  refine ⟨?_, ?_⟩
  · rw [obtainedOn]
    exact List.forall_mem_append.mpr ⟨even.proper, by simpa [Said.obtained?] using proper⟩
  · simp [obtainedOn, handedOn, Said.obtained?, Said.handed?, handedUnwanted unwanted, even.handed]

theorem evenHanded {outlet : Outlet} {other : Picture} {answer : Except Halt Unit}
    (even : Even stereoscopic said) (proper : picture.stray stereoscopic = false)
    (given : picture.handedAs stereoscopic = some other) : Even stereoscopic
      (said ++ [⟨.picture, .ok picture⟩] ++ [⟨.deliver outlet (.picture other), answer⟩]) := by
  refine ⟨?_, ?_⟩
  · rw [obtainedOn, obtainedOn]
    refine List.forall_mem_append.mpr ⟨List.forall_mem_append.mpr ⟨even.proper, ?_⟩, ?_⟩
    · simpa [Said.obtained?] using proper
    · simp [Said.obtained?]
  · rw [handedOn, handedOn, obtainedOn, obtainedOn]
    simp [Said.obtained?, Said.handed?, given, even.handed]

end Books

def Request.isAside : Request → Bool
  | .interrupted | .picture | .sound _ _ | .deliver _ (.picture _) => false
  | _ => true

structure Aside (e : Said) : Prop where
  obtained : e.obtained? = none
  handed : e.handed? = none
  short : e.short = false
  starts : e.starts = false
  settles : ∀ stereoscopic, e.settles stereoscopic = false

theorem asideSaid {request : Request} (aside : request.isAside = true) (reply : Reply request) :
    Aside ⟨request, reply⟩ := by
  cases request with
  | interrupted | picture | sound => cases aside
  | deliver outlet delivery =>
    cases delivery with
    | picture => cases aside
    | _ => exact ⟨rfl, rfl, rfl, rfl, fun _ => rfl⟩
  | _ => exact ⟨rfl, rfl, rfl, rfl, fun _ => rfl⟩

structure Level (plan : Plan) (n : Nat) (said : List Said) (s : Status) : Prop where
  booked : Booked plan said s
  even : Even plan.stereoscopic said
  whole : (tally plan said).whole = n
  time : Timely plan → s.time = tickStart plan.rates.pictureTicks n ∧ n ≤ plan.tickCount

structure Amid (plan : Plan) (n k : Nat) (said : List Said) (s : Status) : Prop where
  booked : Booked plan said s
  even : Even plan.stereoscopic said
  tally : tally plan said = ⟨k, if k = picturesPerTick plan then n + 1 else n⟩
  time : Timely plan → s.time = tickStart plan.rates.pictureTicks n ∧ n < plan.tickCount

section Standing
variable {plan : Plan} {n k : Nat} {said : List Said} {s : Status} {e : Said} {picture : Picture}

theorem tallyAside (aside : Aside e) : tally plan (said ++ [e]) = tally plan said := by
  rw [tallyOn, Tally.after, aside.starts, aside.settles]
  rfl

theorem tallySettles (tallied : tally plan said = ⟨k, n⟩) (starts : e.starts = false)
    (settles : e.settles plan.stereoscopic = true) :
    tally plan (said ++ [e]) = ⟨k + 1, if k + 1 = picturesPerTick plan then n + 1 else n⟩ := by
  have each : (if plan.stereoscopic then 2 else 1) = picturesPerTick plan := rfl
  rw [tallyOn, tallied, Tally.after, starts, settles, each]
  rfl

theorem levelAside (level : Level plan n said s) (aside : Aside e) : Level plan n (said ++ [e]) s :=
  ⟨bookedAside level.booked aside.obtained aside.short, evenAside level.even aside.obtained aside.handed,
    by rw [tallyAside aside, level.whole], level.time⟩

theorem amidAside (amid : Amid plan n k said s) (aside : Aside e) : Amid plan n k (said ++ [e]) s :=
  ⟨bookedAside amid.booked aside.obtained aside.short, evenAside amid.even aside.obtained aside.handed,
    by rw [tallyAside aside, amid.tally], amid.time⟩

theorem levelTimed (level : Level plan n said s) : Timed plan said s := by
  unfold Timed
  rw [level.whole]
  exact level.time

theorem amidTimed (amid : Amid plan n k said s) (more : k ≠ picturesPerTick plan) :
    Timed plan said s := by
  unfold Timed
  rw [amid.tally]
  simp only [more, ↓reduceIte]
  exact fun timely => ⟨(amid.time timely).1, Nat.le_of_lt (amid.time timely).2⟩

theorem levelAsks (level : Level plan n said s) (request : Request) :
    (accounts plan).asks said s request := ⟨level.booked, levelTimed level, fun _ => level.even⟩

theorem amidAsks (amid : Amid plan n k said s) (more : k ≠ picturesPerTick plan) (request : Request) :
    (accounts plan).asks said s request := ⟨amid.booked, amidTimed amid more, fun _ => amid.even⟩

theorem levelHalts (level : Level plan n said s) (halt : Halt) : (accounts plan).halts said s halt :=
  ⟨level.booked, levelTimed level, .inl level.even⟩

theorem amidHalts (amid : Amid plan n k said s) (more : k ≠ picturesPerTick plan) (halt : Halt) :
    (accounts plan).halts said s halt := ⟨amid.booked, amidTimed amid more, .inl amid.even⟩

end Standing

end Transfer
end Telecine
