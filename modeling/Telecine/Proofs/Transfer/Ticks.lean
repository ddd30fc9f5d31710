import Telecine.Proofs.Media.Interleaving
import Telecine.Proofs.Transfer.Says

/-! What is said in one tick that goes on: a `Tick` is what it takes from the source and the set that it
is for, and what is said and the status afterwards are functions of it. -/
namespace Telecine
namespace FileSet

def shown (set : FileSet) (picture : Picture) : List (Outlet × Delivery) :=
  match set, picture.eye with
  | .flat _, .right => []
  | .flat both, _ => [(both, .picture { picture with eye := .both })]
  | .stereo left _, .left => [(left, .picture picture)]
  | .stereo _ right, .right => [(right, .picture picture)]
  | .stereo _ _, .both => []

/-- Two files have no use for a picture that is for both eyes. -/
def Takes (set : FileSet) (picture : Picture) : Prop := set.isStereo = true → picture.eye ≠ .both

theorem dispatchTaken {set : FileSet} {picture : Picture} (takes : set.Takes picture) :
    set.dispatch (.picture picture) = .ok (set.shown picture) := by
  obtain ⟨image, eye, time, damaged⟩ := picture
  cases set <;> cases eye <;> first | rfl | exact absurd rfl (takes rfl)

theorem dispatchUntaken {set : FileSet} {picture : Picture} (not : ¬set.Takes picture) :
    set.dispatch (.picture picture) =
      .error (.internal "3D encoder set asked for a non-stereo frame") := by
  obtain ⟨image, eye, time, damaged⟩ := picture
  cases set <;> cases eye <;> first | rfl | exact absurd (by simp [Takes, isStereo]) not

end FileSet

namespace Transfer
open Dialogue

def accepted (send : Outlet × Delivery) : Said := ⟨.deliver send.1 send.2, .ok ()⟩

theorem sendAllCons (send : Outlet × Delivery) (rest : List (Outlet × Delivery)) :
    sendAll (send :: rest) = (do
      let answer : Except Halt Unit ← ask (.deliver send.1 send.2)
      known answer
      sendAll rest) := by
  funext shown
  refine congrArg (Dialogue.ask shown (Request.deliver send.1 send.2)) ?_
  funext reply
  cases reply <;> rfl

theorem goesSendAll {sends : List (Outlet × Delivery)} {before after : Status} {done : Unit}
    {said : List Said} :
    Goes (sendAll sends) before said (.ok done) after ↔ said = sends.map accepted ∧ after = before := by
  induction sends generalizing said with
  | nil => exact saysDone.trans (by simp)
  | cons send rest ih =>
    simp only [sendAllCons, goesAskOn (.deliver send.1 send.2), goesKnownOn, ih]
    constructor
    · intro h
      obtain ⟨_, _, rfl, _, rfl, rfl, rfl⟩ := h
      exact ⟨rfl, rfl⟩
    · intro h
      obtain ⟨rfl, rfl⟩ := h
      exact ⟨_, _, rfl, (), rfl, rfl, rfl⟩

theorem goesNoPicture {outage : Outage} {before after : Status} {said : List Said} {α : Type}
    {value : α} : ¬Goes (noPicture outage) before said (.ok value) after := by
  unfold noPicture
  split <;> simp [goesOn]

end Transfer

def Status.sent (s : Status) (set : FileSet) (picture : Picture) : Status :=
  { s with
    damaged := if picture.damaged then s.damaged + 1 else s.damaged
    dropped := if (set.shown picture).isEmpty then s.dropped + 1 else s.dropped }

namespace Transfer

theorem goesSendPicture {set : FileSet} {picture : Picture} {before after : Status} {done : Unit}
    {said : List Said} :
    Goes (sendPicture set picture) before said (.ok done) after ↔
      set.Takes picture ∧ said = (set.shown picture).map accepted ∧
        after = before.sent set picture := by
  unfold sendPicture
  rw [goesChangeOn]
  by_cases takes : set.Takes picture
  · simp only [dispatch, FileSet.dispatchTaken takes, goesPureOn, takes, true_and]
    cases sends : set.shown picture with
    | nil =>
      simp only [goesChange, List.map_nil, Status.sent, sends]
      split <;> simp [*]
    | cons send rest =>
      simp only [goesSendAll, Status.sent, sends]
      split <;> simp [*]
  · simp [dispatch, FileSet.dispatchUntaken takes, takes]

def pictureSaid (set : FileSet) (picture : Picture) : List Said :=
  ⟨.picture, .ok picture⟩ :: (set.shown picture).map accepted

theorem goesPicture {set : FileSet} {before after : Status} {done : Unit} {said : List Said} :
    Goes (passPicture set) before said (.ok done) after ↔
      ∃ picture, set.Takes picture ∧ said = pictureSaid set picture ∧
        after = before.sent set picture := by
  unfold passPicture
  rw [goesAskOn .picture]
  constructor
  · intro h
    obtain ⟨answer, rest, rfl, go⟩ := h
    cases answer with
    | error outage => exact absurd go goesNoPicture
    | ok picture =>
      obtain ⟨takes, rfl, rfl⟩ := goesSendPicture.mp go
      exact ⟨picture, takes, rfl, rfl⟩
  · intro h
    obtain ⟨picture, takes, rfl, rfl⟩ := h
    exact ⟨.ok picture, _, rfl, goesSendPicture.mpr ⟨takes, rfl, rfl⟩⟩

theorem goesPictures {set : FileSet} {count : Nat} {before after : Status} {done : Unit} {said : List Said} :
    Goes (passPictures set count) before said (.ok done) after ↔
      ∃ pictures : List Picture, pictures.length = count ∧ (∀ p ∈ pictures, set.Takes p) ∧
        said = pictures.flatMap (pictureSaid set) ∧
        after = pictures.foldl (Status.sent · set ·) before := by
  induction count generalizing before said with
  | zero => simp [passPictures]
  | succ count ih =>
    simp only [passPictures, goesOn, goesPicture, ih]
    constructor
    · intro h
      obtain ⟨_, _, _, _, rfl, ⟨picture, takes, rfl, rfl⟩, pictures, rfl, all, rfl, rfl⟩ := h
      exact ⟨picture :: pictures, rfl, List.forall_mem_cons.mpr ⟨takes, all⟩, rfl, rfl⟩
    · intro h
      obtain ⟨pictures, length, all, rfl, rfl⟩ := h
      obtain ⟨picture, rest, rfl⟩ := List.exists_cons_of_length_eq_add_one length
      obtain ⟨takes, all⟩ := List.forall_mem_cons.mp all
      exact ⟨_, (), _, _, rfl, ⟨picture, takes, rfl, rfl⟩, rest, Nat.succ.inj length, all, rfl, rfl⟩

end Transfer

def Status.heard (s : Status) (short : Bool) : Status :=
  if short then { s with underruns := s.underruns + 1 } else s

def fractionAt (length time : Time) : Float32 := (⟨0, length, time, 0, 0, 0, false⟩ : Status).progress

theorem progressFraction (s : Status) : s.progress = fractionAt s.length s.time := rfl

theorem sentLength (set : FileSet) (pictures : List Picture) (s : Status) :
    (pictures.foldl (Status.sent · set ·) s).length = s.length := by
  induction pictures generalizing s with
  | nil => rfl
  | cons picture rest ih => exact ih _

structure Tick (size : Nat) where
  set : FileSet
  pictures : List Picture
  sound : { samples : List Float32 // samples.length = size }
  short : Bool

def Status.ticked {size : Nat} (s : Status) (next : Time) (tick : Tick size) : Status :=
  { tick.pictures.foldl (Status.sent · tick.set ·) s with time := next }.heard tick.short

structure Tick.Clean {size : Nat} (tick : Tick size) : Prop where
  pictures : ∀ p ∈ tick.pictures, p.damaged = false ∧ tick.set.shown p ≠ []
  sound : tick.short = false

theorem sentClean {set : FileSet} {pictures : List Picture}
    (clean : ∀ p ∈ pictures, p.damaged = false ∧ set.shown p ≠ []) (s : Status) :
    pictures.foldl (Status.sent · set ·) s = s := by
  induction pictures with
  | nil => rfl
  | cons picture rest ih =>
    obtain ⟨⟨whole, filed⟩, later⟩ := List.forall_mem_cons.mp clean
    have same : s.sent set picture = s := by simp [Status.sent, whole, filed]
    rw [List.foldl_cons, same]
    exact ih later

theorem tickedClean {size : Nat} {tick : Tick size} (clean : tick.Clean) (s : Status) (next : Time) :
    s.ticked next tick = { s with time := next } := by
  rw [Status.ticked, sentClean clean.pictures, clean.sound]
  rfl

namespace Transfer

def soundSaid (plan : Plan) (frames : Nat) (set : FileSet)
    (sound : { samples : List Float32 // samples.length = plan.soundChannels * frames })
    (short : Bool) : List Said :=
  ⟨.sound frames (plan.soundChannels * frames), .ok (sound, short)⟩ ::
    set.outlets.map fun outlet =>
      accepted (outlet, .sound (Sound.laidOut plan.soundChannels frames sound.val))

def tickSaid (plan : Plan) (frames : Nat) (fraction : Float32)
    (tick : Tick (plan.soundChannels * frames)) : List Said :=
  ⟨.interrupted, false⟩ :: (tick.pictures.flatMap (pictureSaid tick.set) ++
    ⟨.progress fraction, ()⟩ :: ⟨.nudge, ()⟩ :: soundSaid plan frames tick.set tick.sound tick.short)

theorem dispatchSound (set : FileSet) (sound : Sound) :
    dispatch set (.sound sound) = pure (set.outlets.map (·, .sound sound)) := rfl

theorem goesSound {plan : Plan} (channels : 0 < plan.soundChannels) {frames : Nat} {set : FileSet}
    {before after : Status} {done : Unit} {said : List Said} :
    Goes (passSound plan frames set) before said (.ok done) after ↔
      ∃ sound short, said = soundSaid plan frames set sound short ∧ after = before.heard short := by
  have laid (sound : { samples : List Float32 // samples.length = plan.soundChannels * frames }) :
      Sound.deinterleave plan.soundChannels frames sound.val =
        .ok (Sound.laidOut plan.soundChannels frames sound.val) :=
    Sound.deinterleaveExact channels sound.property
  unfold passSound
  simp only [goesAskOn (.sound frames (plan.soundChannels * frames)), goesCheckedOn, goesChangeOn,
    laid, dispatchSound, goesPureOn, goesSendAll, Except.ok.injEq, exists_eq_left']
  constructor
  · intro h
    obtain ⟨_, _, rfl, ⟨sound, short⟩, rfl, rfl, rfl⟩ := h
    exact ⟨sound, short, by simp [soundSaid, Function.comp_def], rfl⟩
  · intro h
    obtain ⟨sound, short, rfl, rfl⟩ := h
    exact ⟨_, _, rfl, (sound, short), rfl, by simp [Function.comp_def], rfl⟩

theorem setOfFound {t : Transfer} {reel : Nat} {set : FileSet} :
    t.setOf reel = .ok set ↔ t.sets[reel]? = some set := by
  unfold setOf
  cases t.sets[reel]? <;> simp

theorem goesTick {t : Transfer} (channels : 0 < t.plan.soundChannels) {duration time next : Time}
    {frames reel later : Nat} {before after : Status} {said : List Said} :
    Goes (t.tick duration frames reel time) before said (.ok (later, next)) after ↔
      t.reelAt reel time = .ok later ∧ time.add duration = .ok next ∧
        ∃ tick : Tick (t.plan.soundChannels * frames), t.sets[later]? = some tick.set ∧
          tick.pictures.length = picturesPerTick t.plan ∧ (∀ p ∈ tick.pictures, tick.set.Takes p) ∧
          said = tickSaid t.plan frames (fractionAt before.length next) tick ∧
          after = before.ticked next tick := by
  unfold tick
  rw [goesAskOn .interrupted]
  constructor
  · intro h
    obtain ⟨stop, rest, rfl, go⟩ := h
    cases stop with
    | true => simp at go
    | false =>
      simp only [Bool.false_eq_true, ↓reduceIte, goesKnownOn] at go
      obtain ⟨_, found, set, selected, go⟩ := go
      obtain ⟨_, _, _, _, rfl, sights, rest⟩ := goesOn.mp go
      obtain ⟨pictures, count, taken, rfl, rfl⟩ := goesPictures.mp sights
      simp only [goesCheckedOn, goesChangeOn, goesLookOn, goesAskOn (.progress _),
        goesAskOn .nudge] at rest
      obtain ⟨_, added, _, _, rfl, _, _, rfl, rest⟩ := rest
      obtain ⟨_, _, _, _, rfl, heard, ended⟩ := goesOn.mp rest
      obtain ⟨sound, short, rfl, rfl⟩ := (goesSound channels).mp heard
      obtain ⟨rfl, same, rfl⟩ := goesPure.mp ended
      cases same
      refine ⟨found, added, ⟨set, pictures, sound, short⟩, setOfFound.mp selected, count, taken, ?_,
        rfl⟩
      simp [tickSaid, progressFraction, sentLength]
  · intro h
    obtain ⟨found, added, ⟨set, pictures, sound, short⟩, selected, count, taken, rfl, rfl⟩ := h
    refine ⟨false, _, rfl, ?_⟩
    simp only [Bool.false_eq_true, ↓reduceIte, goesKnownOn]
    refine ⟨later, found, set, setOfFound.mpr selected, goesOn.mpr ⟨_, (), _, _, rfl,
      goesPictures.mpr ⟨pictures, count, taken, rfl, rfl⟩, ?_⟩⟩
    simp only [goesCheckedOn, goesChangeOn, goesLookOn, goesAskOn (.progress _), goesAskOn .nudge]
    refine ⟨next, added, (), _, ?_, (), _, rfl, goesOn.mpr ⟨_, (), _, [], (List.append_nil _).symm,
      (goesSound channels).mpr ⟨sound, short, rfl, rfl⟩, goesPure.mpr ⟨rfl, rfl, rfl⟩⟩⟩
    simp [progressFraction, sentLength]

end Transfer
end Telecine
